import Pxc.General.Ownership
import Pxc.General.Runs
import Pxc.GameServer.Server

namespace Pxc
namespace GameServer

open General

/-!
# Which zones a game server hosts

The handlers of the zones are objects that `startZone` makes and `stopZone`
destroys, and the server's map `mZones` holds pointers to them.  A handler is
started right after it was made, which gives it a thread, and it carries a
mark that says to which server its zone shall be detached.  The mark is lost
when the handler is destroyed, and a new handler of the same zone has none.

The state below keeps these objects apart from the map.  Every pointer leads
to a handler of its own zone, and no handler is left without a pointer.  The
server then does what it does when its map holds the handlers themselves.

A handler's destructor joins its thread.  Here the join is taken to return, so
that a call which still waits in it has not happened yet.  The module on the
calls of many threads says when it does return.
-/

/-- The part of the singleton that hosting a zone depends on, with the living
handlers.  `threads` lists the handlers whose `start` has made a thread. -/
structure Hosting (D : Type) where
  mServerId : Int
  mZones : FiniteMap Int Address
  handlers : Heap (ZoneHandler D)
  threads : List Address

/-- The messages from Control and the calls that change what is hosted. -/
inductive HostingEvent where
  | setZoneToServer (mIdZone mIdServer : Int)
  | markForDetach (zoneId idServer : Int)
  | stopZone (zoneId : Int) (force : Bool)
  deriving DecidableEq, Repr

namespace Hosting

variable {D : Type}

/-- The constructor of the singleton. -/
def fresh : Hosting D :=
  ⟨-1, ∅, Heap.empty, []⟩

/-- `GameServer::serverId(id)`. -/
def setServerId (hosting : Hosting D) (id : Int) : Hosting D :=
  { hosting with mServerId := if hosting.mServerId = -1 then id else hosting.mServerId }

/-- `ZoneHandler::start`. -/
def start (hosting : Hosting D) (zh : Address) : Option (Hosting D) :=
  (hosting.handlers.load zh).bind fun handler =>
    if handler.mRunThread then some hosting
    else
      (hosting.handlers.store zh handler.start).map fun handlers =>
        { hosting with handlers, threads := hosting.threads ++ [zh] }

/-- `GameServer::startZone`. -/
def startZone [Zero D] (hosting : Hosting D) (zoneId : Int) : Option (Hosting D) :=
  if zoneId ∈ hosting.mZones then some hosting
  else
    start
      { hosting with
        handlers := hosting.handlers.alloc (ZoneHandler.create zoneId)
        mZones := hosting.mZones.insert zoneId hosting.handlers.next }
      hosting.handlers.next

/-- `GameServer::stopZone`.  The two other branches of the source do nothing. -/
def stopZone (hosting : Hosting D) (zoneId : Int) (force : Bool) : Option (Hosting D) :=
  match hosting.mZones[zoneId]? with
  | none => some hosting
  | some zh =>
      (hosting.handlers.load zh).bind fun handler =>
        if force = true ∨ handler.mDetachableZone ≠ -1 then
          (hosting.handlers.free zh).map fun handlers =>
            { hosting with handlers, mZones := hosting.mZones.erase zoneId }
        else some hosting

/-- `GameServer::markForDetach`. -/
def markForDetach (hosting : Hosting D) (zoneId idServer : Int) : Option (Hosting D) :=
  match hosting.mZones[zoneId]? with
  | none => some hosting
  | some zh =>
      (hosting.handlers.load zh).bind fun handler =>
        (hosting.handlers.store zh (handler.maskAsDetachable idServer)).map fun handlers =>
          { hosting with handlers }

/-- `SetZoneToServerRcvd::exec`. -/
def execSetZoneToServer [Zero D] (hosting : Hosting D) (mIdZone mIdServer : Int) :
    Option (Hosting D) :=
  let named := if hosting.mServerId = -1 then hosting.setServerId mIdServer else hosting
  if named.mServerId = mIdServer then named.startZone mIdZone else some named

/-- One message or call. -/
def step [Zero D] (hosting : Hosting D) : HostingEvent → Option (Hosting D)
  | .setZoneToServer mIdZone mIdServer => hosting.execSetZoneToServer mIdZone mIdServer
  | .markForDetach zoneId idServer => hosting.markForDetach zoneId idServer
  | .stopZone zoneId force => hosting.stopZone zoneId force

/-- Everything that one message or call can do. -/
inductive Outcome [Zero D] (hosting : Hosting D) : HostingEvent → Hosting D → Prop where
  | foreign {mIdZone mIdServer : Int} (named : hosting.mServerId ≠ -1)
      (other : hosting.mServerId ≠ mIdServer) :
      Outcome hosting (.setZoneToServer mIdZone mIdServer) hosting
  | already {mIdZone mIdServer : Int}
      (own : hosting.mServerId = -1 ∨ hosting.mServerId = mIdServer)
      (hosted : mIdZone ∈ hosting.mZones) :
      Outcome hosting (.setZoneToServer mIdZone mIdServer) { hosting with mServerId := mIdServer }
  | started {mIdZone mIdServer : Int} {handlers : Heap (ZoneHandler D)}
      (own : hosting.mServerId = -1 ∨ hosting.mServerId = mIdServer)
      (absent : mIdZone ∉ hosting.mZones)
      (stored : (hosting.handlers.alloc (ZoneHandler.create mIdZone)).store hosting.handlers.next
        (ZoneHandler.create mIdZone).start = some handlers) :
      Outcome hosting (.setZoneToServer mIdZone mIdServer)
        ⟨mIdServer, hosting.mZones.insert mIdZone hosting.handlers.next, handlers,
          hosting.threads ++ [hosting.handlers.next]⟩
  | unmarked {zoneId idServer : Int} (absent : zoneId ∉ hosting.mZones) :
      Outcome hosting (.markForDetach zoneId idServer) hosting
  | marked {zoneId idServer : Int} {zh : Address} {handler : ZoneHandler D}
      {handlers : Heap (ZoneHandler D)} (pointer : hosting.mZones[zoneId]? = some zh)
      (loaded : hosting.handlers.load zh = some handler)
      (stored : hosting.handlers.store zh (handler.maskAsDetachable idServer) = some handlers) :
      Outcome hosting (.markForDetach zoneId idServer) { hosting with handlers }
  | unhosted {zoneId : Int} {force : Bool} (absent : zoneId ∉ hosting.mZones) :
      Outcome hosting (.stopZone zoneId force) hosting
  | refused {zoneId : Int} {zh : Address} {handler : ZoneHandler D}
      (pointer : hosting.mZones[zoneId]? = some zh)
      (loaded : hosting.handlers.load zh = some handler) (mark : handler.mDetachableZone = -1) :
      Outcome hosting (.stopZone zoneId false) hosting
  | stopped {zoneId : Int} {force : Bool} {zh : Address} {handler : ZoneHandler D}
      {handlers : Heap (ZoneHandler D)} (pointer : hosting.mZones[zoneId]? = some zh)
      (loaded : hosting.handlers.load zh = some handler)
      (allowed : force = true ∨ handler.mDetachableZone ≠ -1)
      (freed : hosting.handlers.free zh = some handlers) :
      Outcome hosting (.stopZone zoneId force)
        { hosting with handlers, mZones := hosting.mZones.erase zoneId }

/-- Every pointer leads to a handler of its zone, and every living handler has
its pointer and its thread.  Each handler that was ever made has been started
once, in the order of their making. -/
structure Sound (hosting : Hosting D) : Prop where
  owns : Owns (fun handler => handler.zone.mZoneId) hosting.mZones hosting.handlers
  owned : ∀ zh handler, hosting.handlers.load zh = some handler →
    hosting.mZones[handler.zone.mZoneId]? = some zh
  running : ∀ zh handler, hosting.handlers.load zh = some handler → handler.mRunThread = true
  threads : hosting.threads = List.range hosting.handlers.next

theorem Sound.fresh : (fresh : Hosting D).Sound := by
  refine ⟨Owns.empty, ?_, ?_, rfl⟩
  · intro zh handler loaded
    cases loaded
  · intro zh handler loaded
    cases loaded

variable [Zero D]

theorem exists_startZone (hosting : Hosting D) {zoneId : Int} (absent : zoneId ∉ hosting.mZones) :
    ∃ handlers, (hosting.handlers.alloc (ZoneHandler.create zoneId)).store hosting.handlers.next
        (ZoneHandler.create zoneId).start = some handlers ∧
      hosting.startZone zoneId = some ⟨hosting.mServerId,
        hosting.mZones.insert zoneId hosting.handlers.next, handlers,
        hosting.threads ++ [hosting.handlers.next]⟩ := by
  have loaded : (hosting.handlers.alloc (ZoneHandler.create zoneId)).load hosting.handlers.next =
      some (ZoneHandler.create zoneId : ZoneHandler D) := by
    rw [Heap.load_alloc, if_pos rfl]
  rcases Heap.exists_store loaded (ZoneHandler.create zoneId).start with ⟨handlers, stored⟩
  refine ⟨handlers, stored, ?_⟩
  have idle : (ZoneHandler.create zoneId : ZoneHandler D).mRunThread = false := rfl
  simp only [startZone, if_neg absent, start, loaded, Option.bind_some, idle, Bool.false_eq_true,
    if_false, stored, Option.map_some]

/-- Every step is defined, and does one of the above. -/
theorem Sound.exists_step {hosting : Hosting D} (sound : hosting.Sound) (event : HostingEvent) :
    ∃ next, hosting.step event = some next ∧ Outcome hosting event next := by
  cases event with
  | setZoneToServer mIdZone mIdServer =>
      by_cases own : hosting.mServerId = -1 ∨ hosting.mServerId = mIdServer
      · have named : hosting.execSetZoneToServer mIdZone mIdServer =
            startZone { hosting with mServerId := mIdServer } mIdZone := by
          rcases own with unset | same
          · simp only [execSetZoneToServer, setServerId, if_pos unset, if_true]
          · subst same
            by_cases unset : hosting.mServerId = -1
            · simp only [execSetZoneToServer, setServerId, if_pos unset, if_true]
            · simp only [execSetZoneToServer, if_neg unset, if_true]
        by_cases hosted : mIdZone ∈ hosting.mZones
        · exact ⟨_, named.trans (if_pos hosted), .already own hosted⟩
        · rcases exists_startZone { hosting with mServerId := mIdServer } hosted with
            ⟨handlers, stored, started⟩
          exact ⟨_, named.trans started, .started own hosted stored⟩
      · have unset := fun unset => own (Or.inl unset)
        have other := fun same => own (Or.inr same)
        refine ⟨hosting, ?_, .foreign unset other⟩
        simp only [step, execSetZoneToServer, if_neg unset, if_neg other]
  | markForDetach zoneId idServer =>
      cases pointer : hosting.mZones[zoneId]? with
      | none =>
          refine ⟨hosting, ?_, .unmarked (FiniteMap.getElem?_eq_none_iff.mp pointer)⟩
          simp only [step, markForDetach, pointer]
      | some zh =>
          rcases sound.owns zoneId zh pointer with ⟨handler, loaded, _⟩
          rcases Heap.exists_store loaded (handler.maskAsDetachable idServer) with
            ⟨handlers, stored⟩
          refine ⟨_, ?_, .marked pointer loaded stored⟩
          simp only [step, markForDetach, pointer, loaded, Option.bind_some, stored,
            Option.map_some]
  | stopZone zoneId force =>
      cases pointer : hosting.mZones[zoneId]? with
      | none =>
          refine ⟨hosting, ?_, .unhosted (FiniteMap.getElem?_eq_none_iff.mp pointer)⟩
          simp only [step, stopZone, pointer]
      | some zh =>
          rcases sound.owns zoneId zh pointer with ⟨handler, loaded, _⟩
          by_cases allowed : force = true ∨ handler.mDetachableZone ≠ -1
          · rcases Heap.exists_free loaded with ⟨handlers, freed⟩
            refine ⟨_, ?_, .stopped pointer loaded allowed freed⟩
            simp only [step, stopZone, pointer, loaded, Option.bind_some, if_pos allowed, freed,
              Option.map_some]
          · rw [not_or, Bool.not_eq_true, not_not] at allowed
            rcases allowed with ⟨rfl, mark⟩
            refine ⟨hosting, ?_, .refused pointer loaded mark⟩
            simp only [step, stopZone, pointer, loaded, Option.bind_some, mark, ne_eq,
              not_true_eq_false, or_false, Bool.false_eq_true, if_false]

theorem Sound.step {hosting next : Hosting D} {event : HostingEvent} (sound : hosting.Sound)
    (outcome : Outcome hosting event next) : next.Sound := by
  have stores : StoresAll hosting.mZones hosting.handlers :=
    fun zh handler loaded => ⟨_, sound.owned zh handler loaded⟩
  cases outcome with
  | foreign named other => exact sound
  | already own hosted => exact ⟨sound.owns, sound.owned, sound.running, sound.threads⟩
  | unmarked absent => exact sound
  | unhosted absent => exact sound
  | refused pointer loaded mark => exact sound
  | @started mIdZone _ handlers own absent stored =>
      rcases Heap.store_eq_some_iff.mp stored with ⟨_, address, loads⟩
      have loads : ∀ other, handlers.load other = if hosting.handlers.next = other then
          some (ZoneHandler.create mIdZone).start else hosting.handlers.load other := by
        intro other
        rw [loads, Heap.load_alloc]
        split <;> rfl
      have pointer : (hosting.mZones.insert mIdZone hosting.handlers.next)[mIdZone]? =
          some hosting.handlers.next :=
        Std.ExtTreeMap.getElem?_insert_self
      have owns := (sound.owns.alloc rfl).store pointer stored rfl
      have keeps := stores.alloc (FiniteMap.getElem?_eq_none_iff.mpr absent)
        (ZoneHandler.create mIdZone)
      refine ⟨owns, ?_, ?_, ?_⟩
      · intro zh handler loaded
        exact owns.pointer_of_load (keeps.store pointer stored) loaded
      · intro zh handler loaded
        rw [loads] at loaded
        split at loaded
        · cases loaded
          rfl
        · exact sound.running zh handler loaded
      · rw [address, Heap.next_alloc, List.range_succ, ← sound.threads]
  | @marked zoneId idServer zh handler handlers pointer loaded stored =>
      rcases Heap.store_eq_some_iff.mp stored with ⟨_, address, loads⟩
      have carries : handler.zone.mZoneId = zoneId := by
        rcases sound.owns zoneId zh pointer with ⟨found, also, carries⟩
        cases Option.mem_unique loaded also
        exact carries
      have owns := sound.owns.store pointer stored carries
      refine ⟨owns, ?_, ?_, ?_⟩
      · intro other changed found
        exact owns.pointer_of_load (stores.store pointer stored) found
      · intro other changed found
        rw [loads] at found
        split at found
        · cases found
          exact sound.running zh handler loaded
        · exact sound.running other changed found
      · rw [address]
        exact sound.threads
  | @stopped zoneId force zh handler handlers pointer loaded allowed freed =>
      rcases Heap.free_eq_some_iff.mp freed with ⟨_, address, loads⟩
      have owns := sound.owns.free pointer freed
      refine ⟨owns, ?_, ?_, ?_⟩
      · intro other remaining found
        exact owns.pointer_of_load (stores.free pointer freed) found
      · intro other remaining found
        rw [loads] at found
        split at found
        · cases found
        · exact sound.running other remaining found
      · rw [address]
        exact sound.threads

end Hosting

/-! ## The handlers as values -/

/-- The same message or call, on a server whose map holds the handlers
themselves. -/
def hostingStep [Zero D] (gameServer : GameServer D) : HostingEvent → GameServer D
  | .setZoneToServer mIdZone mIdServer => gameServer.execSetZoneToServer mIdZone mIdServer
  | .markForDetach zoneId idServer => gameServer.markForDetach zoneId idServer
  | .stopZone zoneId force => gameServer.stopZone zoneId force

/-- The server with its handlers as values is what the pointers lead to. -/
def Implements (hosting : Hosting D) (gameServer : GameServer D) : Prop :=
  hosting.mServerId = gameServer.mServerId ∧
    ∀ zoneId, find hosting.mZones hosting.handlers zoneId = gameServer.mZones[zoneId]?

namespace Implements

variable {D : Type} [Zero D] {hosting next : Hosting D} {gameServer : GameServer D}
  {event : HostingEvent}

omit [Zero D] in
theorem fresh : Implements (Hosting.fresh : Hosting D) GameServer.fresh := by
  refine ⟨rfl, fun zoneId => ?_⟩
  exact (find_of_absent Std.ExtTreeMap.getElem?_empty).trans
    Std.ExtTreeMap.getElem?_empty.symm

/-- Each step does the same to the handlers as values. -/
theorem step (implements : Implements hosting gameServer) (sound : hosting.Sound)
    (outcome : Hosting.Outcome hosting event next) :
    Implements next (gameServer.hostingStep event) := by
  rcases implements with ⟨sameId, sameZones⟩
  have member : ∀ zoneId, zoneId ∈ gameServer.mZones ↔ zoneId ∈ hosting.mZones := by
    intro zoneId
    rw [sound.owns.mem_iff, sameZones, Std.ExtTreeMap.mem_iff_isSome_getElem?,
      Option.isSome_iff_exists]
  have found : ∀ {zoneId : Int} {zh : Address} {handler : ZoneHandler D},
      hosting.mZones[zoneId]? = some zh → hosting.handlers.load zh = some handler →
        gameServer.mZones[zoneId]? = some handler := by
    intro zoneId zh handler pointer loaded
    rw [← sameZones, find_of_pointer pointer, loaded]
  have absent : ∀ {zoneId : Int}, zoneId ∉ hosting.mZones → gameServer.mZones[zoneId]? = none := by
    intro zoneId missing
    exact FiniteMap.getElem?_eq_none_iff.mpr fun inside => missing ((member zoneId).mp inside)
  have executed : ∀ {mIdZone mIdServer : Int},
      (hosting.mServerId = -1 ∨ hosting.mServerId = mIdServer) →
        gameServer.execSetZoneToServer mIdZone mIdServer =
          startZone { gameServer with mServerId := mIdServer } mIdZone := by
    intro mIdZone mIdServer own
    rw [sameId] at own
    by_cases unset : gameServer.mServerId = -1
    · simp only [execSetZoneToServer, setServerId, if_pos unset, if_true]
    · simp only [execSetZoneToServer, if_neg unset, if_pos (own.resolve_left unset)]
      rw [← own.resolve_left unset]
  cases outcome with
  | @foreign mIdZone mIdServer named other =>
      rw [sameId] at named other
      simp only [hostingStep, execSetZoneToServer, if_neg named, if_neg other]
      exact ⟨sameId, sameZones⟩
  | @already mIdZone mIdServer own hosted =>
      rw [hostingStep, executed own, startZone, if_pos ((member mIdZone).mpr hosted)]
      exact ⟨rfl, sameZones⟩
  | @started mIdZone mIdServer handlers own new stored =>
      have missing := fun inside => new ((member mIdZone).mp inside)
      rw [hostingStep, executed own, startZone, if_neg missing]
      have owns : Owns (fun handler : ZoneHandler D => handler.zone.mZoneId)
          (hosting.mZones.insert mIdZone hosting.handlers.next)
          (hosting.handlers.alloc (ZoneHandler.create mIdZone)) := sound.owns.alloc rfl
      refine ⟨rfl, fun zoneId => ?_⟩
      refine (owns.find_store Std.ExtTreeMap.getElem?_insert_self stored zoneId).trans ?_
      rw [sound.owns.find_alloc, Std.ExtTreeMap.getElem?_insert]
      simp only [Std.compare_eq_iff_eq, sameZones]
      split <;> rfl
  | @unmarked zoneId idServer missing =>
      simp only [hostingStep, markForDetach, absent missing]
      exact ⟨sameId, sameZones⟩
  | @marked zoneId idServer zh handler handlers pointer loaded stored =>
      simp only [hostingStep, markForDetach, found pointer loaded]
      refine ⟨sameId, fun other => ?_⟩
      rw [sound.owns.find_store pointer stored, Std.ExtTreeMap.getElem?_insert]
      simp only [Std.compare_eq_iff_eq, sameZones]
  | @unhosted zoneId force missing =>
      simp only [hostingStep, stopZone, absent missing]
      exact ⟨sameId, sameZones⟩
  | @refused zoneId zh handler pointer loaded mark =>
      simp only [hostingStep, stopZone, found pointer loaded, mark, ne_eq, not_true_eq_false,
        or_false, Bool.false_eq_true, if_false]
      exact ⟨sameId, sameZones⟩
  | @stopped zoneId force zh handler handlers pointer loaded allowed freed =>
      simp only [hostingStep, stopZone, found pointer loaded, if_pos allowed]
      refine ⟨sameId, fun other => ?_⟩
      rw [sound.owns.find_free pointer freed, FiniteMap.getElem?_erase_eq, sameZones]

/-- The two descriptions of the server agree after every history. -/
theorem run (history : List HostingEvent) :
    ∃ hosting : Hosting D, General.run Hosting.step Hosting.fresh history = some hosting ∧
      hosting.Sound ∧ Implements hosting (history.foldl hostingStep GameServer.fresh) := by
  refine exists_run (fun _ => True)
    (fun history (hosting : Hosting D) => hosting.Sound ∧
      Implements hosting (history.foldl hostingStep GameServer.fresh))
    (fun _ _ _ => trivial) ⟨Hosting.Sound.fresh, fresh⟩ ?_ trivial
  rintro before hosting event _ _ ⟨sound, implements⟩
  rcases sound.exists_step event with ⟨next, stepped, outcome⟩
  refine ⟨next, stepped, sound.step outcome, ?_⟩
  rw [List.foldl_concat]
  exact implements.step sound outcome

end Implements

end GameServer
end Pxc
