import Mathlib.Algebra.Field.Rat
import Pxc.General.Disposal
import Pxc.GameServer.Hosting
import Pxc.GameServer.ZoneThread

namespace Pxc
namespace GameServer

open General

/-!
# Calls from several threads

The game server is called by several threads at once, and each zone that it
hosts has a thread of its own.  The calls below hold `mZonesMutex` from their
first statement to their last.  One that stops a zone lowers the flag of the
zone's thread and waits for the thread's end with the mutex held, while the
zones' threads go on.  No zone's thread takes the mutex.  `hasZone` and
`delClient` read `mZones` without it and are not among these calls.

The calls therefore have the effect of one after the other, in the order in
which they take the mutex, whatever the threads do in between, and a handler
is only destroyed when its thread has ended.  No call is stuck for ever by
itself.  But a call that stops a zone whose flag has been raised again waits
as long as the game's steps succeed, and then everybody else waits with it.

`mParamMutex` is held for one access to a handler's fields at a time, so that
each access is one step.
-/

/-- The calls that hold `mZonesMutex`.  `look` stands for those that leave the
zones as they are: `queueInstruction`, whose handler ignores the instruction,
`SendZoneLoads`, `receiveZone` and `detachZone`. -/
inductive ServerCall where
  | startZone (zoneId : Int)
  | stopZone (zoneId : Int) (force : Bool)
  | markForDetach (zoneId idServer : Int)
  | stopAll
  | look
  deriving DecidableEq, Repr

namespace Hosting

variable {D : Type}

/-- The loop of `GameServer::stopAll`, for threads that have ended. -/
def deleteHandlers (entries : List (Int × Address)) (handlers : Heap (ZoneHandler D)) :
    Option (Heap (ZoneHandler D)) :=
  (deleteEach (fun rest _ => some (rest, ([] : List Unit))) entries handlers ()).map Prod.fst

/-- `GameServer::stopAll`, called alone. -/
def stopAll (hosting : Hosting D) : Option (Hosting D) :=
  (deleteHandlers hosting.mZones.toList hosting.handlers).map fun handlers =>
    { hosting with handlers, mZones := ∅ }

/-- A call that no other call overlaps. -/
def perform [Zero D] (hosting : Hosting D) : ServerCall → Option (Hosting D)
  | .startZone zoneId => hosting.startZone zoneId
  | .stopZone zoneId force => hosting.stopZone zoneId force
  | .markForDetach zoneId idServer => hosting.markForDetach zoneId idServer
  | .stopAll => hosting.stopAll
  | .look => some hosting

variable {hosting next : Hosting D} {handlers freed : Heap (ZoneHandler D)}
  {entry : Int × Address} {entries : List (Int × Address)}

theorem deleteHandlers_eq_some_iff : deleteHandlers entries handlers = some freed ↔
    ∃ effects, deleteEach (fun rest _ => some (rest, ([] : List Unit))) entries handlers () =
      some (freed, (), effects) := by
  unfold deleteHandlers
  rw [Option.map_eq_some_iff]
  constructor
  · rintro ⟨⟨found, ⟨⟩, effects⟩, done, rfl⟩
    exact ⟨effects, done⟩
  · rintro ⟨effects, done⟩
    exact ⟨_, done, rfl⟩

/-- The first handler is freed, and then the others. -/
theorem deleteHandlers_cons {between : Heap (ZoneHandler D)}
    (gone : handlers.free entry.2 = some between) :
    deleteHandlers (entry :: entries) handlers = deleteHandlers entries between := by
  rcases (Heap.free_eq_some_iff.mp gone).1 with ⟨handler, loaded⟩
  apply Option.ext
  intro freed
  rw [deleteHandlers_eq_some_iff, deleteHandlers_eq_some_iff]
  constructor
  · rintro ⟨effects, done⟩
    rcases deleteEach_cons_eq_some_iff.mp done with
      ⟨_, between', _, _, more, _, destroyed, gone', onwards, _⟩
    cases destroyed
    cases Option.mem_unique gone gone'
    exact ⟨more, onwards⟩
  · rintro ⟨effects, done⟩
    exact ⟨effects, deleteEach_cons_eq_some_iff.mpr
      ⟨handler, between, (), [], effects, loaded, rfl, gone, done, rfl⟩⟩

/-- The destructors do nothing to the rest of the server. -/
theorem exists_destroyEach (objects : List (ZoneHandler D)) :
    ∃ effects, destroyEach (fun rest _ => some (rest, ([] : List Unit))) objects () =
      some ((), effects) := by
  induction objects with
  | nil => exact ⟨[], rfl⟩
  | cons object objects inductionHypothesis =>
      rcases inductionHypothesis with ⟨effects, destroyed⟩
      exact ⟨_, destroyEach_cons_eq_some_iff.mpr ⟨(), [], effects, rfl, destroyed, rfl⟩⟩

theorem Sound.storesAll (sound : hosting.Sound) : StoresAll hosting.mZones hosting.handlers :=
  fun zh handler loaded => ⟨_, sound.owned zh handler loaded⟩

/-- `stopAll` is defined, and leaves no handler. -/
theorem Sound.exists_stopAll (sound : hosting.Sound) :
    ∃ next, hosting.stopAll = some next ∧ next.Sound := by
  rcases exists_destroyEach (objectsOf hosting.handlers hosting.mZones.toList) with
    ⟨effects, destroyed⟩
  rcases sound.owns.holds.exists_deleteEach destroyed with ⟨freed, done⟩
  refine ⟨{ hosting with handlers := freed, mZones := ∅ }, ?_, ?_, ?_, ?_, ?_⟩
  · unfold stopAll
    rw [deleteHandlers_eq_some_iff.mpr ⟨effects, done⟩, Option.map_some]
  · intro zoneId zh pointer
    rw [Std.ExtTreeMap.getElem?_empty] at pointer
    cases pointer
  · intro zh handler loaded
    rw [sound.storesAll.load_deleted done] at loaded
    cases loaded
  · intro zh handler loaded
    rw [sound.storesAll.load_deleted done] at loaded
    cases loaded
  · exact (deleteEach_eq_some_iff.mp done).2.2.2.1 ▸ sound.threads

section Calls

variable [Zero D] {call : ServerCall}

/-- `startZone` is what `SetZoneToServerRcvd` does for the server's own number. -/
theorem startZone_eq_step (hosting : Hosting D) (zoneId : Int) :
    hosting.startZone zoneId = hosting.step (.setZoneToServer zoneId hosting.mServerId) := by
  unfold step execSetZoneToServer setServerId
  by_cases unset : hosting.mServerId = -1
  · simp only [if_pos unset, if_true]
  · simp only [if_neg unset, if_true]

/-- Every call is defined on its own, and keeps the handlers in order. -/
theorem Sound.exists_perform (sound : hosting.Sound) (call : ServerCall) :
    ∃ next, hosting.perform call = some next ∧ next.Sound := by
  have stepped : ∀ event, ∃ next, hosting.step event = some next ∧ next.Sound := by
    intro event
    rcases sound.exists_step event with ⟨next, done, outcome⟩
    exact ⟨next, done, sound.step outcome⟩
  cases call with
  | startZone zoneId =>
      rcases stepped (.setZoneToServer zoneId hosting.mServerId) with ⟨next, done, kept⟩
      exact ⟨next, (startZone_eq_step hosting zoneId).trans done, kept⟩
  | stopZone zoneId force => exact stepped (.stopZone zoneId force)
  | markForDetach zoneId idServer => exact stepped (.markForDetach zoneId idServer)
  | stopAll => exact sound.exists_stopAll
  | look => exact ⟨hosting, rfl, sound⟩

theorem Sound.perform (sound : hosting.Sound) (performed : hosting.perform call = some next) :
    next.Sound := by
  rcases sound.exists_perform call with ⟨same, done, kept⟩
  cases Option.mem_unique done performed
  exact kept

end Calls

end Hosting

/-! ## The threads -/

/-- Where the call is that holds the mutex.  `deleting` is in the destructor of
a handler, between its two writes of the flag, and `joining` waits for the
thread.  `loop` and `joiningNext` are the same for `stopAll`, with the handlers
that are left. -/
inductive Inside where
  | entered (call : ServerCall)
  | deleting (zoneId : Int) (force : Bool) (zh : Address)
  | joining (zoneId : Int) (force : Bool) (zh : Address)
  | loop (rest : List (Int × Address))
  | joiningNext (entry : Int × Address) (rest : List (Int × Address))
  | leaving
  deriving DecidableEq, Repr

namespace Inside

/-- The call, as long as its effect is still to come. -/
def pending : Inside → Option ServerCall
  | .entered call => some call
  | .deleting zoneId force _ => some (.stopZone zoneId force)
  | .joining zoneId force _ => some (.stopZone zoneId force)
  | .loop _ => some .stopAll
  | .joiningNext _ _ => some .stopAll
  | .leaving => none

/-- The thread that the call waits for. -/
def awaits : Inside → Option Address
  | .joining _ _ zh => some zh
  | .joiningNext entry _ => some entry.2
  | _ => none

/-- The accesses that are left to the call, at most, when there are so many
zones. -/
def remaining (zones : Nat) : Inside → Nat
  | .entered _ => 2 * zones + 4
  | .deleting _ _ _ => 3
  | .joining _ _ _ => 2
  | .loop rest => 2 * rest.length + 2
  | .joiningNext _ rest => 2 * rest.length + 3
  | .leaving => 1

end Inside

/-- The zones, the threads of the handlers, the calls that wait for the mutex,
the one that holds it, and the calls that have taken their effect so far. -/
structure Serving (D : Type) where
  hosting : Hosting D
  threads : FiniteMap Address Running
  waiting : List ServerCall
  inside : Option Inside
  performed : List ServerCall

/-- What the threads do: one of them calls, one of the waiting calls takes the
mutex, the call that holds it goes on, or a zone's thread does. -/
inductive ServingAct where
  | call (call : ServerCall)
  | enter (index : Nat)
  | proceed
  | thread (zh : Address) (move : ThreadStep)
  deriving DecidableEq, Repr

namespace Serving

variable {D : Type}

/-- No call has been made. -/
def fresh : Serving D :=
  ⟨Hosting.fresh, ∅, [], none, []⟩

/-- `run(false)`, for the thread of a handler. -/
def lower (threads : FiniteMap Address Running) (zh : Address) : FiniteMap Address Running :=
  match threads[zh]? with
  | none => threads
  | some running => threads.insert zh { running with mRun := false }

/-- There is no thread to wait for. -/
def hasEnded (threads : FiniteMap Address Running) (zh : Address) : Bool :=
  match threads[zh]? with
  | none => true
  | some running => running.phase = .ended

/-- The call has taken its effect. -/
def finish (serving : Serving D) (call : ServerCall) : Serving D :=
  { serving with inside := some .leaving, performed := serving.performed ++ [call] }

/-- `delete`, when the thread has ended. -/
def destroy (serving : Serving D) (zh : Address) : Option (Serving D) :=
  if hasEnded serving.threads zh then
    (serving.hosting.handlers.free zh).map fun handlers =>
      { serving with
        hosting.handlers := handlers
        threads := serving.threads.erase zh }
  else none

/-- The first access of a call, or all of them for a call that does not wait. -/
def begin [Zero D] (serving : Serving D) : ServerCall → Option (Serving D)
  | .startZone zoneId =>
      (serving.hosting.startZone zoneId).map fun hosting =>
        finish
          { serving with
            hosting
            threads :=
              if zoneId ∈ serving.hosting.mZones then serving.threads
              else serving.threads.insert serving.hosting.handlers.next started }
          (.startZone zoneId)
  | .stopZone zoneId force =>
      match serving.hosting.mZones[zoneId]? with
      | none => some (serving.finish (.stopZone zoneId force))
      | some zh =>
          (serving.hosting.handlers.load zh).map fun handler =>
            if force = true ∨ handler.mDetachableZone ≠ -1 then
              { serving with
                threads := lower serving.threads zh
                inside := some (.deleting zoneId force zh) }
            else serving.finish (.stopZone zoneId force)
  | .markForDetach zoneId idServer =>
      (serving.hosting.markForDetach zoneId idServer).map fun hosting =>
        finish { serving with hosting } (.markForDetach zoneId idServer)
  | .stopAll => some { serving with inside := some (.loop serving.hosting.mZones.toList) }
  | .look => some (serving.finish .look)

/-- The next access of the call that holds the mutex.  It is undefined while
the call waits for a thread. -/
def proceed [Zero D] (serving : Serving D) : Inside → Option (Serving D)
  | .entered call => serving.begin call
  | .deleting zoneId force zh =>
      some { serving with
        threads := lower serving.threads zh
        inside := some (.joining zoneId force zh) }
  | .joining zoneId force zh =>
      (serving.destroy zh).map fun serving =>
        finish { serving with hosting.mZones := serving.hosting.mZones.erase zoneId }
          (.stopZone zoneId force)
  | .loop [] => some (finish { serving with hosting.mZones := ∅ } .stopAll)
  | .loop (entry :: rest) =>
      some { serving with
        threads := lower serving.threads entry.2
        inside := some (.joiningNext entry rest) }
  | .joiningNext entry rest =>
      (serving.destroy entry.2).map fun serving => { serving with inside := some (.loop rest) }
  | .leaving => some { serving with inside := none }

/-- One act. -/
def step [Zero D] (serving : Serving D) : ServingAct → Option (Serving D)
  | .call call => some { serving with waiting := serving.waiting ++ [call] }
  | .enter index =>
      if serving.inside.isNone then
        serving.waiting[index]?.map fun call =>
          { serving with
            waiting := serving.waiting.eraseIdx index
            inside := some (.entered call) }
      else none
  | .proceed => serving.inside.bind serving.proceed
  | .thread zh move =>
      if move = .stop then none
      else
        serving.threads[zh]?.bind fun running =>
          (threadStep running move).map fun running =>
            { serving with threads := serving.threads.insert zh running }

variable {serving next : Serving D} {before : Hosting D} {inside : Inside}
  {threads : FiniteMap Address Running} {handlers freed : Heap (ZoneHandler D)}
  {zh other : Address}

/-- How far the call that holds the mutex has got since the calls before it.
A call that stops one zone keeps to what it has read.  Deleting the handlers
that are left leads `stopAll` to where deleting all of them would have led. -/
inductive GotTo (before : Hosting D) : Hosting D → Option Inside → Prop where
  | idle : GotTo before before none
  | entered (call : ServerCall) : GotTo before before (some (.entered call))
  | deleting {zoneId : Int} {force : Bool} {zh : Address} {handler : ZoneHandler D}
      (pointer : before.mZones[zoneId]? = some zh)
      (loaded : before.handlers.load zh = some handler)
      (allowed : force = true ∨ handler.mDetachableZone ≠ -1) :
      GotTo before before (some (.deleting zoneId force zh))
  | joining {zoneId : Int} {force : Bool} {zh : Address} {handler : ZoneHandler D}
      (pointer : before.mZones[zoneId]? = some zh)
      (loaded : before.handlers.load zh = some handler)
      (allowed : force = true ∨ handler.mDetachableZone ≠ -1) :
      GotTo before before (some (.joining zoneId force zh))
  | loop {rest : List (Int × Address)} {handlers : Heap (ZoneHandler D)}
      (left : Hosting.deleteHandlers rest handlers =
        Hosting.deleteHandlers before.mZones.toList before.handlers) :
      GotTo before { before with handlers } (some (.loop rest))
  | joiningNext {entry : Int × Address} {rest : List (Int × Address)}
      {handlers : Heap (ZoneHandler D)}
      (left : Hosting.deleteHandlers (entry :: rest) handlers =
        Hosting.deleteHandlers before.mZones.toList before.handlers) :
      GotTo before { before with handlers } (some (.joiningNext entry rest))
  | leaving : GotTo before before (some .leaving)

/-- The threads that have not been joined are those of the living handlers. -/
def Threaded (threads : FiniteMap Address Running) (handlers : Heap (ZoneHandler D)) : Prop :=
  ∀ zh, zh ∈ threads ↔ ∃ handler, handlers.load zh = some handler

/-- What the mutex protects, after some calls. -/
structure Orderly (before : Hosting D) (serving : Serving D) : Prop where
  sound : before.Sound
  got : GotTo before serving.hosting serving.inside
  threaded : Threaded serving.threads serving.hosting.handlers

/-- The accesses that are left to the call that holds the mutex. -/
def remaining (serving : Serving D) : Nat :=
  (serving.inside.map (Inside.remaining serving.hosting.mZones.toList.length)).getD 0

/-- One access of the call either brings it on or is its effect.  A handler
that is gone stays so. -/
structure Advances [Zero D] (before : Hosting D) (serving next : Serving D) (inside : Inside) :
    Prop where
  waiting : next.waiting = serving.waiting
  threaded : Threaded next.threads next.hosting.handlers
  gone : ∀ zh, Gone serving.hosting.handlers zh → Gone next.hosting.handlers zh
  nearer : next.remaining < inside.remaining serving.hosting.mZones.toList.length
  outcome :
    (next.performed = serving.performed ∧ next.inside.bind Inside.pending = inside.pending ∧
      GotTo before next.hosting next.inside) ∨
    ∃ call, inside.pending = some call ∧ next.inside = some .leaving ∧
      next.performed = serving.performed ++ [call] ∧ before.perform call = some next.hosting

theorem GotTo.eq_of_idle {hosting : Hosting D} (got : GotTo before hosting none) :
    hosting = before := by
  cases got
  rfl

theorem mem_lower : other ∈ lower threads zh ↔ other ∈ threads := by
  unfold lower
  cases found : threads[zh]? with
  | none => exact Iff.rfl
  | some running =>
      simp only [Std.ExtTreeMap.mem_insert, Std.compare_eq_iff_eq, or_iff_right_iff_imp]
      rintro rfl
      rw [Std.ExtTreeMap.mem_iff_isSome_getElem?, found, Option.isSome_some]

namespace Threaded

theorem lower (threaded : Threaded threads handlers) (zh : Address) :
    Threaded (lower threads zh) handlers :=
  fun other => mem_lower.trans (threaded other)

theorem of_uses (threaded : Threaded threads handlers) (uses : Uses handlers freed) :
    Threaded threads freed :=
  fun zh => (threaded zh).trans (uses.alive zh).symm

theorem free (threaded : Threaded threads handlers) (gone : handlers.free zh = some freed) :
    Threaded (threads.erase zh) freed := by
  intro other
  rw [FiniteMap.mem_erase_iff, threaded, (Heap.free_eq_some_iff.mp gone).2.2]
  by_cases same : zh = other
  · rw [if_pos same]
    refine iff_of_false (fun both => both.1 same) ?_
    rintro ⟨handler, ⟨⟩⟩
  · rw [if_neg same]
    exact and_iff_right same

theorem alloc (threaded : Threaded threads handlers) (handler : ZoneHandler D)
    (running : Running) :
    Threaded (threads.insert handlers.next running) (handlers.alloc handler) := by
  intro other
  rw [Std.ExtTreeMap.mem_insert, Std.compare_eq_iff_eq, threaded, Heap.load_alloc]
  by_cases same : handlers.next = other
  · rw [if_pos same]
    exact iff_of_true (Or.inl same) ⟨handler, rfl⟩
  · rw [if_neg same]
    exact or_iff_right same

theorem move (threaded : Threaded threads handlers) {running : Running}
    (found : threads[zh]? = some running) (after : Running) :
    Threaded (threads.insert zh after) handlers := by
  intro other
  rw [← threaded, Std.ExtTreeMap.mem_insert, Std.compare_eq_iff_eq]
  apply or_iff_right_of_imp
  rintro rfl
  rw [Std.ExtTreeMap.mem_iff_isSome_getElem?, found, Option.isSome_some]

end Threaded

theorem exists_destroy (threaded : Threaded serving.threads serving.hosting.handlers)
    {handler : ZoneHandler D} (loaded : serving.hosting.handlers.load zh = some handler)
    (ended : hasEnded serving.threads zh = true) :
    ∃ handlers, serving.hosting.handlers.free zh = some handlers ∧
      serving.destroy zh = some { serving with
        hosting.handlers := handlers
        threads := serving.threads.erase zh } ∧
      Threaded (serving.threads.erase zh) handlers := by
  rcases Heap.exists_free loaded with ⟨handlers, gone⟩
  refine ⟨handlers, gone, ?_, threaded.free gone⟩
  unfold destroy
  rw [if_pos ended, gone, Option.map_some]

variable [Zero D] {call : ServerCall}

theorem Advances.of_finish {hosting : Hosting D} (threads : FiniteMap Address Running)
    (pending : inside.pending = some call)
    (left : 1 < inside.remaining serving.hosting.mZones.toList.length)
    (threaded : Threaded threads hosting.handlers)
    (gone : ∀ zh, Gone serving.hosting.handlers zh → Gone hosting.handlers zh)
    (done : before.perform call = some hosting) :
    Advances before serving (finish { serving with hosting, threads } call) inside where
  waiting := rfl
  threaded := threaded
  gone := gone
  nearer := left
  outcome := Or.inr ⟨call, pending, rfl, rfl, done⟩

/-- The first access of a call is defined. -/
theorem exists_begin (sound : serving.hosting.Sound)
    (threaded : Threaded serving.threads serving.hosting.handlers) (call : ServerCall) :
    ∃ next, serving.begin call = some next ∧
      Advances serving.hosting serving next (.entered call) := by
  have more : 1 < 2 * serving.hosting.mZones.toList.length + 4 := by omega
  cases call with
  | startZone zoneId =>
      by_cases hosted : zoneId ∈ serving.hosting.mZones
      · have done : serving.hosting.startZone zoneId = some serving.hosting := if_pos hosted
        refine ⟨_, ?_, Advances.of_finish serving.threads rfl more threaded (fun _ => id) done⟩
        simp only [begin, done, Option.map_some, if_pos hosted]
      · rcases Hosting.exists_startZone serving.hosting hosted with ⟨handlers, stored, done⟩
        have uses := Uses.store stored
        refine ⟨_, ?_, Advances.of_finish _ rfl more ((threaded.alloc _ started).of_uses uses)
          (fun zh gone => uses.gone (gone.alloc _)) done⟩
        simp only [begin, done, Option.map_some, if_neg hosted]
  | stopZone zoneId force =>
      cases pointer : serving.hosting.mZones[zoneId]? with
      | none =>
          refine ⟨_, ?_, Advances.of_finish serving.threads rfl more threaded (fun _ => id) ?_⟩
          · simp only [begin, pointer]
          · simp only [Hosting.perform, Hosting.stopZone, pointer]
      | some zh =>
          rcases sound.owns zoneId zh pointer with ⟨handler, loaded, _⟩
          by_cases allowed : force = true ∨ handler.mDetachableZone ≠ -1
          · refine ⟨{ serving with
              threads := lower serving.threads zh
              inside := some (.deleting zoneId force zh) }, ?_, rfl, threaded.lower zh, fun _ => id,
              ?_, Or.inl ⟨rfl, rfl, .deleting pointer loaded allowed⟩⟩
            · simp only [begin, pointer, loaded, Option.map_some, if_pos allowed]
            · change 3 < 2 * serving.hosting.mZones.toList.length + 4
              omega
          · refine ⟨_, ?_, Advances.of_finish serving.threads rfl more threaded (fun _ => id) ?_⟩
            · simp only [begin, pointer, loaded, Option.map_some, if_neg allowed]
            · simp only [Hosting.perform, Hosting.stopZone, pointer, loaded, Option.bind_some,
                if_neg allowed]
  | markForDetach zoneId idServer =>
      cases pointer : serving.hosting.mZones[zoneId]? with
      | none =>
          have done : serving.hosting.markForDetach zoneId idServer = some serving.hosting := by
            simp only [Hosting.markForDetach, pointer]
          refine ⟨_, ?_, Advances.of_finish serving.threads rfl more threaded (fun _ => id) done⟩
          simp only [begin, done, Option.map_some]
      | some zh =>
          rcases sound.owns zoneId zh pointer with ⟨handler, loaded, _⟩
          rcases Heap.exists_store loaded (handler.maskAsDetachable idServer) with
            ⟨handlers, stored⟩
          have done : serving.hosting.markForDetach zoneId idServer =
              some { serving.hosting with handlers } := by
            simp only [Hosting.markForDetach, pointer, loaded, Option.bind_some, stored,
              Option.map_some]
          have uses := Uses.store stored
          refine ⟨_, ?_, Advances.of_finish serving.threads rfl more (threaded.of_uses uses)
            (fun zh gone => uses.gone gone) done⟩
          simp only [begin, done, Option.map_some]
  | stopAll =>
      refine ⟨_, rfl, rfl, threaded, fun _ => id, ?_, Or.inl ⟨rfl, rfl, .loop rfl⟩⟩
      change 2 * serving.hosting.mZones.toList.length + 2 <
        2 * serving.hosting.mZones.toList.length + 4
      omega
  | look => exact ⟨_, rfl, Advances.of_finish serving.threads rfl more threaded (fun _ => id) rfl⟩

/-- The next access is defined, unless the call waits for a thread. -/
theorem Orderly.exists_proceed (orderly : Orderly before serving)
    (present : serving.inside = some inside)
    (ended : ∀ zh, inside.awaits = some zh → hasEnded serving.threads zh = true) :
    ∃ next, serving.proceed inside = some next ∧ Advances before serving next inside := by
  rcases serving with ⟨hosting, threads, waiting, _, performed⟩
  rcases orderly with ⟨sound, got, threaded⟩
  subst present
  cases got with
  | entered call => exact exists_begin sound threaded call
  | @deleting zoneId force zh handler pointer loaded allowed =>
      exact ⟨_, rfl, rfl, threaded.lower zh, fun _ => id, Nat.lt_succ_self 2,
        Or.inl ⟨rfl, rfl, .joining pointer loaded allowed⟩⟩
  | @joining zoneId force zh handler pointer loaded allowed =>
      rcases exists_destroy threaded loaded (ended zh rfl) with
        ⟨handlers, gone, destroyed, threadedAfter⟩
      refine ⟨_, Option.map_eq_some_iff.mpr ⟨_, destroyed, rfl⟩, rfl, threadedAfter,
        fun _ dead => dead.free gone, Nat.lt_succ_self 1, Or.inr ⟨_, rfl, rfl, rfl, ?_⟩⟩
      simp only [Hosting.perform, Hosting.stopZone, pointer, loaded, Option.bind_some,
        if_pos allowed, gone, Option.map_some]
      rfl
  | @loop rest handlers left =>
      cases rest with
      | nil =>
          refine ⟨_, rfl, rfl, threaded, fun _ => id, Nat.lt_succ_self 1,
            Or.inr ⟨_, rfl, rfl, rfl, ?_⟩⟩
          change before.stopAll = _
          unfold Hosting.stopAll
          rw [← left]
          rfl
      | cons entry rest =>
          refine ⟨_, rfl, rfl, threaded.lower entry.2, fun _ => id, ?_,
            Or.inl ⟨rfl, rfl, .joiningNext left⟩⟩
          change 2 * rest.length + 3 < 2 * (rest.length + 1) + 2
          omega
  | @joiningNext entry rest handlers left =>
      rcases sound.exists_stopAll with ⟨_, stopped, _⟩
      rcases Option.map_eq_some_iff.mp stopped with ⟨freed, deleted, _⟩
      rw [← left] at deleted
      rcases Hosting.deleteHandlers_eq_some_iff.mp deleted with ⟨_, done⟩
      rcases deleteEach_cons_eq_some_iff.mp done with ⟨handler, _, _, _, _, loaded, _⟩
      rcases exists_destroy threaded loaded (ended entry.2 rfl) with
        ⟨between, gone, destroyed, threadedAfter⟩
      refine ⟨_, Option.map_eq_some_iff.mpr ⟨_, destroyed, rfl⟩, rfl, threadedAfter,
        fun _ dead => dead.free gone, Nat.lt_succ_self _, Or.inl ⟨rfl, rfl, .loop ?_⟩⟩
      rw [← left]
      exact (Hosting.deleteHandlers_cons gone).symm
  | leaving => exact ⟨_, rfl, rfl, threaded, fun _ => id, Nat.zero_lt_one, Or.inl ⟨rfl, rfl, .idle⟩⟩

/-- An access that is defined has waited for its thread. -/
theorem hasEnded_of_proceed (proceeded : serving.proceed inside = some next)
    (awaits : inside.awaits = some zh) : hasEnded serving.threads zh = true := by
  have destroyed : ∀ {zh : Address} {later : Serving D}, serving.destroy zh = some later →
      hasEnded serving.threads zh = true := by
    intro zh later done
    unfold destroy at done
    split at done
    · next ended => exact ended
    · cases done
  cases inside with
  | joining zoneId force zh =>
      cases awaits
      rcases Option.map_eq_some_iff.mp proceeded with ⟨later, done, _⟩
      exact destroyed done
  | joiningNext entry rest =>
      cases awaits
      rcases Option.map_eq_some_iff.mp proceeded with ⟨later, done, _⟩
      exact destroyed done
  | entered call => cases awaits
  | deleting zoneId force zh => cases awaits
  | loop rest => cases awaits
  | leaving => cases awaits

theorem Orderly.proceed (orderly : Orderly before serving)
    (present : serving.inside = some inside) (proceeded : serving.proceed inside = some next) :
    Advances before serving next inside := by
  rcases orderly.exists_proceed present fun zh => hasEnded_of_proceed proceeded with
    ⟨same, done, advances⟩
  cases Option.mem_unique done proceeded
  exact advances

/-! ## One call after the other -/

/-- The call that an act makes. -/
def callOf : ServingAct → Option ServerCall
  | .call call => some call
  | _ => none

/-- The zones are those that the calls that have taken their effect leave one
after the other.  Each call that was made has taken its effect, holds the
mutex, or waits. -/
structure Serial (acts : List ServingAct) (serving : Serving D) : Prop where
  exists_orderly : ∃ before, run Hosting.perform Hosting.fresh serving.performed = some before ∧
    Orderly before serving
  calls : (acts.filterMap callOf).Perm
    (serving.performed ++ (serving.inside.bind Inside.pending).toList ++ serving.waiting)

theorem Serial.fresh : Serial [] (fresh : Serving D) where
  exists_orderly := by
    refine ⟨Hosting.fresh, rfl, Hosting.Sound.fresh, .idle, fun zh => iff_of_false ?_ ?_⟩
    · exact Std.ExtTreeMap.not_mem_empty
    · rintro ⟨handler, ⟨⟩⟩
  calls := List.Perm.refl _

/-- A thread's access leaves everything else as it is. -/
theorem step_thread_eq_some_iff {move : ThreadStep} :
    serving.step (.thread zh move) = some next ↔ move ≠ .stop ∧ ∃ running after,
      serving.threads[zh]? = some running ∧ threadStep running move = some after ∧
        next = { serving with threads := serving.threads.insert zh after } := by
  constructor
  · intro stepped
    simp only [step] at stepped
    split at stepped
    · cases stepped
    · next other =>
      rcases Option.bind_eq_some_iff.mp stepped with ⟨running, found, onwards⟩
      rcases Option.map_eq_some_iff.mp onwards with ⟨after, moved, rfl⟩
      exact ⟨other, running, after, found, moved, rfl⟩
  · rintro ⟨other, running, after, found, moved, rfl⟩
    simp only [step, if_neg other, found, Option.bind_some, moved, Option.map_some]

theorem step_enter_eq_some_iff {index : Nat} :
    serving.step (.enter index) = some next ↔ serving.inside = none ∧ ∃ call,
      serving.waiting[index]? = some call ∧
        next = { serving with
          waiting := serving.waiting.eraseIdx index
          inside := some (.entered call) } := by
  cases holder : serving.inside with
  | none =>
      simp only [step, holder, Option.isNone_none, if_true, Option.map_eq_some_iff, true_and]
      exact exists_congr fun call => and_congr_right fun _ => eq_comm
  | some inside =>
      simp only [step, holder, Option.isNone_some, Bool.false_eq_true, if_false, reduceCtorEq,
        false_and]

theorem filterMap_callOf_concat {acts : List ServingAct} {act : ServingAct}
    (silent : callOf act = none) : (acts ++ [act]).filterMap callOf = acts.filterMap callOf := by
  rw [List.filterMap_append, List.filterMap_cons_none silent, List.filterMap_nil, List.append_nil]

theorem Serial.step {acts : List ServingAct} (serial : Serial acts serving) {act : ServingAct}
    (stepped : serving.step act = some next) : Serial (acts ++ [act]) next := by
  rcases serial with ⟨⟨before, performed, orderly⟩, calls⟩
  cases act with
  | call call =>
      cases stepped
      refine ⟨⟨before, performed, orderly.sound, orderly.got, orderly.threaded⟩, ?_⟩
      rw [List.filterMap_append, ← List.append_assoc]
      exact calls.append_right [call]
  | enter index =>
      rcases step_enter_eq_some_iff.mp stepped with ⟨free, call, found, rfl⟩
      have got := orderly.got
      rw [free] at got calls
      refine ⟨⟨before, performed, orderly.sound, ?_, orderly.threaded⟩, ?_⟩
      · exact got.eq_of_idle ▸ .entered call
      · rcases List.getElem?_eq_some_iff.mp found with ⟨within, rfl⟩
        have drawn := List.getElem_cons_eraseIdx_perm within
        rw [Option.bind_none, Option.toList_none, List.append_nil] at calls
        rw [filterMap_callOf_concat rfl, List.append_assoc]
        apply calls.trans
        exact drawn.symm.append_left serving.performed
  | proceed =>
      rcases Option.bind_eq_some_iff.mp stepped with ⟨inside, present, proceeded⟩
      have advances := orderly.proceed present proceeded
      rw [present] at calls
      rcases advances.outcome with ⟨kept, pending, got⟩ | ⟨call, pending, left, done, effect⟩
      · refine ⟨⟨before, kept ▸ performed, orderly.sound, got, advances.threaded⟩, ?_⟩
        rw [filterMap_callOf_concat rfl, kept, pending, advances.waiting]
        exact calls
      · refine ⟨⟨next.hosting, ?_, orderly.sound.perform effect, ?_, advances.threaded⟩, ?_⟩
        · rw [done]
          exact (run_concat_eq_some_iff _ _ _ _).mpr ⟨before, performed, effect⟩
        · rw [left]
          exact .leaving
        · rw [Option.bind_some, pending] at calls
          rw [filterMap_callOf_concat rfl, left, done, advances.waiting]
          exact (List.append_nil (serving.performed ++ [call])).symm ▸ calls
  | thread zh move =>
      rcases step_thread_eq_some_iff.mp stepped with ⟨_, running, after, found, moved, rfl⟩
      have threaded := orderly.threaded.move found after
      refine ⟨⟨before, performed, orderly.sound, orderly.got, threaded⟩, ?_⟩
      rw [filterMap_callOf_concat rfl]
      exact calls

theorem Serial.of_run {acts : List ServingAct}
    (ran : run Serving.step Serving.fresh acts = some serving) : Serial acts serving := by
  refine run_invariant_of_step (fun _ => True) Serial (fun _ _ _ => trivial) Serial.fresh ?_
    trivial ran
  intro before state act next _ serial stepped
  exact serial.step stepped

/-- In every interleaving, the calls that have taken their effect so far did so
one after the other.  As long as nobody holds the mutex, the zones are as these
calls leave them.  The handlers that are alive are those whose thread has not
been joined, and every call is accounted for. -/
theorem serial_of_run {acts : List ServingAct}
    (ran : run Serving.step Serving.fresh acts = some serving) :
    ∃ before, run Hosting.perform Hosting.fresh serving.performed = some before ∧ before.Sound ∧
      (serving.inside = none → serving.hosting = before) ∧
      Threaded serving.threads serving.hosting.handlers ∧
      (acts.filterMap callOf).Perm
        (serving.performed ++ (serving.inside.bind Inside.pending).toList ++ serving.waiting) := by
  rcases Serial.of_run ran with ⟨⟨before, performed, orderly⟩, calls⟩
  refine ⟨before, performed, orderly.sound, ?_, orderly.threaded, calls⟩
  intro free
  have got := orderly.got
  rw [free] at got
  exact got.eq_of_idle

/-- A zone is stopped right after it was started, and another call comes
meanwhile. -/
def interleaving : List ServingAct :=
  [.call (.startZone 1), .enter 0, .proceed, .call (.stopZone 1 true), .proceed, .call .look,
    .enter 0, .proceed, .proceed]

theorem interleaving_serial : ∃ serving before : Hosting ℚ,
    (run Serving.step Serving.fresh interleaving).map Serving.hosting = some serving ∧
      run Hosting.perform Hosting.fresh [.startZone 1] = some before ∧ before.Sound := by
  have ran : ∃ serving : Serving ℚ, run Serving.step Serving.fresh interleaving = some serving ∧
      serving.performed = [.startZone 1] := ⟨_, rfl, rfl⟩
  rcases ran with ⟨serving, ran, performed⟩
  rcases serial_of_run ran with ⟨before, earlier, sound, _⟩
  refine ⟨serving.hosting, before, ?_, performed ▸ earlier, sound⟩
  rw [ran, Option.map_some]

/-- What a thread does, it does while everything else stays as it is. -/
theorem exists_run_thread {running after : Running} {moves : List ThreadStep}
    (found : serving.threads[zh]? = some running) (alone : ThreadStep.stop ∉ moves)
    (ran : run threadStep running moves = some after) :
    ∃ threads, run Serving.step serving (moves.map (.thread zh)) = some { serving with threads } ∧
      threads[zh]? = some after := by
  induction moves generalizing serving running with
  | nil =>
      cases ran
      exact ⟨serving.threads, rfl, found⟩
  | cons move moves inductionHypothesis =>
      rw [List.mem_cons, not_or] at alone
      rcases Option.bind_eq_some_iff.mp ran with ⟨between, moved, onwards⟩
      have stepped := step_thread_eq_some_iff.mpr
        ⟨Ne.symm alone.1, running, between, found, moved, rfl⟩
      have kept : ({ serving with threads := serving.threads.insert zh between } :
          Serving D).threads[zh]? = some between :=
        Std.ExtTreeMap.getElem?_insert_self
      rcases inductionHypothesis kept alone.2 onwards with ⟨threads, rest, final⟩
      refine ⟨threads, ?_, final⟩
      rw [List.map_cons, run_cons, stepped]
      exact rest

/-- A game whose next step fails ends the thread. -/
theorem exists_run_ended (running : Running) : ∃ moves after, ThreadStep.stop ∉ moves ∧
    run threadStep running moves = some after ∧ after.phase = .ended := by
  rcases running with ⟨mRun, phase, steps⟩
  cases phase with
  | initialising => exact ⟨[.initialise false], _, by decide, rfl, rfl⟩
  | starting =>
      exact ⟨[.raise, .test, .guard, .step false, .write, .rest, .test], _, by decide, rfl, rfl⟩
  | looping =>
      cases mRun with
      | false => exact ⟨[.test], _, by decide, rfl, rfl⟩
      | true =>
          exact ⟨[.test, .guard, .step false, .write, .rest, .test], _, by decide, rfl, rfl⟩
  | guarding =>
      cases mRun with
      | false => exact ⟨[.guard, .rest, .test], _, by decide, rfl, rfl⟩
      | true => exact ⟨[.guard, .step false, .write, .rest, .test], _, by decide, rfl, rfl⟩
  | stepping => exact ⟨[.step false, .write, .rest, .test], _, by decide, rfl, rfl⟩
  | stepped result =>
      cases result with
      | false => exact ⟨[.write, .rest, .test], _, by decide, rfl, rfl⟩
      | true =>
          exact ⟨[.write, .rest, .test, .guard, .step false, .write, .rest, .test], _, by decide,
            rfl, rfl⟩
  | resting =>
      cases mRun with
      | false => exact ⟨[.rest, .test], _, by decide, rfl, rfl⟩
      | true =>
          exact ⟨[.rest, .test, .guard, .step false, .write, .rest, .test], _, by decide, rfl,
            rfl⟩
  | ended => exact ⟨[], _, by decide, rfl, rfl⟩

/-- The thread that a call waits for can come to its end. -/
theorem exists_run_hasEnded (serving : Serving D) (inside : Inside) :
    ∃ moves threads, (∀ act ∈ moves, callOf act = none) ∧
      run Serving.step serving moves = some { serving with threads } ∧
      ∀ zh, inside.awaits = some zh → hasEnded threads zh = true := by
  cases awaits : inside.awaits with
  | none => exact ⟨[], serving.threads, fun _ member => absurd member List.not_mem_nil, rfl, nofun⟩
  | some zh =>
      cases found : serving.threads[zh]? with
      | none =>
          refine ⟨[], serving.threads, fun _ member => absurd member List.not_mem_nil, rfl, ?_⟩
          rintro _ ⟨⟩
          unfold hasEnded
          rw [found]
      | some running =>
          rcases exists_run_ended running with ⟨moves, after, alone, ran, ended⟩
          rcases exists_run_thread found alone ran with ⟨threads, reached, final⟩
          refine ⟨_, threads, ?_, reached, ?_⟩
          · intro act member
            rcases List.mem_map.mp member with ⟨move, _, rfl⟩
            rfl
          · rintro _ ⟨⟩
            unfold hasEnded
            rw [final]
            exact decide_eq_true ended

theorem Serial.append {acts more : List ServingAct} (serial : Serial acts serving)
    (ran : run Serving.step serving more = some next) : Serial (acts ++ more) next := by
  induction more generalizing acts serving with
  | nil =>
      cases ran
      exact (List.append_nil acts).symm ▸ serial
  | cons act more inductionHypothesis =>
      rcases Option.bind_eq_some_iff.mp ran with ⟨between, stepped, onwards⟩
      have later := inductionHypothesis (serial.step stepped) onwards
      rw [List.append_assoc] at later
      exact later

/-- The call that holds the mutex can come to its end, without another call. -/
theorem Serial.exists_run_free {acts : List ServingAct} (serial : Serial acts serving) :
    ∃ more next, (∀ act ∈ more, callOf act = none) ∧ run Serving.step serving more = some next ∧
      next.inside = none ∧ next.waiting = serving.waiting := by
  -- Each access of the call brings it nearer to its end.
  generalize measure : serving.remaining = left
  induction left using Nat.strong_induction_on generalizing serving acts with
  | h left inductionHypothesis =>
      cases present : serving.inside with
      | none =>
          exact ⟨[], serving, fun _ member => absurd member List.not_mem_nil, rfl, present, rfl⟩
      | some inside =>
          rcases exists_run_hasEnded serving inside with ⟨moves, threads, silent, waited, ended⟩
          have moved := serial.append waited
          rcases moved.exists_orderly with ⟨before, _, orderly⟩
          rcases orderly.exists_proceed present ended with ⟨between, proceeded, advances⟩
          have stepped : ({ serving with threads } : Serving D).step .proceed = some between :=
            Option.bind_eq_some_iff.mpr ⟨inside, present, proceeded⟩
          have nearer : between.remaining < left := by
            refine Nat.lt_of_lt_of_eq advances.nearer (Eq.trans ?_ measure)
            unfold remaining
            rw [present]
            rfl
          rcases inductionHypothesis _ nearer (moved.step stepped) rfl with
            ⟨more, next, silentMore, ran, free, waiting⟩
          refine ⟨moves ++ .proceed :: more, next, ?_, ?_, free, waiting.trans advances.waiting⟩
          · rw [List.forall_mem_append, List.forall_mem_cons]
            exact ⟨silent, rfl, silentMore⟩
          · rw [run_append, waited, Option.bind_some, run_cons, stepped, Option.bind_some]
            exact ran

/-- The calls never wait for each other in a circle.  From every state that is
reached, all calls can come to their end without another call, if the games'
next steps fail. -/
theorem exists_run_idle {acts : List ServingAct}
    (ran : run Serving.step Serving.fresh acts = some serving) :
    ∃ more next, (∀ act ∈ more, callOf act = none) ∧ run Serving.step serving more = some next ∧
      next.inside = none ∧ next.waiting = [] ∧
      (acts.filterMap callOf).Perm next.performed := by
  have general : ∀ (waiting : List ServerCall) (acts : List ServingAct) (serving : Serving D),
      serving.waiting = waiting → Serial acts serving →
      ∃ more next, (∀ act ∈ more, callOf act = none) ∧
        run Serving.step serving more = some next ∧ next.inside = none ∧ next.waiting = [] := by
    intro waiting
    induction waiting with
    | nil =>
        intro acts serving nobody serial
        rcases serial.exists_run_free with ⟨more, next, silent, done, free, same⟩
        exact ⟨more, next, silent, done, free, same.trans nobody⟩
    | cons call waiting inductionHypothesis =>
        intro acts serving queue serial
        rcases serial.exists_run_free with ⟨first, middle, silentFirst, freed, free, same⟩
        rw [queue] at same
        have head : middle.waiting[0]? = some call := by
          rw [same]
          rfl
        have tail : middle.waiting.eraseIdx 0 = waiting := by
          rw [same]
          rfl
        have entered := step_enter_eq_some_iff.mpr ⟨free, call, head, rfl⟩
        rcases inductionHypothesis _ _ tail ((serial.append freed).step entered) with
          ⟨more, next, silent, done, idle, nobody⟩
        refine ⟨first ++ .enter 0 :: more, next, ?_, ?_, idle, nobody⟩
        · rw [List.forall_mem_append, List.forall_mem_cons]
          exact ⟨silentFirst, rfl, silent⟩
        · rw [run_append, freed, Option.bind_some, run_cons, entered, Option.bind_some]
          exact done
  have serial := Serial.of_run ran
  rcases general _ acts serving rfl serial with ⟨more, next, silent, done, free, nobody⟩
  refine ⟨more, next, silent, done, free, nobody, ?_⟩
  have calls := (serial.append done).calls
  rw [List.filterMap_append, List.filterMap_eq_nil_iff.mpr silent, free, nobody] at calls
  rw [List.append_nil, Option.bind_none, Option.toList_none, List.append_nil,
    List.append_nil] at calls
  exact calls

theorem interleaving_idle : ∃ serving next : Serving ℚ,
    run Serving.step Serving.fresh interleaving = some serving ∧
      (∃ more, run Serving.step serving more = some next) ∧
      [ServerCall.startZone 1, .stopZone 1 true, .look].Perm next.performed := by
  have ran : ∃ serving : Serving ℚ, run Serving.step Serving.fresh interleaving = some serving :=
    ⟨_, rfl⟩
  rcases ran with ⟨serving, ran⟩
  rcases exists_run_idle ran with ⟨more, next, _, onwards, _, _, calls⟩
  exact ⟨serving, next, ran, ⟨more, onwards⟩, calls⟩

/-! ## How long a call waits -/

/-- The thread is on its way to its end, whatever its game does. -/
def Ending (running : Running) : Prop :=
  running.phase.Quiet ∧
    (running.mRun = true → running.phase = .stepped false ∨ running.phase = .ended)

/-- A thread on its way to its end gets nearer to it. -/
theorem Ending.advance {running after : Running} {move : ThreadStep} (ending : Ending running)
    (alone : move ≠ .stop) (moved : threadStep running move = some after) :
    Ending after ∧ after.phase.remaining < running.phase.remaining := by
  rcases running with ⟨mRun, phase, steps⟩
  rcases ending with ⟨quiet, raised⟩
  cases mRun with
  | false =>
      have stopped : Stopped steps ⟨false, phase, steps⟩ := ⟨rfl, quiet, rfl⟩
      rcases stopped.advance moved with ⟨kept, nearer⟩
      refine ⟨⟨kept.quiet, fun up => ?_⟩, nearer alone⟩
      rw [kept.lowered] at up
      cases up
  | true =>
      rcases raised rfl with failing | finished
      · cases failing
        cases move with
        | write =>
            cases moved
            exact ⟨⟨trivial, fun up => by cases up⟩, Nat.lt_succ_self 2⟩
        | stop => exact absurd rfl alone
        | _ => cases moved
      · cases finished
        cases move with
        | stop => exact absurd rfl alone
        | _ => cases moved

/-- A thread that is not on its way to its end makes as many steps as its game
likes. -/
theorem exists_long_run {running : Running} (going : ¬ Ending running) (count : Nat) :
    ∃ moves steps, ThreadStep.stop ∉ moves ∧
      run threadStep running moves = some ⟨true, .looping, steps⟩ ∧ count ≤ moves.length := by
  have loops : ∀ count steps, ∃ moves final, ThreadStep.stop ∉ moves ∧
      run threadStep ⟨true, .looping, steps⟩ moves = some ⟨true, .looping, final⟩ ∧
        count ≤ moves.length := by
    intro count
    induction count with
    | zero => exact fun steps => ⟨[], steps, by decide, rfl, Nat.le_refl 0⟩
    | succ count inductionHypothesis =>
        intro steps
        rcases inductionHypothesis (steps + 1) with ⟨moves, final, alone, ran, long⟩
        refine ⟨[.test, .guard, .step true, .write, .rest] ++ moves, final, ?_, ?_, ?_⟩
        · rw [List.mem_append, not_or]
          exact ⟨by decide, alone⟩
        · rw [run_append]
          exact ran
        · rw [List.length_append, List.length_cons]
          omega
  have enters : ∃ moves steps, ThreadStep.stop ∉ moves ∧
      run threadStep running moves = some ⟨true, .looping, steps⟩ := by
    rcases running with ⟨mRun, phase, steps⟩
    cases phase with
    | initialising => exact ⟨[.initialise true, .raise], _, by decide, rfl⟩
    | starting => exact ⟨[.raise], _, by decide, rfl⟩
    | stepping => exact ⟨[.step true, .write, .rest], _, by decide, rfl⟩
    | ended => exact absurd ⟨trivial, fun _ => Or.inr rfl⟩ going
    | stepped result =>
        cases result with
        | false => exact absurd ⟨trivial, fun _ => Or.inl rfl⟩ going
        | true => exact ⟨[.write, .rest], _, by decide, rfl⟩
    | looping =>
        cases mRun with
        | false => exact absurd ⟨trivial, fun up => by cases up⟩ going
        | true => exact ⟨[], _, by decide, rfl⟩
    | guarding =>
        cases mRun with
        | false => exact absurd ⟨trivial, fun up => by cases up⟩ going
        | true => exact ⟨[.guard, .step true, .write, .rest], _, by decide, rfl⟩
    | resting =>
        cases mRun with
        | false => exact absurd ⟨trivial, fun up => by cases up⟩ going
        | true => exact ⟨[.rest], _, by decide, rfl⟩
  rcases enters with ⟨first, steps, aloneFirst, entered⟩
  rcases loops count steps with ⟨moves, final, alone, ran, long⟩
  refine ⟨first ++ moves, final, ?_, ?_, ?_⟩
  · rw [List.mem_append, not_or]
    exact ⟨aloneFirst, alone⟩
  · rw [run_append, entered]
    exact ran
  · rw [List.length_append]
    omega

/-- The step of one thread. -/
def moveOf (zh : Address) : ServingAct → Option ThreadStep
  | .thread other move => if other = zh then some move else none
  | _ => none

/-- The act of a thread whose handler is gone is not possible, and the handler
stays gone. -/
theorem Serial.gone_step {acts : List ServingAct} (serial : Serial acts serving)
    (gone : Gone serving.hosting.handlers zh) {act : ServingAct}
    (stepped : serving.step act = some next) :
    moveOf zh act = none ∧ Gone next.hosting.handlers zh := by
  rcases serial.exists_orderly with ⟨before, _, orderly⟩
  cases act with
  | call call =>
      cases stepped
      exact ⟨rfl, gone⟩
  | enter index =>
      rcases step_enter_eq_some_iff.mp stepped with ⟨_, call, _, rfl⟩
      exact ⟨rfl, gone⟩
  | proceed =>
      rcases Option.bind_eq_some_iff.mp stepped with ⟨inside, present, proceeded⟩
      exact ⟨rfl, (orderly.proceed present proceeded).gone zh gone⟩
  | thread other move =>
      rcases step_thread_eq_some_iff.mp stepped with ⟨_, running, after, found, _, rfl⟩
      refine ⟨if_neg ?_, gone⟩
      rintro rfl
      have member : other ∈ serving.threads := by
        rw [Std.ExtTreeMap.mem_iff_isSome_getElem?, found, Option.isSome_some]
      rcases (orderly.threaded other).mp member with ⟨handler, loaded⟩
      rw [gone.absent] at loaded
      cases loaded

theorem Serial.moves_eq_nil {acts more : List ServingAct} (serial : Serial acts serving)
    (gone : Gone serving.hosting.handlers zh)
    (ran : run Serving.step serving more = some next) : more.filterMap (moveOf zh) = [] := by
  induction more generalizing acts serving with
  | nil => rfl
  | cons act more inductionHypothesis =>
      rcases Option.bind_eq_some_iff.mp ran with ⟨between, stepped, onwards⟩
      rcases serial.gone_step gone stepped with ⟨none, stillGone⟩
      rw [List.filterMap_cons_none none]
      exact inductionHypothesis (serial.step stepped) stillGone onwards

/-- The call that has waited for a thread destroys its handler. -/
theorem gone_of_proceed (proceeded : serving.proceed inside = some next)
    (awaits : inside.awaits = some zh) : Gone next.hosting.handlers zh := by
  have destroyed : ∀ {later : Serving D}, serving.destroy zh = some later →
      Gone later.hosting.handlers zh := by
    intro later done
    unfold destroy at done
    split at done
    · rcases Option.map_eq_some_iff.mp done with ⟨handlers, freeing, rfl⟩
      exact Gone.of_free freeing
    · cases done
  cases inside with
  | joining zoneId force zh =>
      cases awaits
      rcases Option.map_eq_some_iff.mp proceeded with ⟨later, done, rfl⟩
      have gone := destroyed done
      exact gone
  | joiningNext entry rest =>
      cases awaits
      rcases Option.map_eq_some_iff.mp proceeded with ⟨later, done, rfl⟩
      have gone := destroyed done
      exact gone
  | entered call => cases awaits
  | deleting zoneId force zh => cases awaits
  | loop rest => cases awaits
  | leaving => cases awaits

/-- While the call waits, the thread comes nearer to its end with each of its
steps.  Afterwards there is no such thread. -/
theorem Serial.length_moves_le {acts more : List ServingAct} (serial : Serial acts serving)
    (held : serving.inside = some inside) (awaits : inside.awaits = some zh)
    {running : Running} (found : serving.threads[zh]? = some running) (ending : Ending running)
    (ran : run Serving.step serving more = some next) :
    (more.filterMap (moveOf zh)).length ≤ running.phase.remaining := by
  induction more generalizing acts serving running with
  | nil => exact Nat.zero_le _
  | cons act more inductionHypothesis =>
      rcases Option.bind_eq_some_iff.mp ran with ⟨between, stepped, onwards⟩
      have serialNext := serial.step stepped
      cases act with
      | call call =>
          cases stepped
          exact inductionHypothesis serialNext held found ending onwards
      | enter index =>
          rcases step_enter_eq_some_iff.mp stepped with ⟨free, _⟩
          rw [held] at free
          cases free
      | proceed =>
          rcases Option.bind_eq_some_iff.mp stepped with ⟨_, present, proceeded⟩
          cases Option.mem_unique present held
          have nothing := serialNext.moves_eq_nil (gone_of_proceed proceeded awaits) onwards
          rw [List.filterMap_cons_none rfl, nothing]
          exact Nat.zero_le _
      | thread other move =>
          rcases step_thread_eq_some_iff.mp stepped with ⟨alone, present, after, also, moved, rfl⟩
          by_cases same : other = zh
          · subst same
            cases Option.mem_unique also found
            rcases ending.advance alone moved with ⟨endingAfter, nearer⟩
            have kept : ({ serving with threads := serving.threads.insert other after } :
                Serving D).threads[other]? = some after :=
              Std.ExtTreeMap.getElem?_insert_self
            have later := inductionHypothesis serialNext held kept endingAfter onwards
            have counted : moveOf other (.thread other move) = some move := if_pos rfl
            rw [List.filterMap_cons_some counted, List.length_cons]
            omega
          · have kept : ({ serving with threads := serving.threads.insert other after } :
                Serving D).threads[zh]? = some running := by
              rw [Std.ExtTreeMap.getElem?_insert, if_neg (mt Std.compare_eq_iff_eq.mp same)]
              exact found
            have uncounted : moveOf zh (.thread other move) = none := if_neg same
            rw [List.filterMap_cons_none uncounted]
            exact inductionHypothesis serialNext held kept ending onwards

/-- Where a call waits for a thread, either the thread has a step to make, or it
has ended and the call goes on. -/
theorem Serial.exists_step {acts : List ServingAct} (serial : Serial acts serving)
    (held : serving.inside = some inside) (awaits : inside.awaits = some zh) :
    ∃ act after, (act = .proceed ∨ ∃ move, act = .thread zh move) ∧
      serving.step act = some after := by
  by_cases ended : hasEnded serving.threads zh = true
  · rcases serial.exists_orderly with ⟨before, _, orderly⟩
    have allEnded : ∀ other, inside.awaits = some other →
        hasEnded serving.threads other = true := by
      intro other awaited
      cases Option.mem_unique awaited awaits
      exact ended
    rcases orderly.exists_proceed held allEnded with ⟨after, proceeded, _⟩
    exact ⟨.proceed, after, Or.inl rfl, Option.bind_eq_some_iff.mpr ⟨inside, held, proceeded⟩⟩
  · cases found : serving.threads[zh]? with
    | none =>
        unfold hasEnded at ended
        rw [found] at ended
        exact absurd rfl ended
    | some running =>
        have going : running.phase ≠ .ended := by
          intro phaseEnded
          unfold hasEnded at ended
          rw [found] at ended
          exact ended (decide_eq_true phaseEnded)
        rcases exists_threadStep going with ⟨move, after, alone, moved⟩
        exact ⟨.thread zh move, _, Or.inr ⟨move, rfl⟩,
          step_thread_eq_some_iff.mpr ⟨alone, running, after, found, moved, rfl⟩⟩

/-- When a call waits for the end of a zone's thread, the thread makes a
bounded number of further steps if it is on its way to its end, whatever
follows, and as long as the call waits, the thread has a step to make or the
call goes on.  Otherwise the thread may make any number of steps by itself, and
the call still waits, with the mutex held. -/
theorem wait_of_run {acts : List ServingAct} {running : Running}
    (ran : run Serving.step Serving.fresh acts = some serving)
    (held : serving.inside = some inside) (awaits : inside.awaits = some zh)
    (found : serving.threads[zh]? = some running) :
    (Ending running → ∃ bound, ∀ more next, run Serving.step serving more = some next →
      (more.filterMap (moveOf zh)).length ≤ bound ∧
        (next.inside = some inside → ∃ act after, (act = .proceed ∨ ∃ move, act = .thread zh move) ∧
          next.step act = some after)) ∧
    (¬ Ending running → ∀ count : Nat, ∃ (moves : List ThreadStep) (next : Serving D),
      count ≤ moves.length ∧
      run Serving.step serving (moves.map (.thread zh)) = some next ∧
      next.inside = some inside ∧ next.step .proceed = none) := by
  constructor
  · intro ending
    refine ⟨running.phase.remaining, fun more next onwards => ⟨?_, fun still => ?_⟩⟩
    · exact (Serial.of_run ran).length_moves_le held awaits found ending onwards
    · exact ((Serial.of_run ran).append onwards).exists_step still awaits
  · intro going count
    rcases exists_long_run going count with ⟨moves, steps, alone, moved, long⟩
    rcases exists_run_thread found alone moved with ⟨threads, reached, final⟩
    refine ⟨moves, _, long, reached, held, ?_⟩
    cases proceeded : Serving.step { serving with threads } .proceed with
    | none => rfl
    | some later =>
        rcases Option.bind_eq_some_iff.mp proceeded with ⟨_, present, done⟩
        cases Option.mem_unique present held
        have ended := hasEnded_of_proceed done awaits
        unfold hasEnded at ended
        rw [final] at ended
        cases ended

/-- Stopping a zone right after it was started may take for ever. -/
theorem interleaving_waits : ∃ serving : Serving ℚ,
    run Serving.step Serving.fresh interleaving = some serving ∧
      ∀ count : Nat, ∃ (moves : List ThreadStep) (next : Serving ℚ), count ≤ moves.length ∧
        run Serving.step serving (moves.map (.thread 0)) = some next ∧
        next.inside = some (.joining 1 true 0) ∧ next.step .proceed = none := by
  have reached : ∃ serving : Serving ℚ,
      run Serving.step Serving.fresh interleaving = some serving ∧
        serving.inside = some (.joining 1 true 0) ∧
        serving.threads[0]? = some ⟨false, .initialising, 0⟩ := ⟨_, rfl, rfl, rfl⟩
  rcases reached with ⟨serving, ran, held, found⟩
  exact ⟨serving, ran, (wait_of_run ran held rfl found).2 fun ending => ending.1⟩

end Serving

end GameServer
end Pxc
