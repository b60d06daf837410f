import Mathlib.Algebra.Field.Rat
import Pxc.General.Histories
import Pxc.GameServer.Hosting

namespace Pxc
namespace GameServer

open General

/-!
# The hosted zones and the history

A zone is hosted exactly if a message has put it on this server and no
effective stop has come since.  Which stops are effective is read off the
history: a stop has to be forced, unless the last mark on the zone's current
handler names a server.  A mark belongs to the handler that had it put on it,
so a zone that was stopped and started again has no mark.

The invariant below says what a state tells about the history that led to it.
It is kept by each of the outcomes of a step.
-/

namespace Hosting

variable {D : Type} [Zero D]

variable (D) in
/-- The handler that a zone has after a history. -/
def handlerAfter (history : List HostingEvent) (zoneId : Int) : Option Address :=
  (run step (fresh : Hosting D) history).bind fun hosting => hosting.mZones[zoneId]?

variable (D) in
/-- The last mark on the current handler of a zone. -/
def LastMark (history : List HostingEvent) (zoneId mark : Int) : Prop :=
  ∃ zh, handlerAfter D history zoneId = some zh ∧
    Since (fun before event => event = .markForDetach zoneId mark ∧
        handlerAfter D before zoneId = some zh)
      (fun _ event => ∀ other, event ≠ .markForDetach zoneId other) history

variable (D) in
/-- A stop that comes after this history is effective. -/
def Effective (history : List HostingEvent) (zoneId : Int) (force : Bool) : Prop :=
  force = true ∨ ∃ mark, LastMark D history zoneId mark ∧ mark ≠ -1

variable (D) in
/-- A message has put the zone on the server, and no effective stop came
after it. -/
def Assigned (history : List HostingEvent) (zoneId mServerId : Int) : Prop :=
  Since (fun _ event => event = .setZoneToServer zoneId mServerId)
    (fun before event => ∀ force, event = .stopZone zoneId force →
      ¬ Effective D before zoneId force) history

/-- No message has assigned a zone to any server yet. -/
def Unassigned (history : List HostingEvent) : Prop :=
  ∀ zoneId idServer, .setZoneToServer zoneId idServer ∉ history

theorem Unassigned.not_assigned {history : List HostingEvent} (unassigned : Unassigned history)
    (zoneId mServerId : Int) : ¬ Assigned D history zoneId mServerId := by
  intro assigned
  rcases assigned with ⟨before, event, after, split, rfl, _⟩
  exact unassigned zoneId mServerId
    (split ▸ List.mem_append_right before List.mem_cons_self)

theorem unassigned_concat_iff {history : List HostingEvent} {event : HostingEvent} :
    Unassigned (history ++ [event]) ↔
      Unassigned history ∧ ∀ zoneId idServer, event ≠ .setZoneToServer zoneId idServer := by
  constructor
  · intro unassigned
    refine ⟨fun zoneId idServer member => ?_, fun zoneId idServer same => ?_⟩
    · exact unassigned zoneId idServer (List.mem_append_left _ member)
    · refine unassigned zoneId idServer (List.mem_append_right _ ?_)
      exact List.mem_singleton.mpr same.symm
  · rintro ⟨unassigned, different⟩ zoneId idServer member
    rcases List.mem_append.mp member with earlier | now
    · exact unassigned zoneId idServer earlier
    · exact different zoneId idServer (List.mem_singleton.mp now).symm

/-- What the state says about the history that led to it. -/
structure Recalls (history : List HostingEvent) (hosting : Hosting D) : Prop where
  reached : run step fresh history = some hosting
  sound : hosting.Sound
  unnamed : hosting.mServerId = -1 ↔ Unassigned history
  named : ∀ before zoneId idServer after,
    history = before ++ .setZoneToServer zoneId idServer :: after → Unassigned before →
      hosting.mServerId = idServer
  hosted : ∀ zoneId, zoneId ∈ hosting.mZones ↔ Assigned D history zoneId hosting.mServerId
  earlier : ∀ before after zoneId zh, history = before ++ after →
    handlerAfter D before zoneId = some zh → zh < hosting.handlers.next
  marked : ∀ zoneId zh handler, hosting.mZones[zoneId]? = some zh →
    hosting.handlers.load zh = some handler →
      (∀ mark, LastMark D history zoneId mark → mark = handler.mDetachableZone) ∧
        (handler.mDetachableZone ≠ -1 → LastMark D history zoneId handler.mDetachableZone)

theorem Recalls.fresh : Recalls [] (fresh : Hosting D) where
  reached := rfl
  sound := Sound.fresh
  unnamed := ⟨fun _ _ _ member => (List.not_mem_nil member).elim, fun _ => rfl⟩
  named := by
    intro before zoneId idServer after split _
    cases before <;> cases split
  hosted := by
    intro zoneId
    refine ⟨fun member => absurd member Std.ExtTreeMap.not_mem_empty, fun assigned => ?_⟩
    exact absurd assigned not_since_nil
  earlier := by
    intro before after zoneId zh split pointer
    rcases List.append_eq_nil_iff.mp split.symm with ⟨rfl, _⟩
    cases pointer
  marked := by
    intro zoneId zh handler pointer loaded
    cases loaded

section Step

variable {history : List HostingEvent} {event : HostingEvent} {hosting next : Hosting D}

theorem Recalls.handlerAfter_eq (recalls : Recalls history hosting) (zoneId : Int) :
    handlerAfter D history zoneId = hosting.mZones[zoneId]? := by
  rw [handlerAfter, recalls.reached, Option.bind_some]

/-- For the zones a server hosts, the mark on the handler decides. -/
theorem Recalls.effective_iff (recalls : Recalls history hosting) {zoneId : Int} {zh : Address}
    {handler : ZoneHandler D} (pointer : hosting.mZones[zoneId]? = some zh)
    (loaded : hosting.handlers.load zh = some handler) (force : Bool) :
    Effective D history zoneId force ↔ force = true ∨ handler.mDetachableZone ≠ -1 := by
  rcases recalls.marked zoneId zh handler pointer loaded with ⟨unique, found⟩
  refine or_congr_right ⟨?_, fun marked => ⟨_, found marked, marked⟩⟩
  rintro ⟨mark, last, marked⟩
  exact unique mark last ▸ marked

/-- The first message names the server, and no later one does. -/
theorem Outcome.mServerId (outcome : Outcome hosting event next) :
    (∀ zoneId idServer, event = .setZoneToServer zoneId idServer →
      next.mServerId = if hosting.mServerId = -1 then idServer else hosting.mServerId) ∧
      ((∀ zoneId idServer, event ≠ .setZoneToServer zoneId idServer) →
        next.mServerId = hosting.mServerId) := by
  have owned : ∀ idServer, (hosting.mServerId = -1 ∨ hosting.mServerId = idServer) →
      idServer = if hosting.mServerId = -1 then idServer else hosting.mServerId := by
    intro idServer own
    split
    · rfl
    · next named => exact (own.resolve_left named).symm
  cases outcome with
  | foreign named other =>
      refine ⟨?_, fun _ => rfl⟩
      rintro zoneId idServer ⟨⟩
      rw [if_neg named]
  | already own hosted =>
      refine ⟨?_, fun different => absurd rfl (different _ _)⟩
      rintro zoneId idServer ⟨⟩
      exact owned _ own
  | started own absent stored =>
      refine ⟨?_, fun different => absurd rfl (different _ _)⟩
      rintro zoneId idServer ⟨⟩
      exact owned _ own
  | unmarked absent => exact ⟨fun _ _ same => (by cases same), fun _ => rfl⟩
  | marked pointer loaded stored => exact ⟨fun _ _ same => (by cases same), fun _ => rfl⟩
  | unhosted absent => exact ⟨fun _ _ same => (by cases same), fun _ => rfl⟩
  | refused pointer loaded mark => exact ⟨fun _ _ same => (by cases same), fun _ => rfl⟩
  | stopped pointer loaded allowed freed =>
      exact ⟨fun _ _ same => (by cases same), fun _ => rfl⟩

theorem Outcome.next_le (outcome : Outcome hosting event next) :
    hosting.handlers.next ≤ next.handlers.next := by
  cases outcome with
  | started own absent stored =>
      rcases Heap.store_eq_some_iff.mp stored with ⟨_, address, _⟩
      rw [address]
      exact Nat.le_succ _
  | marked pointer loaded stored => exact (Heap.store_eq_some_iff.mp stored).2.1.ge
  | stopped pointer loaded allowed freed => exact (Heap.free_eq_some_iff.mp freed).2.1.ge
  | _ => exact Nat.le_refl _

/-- What becomes of one zone in one step. -/
theorem Outcome.mem_iff (recalls : Recalls history hosting)
    (outcome : Outcome hosting event next) (zoneId : Int) :
    zoneId ∈ next.mZones ↔ event = .setZoneToServer zoneId next.mServerId ∨
      zoneId ∈ hosting.mZones ∧
        ∀ force, event = .stopZone zoneId force → ¬ Effective D history zoneId force := by
  cases outcome with
  | foreign named other =>
      simp only [HostingEvent.setZoneToServer.injEq, Ne.symm other, and_false, false_or,
        reduceCtorEq, false_implies, implies_true, and_true]
  | @already mIdZone mIdServer own hosted =>
      simp only [HostingEvent.setZoneToServer.injEq, and_true, reduceCtorEq, false_implies,
        implies_true]
      exact ⟨Or.inr, fun either => either.elim (fun same => same ▸ hosted) id⟩
  | @started mIdZone mIdServer handlers own absent stored =>
      simp only [HostingEvent.setZoneToServer.injEq, and_true, reduceCtorEq, false_implies,
        implies_true, Std.ExtTreeMap.mem_insert, Std.compare_eq_iff_eq]
  | unmarked absent =>
      simp only [reduceCtorEq, false_or, false_implies, implies_true, and_true]
  | marked pointer loaded stored =>
      simp only [reduceCtorEq, false_or, false_implies, implies_true, and_true]
  | @unhosted stopped force absent =>
      simp only [reduceCtorEq, false_or, HostingEvent.stopZone.injEq]
      refine ⟨fun member => ⟨member, fun _ same => ?_⟩, And.left⟩
      exact absurd (same.1 ▸ member) absent
  | @refused stopped zh handler pointer loaded mark =>
      simp only [reduceCtorEq, false_or, HostingEvent.stopZone.injEq]
      refine ⟨fun member => ⟨member, ?_⟩, And.left⟩
      rintro _ ⟨rfl, rfl⟩
      rw [recalls.effective_iff pointer loaded, mark]
      decide
  | @stopped stopped force zh handler handlers pointer loaded allowed freed =>
      simp only [reduceCtorEq, false_or, HostingEvent.stopZone.injEq]
      rw [FiniteMap.mem_erase_iff]
      constructor
      · rintro ⟨different, member⟩
        exact ⟨member, fun _ same => absurd same.1 different⟩
      · rintro ⟨member, kept⟩
        refine ⟨?_, member⟩
        rintro rfl
        exact kept force ⟨rfl, rfl⟩ ((recalls.effective_iff pointer loaded force).mpr allowed)

theorem Recalls.hosted_step (recalls : Recalls history hosting)
    (outcome : Outcome hosting event next) (zoneId : Int) :
    zoneId ∈ next.mZones ↔ Assigned D (history ++ [event]) zoneId next.mServerId := by
  rw [outcome.mem_iff recalls, Assigned, since_concat_iff]
  refine or_congr_right (and_congr_left fun _ => ?_)
  rw [recalls.hosted]
  by_cases unassigned : Unassigned history
  · exact iff_of_false (unassigned.not_assigned _ _) (unassigned.not_assigned _ _)
  · have same : next.mServerId = hosting.mServerId := by
      have named : hosting.mServerId ≠ -1 := fun unset => unassigned (recalls.unnamed.mp unset)
      rcases outcome.mServerId with ⟨set, other⟩
      by_cases assigns : ∃ zoneId idServer, event = .setZoneToServer zoneId idServer
      · rcases assigns with ⟨zoneId, idServer, assigns⟩
        rw [set zoneId idServer assigns, if_neg named]
      · exact other fun zoneId idServer assigned => assigns ⟨zoneId, idServer, assigned⟩
    rw [same]
    rfl

theorem Recalls.unnamed_step (recalls : Recalls history hosting)
    (outcome : Outcome hosting event next)
    (assigned : ∀ zoneId idServer, event = .setZoneToServer zoneId idServer → 0 ≤ idServer) :
    next.mServerId = -1 ↔ Unassigned (history ++ [event]) := by
  rcases outcome.mServerId with ⟨set, other⟩
  rw [unassigned_concat_iff]
  by_cases assigns : ∃ zoneId idServer, event = .setZoneToServer zoneId idServer
  · rcases assigns with ⟨zoneId, idServer, assigns⟩
    refine iff_of_false ?_ fun unassigned => unassigned.2 zoneId idServer assigns
    have valid := assigned zoneId idServer assigns
    rw [set zoneId idServer assigns]
    split
    · omega
    · next named => exact named
  · have different := fun zoneId idServer assigned => assigns ⟨zoneId, idServer, assigned⟩
    rw [other different, recalls.unnamed, and_iff_left different]

theorem Recalls.named_step (recalls : Recalls history hosting)
    (outcome : Outcome hosting event next) {before after : List HostingEvent}
    {zoneId idServer : Int}
    (split : history ++ [event] = before ++ .setZoneToServer zoneId idServer :: after)
    (first : Unassigned before) : next.mServerId = idServer := by
  rcases outcome.mServerId with ⟨set, other⟩
  rcases List.eq_nil_or_concat after with rfl | ⟨after, last, rfl⟩
  · have parts := List.append_inj' split rfl
    cases parts.2
    rw [set zoneId idServer rfl, if_pos (recalls.unnamed.mpr (parts.1 ▸ first))]
  · have regrouped : history ++ [event] =
        (before ++ .setZoneToServer zoneId idServer :: after) ++ [last] := by
      rw [split, List.concat_eq_append, List.append_assoc, List.cons_append]
    have earlier := (List.append_inj' regrouped rfl).1
    have named := recalls.named before zoneId idServer after earlier first
    have set' : hosting.mServerId ≠ -1 := by
      intro unset
      apply recalls.unnamed.mp unset zoneId idServer
      exact earlier ▸ List.mem_append_right before List.mem_cons_self
    by_cases assigns : ∃ zoneId idServer, event = .setZoneToServer zoneId idServer
    · rcases assigns with ⟨zoneId', idServer', assigns⟩
      rw [set zoneId' idServer' assigns, if_neg set', named]
    · rw [other fun zoneId idServer assigned => assigns ⟨zoneId, idServer, assigned⟩, named]

theorem Recalls.earlier_step (recalls : Recalls history hosting)
    (outcome : Outcome hosting event next)
    (reached : run step Hosting.fresh (history ++ [event]) = some next)
    {before after : List HostingEvent} {zoneId : Int} {zh : Address}
    (split : history ++ [event] = before ++ after)
    (pointer : handlerAfter D before zoneId = some zh) : zh < next.handlers.next := by
  rcases List.eq_nil_or_concat after with rfl | ⟨after, last, rfl⟩
  · rw [List.append_nil] at split
    rw [← split, handlerAfter, reached, Option.bind_some] at pointer
    rcases (recalls.sound.step outcome).owns zoneId zh pointer with ⟨handler, loaded, _⟩
    exact Heap.lt_next_of_load loaded
  · rw [List.concat_eq_append, ← List.append_assoc] at split
    have older := recalls.earlier before after zoneId zh (List.append_inj' split rfl).1 pointer
    exact Nat.lt_of_lt_of_le older outcome.next_le

/-- An event that neither marks a zone nor changes its handler leaves its last
mark. -/
theorem lastMark_concat_of_unmarked {zoneId : Int}
    (same : handlerAfter D (history ++ [event]) zoneId = handlerAfter D history zoneId)
    (unmarked : ∀ other, event ≠ .markForDetach zoneId other) (mark : Int) :
    LastMark D (history ++ [event]) zoneId mark ↔ LastMark D history zoneId mark := by
  apply exists_congr
  intro zh
  rw [same, since_concat_iff]
  apply and_congr_right
  intro _
  constructor
  · rintro (⟨marks, _⟩ | ⟨since, _⟩)
    · exact absurd marks (unmarked mark)
    · exact since
  · exact fun since => Or.inr ⟨since, unmarked⟩

theorem Recalls.not_lastMark_of_new (recalls : Recalls history hosting) {zoneId : Int}
    (pointer : handlerAfter D (history ++ [event]) zoneId = some hosting.handlers.next)
    (mark : Int) : ¬ LastMark D (history ++ [event]) zoneId mark := by
  rintro ⟨zh, current, since⟩
  cases Option.mem_unique current pointer
  rcases since_concat_iff.mp since with ⟨_, older⟩ | ⟨earlier, _⟩
  · exact Nat.lt_irrefl _ (recalls.earlier history [] zoneId _ (List.append_nil _).symm older)
  · rcases earlier with ⟨before, _, after, split, ⟨_, older⟩, _⟩
    exact Nat.lt_irrefl _ (recalls.earlier before _ zoneId _ split older)

/-- A zone that keeps its handler, and is not marked, keeps its mark. -/
theorem Recalls.marked_of_kept (recalls : Recalls history hosting) {zoneId : Int} {zh : Address}
    {handler : ZoneHandler D} (current : handlerAfter D (history ++ [event]) zoneId = some zh)
    (pointer : hosting.mZones[zoneId]? = some zh)
    (loaded : hosting.handlers.load zh = some handler)
    (unmarked : ∀ other, event ≠ .markForDetach zoneId other) :
    (∀ mark, LastMark D (history ++ [event]) zoneId mark → mark = handler.mDetachableZone) ∧
      (handler.mDetachableZone ≠ -1 →
        LastMark D (history ++ [event]) zoneId handler.mDetachableZone) := by
  have same : handlerAfter D (history ++ [event]) zoneId = handlerAfter D history zoneId := by
    rw [current, recalls.handlerAfter_eq, pointer]
  simp only [lastMark_concat_of_unmarked same unmarked]
  exact recalls.marked zoneId zh handler pointer loaded

theorem Recalls.marked_step (recalls : Recalls history hosting)
    (outcome : Outcome hosting event next)
    (reached : run step Hosting.fresh (history ++ [event]) = some next) {zoneId : Int}
    {zh : Address} {handler : ZoneHandler D} (pointer : next.mZones[zoneId]? = some zh)
    (loaded : next.handlers.load zh = some handler) :
    (∀ mark, LastMark D (history ++ [event]) zoneId mark → mark = handler.mDetachableZone) ∧
      (handler.mDetachableZone ≠ -1 →
        LastMark D (history ++ [event]) zoneId handler.mDetachableZone) := by
  have current : handlerAfter D (history ++ [event]) zoneId = some zh := by
    rw [handlerAfter, reached, Option.bind_some, pointer]
  cases outcome with
  | foreign named other =>
      exact recalls.marked_of_kept current pointer loaded fun _ same => by cases same
  | already own hosted =>
      exact recalls.marked_of_kept current pointer loaded fun _ same => by cases same
  | unhosted absent =>
      exact recalls.marked_of_kept current pointer loaded fun _ same => by cases same
  | refused _ _ _ =>
      exact recalls.marked_of_kept current pointer loaded fun _ same => by cases same
  | @unmarked marked idServer absent =>
      apply recalls.marked_of_kept current pointer loaded
      rintro other ⟨⟩
      exact absent (FiniteMap.mem_of_getElem? pointer)
  | @started mIdZone mIdServer handlers own absent stored =>
      rcases Heap.store_eq_some_iff.mp stored with ⟨_, _, loads⟩
      simp only [Std.ExtTreeMap.getElem?_insert, Std.compare_eq_iff_eq] at pointer
      by_cases new : mIdZone = zoneId
      · rw [if_pos new] at pointer
        cases pointer
        rw [loads, if_pos rfl] at loaded
        cases loaded
        have unmarked := recalls.not_lastMark_of_new current
        exact ⟨fun mark last => absurd last (unmarked mark), fun marked => absurd rfl marked⟩
      · rw [if_neg new] at pointer
        have different := recalls.sound.owns.ne_next pointer
        rw [loads, if_neg different, Heap.load_alloc, if_neg different] at loaded
        exact recalls.marked_of_kept current pointer loaded fun _ same => by cases same
  | @marked marked idServer zh' handler' handlers pointer' loaded' stored =>
      rcases Heap.store_eq_some_iff.mp stored with ⟨_, _, loads⟩
      by_cases here : marked = zoneId
      · subst here
        cases Option.mem_unique pointer pointer'
        rw [loads, if_pos rfl] at loaded
        cases loaded
        -- The mark of this very event is the last one, and the only candidate.
        constructor
        · rintro mark ⟨_, _, since⟩
          rcases since_concat_iff.mp since with ⟨same, _⟩ | ⟨_, unmarked⟩
          · cases same
            rfl
          · exact absurd rfl (unmarked idServer)
        · intro _
          refine ⟨zh, current, since_concat_iff.mpr (Or.inl ⟨rfl, ?_⟩)⟩
          rw [recalls.handlerAfter_eq, pointer]
      · have different : zh' ≠ zh := by
          rintro rfl
          exact here (recalls.sound.owns.injective pointer' pointer)
        rw [loads, if_neg different] at loaded
        apply recalls.marked_of_kept current pointer loaded
        rintro other ⟨⟩
        exact here rfl
  | @stopped stopped force zh' handler' handlers pointer' loaded' allowed freed =>
      rcases Heap.free_eq_some_iff.mp freed with ⟨_, _, loads⟩
      rw [FiniteMap.getElem?_erase_eq] at pointer
      split at pointer
      · cases pointer
      · rw [loads] at loaded
        split at loaded
        · cases loaded
        · exact recalls.marked_of_kept current pointer loaded fun _ same => by cases same

/-- A step of the server keeps what the state says about the history. -/
theorem Recalls.step (recalls : Recalls history hosting)
    (stepped : hosting.step event = some next) (outcome : Outcome hosting event next)
    (assigned : ∀ zoneId idServer, event = .setZoneToServer zoneId idServer → 0 ≤ idServer) :
    Recalls (history ++ [event]) next := by
  have reached : run Hosting.step Hosting.fresh (history ++ [event]) = some next :=
    (run_concat_eq_some_iff _ next history event).mpr ⟨hosting, recalls.reached, stepped⟩
  exact
    { reached
      sound := recalls.sound.step outcome
      unnamed := recalls.unnamed_step outcome assigned
      named := fun _ _ _ _ split first => recalls.named_step outcome split first
      hosted := recalls.hosted_step outcome
      earlier := fun _ _ _ _ split pointer => recalls.earlier_step outcome reached split pointer
      marked := fun _ _ _ pointer loaded => recalls.marked_step outcome reached pointer loaded }

end Step

/-- Every message for a server id from zero on. -/
def Numbered (history : List HostingEvent) : Prop :=
  ∀ zoneId idServer, .setZoneToServer zoneId idServer ∈ history → 0 ≤ idServer

/-- Every history leads to a state, and the state tells what happened. -/
theorem exists_recalls {history : List HostingEvent} (numbered : Numbered history) :
    ∃ hosting : Hosting D, run step fresh history = some hosting ∧ Recalls history hosting := by
  refine exists_run Numbered Recalls ?_ Recalls.fresh ?_ numbered
  · intro first second numbered zoneId idServer member
    exact numbered zoneId idServer (List.mem_append_left second member)
  · intro before hosting event numbered _ recalls
    rcases recalls.sound.exists_step event with ⟨next, stepped, outcome⟩
    refine ⟨next, stepped, recalls.step stepped outcome ?_⟩
    rintro zoneId idServer rfl
    exact numbered zoneId idServer (List.mem_append_right before (List.mem_singleton_self _))

/-- The address is that of a living handler of the zone. -/
def HandlerOf (hosting : Hosting D) (zoneId : Int) (zh : Address) : Prop :=
  ∃ handler, hosting.handlers.load zh = some handler ∧ handler.zone.mZoneId = zoneId

/-- What a game server has come to after a history: whose zones it hosts,
which ones, and with which handlers. -/
structure HostsAsTold (history : List HostingEvent) (hosting : Hosting D) : Prop where
  named : ∀ before zoneId idServer after,
    history = before ++ .setZoneToServer zoneId idServer :: after → Unassigned before →
      hosting.mServerId = idServer
  hosted : ∀ zoneId, zoneId ∈ hosting.mZones ↔ Assigned D history zoneId hosting.mServerId
  foreign : ¬ Unassigned history → ∀ zoneId idServer, idServer ≠ hosting.mServerId →
    hosting.step (.setZoneToServer zoneId idServer) = some hosting
  handled : ∀ zoneId ∈ hosting.mZones, ∃ zh, hosting.mZones[zoneId]? = some zh ∧
    hosting.HandlerOf zoneId zh ∧ (∀ other, hosting.HandlerOf zoneId other → other = zh) ∧
    hosting.threads.count zh = 1

omit [Zero D] in
theorem Sound.handled {hosting : Hosting D} (sound : hosting.Sound) {zoneId : Int}
    (member : zoneId ∈ hosting.mZones) :
    ∃ zh, hosting.mZones[zoneId]? = some zh ∧ hosting.HandlerOf zoneId zh ∧
      (∀ other, hosting.HandlerOf zoneId other → other = zh) ∧ hosting.threads.count zh = 1 := by
  rcases FiniteMap.exists_of_mem member with ⟨zh, pointer⟩
  rcases sound.owns zoneId zh pointer with ⟨handler, loaded, carries⟩
  refine ⟨zh, pointer, ⟨handler, loaded, carries⟩, ?_, ?_⟩
  · rintro other ⟨handler', loaded', carries'⟩
    exact Option.mem_unique (carries' ▸ sound.owned other handler' loaded') pointer
  · rw [sound.threads]
    exact List.count_eq_one_of_mem List.nodup_range
      (List.mem_range.mpr (Heap.lt_next_of_load loaded))

/-- After every history of messages, marks and stops, the server has the id of
the first message, hosts the zones put on it with no effective stop since,
ignores messages for other servers, and has one handler for each of its
zones, started once. -/
theorem hosts_as_told (history : List HostingEvent) (numbered : Numbered history) :
    ∃ hosting : Hosting D, run step fresh history = some hosting ∧
      HostsAsTold history hosting := by
  have told : ∃ hosting : Hosting D, run step fresh history = some hosting ∧
      Recalls history hosting := exists_recalls numbered
  rcases told with ⟨hosting, reached, recalls⟩
  refine ⟨hosting, reached, recalls.named, recalls.hosted, ?_, ?_⟩
  · intro assigned zoneId idServer other
    have named : hosting.mServerId ≠ -1 := fun unset => assigned (recalls.unnamed.mp unset)
    simp only [step, execSetZoneToServer, if_neg named, if_neg (Ne.symm other)]
  · exact fun zoneId member => recalls.sound.handled member

/-- A zone is put on the server, marked and stopped, and put there again. -/
def restarted : List HostingEvent :=
  [.setZoneToServer 5 1, .markForDetach 5 2, .stopZone 5 false, .setZoneToServer 6 2,
    .setZoneToServer 5 1, .stopZone 5 false]

theorem hosts_as_told_restarted :
    ∃ hosting : Hosting ℚ, run step fresh restarted = some hosting ∧
      HostsAsTold restarted hosting := by
  apply hosts_as_told restarted
  intro zoneId idServer member
  simp only [restarted, List.mem_cons, HostingEvent.setZoneToServer.injEq, reduceCtorEq,
    List.not_mem_nil, or_false, false_or] at member
  rcases member with ⟨_, own⟩ | ⟨_, foreign⟩ | ⟨_, again⟩
  · exact own ▸ by decide
  · exact foreign ▸ by decide
  · exact again ▸ by decide

end Hosting

end GameServer
end Pxc
