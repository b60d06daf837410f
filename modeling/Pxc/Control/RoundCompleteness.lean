import Pxc.Control.LoadCollection

namespace Pxc
namespace LoadCollection

open General Control

/-!
# Whether a round is complete

A round that ends by the mask is meant to have a last answer of every server
that was asked in it.  The mask's bits are set before the main loop and only
ever cleared, so from the second round on the wait may end before any answer.

The theorem at the end says when the mask does what it is for: the number of
servers must be one that the mask has bits for, a server's bit must be set
when the server is asked, and nothing of an earlier request may be on its way
then.
-/

variable {D : Type}

/-- The mask waits for the server. -/
def Awaited (mask : BitVec 32) (id : Int) : Prop :=
  0 ≤ id ∧ id < 32 ∧ mask.getLsbD id.toNat = true

instance (mask : BitVec 32) (id : Int) : Decidable (Awaited mask id) :=
  inferInstanceAs (Decidable (_ ∧ _ ∧ _))

/-- If the wait ends by the mask here, every server that was asked in the
round has given the last answer to that request. -/
def CompleteAtEnd (world : LoadCollection D) (event : Happening D) : Prop :=
  event = .endByMask → world.phase = .asking [] → world.recievedConnectionMask = 0 →
    ∀ id ∈ world.asked, world.answered id = some world.round

/-- A server that is asked here has its bit in the mask and nothing of an
earlier request on its way. -/
def AsksAwaited (world : LoadCollection D) (event : Happening D) : Prop :=
  ∀ id, world.Requests event id → Awaited world.recievedConnectionMask id ∧ world.Quiet id

section Mask

theorem not_awaited_zero (id : Int) : ¬ Awaited 0 id := by
  rintro ⟨_, _, bit⟩
  simp only [BitVec.ofNat_eq_ofNat, BitVec.getLsbD_zero, Bool.false_eq_true] at bit

/-- Clearing a bit leaves the others. -/
theorem Awaited.clearBit {mask cleared : BitVec 32} {id other : Int}
    (awaited : Awaited mask id) (different : id ≠ other)
    (done : clearBit mask other = some cleared) : Awaited cleared id := by
  unfold Control.clearBit at done
  split at done
  · next inside =>
    cases done
    refine ⟨awaited.1, awaited.2.1, ?_⟩
    have position : id.toNat < 32 := by have := awaited.2.1; omega
    have apart : id.toNat ≠ other.toNat := by have := awaited.1; omega
    have shifted : (1#32 <<< other.toNat).getLsbD id.toNat = false := by
      simp only [BitVec.getLsbD_shiftLeft, BitVec.getLsbD_one, position, decide_true, Bool.true_and]
      simp
      omega
    simp only [BitVec.getLsbD_and, BitVec.getLsbD_not, awaited.2.2, shifted, position, decide_true,
      Bool.not_false, Bool.and_self]
  · cases done

/-- A reply leaves the bits of all servers, but for its sender's if no zones
remain. -/
theorem exec_awaited [Add D] {message : ServerLoad D} {servers left : List (Server D)}
    {mask cleared : BitVec 32} {id : Int}
    (done : ServerLoadRcvd.exec message servers mask = some (left, cleared))
    (awaited : Awaited mask id)
    (spared : id ≠ message.idServer ∨ message.remainingZones ≠ 0) : Awaited cleared id := by
  induction servers generalizing left with
  | nil =>
      cases done
      exact awaited
  | cons server rest inductionHypothesis =>
      rw [ServerLoadRcvd.exec] at done
      split at done
      · split at done
        · next final =>
          rcases Option.map_eq_some_iff.mp done with ⟨mask', clears, same⟩
          cases same
          exact awaited.clearBit (spared.resolve_right fun remain => remain final) clears
        · rcases Option.map_eq_some_iff.mp done with ⟨⟨_, _⟩, later, same⟩
          cases same
          exact inductionHypothesis later
      · rcases Option.map_eq_some_iff.mp done with ⟨⟨_, _⟩, later, same⟩
        cases same
        exact inductionHypothesis later

end Mask

/-- The invariant of the rounds: the messages of a server asked in this round
belong to this round, and its bit stays set until its last answer. -/
structure Collecting (world : LoadCollection D) : Prop where
  senders : ∀ id, ∀ reply ∈ world.replies id, reply.idServer = id
  requests_current : ∀ id ∈ world.asked, ∀ round ∈ world.requests id, round = world.round
  replies_current : ∀ id ∈ world.asked, ∀ reply ∈ world.replies id, reply.round = world.round
  awaited : ∀ id ∈ world.asked,
    Awaited world.recievedConnectionMask id ∨ world.answered id = some world.round

namespace Collecting

variable {world next : LoadCollection D}

theorem initial (control : Control D) (mask : BitVec 32) :
    Collecting (LoadCollection.initial control mask) where
  senders := fun _ _ member => absurd member List.not_mem_nil
  requests_current := fun _ member => absurd member List.not_mem_nil
  replies_current := fun _ member => absurd member List.not_mem_nil
  awaited := fun _ member => absurd member List.not_mem_nil

theorem of_same (collecting : Collecting world)
    (requests : next.requests = world.requests) (replies : next.replies = world.replies)
    (mask : next.recievedConnectionMask = world.recievedConnectionMask)
    (round : next.round = world.round) (asked : next.asked = world.asked)
    (answered : next.answered = world.answered) : Collecting next where
  senders := by rw [replies]; exact collecting.senders
  requests_current := by rw [requests, asked, round]; exact collecting.requests_current
  replies_current := by rw [replies, asked, round]; exact collecting.replies_current
  awaited := by rw [mask, asked, answered, round]; exact collecting.awaited

theorem finish [Zero D] [Add D] [Arithmetic D] [LT D] [DecidableLT D]
    (collecting : Collecting world) (done : world.finish = some next) :
    Collecting next := by
  rcases Option.map_eq_some_iff.mp done with ⟨control, _, rfl⟩
  exact collecting.of_same rfl rfl rfl rfl rfl rfl

theorem ask [Zero D] (collecting : Collecting world) {id : Int}
    (asks : world.Online id → Awaited world.recievedConnectionMask id ∧ world.Quiet id) :
    Collecting (world.ask id) := by
  unfold LoadCollection.ask
  split
  · next online =>
    rcases asks online with ⟨awaited, quiet⟩
    refine ⟨collecting.senders, ?_, ?_, ?_⟩
    · intro other member round sent
      by_cases same : other = id
      · subst same
        simp only [Function.update_self, quiet.1, List.nil_append, List.mem_singleton] at sent
        exact sent
      · simp only [Function.update_of_ne same] at sent
        exact collecting.requests_current other ((List.mem_cons.mp member).resolve_left same)
          round sent
    · intro other member reply sent
      rcases List.mem_cons.mp member with rfl | before
      · rw [quiet.2] at sent
        cases sent
      · exact collecting.replies_current other before reply sent
    · intro other member
      rcases List.mem_cons.mp member with rfl | before
      · exact Or.inl awaited
      · exact collecting.awaited other before
  · exact collecting

theorem serve (collecting : Collecting world) {id : Int} {getLoad : Int → D}
    (done : world.serve id getLoad = some next) : Collecting next := by
  unfold LoadCollection.serve at done
  split at done
  · cases done
  · next round later pending =>
    cases done
    have answers : ∀ other, ∀ reply ∈ Function.update world.replies id
        (world.replies id ++ sendZoneLoads id round getLoad (world.zones id)) other,
        reply ∈ world.replies other ∨ other = id ∧ reply.idServer = id ∧ reply.round = round := by
      intro other reply member
      by_cases same : other = id
      · subst same
        rw [Function.update_self, List.mem_append] at member
        exact member.imp id fun new => ⟨rfl, mem_sendZoneLoads new⟩
      · rw [Function.update_of_ne same] at member
        exact Or.inl member
    refine ⟨?_, ?_, ?_, collecting.awaited⟩
    · intro other reply member
      rcases answers other reply member with before | ⟨rfl, sender, _⟩
      · exact collecting.senders other reply before
      · exact sender
    · intro other asked sent member
      by_cases same : other = id
      · subst same
        simp only [Function.update_self] at member
        exact collecting.requests_current other asked sent
          (pending ▸ List.mem_cons_of_mem round member)
      · simp only [Function.update_of_ne same] at member
        exact collecting.requests_current other asked sent member
    · intro other asked reply member
      rcases answers other reply member with before | ⟨rfl, _, current⟩
      · exact collecting.replies_current other asked reply before
      · rw [current]
        exact collecting.requests_current other asked round (pending ▸ List.mem_cons_self)

theorem deliver [Add D] (collecting : Collecting world) {id : Int}
    (done : world.deliver id = some next) : Collecting next := by
  unfold LoadCollection.deliver at done
  split at done
  · cases done
  · next reply later pending =>
    rcases Option.map_eq_some_iff.mp done with ⟨⟨servers, cleared⟩, handled, rfl⟩
    have head : reply ∈ world.replies id := pending ▸ List.mem_cons_self
    have sender := collecting.senders id reply head
    have kept : ∀ other, ∀ message ∈ Function.update world.replies id later other,
        message ∈ world.replies other := by
      intro other message member
      by_cases same : other = id
      · subst same
        rw [Function.update_self] at member
        exact pending ▸ List.mem_cons_of_mem reply member
      · rw [Function.update_of_ne same] at member
        exact member
    refine ⟨fun other message member =>
        collecting.senders other message (kept other message member),
      collecting.requests_current,
      fun other asked message member =>
        collecting.replies_current other asked message (kept other message member), ?_⟩
    intro other asked
    by_cases final : other = id ∧ reply.remainingZones = 0
    · rcases final with ⟨rfl, final⟩
      apply Or.inr
      simp only [final, if_true, Function.update_self]
      rw [collecting.replies_current other asked reply head]
    · have spared : other ≠ reply.idServer ∨ reply.remainingZones ≠ 0 := by
        rw [sender]
        exact not_and_or.mp final
      have answeredSame : (if reply.remainingZones = 0 then
          Function.update world.answered id (some reply.round) else world.answered) other =
          world.answered other := by
        split
        · next zero => rw [Function.update_of_ne fun same => final ⟨same, zero⟩]
        · rfl
      rcases collecting.awaited other asked with awaited | answered
      · exact Or.inl (exec_awaited handled awaited spared)
      · exact Or.inr (answeredSame.trans answered)

theorem step [Zero D] [Add D] [Arithmetic D] [LT D] [DecidableLT D]
    (collecting : Collecting world) {event : Happening D}
    (asks : AsksAwaited world event) (stepped : LoadCollection.step world event = some next) :
    Collecting next := by
  cases event with
  | ask =>
      simp only [LoadCollection.step] at stepped
      split at stepped
      · next id left phase =>
        cases stepped
        exact (collecting.ask fun online => asks id ⟨rfl, ⟨left, phase⟩, online⟩).of_same
          rfl rfl rfl rfl rfl rfl
      · cases stepped
  | endByMask =>
      simp only [LoadCollection.step, Option.ite_none_right_eq_some] at stepped
      exact collecting.finish stepped.2
  | endByTimeout =>
      simp only [LoadCollection.step, Option.ite_none_right_eq_some] at stepped
      exact collecting.finish stepped.2
  | newRound =>
      simp only [LoadCollection.step, Option.ite_none_right_eq_some, Option.some.injEq] at stepped
      rcases stepped with ⟨_, rfl⟩
      exact ⟨collecting.senders, fun _ member => absurd member List.not_mem_nil,
        fun _ member => absurd member List.not_mem_nil,
        fun _ member => absurd member List.not_mem_nil⟩
  | serve id getLoad => exact collecting.serve stepped
  | deliver id => exact collecting.deliver stepped
  | offline id =>
      cases stepped
      exact collecting.of_same rfl rfl rfl rfl rfl rfl

theorem completeAtEnd (collecting : Collecting world) (event : Happening D) :
    CompleteAtEnd world event := by
  intro _ _ cleared id asked
  rcases collecting.awaited id asked with awaited | answered
  · rw [cleared] at awaited
    exact absurd awaited (not_awaited_zero id)
  · exact answered

end Collecting

/-- From every start with 1 to 32 servers, for which the mask is defined, along
every run in which each server that is asked has its bit in the mask and
nothing of an earlier request on its way, every round that ends by the mask is
complete. -/
theorem rounds_complete_of_awaited [Zero D] [Add D] [Arithmetic D] [LT D] [DecidableLT D]
    {control : Control D} (positive : 1 ≤ control.numberServers)
    (fits : control.numberServers ≤ 32) {events : List (Happening D)} :
    ∃ mask, startMask control.numberServers = some mask ∧
      (AtEach step (fun _ world event => AsksAwaited world event) (initial control mask) events →
        AtEach step (fun _ world event => CompleteAtEnd world event) (initial control mask)
          events) := by
  rcases exists_startMask positive fits with ⟨mask, started⟩
  refine ⟨mask, started, fun awaited => ?_⟩
  refine atEach_of_invariant (fun _ => True) (fun _ world => Collecting world)
    (fun _ _ _ => trivial) (Collecting.initial control mask) ?_ ?_ trivial awaited
  · intro before world event next _ collecting asks stepped
    exact collecting.step asks stepped
  · intro before world event _ collecting _
    exact collecting.completeAtEnd event

theorem first_round_complete :
    AtEach step (fun _ world event => CompleteAtEnd world event) (initial oneServer 1)
      answeredRound := by
  have positive : 1 ≤ oneServer.numberServers := by decide
  rcases rounds_complete_of_awaited positive (by decide) with ⟨mask, started, complete⟩
  cases started
  apply complete
  intro before event after world split reached id requests
  rcases answeredRound_requests split reached requests with ⟨rfl, rfl⟩
  exact ⟨by decide +kernel, rfl, rfl⟩

/-- In the second round the wait ends at once. -/
theorem second_round_incomplete :
    startMask oneServer.numberServers = some 1 ∧
      ¬ AtEach step (fun _ world event => CompleteAtEnd world event) (initial oneServer 1)
        (answeredRound ++ [.newRound, .ask] ++ [.endByMask]) := by
  refine ⟨by decide, fun held => ?_⟩
  have outcome : (run step (initial oneServer 1) (answeredRound ++ [.newRound, .ask])).map
      (fun world => (world.phase, world.recievedConnectionMask, world.asked, world.answered 0,
        world.round)) = some (.asking [], 0, [0], some 0, 1) := by
    decide +kernel
  rcases Option.map_eq_some_iff.mp outcome with ⟨world, reached, fields⟩
  simp only [Prod.mk.injEq] at fields
  rcases fields with ⟨phase, mask, asked, answered, round⟩
  have complete := held.last reached rfl phase mask 0 (asked ▸ List.mem_singleton_self _)
  rw [answered, round] at complete
  cases complete

end LoadCollection
end Pxc
