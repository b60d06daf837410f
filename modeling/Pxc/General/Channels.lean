import Mathlib.Logic.Function.Basic
import Pxc.General.Runs

namespace Pxc
namespace General

/-!
# One sender and the channels to its receivers

A sender has a list of messages to send, each to one receiver.  Every receiver
has a channel of its own, which keeps the order of what is sent on it, and a
state that it changes as it handles the messages.  The channels are
independent of each other: a run is any sequence of moves, in which the sender
sends its next message or some receiver handles the first message on its
channel.

Whatever the order of the moves, once everything has been handled a receiver
is where it would be if it had handled the messages sent to it one after the
other.
-/

universe u v w

variable {Receiver : Type u} {Message : Type v} {State : Type w} [DecidableEq Receiver]

/-- What is still to be sent, what is on the channels, and the states of the
receivers. -/
structure Network (Receiver : Type u) (Message : Type v) (State : Type w) where
  unsent : List (Receiver × Message)
  channel : Receiver → List Message
  states : Receiver → State

/-- A move of a run. -/
inductive Move (Receiver : Type u) where
  | send
  | deliver (receiver : Receiver)

namespace Network

/-- The network before its first move. -/
def opening (unsent : List (Receiver × Message)) (states : Receiver → State) :
    Network Receiver Message State :=
  ⟨unsent, fun _ => [], states⟩

/-- One move, undefined when there is nothing to send or to deliver. -/
def step (handle : State → Message → State) (network : Network Receiver Message State) :
    Move Receiver → Option (Network Receiver Message State)
  | .send =>
      match network.unsent with
      | [] => none
      | (receiver, message) :: rest =>
          some { network with
            unsent := rest
            channel := Function.update network.channel receiver
              (network.channel receiver ++ [message]) }
  | .deliver receiver =>
      match network.channel receiver with
      | [] => none
      | message :: rest =>
          some { network with
            channel := Function.update network.channel receiver rest
            states := Function.update network.states receiver
              (handle (network.states receiver) message) }

/-- Everything has been sent and handled. -/
def Finished (network : Network Receiver Message State) : Prop :=
  network.unsent = [] ∧ ∀ receiver, network.channel receiver = []

/-- The messages of a list that go to one receiver. -/
def messagesTo (receiver : Receiver) (messages : List (Receiver × Message)) : List Message :=
  (messages.filter fun message => message.1 = receiver).map Prod.snd

theorem messagesTo_cons (receiver target : Receiver) (message : Message)
    (rest : List (Receiver × Message)) :
    messagesTo receiver ((target, message) :: rest) =
      if target = receiver then message :: messagesTo receiver rest
      else messagesTo receiver rest := by
  unfold messagesTo
  rw [List.filter_cons]
  by_cases same : target = receiver
  · simp only [same, decide_true, if_true, List.map_cons]
  · simp only [same, decide_false, Bool.false_eq_true, if_false]

theorem mem_messagesTo {receiver : Receiver} {messages : List (Receiver × Message)}
    {message : Message} :
    message ∈ messagesTo receiver messages ↔ (receiver, message) ∈ messages := by
  unfold messagesTo
  constructor
  · intro chosen
    rcases List.mem_map.mp chosen with ⟨⟨target, inner⟩, listed, rfl⟩
    rcases List.mem_filter.mp listed with ⟨member, same⟩
    rw [← of_decide_eq_true same]
    exact member
  · intro member
    exact List.mem_map.mpr ⟨_, List.mem_filter.mpr ⟨member, decide_eq_true rfl⟩, rfl⟩

variable (handle : State → Message → State)

/-- Where a receiver will be when everything meant for it has been handled. -/
def destiny (network : Network Receiver Message State) (receiver : Receiver) : State :=
  (network.channel receiver ++ messagesTo receiver network.unsent).foldl handle
    (network.states receiver)

/-- No move changes where a receiver will be. -/
theorem destiny_step {network next : Network Receiver Message State} {move : Move Receiver}
    (stepped : network.step handle move = some next) (receiver : Receiver) :
    next.destiny handle receiver = network.destiny handle receiver := by
  cases move with
  | send =>
      unfold step at stepped
      cases unsent : network.unsent with
      | nil =>
          rw [unsent] at stepped
          cases stepped
      | cons first rest =>
          rw [unsent] at stepped
          cases stepped
          simp only [destiny, unsent]
          rw [messagesTo_cons]
          by_cases same : first.1 = receiver
          · subst same
            rw [Function.update_self, if_pos rfl, List.append_assoc]
            rfl
          · rw [Function.update_of_ne (Ne.symm same), if_neg same]
  | deliver target =>
      unfold step at stepped
      cases waiting : network.channel target with
      | nil =>
          simp only [waiting, reduceCtorEq] at stepped
      | cons message rest =>
          simp only [waiting, Option.some.injEq] at stepped
          rw [← stepped]
          simp only [destiny]
          by_cases same : receiver = target
          · subst same
            rw [Function.update_self, Function.update_self, waiting, List.cons_append,
              List.foldl_cons]
          · rw [Function.update_of_ne same, Function.update_of_ne same]

theorem destiny_run {network final : Network Receiver Message State}
    {moves : List (Move Receiver)} (ran : run (step handle) network moves = some final)
    (receiver : Receiver) : final.destiny handle receiver = network.destiny handle receiver := by
  refine run_invariant_of_step (fun _ => True)
    (fun _ state => state.destiny handle receiver = network.destiny handle receiver)
    (fun _ _ _ => trivial) rfl ?_ trivial ran
  intro before state move next _ held stepped
  exact (destiny_step handle stepped receiver).trans held

/-- A receiver that has handled everything has handled the messages sent to
it, in the order they were sent in. -/
theorem states_of_finished {unsent : List (Receiver × Message)} {states : Receiver → State}
    {final : Network Receiver Message State} {moves : List (Move Receiver)}
    (ran : run (step handle) (opening unsent states) moves = some final)
    (finished : final.Finished) (receiver : Receiver) :
    final.states receiver = (messagesTo receiver unsent).foldl handle (states receiver) := by
  have reached := destiny_run handle ran receiver
  rw [destiny, finished.1, finished.2 receiver] at reached
  exact reached

/-- Some run handles everything. -/
theorem exists_finished (unsent : List (Receiver × Message)) (states : Receiver → State) :
    ∃ moves final, run (step handle) (opening unsent states) moves = some final ∧
      final.Finished := by
  induction unsent generalizing states with
  | nil => exact ⟨[], opening [] states, rfl, rfl, fun _ => rfl⟩
  | cons first rest inductionHypothesis =>
      rcases inductionHypothesis
          (Function.update states first.1 (handle (states first.1) first.2)) with
        ⟨moves, final, ran, finished⟩
      refine ⟨.send :: .deliver first.1 :: moves, final, ?_, finished⟩
      have sends : step handle (opening (first :: rest) states) .send =
          some ⟨rest, Function.update (fun _ => []) first.1 [first.2], states⟩ := rfl
      have delivers : step handle
          ⟨rest, Function.update (fun _ => []) first.1 [first.2], states⟩ (.deliver first.1) =
          some (opening rest (Function.update states first.1
            (handle (states first.1) first.2))) := by
        simp only [step, Function.update_self]
        rw [Function.update_idem, Function.update_eq_self_iff.mpr rfl]
        rfl
      rw [run_cons, sends]
      change run (step handle) _ (.deliver first.1 :: moves) = _
      rw [run_cons, delivers]
      exact ran

end Network

end General
end Pxc
