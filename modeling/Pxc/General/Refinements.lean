import Pxc.General.Runs

namespace Pxc
namespace General

/-!
# A program and what it is for

A program answers one call at a time, and a call may have no defined result.
A specification of it has states of its own.  It says which calls it permits
in a state, how a permitted call changes that state, and which answers it
admits, of which there may be several.

The program meets the specification when, in every state in which its
invariant holds, a permitted call is defined, leads to the state that the
specification names, and is answered as the specification admits.  The rule
below carries this from one call to whole conversations.
-/

universe u v w x

variable {State : Type u} {Model : Type v} {Event : Type w} {Reply : Type x}

/-- The state after a list of calls, and the answers to them, when every call
is defined. -/
def converse (call : State → Event → Option (State × Reply)) :
    State → List Event → Option (State × List Reply)
  | state, [] => some (state, [])
  | state, event :: rest => (call state event).bind fun answered =>
      (converse call answered.1 rest).map fun final => (final.1, answered.2 :: final.2)

section Conversations

variable {call : State → Event → Option (State × Reply)}

theorem converse_cons {state next final : State} {event : Event} {rest : List Event}
    {reply : Reply} {replies : List Reply} (answered : call state event = some (next, reply))
    (later : converse call next rest = some (final, replies)) :
    converse call state (event :: rest) = some (final, reply :: replies) := by
  rw [converse, answered, Option.bind_some, later, Option.map_some]

/-- Without its answers a conversation is a run. -/
theorem run_eq_converse (state : State) (events : List Event) :
    run (fun state event => (call state event).map Prod.fst) state events =
      (converse call state events).map Prod.fst := by
  induction events generalizing state with
  | nil => rfl
  | cons event rest inductionHypothesis =>
      rw [run_cons, converse]
      cases call state event with
      | none => rfl
      | some answered =>
          rw [Option.map_some, Option.bind_some, Option.bind_some, inductionHypothesis,
            Option.map_map]
          rfl

end Conversations

/-- What a program is for. -/
structure Specification (Model : Type v) (Event : Type w) (Reply : Type x) where
  act : Model → Event → Model
  Permitted : Model → Event → Prop
  Answers : Model → Event → Reply → Prop

namespace Specification

variable {specification : Specification Model Event Reply}

/-- Each call is permitted when its turn comes. -/
def Allows (specification : Specification Model Event Reply) : Model → List Event → Prop
  | _, [] => True
  | model, event :: rest =>
      specification.Permitted model event ∧
        specification.Allows (specification.act model event) rest

/-- The conversations that the specification admits. -/
inductive Admits (specification : Specification Model Event Reply) :
    Model → List Event → List Reply → Model → Prop where
  | nil (model : Model) : Admits specification model [] [] model
  | cons {model final : Model} {event : Event} {rest : List Event} {reply : Reply}
      {replies : List Reply} (permitted : specification.Permitted model event)
      (answers : specification.Answers model event reply)
      (later : Admits specification (specification.act model event) rest replies final) :
      Admits specification model (event :: rest) (reply :: replies) final

/-- The program meets the specification in the states where `holds`, each of
which means a state of the specification. -/
def MetBy (specification : Specification Model Event Reply)
    (call : State → Event → Option (State × Reply)) (holds : State → Prop)
    (meaning : State → Model) : Prop :=
  ∀ state event, holds state → specification.Permitted (meaning state) event →
    ∃ next reply, call state event = some (next, reply) ∧ holds next ∧
      meaning next = specification.act (meaning state) event ∧
      specification.Answers (meaning state) event reply

/-- The rule of refinement.  A program that meets its specification at every
call has only conversations that the specification admits. -/
theorem MetBy.exists_converse {call : State → Event → Option (State × Reply)}
    {holds : State → Prop} {meaning : State → Model}
    (met : specification.MetBy call holds meaning) {state : State} {events : List Event}
    (held : holds state) (allowed : specification.Allows (meaning state) events) :
    ∃ final replies, converse call state events = some (final, replies) ∧ holds final ∧
      specification.Admits (meaning state) events replies (meaning final) := by
  induction events generalizing state with
  | nil => exact ⟨state, [], rfl, held, .nil _⟩
  | cons event rest inductionHypothesis =>
      rcases allowed with ⟨permitted, allowed⟩
      rcases met state event held permitted with ⟨next, reply, answered, heldNext, same, answers⟩
      rw [← same] at allowed
      rcases inductionHypothesis heldNext allowed with
        ⟨final, replies, conversed, heldFinal, admits⟩
      rw [same] at admits
      exact ⟨final, reply :: replies, converse_cons answered conversed, heldFinal,
        .cons permitted answers admits⟩

end Specification

end General
end Pxc
