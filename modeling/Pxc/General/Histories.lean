import Pxc.General.Runs

namespace Pxc
namespace General

/-!
# What a history says about the present

A state often depends on one past event only: the last one of some kind,
provided nothing has undone it since.  `Since` says this about a list of
events.  What an event does or undoes may depend on the events before it, so
both parts are predicates on the history up to an event and the event itself.

A history grows at its end, and one rule tells how `Since` changes with one
more event.

What is seen during a run, at each of its steps, is a list as well.  It too
grows at its end, by what the last step shows.
-/

universe u v w

variable {Event : Type u}

/-- Some event of the history started something, and every event after it has
kept it. -/
def Since (starts keeps : List Event → Event → Prop) (history : List Event) : Prop :=
  ∃ before event after, history = before ++ event :: after ∧ starts before event ∧
    ∀ between later rest, after = between ++ later :: rest →
      keeps (before ++ event :: between) later

variable {starts keeps : List Event → Event → Prop} {history : List Event} {event : Event}

theorem not_since_nil : ¬ Since starts keeps ([] : List Event) := by
  intro since
  rcases since with ⟨before, event, after, split, _⟩
  cases before <;> cases split

/-- One more event starts it, or keeps what was there. -/
theorem since_concat_iff :
    Since starts keeps (history ++ [event]) ↔
      starts history event ∨ Since starts keeps history ∧ keeps history event := by
  constructor
  · intro since
    rcases since with ⟨before, first, after, split, started, kept⟩
    rcases List.eq_nil_or_concat after with rfl | ⟨after, last, rfl⟩
    · have parts := List.append_inj' split rfl
      cases parts.2
      exact Or.inl (parts.1 ▸ started)
    · have regrouped : history ++ [event] = (before ++ first :: after) ++ [last] := by
        rw [split, List.concat_eq_append, List.append_assoc, List.cons_append]
      have parts := List.append_inj' regrouped rfl
      cases parts.2
      refine Or.inr ⟨⟨before, first, after, parts.1, started, ?_⟩, ?_⟩
      · intro between later rest inner
        apply kept between later (rest ++ [event])
        rw [inner, List.concat_eq_append, List.append_assoc, List.cons_append]
      · rw [parts.1]
        exact kept after event [] List.concat_eq_append
  · intro either
    rcases either with started | ⟨⟨before, first, after, split, started, kept⟩, now⟩
    · exact ⟨history, event, [], rfl, started, fun between later rest empty => by
        cases between <;> cases empty⟩
    · refine ⟨before, first, after ++ [event], ?_, started, ?_⟩
      · rw [split, List.append_assoc, List.cons_append]
      · intro between later rest grown
        rcases List.eq_nil_or_concat rest with rfl | ⟨rest, last, rfl⟩
        · have parts := List.append_inj' grown rfl
          cases parts.2
          rw [← parts.1, ← split]
          exact now
        · have regrouped : after ++ [event] = (between ++ later :: rest) ++ [last] := by
            rw [grown, List.concat_eq_append, List.append_assoc, List.cons_append]
          exact kept between later rest (List.append_inj' regrouped rfl).1

variable {State : Type v} {Observed : Type w} (step : State → Event → Option State)
  (view : State → Event → State → List Observed)

/-- What the steps of a run show, in their order, up to one that is undefined. -/
def observations : State → List Event → List Observed
  | _, [] => []
  | state, event :: rest =>
      match step state event with
      | none => []
      | some next => view state event next ++ observations next rest

variable {step view} {start state next : State} {events : List Event}

theorem observations_cons (stepped : step state event = some next) (rest : List Event) :
    observations step view state (event :: rest) =
      view state event next ++ observations step view next rest := by
  rw [observations, stepped]

theorem observations_concat (reached : run step start events = some state)
    (stepped : step state event = some next) :
    observations step view start (events ++ [event]) =
      observations step view start events ++ view state event next := by
  induction events generalizing start with
  | nil =>
      cases reached
      rw [List.nil_append, observations_cons stepped, observations, observations, List.append_nil,
        List.nil_append]
  | cons first rest inductionHypothesis =>
      rw [run_cons] at reached
      rcases Option.bind_eq_some_iff.mp reached with ⟨middle, begun, onwards⟩
      rw [List.cons_append, observations_cons begun, observations_cons begun,
        inductionHypothesis onwards, List.append_assoc]

end General
end Pxc
