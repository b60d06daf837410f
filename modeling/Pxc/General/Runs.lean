import Mathlib.Data.List.Induction

namespace Pxc
namespace General

/-!
# Finite runs of a partial step function

A program that reacts to one event at a time is given here by a partial step
function.  A step is undefined when the program has no defined behaviour on
that event, and a run ends there: no later state is reached.

Three rules carry every induction over runs.  The first is the usual invariant
rule, for invariants that may speak about the events already handled.  The
second observes what an invariant implies at each event.  The third compares
two properties that are observed at each event: if an invariant makes them
equivalent at one event, and survives every event at which they hold, then
they hold along exactly the same runs.
-/

universe u v

variable {State : Type u} {Event : Type v}

/-- The state reached by a list of events, when every step of it is defined. -/
def run (step : State → Event → Option State) : State → List Event → Option State
  | state, [] => some state
  | state, event :: rest => (step state event).bind fun next => run step next rest

variable {step : State → Event → Option State}

@[simp] theorem run_nil (state : State) : run step state [] = some state :=
  rfl

theorem run_cons (state : State) (event : Event) (rest : List Event) :
    run step state (event :: rest) = (step state event).bind fun next => run step next rest :=
  rfl

theorem run_append (start : State) (first second : List Event) :
    run step start (first ++ second) =
      (run step start first).bind fun middle => run step middle second := by
  induction first generalizing start with
  | nil => rfl
  | cons event rest inductionHypothesis =>
      rw [List.cons_append, run_cons, run_cons]
      cases step start event with
      | none => rfl
      | some next => exact inductionHypothesis next

theorem run_concat_eq_some_iff (start final : State) (events : List Event) (event : Event) :
    run step start (events ++ [event]) = some final ↔
      ∃ state, run step start events = some state ∧ step state event = some final := by
  rw [run_append, Option.bind_eq_some_iff]
  have last : ∀ state, run step state [event] = step state event := by
    intro state
    rw [run_cons]
    cases step state event <;> rfl
  simp only [last]

/-- A property observed at every event that a run reaches.  It may depend on
the events handled before, on the state they led to, and on the event itself.
Events after an undefined step are not reached. -/
def AtEach (step : State → Event → Option State)
    (property : List Event → State → Event → Prop) (start : State) (events : List Event) : Prop :=
  ∀ before event after state, events = before ++ event :: after →
    run step start before = some state → property before state event

theorem AtEach.of_append {property : List Event → State → Event → Prop} {start : State}
    {first second : List Event} (held : AtEach step property start (first ++ second)) :
    AtEach step property start first := by
  intro before event after state split reached
  refine held before event (after ++ second) state ?_ reached
  rw [split, List.append_assoc, List.cons_append]

theorem AtEach.last {property : List Event → State → Event → Prop} {start state : State}
    {events : List Event} {event : Event}
    (held : AtEach step property start (events ++ [event]))
    (reached : run step start events = some state) : property events state event :=
  held events event [] state rfl reached

theorem atEach_nil {property : List Event → State → Event → Prop} {start : State} :
    AtEach step property start [] := by
  intro before event after state split reached
  cases before <;> cases split

/-- A run observed event by event, from the front. -/
theorem atEach_cons {property : List Event → State → Event → Prop} {start : State}
    {event : Event} {rest : List Event} :
    AtEach step property start (event :: rest) ↔ property [] start event ∧
      ∀ next, step start event = some next →
        AtEach step (fun before => property (event :: before)) next rest := by
  constructor
  · intro held
    refine ⟨held [] event rest start rfl rfl, ?_⟩
    intro next stepped before later after state split reached
    apply held (event :: before) later after state
    · rw [split, List.cons_append]
    · rw [run_cons, stepped]
      exact reached
  · rintro ⟨first, others⟩ before later after state split reached
    cases before with
    | nil =>
        cases split
        cases reached
        exact first
    | cons head before =>
        cases split
        rcases Option.bind_eq_some_iff.mp reached with ⟨next, stepped, onwards⟩
        exact others next stepped before later after state rfl onwards

/-- Along a run whose steps are all defined, every event is reached. -/
theorem atEach_iff_forall_mem {condition : Event → Prop} {start : State} {events : List Event}
    (total : ∀ state event, ∃ next, step state event = some next) :
    AtEach step (fun _ _ event => condition event) start events ↔
      ∀ event ∈ events, condition event := by
  induction events generalizing start with
  | nil =>
      refine ⟨fun _ event member => ?_, fun _ => atEach_nil⟩
      cases member
  | cons event rest inductionHypothesis =>
      rcases total start event with ⟨next, stepped⟩
      rw [atEach_cons, List.forall_mem_cons]
      apply and_congr_right
      intro _
      constructor
      · intro held
        exact inductionHypothesis.mp (held next stepped)
      · intro all next _
        exact inductionHypothesis.mpr all

/-- A predicate on event lists that every earlier part of a run inherits. -/
def PrefixClosed (admissible : List Event → Prop) : Prop :=
  ∀ first second, admissible (first ++ second) → admissible first

section Invariants

variable (admissible : List Event → Prop) (holds : List Event → State → Prop)
  {property condition : List Event → State → Event → Prop} {start : State} {events : List Event}

/-- The invariant rule.  The invariant need only be kept by steps at which
the observed property holds, and within admissible runs. -/
theorem run_invariant (closed : PrefixClosed admissible) (starts : holds [] start)
    (preserved : ∀ before state event next, admissible (before ++ [event]) →
      holds before state → property before state event → step state event = some next →
      holds (before ++ [event]) next)
    (allowed : admissible events) (held : AtEach step property start events) {final : State}
    (reached : run step start events = some final) : holds events final := by
  induction events using List.reverseRecOn generalizing final with
  | nil =>
      rw [run_nil, Option.some.injEq] at reached
      exact reached ▸ starts
  | append_singleton events event inductionHypothesis =>
      rcases (run_concat_eq_some_iff start final events event).mp reached with
        ⟨state, before, stepped⟩
      have earlier := inductionHypothesis (closed _ _ allowed) held.of_append before
      exact preserved events state event final allowed earlier (held.last before) stepped

/-- The invariant rule for an invariant that every step keeps. -/
theorem run_invariant_of_step (closed : PrefixClosed admissible) (starts : holds [] start)
    (preserved : ∀ before state event next, admissible (before ++ [event]) →
      holds before state → step state event = some next → holds (before ++ [event]) next)
    (allowed : admissible events) {final : State}
    (reached : run step start events = some final) : holds events final := by
  have unobserved : AtEach step (fun _ _ _ => True) start events := fun _ _ _ _ _ _ => trivial
  exact run_invariant admissible holds closed starts
    (fun before state event next within held _ => preserved before state event next within held)
    allowed unobserved reached

/-- The observation rule.  If the observed property keeps an invariant, then
whatever the two imply at an event holds along the same run. -/
theorem atEach_of_invariant (closed : PrefixClosed admissible) (starts : holds [] start)
    (preserved : ∀ before state event next, admissible (before ++ [event]) →
      holds before state → property before state event → step state event = some next →
      holds (before ++ [event]) next)
    (implies : ∀ before state event, admissible (before ++ [event]) → holds before state →
      property before state event → condition before state event)
    (allowed : admissible events) (held : AtEach step property start events) :
    AtEach step condition start events := by
  intro before event after state split reached
  rw [split] at allowed held
  have within : admissible (before ++ [event]) :=
    closed _ after (by simpa only [List.append_assoc, List.singleton_append] using allowed)
  have now : property before state event := held before event after state rfl reached
  exact implies before state event within
    (run_invariant admissible holds closed starts preserved (closed _ _ allowed) held.of_append
      reached) now

/-- The comparison rule.  When an invariant makes two observed properties
equivalent, and survives the steps at which they hold, the two properties
hold along exactly the same runs. -/
theorem atEach_iff (closed : PrefixClosed admissible) (starts : holds [] start)
    (agree : ∀ before state event, admissible (before ++ [event]) → holds before state →
      (property before state event ↔ condition before state event))
    (preserved : ∀ before state event next, admissible (before ++ [event]) →
      holds before state → condition before state event → step state event = some next →
      holds (before ++ [event]) next)
    (allowed : admissible events) :
    AtEach step property start events ↔ AtEach step condition start events := by
  constructor
  · exact atEach_of_invariant admissible holds closed starts
      (fun before state event next within held now stepped =>
        preserved before state event next within held
          ((agree before state event within held).mp now) stepped)
      (fun before state event within held => (agree before state event within held).mp) allowed
  · exact atEach_of_invariant admissible holds closed starts preserved
      (fun before state event within held => (agree before state event within held).mpr) allowed

end Invariants

/-- The rule for total correctness.  An invariant under which every step is
defined leads a run to its end. -/
theorem exists_run (admissible : List Event → Prop) (holds : List Event → State → Prop)
    {start : State} {events : List Event} (closed : PrefixClosed admissible)
    (starts : holds [] start)
    (steps : ∀ before state event, admissible (before ++ [event]) →
      run step start before = some state → holds before state →
      ∃ next, step state event = some next ∧ holds (before ++ [event]) next)
    (allowed : admissible events) :
    ∃ final, run step start events = some final ∧ holds events final := by
  induction events using List.reverseRecOn with
  | nil => exact ⟨start, rfl, starts⟩
  | append_singleton events event inductionHypothesis =>
      rcases inductionHypothesis (closed _ _ allowed) with ⟨state, reached, held⟩
      rcases steps events state event allowed reached held with ⟨next, stepped, kept⟩
      refine ⟨next, ?_, kept⟩
      exact (run_concat_eq_some_iff start next events event).mpr ⟨state, reached, stepped⟩

/-- A run is no longer than a measure that each of its steps lowers. -/
theorem length_le_of_run (holds : State → Prop) (measure : State → Nat)
    {start final : State} {events : List Event} (starts : holds start)
    (lowers : ∀ state, ∀ event ∈ events, ∀ next, holds state → step state event = some next →
      holds next ∧ measure next < measure state)
    (reached : run step start events = some final) :
    events.length + measure final ≤ measure start := by
  induction events generalizing start with
  | nil =>
      cases reached
      exact Nat.le_of_eq (Nat.zero_add _)
  | cons event rest inductionHypothesis =>
      rw [run_cons] at reached
      rcases Option.bind_eq_some_iff.mp reached with ⟨next, stepped, onwards⟩
      rcases lowers start event List.mem_cons_self next starts stepped with ⟨held, lower⟩
      have later := inductionHypothesis held
        (fun state other member => lowers state other (List.mem_cons_of_mem _ member)) onwards
      rw [List.length_cons]
      omega

/-- Events that change nothing may be left out of a run. -/
theorem run_filter (holds : State → Prop) (counts : Event → Bool) {start : State}
    {events : List Event} (starts : holds start)
    (inert : ∀ state event, holds state → counts event = false → step state event = some state)
    (keeps : ∀ state event next, holds state → counts event = true →
      step state event = some next → holds next) :
    run step start events = run step start (events.filter counts) := by
  induction events generalizing start with
  | nil => rfl
  | cons event rest inductionHypothesis =>
      rw [run_cons, List.filter_cons]
      cases counted : counts event with
      | false =>
          rw [if_neg Bool.false_ne_true, inert start event starts counted, Option.bind_some]
          exact inductionHypothesis starts
      | true =>
          rw [if_pos rfl, run_cons]
          cases stepped : step start event with
          | none => rfl
          | some next => exact inductionHypothesis (keeps start event next starts counted stepped)

theorem measure_le_of_run (measure : State → Nat) {start final : State} {events : List Event}
    (lowers : ∀ state event next, step state event = some next → measure next ≤ measure state)
    (reached : run step start events = some final) : measure final ≤ measure start := by
  induction events generalizing start with
  | nil =>
      cases reached
      exact Nat.le_refl _
  | cons event rest inductionHypothesis =>
      rw [run_cons] at reached
      rcases Option.bind_eq_some_iff.mp reached with ⟨next, stepped, onwards⟩
      exact Nat.le_trans (inductionHypothesis onwards) (lowers start event next stepped)

theorem exists_states_of_split {start final : State} {before after : List Event} {event : Event}
    (reached : run step start (before ++ event :: after) = some final) :
    ∃ state next, run step start before = some state ∧ step state event = some next ∧
      run step next after = some final := by
  rw [run_append] at reached
  rcases Option.bind_eq_some_iff.mp reached with ⟨state, earlier, onwards⟩
  rw [run_cons] at onwards
  rcases Option.bind_eq_some_iff.mp onwards with ⟨next, stepped, later⟩
  exact ⟨state, next, earlier, stepped, later⟩

end General
end Pxc
