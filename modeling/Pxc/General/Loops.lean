import Mathlib.Data.List.Induction

namespace Pxc
namespace General

/-!
# Loops that may not end

A loop has a condition and a body that may be undefined.  Whether it ends is
not known in advance, so it is run with a bound on the number of times its
condition is tested.  It returns nothing when the bound is reached, and
nothing when an iteration is undefined.  A loop ends in a state when some
bound leads it there, and the bound does not matter for which state that is.

An invariant of the body holds in the state the loop ends in.  When the body
is always defined, and lowers a measure, the loop does end.
-/

universe u v

variable {State : Type u} (continues : State → Prop) [DecidablePred continues]
  (body : State → Option State)

/-- `while (continues) body`, with at most `bound` tests of the condition. -/
def loop : Nat → State → Option State
  | 0, _ => none
  | bound + 1, state =>
      if continues state then (body state).bind (loop bound) else some state

/-- The loop ends, and in this state. -/
def Ends (state final : State) : Prop :=
  ∃ bound, loop continues body bound state = some final

variable {continues body} {state next final other : State}

/-- A larger bound changes nothing once the loop has ended. -/
theorem loop_mono {bound : Nat} (ended : loop continues body bound state = some final)
    (more : Nat) : loop continues body (bound + more) state = some final := by
  induction bound generalizing state with
  | zero => cases ended
  | succ bound inductionHypothesis =>
      rw [Nat.add_right_comm, loop]
      rw [loop] at ended
      by_cases again : continues state
      · rw [if_pos again] at ended ⊢
        rcases Option.bind_eq_some_iff.mp ended with ⟨next, stepped, onwards⟩
        rw [stepped]
        exact inductionHypothesis onwards
      · rw [if_neg again] at ended ⊢
        exact ended

theorem Ends.unique (ended : Ends continues body state final)
    (also : Ends continues body state other) : final = other := by
  rcases ended with ⟨first, reached⟩
  rcases also with ⟨second, reachedToo⟩
  have long := loop_mono reached second
  have longToo := loop_mono reachedToo first
  rw [Nat.add_comm] at longToo
  exact Option.some.inj (long.symm.trans longToo)

theorem ends_of_not_continues (stops : ¬ continues state) : Ends continues body state state :=
  ⟨1, by rw [loop, if_neg stops]⟩

theorem Ends.iterate (again : continues state) (stepped : body state = some next)
    (ended : Ends continues body next final) : Ends continues body state final := by
  rcases ended with ⟨bound, reached⟩
  refine ⟨bound + 1, ?_⟩
  rw [loop, if_pos again, stepped]
  exact reached

/-- A loop with an undefined iteration does not end. -/
theorem not_ends_of_undefined (again : continues state) (undefined : body state = none) :
    ¬ Ends continues body state final := by
  rintro ⟨bound, reached⟩
  cases bound with
  | zero => cases reached
  | succ bound =>
      rw [loop, if_pos again, undefined] at reached
      cases reached

/-- The invariant rule. -/
theorem Ends.invariant (holds : State → Prop) (ended : Ends continues body state final)
    (preserved : ∀ state next, holds state → continues state → body state = some next →
      holds next)
    (starts : holds state) : holds final ∧ ¬ continues final := by
  rcases ended with ⟨bound, reached⟩
  induction bound generalizing state with
  | zero => cases reached
  | succ bound inductionHypothesis =>
      rw [loop] at reached
      by_cases again : continues state
      · rw [if_pos again] at reached
        rcases Option.bind_eq_some_iff.mp reached with ⟨next, stepped, onwards⟩
        exact inductionHypothesis (preserved state next starts again stepped) onwards
      · rw [if_neg again] at reached
        cases reached
        exact ⟨starts, again⟩

/-- The rule for total correctness.  Every iteration is defined, keeps the
invariant and lowers the measure. -/
theorem exists_ends (holds : State → Prop) (measure : State → Nat)
    (iterates : ∀ state, holds state → continues state →
      ∃ next, body state = some next ∧ holds next ∧ measure next < measure state)
    (starts : holds state) :
    ∃ final, Ends continues body state final ∧ holds final ∧ ¬ continues final := by
  induction size : measure state using Nat.strongRecOn generalizing state with
  | _ size inductionHypothesis =>
      by_cases again : continues state
      · rcases iterates state starts again with ⟨next, stepped, kept, lower⟩
        rcases inductionHypothesis (measure next) (size ▸ lower) kept rfl with
          ⟨final, ended, held, stopped⟩
        exact ⟨final, ended.iterate again stepped, held, stopped⟩
      · exact ⟨state, ends_of_not_continues again, starts, again⟩

/-! ## Loops over a list -/

variable {Element : Type v} {visit : State → Element → Option State}

theorem foldlM_concat (elements : List Element) (element : Element) (state : State) :
    (elements ++ [element]).foldlM visit state =
      (elements.foldlM visit state).bind fun middle => visit middle element := by
  rw [List.foldlM_append]
  change (elements.foldlM visit state).bind (fun middle => [element].foldlM visit middle) = _
  congr 1
  funext middle
  rw [List.foldlM_cons]
  change (visit middle element).bind some = _
  rw [Option.bind_fun_some]

/-- The invariant rule for a loop over a list.  The invariant may speak about
the elements already visited. -/
theorem foldlM_invariant (holds : List Element → State → Prop) (elements : List Element)
    (starts : holds [] state)
    (preserved : ∀ before element after state next, elements = before ++ element :: after →
      holds before state → visit state element = some next → holds (before ++ [element]) next)
    (visited : elements.foldlM visit state = some final) : holds elements final := by
  induction elements using List.reverseRecOn generalizing final with
  | nil =>
      cases visited
      exact starts
  | append_singleton elements element inductionHypothesis =>
      rw [foldlM_concat] at visited
      rcases Option.bind_eq_some_iff.mp visited with ⟨middle, earlier, stepped⟩
      have held := inductionHypothesis
        (fun before inner after state next split => preserved before inner (after ++ [element])
          state next (by rw [split, List.append_assoc, List.cons_append])) earlier
      exact preserved elements element [] middle final rfl held stepped

/-- A loop over a list is defined when every visit is, given an invariant. -/
theorem exists_foldlM (holds : List Element → State → Prop) (elements : List Element)
    (starts : holds [] state)
    (visits : ∀ before element after state, elements = before ++ element :: after →
      holds before state → ∃ next, visit state element = some next ∧
        holds (before ++ [element]) next) :
    ∃ final, elements.foldlM visit state = some final ∧ holds elements final := by
  induction elements using List.reverseRecOn with
  | nil => exact ⟨state, rfl, starts⟩
  | append_singleton elements element inductionHypothesis =>
      rcases inductionHypothesis fun before inner after state split => visits before inner
          (after ++ [element]) state (by rw [split, List.append_assoc, List.cons_append]) with
        ⟨middle, visited, held⟩
      rcases visits elements element [] middle rfl held with ⟨next, stepped, kept⟩
      refine ⟨next, ?_, kept⟩
      rw [foldlM_concat, visited]
      exact stepped

end General
end Pxc
