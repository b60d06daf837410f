import Mathlib.Algebra.Order.BigOperators.Group.List
import Mathlib.Tactic.Linarith
import Mathlib.Tactic.NormNum
import Pxc.GameServer.StepLoop

namespace Pxc
namespace GameServer

open General

/-!
# The step rate and the clock

The handler keeps its limits twice, as steps in a second and as the time of a
step, and the header says that the second kind is set by the first.  The
setters write the first kind only, while the loop reads the second kind only.
The time missing to the shortest step is converted to a whole number of
seconds before it is multiplied, so that a nap of less than a second is none.

The clock is read twice in each iteration.  What passes between the end of one
reading and the next start is measured by no iteration: the nap, and whatever
else the loop does there.
-/

namespace TimeControl

variable {control : TimeControl} {stepTime : ℚ}

theorem nap_eq_zero (near : control.mMinStepTime - stepTime < 1) :
    control.nap stepTime = some 0 := by
  unfold nap
  split
  · next short =>
    have whole : ⌊control.mMinStepTime - stepTime⌋ = 0 :=
      Int.floor_eq_zero_iff.mpr ⟨sub_nonneg.mpr short.le, near⟩
    have fits : control.mMinStepTime - stepTime < 2 ^ 32 := near.trans (by norm_num)
    rw [usleepArgument]
    simp only [if_pos fits, whole, Int.toNat_zero, Nat.zero_mul, Nat.zero_mod]
  · rfl

/-- A nap is never longer than a thousandth of what is missing. -/
theorem nap_le {micros : Nat} (missing : 0 ≤ control.mMinStepTime - stepTime)
    (napped : control.nap stepTime = some micros) :
    (micros : ℚ) ≤ (control.mMinStepTime - stepTime) * 1000 := by
  unfold nap at napped
  split at napped
  · simp only [usleepArgument] at napped
    split at napped
    · cases napped
      have floor : (⌊control.mMinStepTime - stepTime⌋.toNat : ℚ) ≤
          control.mMinStepTime - stepTime := by
        have whole : ((⌊control.mMinStepTime - stepTime⌋.toNat : Int) : ℚ) =
            (⌊control.mMinStepTime - stepTime⌋ : ℚ) := by
          rw [Int.toNat_of_nonneg (Int.floor_nonneg.mpr missing)]
        rw [← Int.cast_natCast, whole]
        exact Int.floor_le _
      have wrapped : ((⌊control.mMinStepTime - stepTime⌋.toNat * 1000 % 2 ^ 32 : Nat) : ℚ) ≤
          (⌊control.mMinStepTime - stepTime⌋.toNat : ℚ) * 1000 := by
        exact_mod_cast Nat.mod_le _ _
      linarith
    · cases napped
  · cases napped
    rw [Nat.cast_zero]
    linarith

end TimeControl

namespace StepLoop

/-- The iteration that reads this `endTime` obeys the configured rate.  It naps
for what is missing to the shortest step, so that it lasts at least that long,
up to a microsecond.  If it computes the load, the step times with which it
does so belong to the configured steps. -/
structure ObeysRate (loop : StepLoop) (endTime startTime : ℚ) : Prop where
  lasts : ∃ micros, loop.control.nap (endTime - loop.startTime) = some micros ∧
    (endTime - loop.startTime < 1 / loop.control.mMaxSteps →
      ⌊(1 / loop.control.mMaxSteps - (endTime - loop.startTime)) * 10 ^ 6⌋ ≤ (micros : Int)) ∧
    1 / loop.control.mMaxSteps - 1 / 10 ^ 6 < endTime - loop.startTime + micros / 10 ^ 6
  bounds : loop.EndsSecond (.iterate endTime startTime) →
    loop.control.mMinStepTime = 1 / loop.control.mMaxSteps ∧
      loop.control.mMaxStepTime = 1 / loop.control.mMinSteps

/-- The step took long enough on its own, and if it ends a second, the steps
are those of the constructor. -/
structure NeedsNoNap (loop : StepLoop) (endTime startTime : ℚ) : Prop where
  long : 1 / loop.control.mMaxSteps - 1 / 10 ^ 6 < endTime - loop.startTime
  default : loop.EndsSecond (.iterate endTime startTime) →
    loop.control.mMaxSteps = TimeControl.DEFAULT_MAX_STEPS_PER_SEC ∧
      loop.control.mMinSteps = TimeControl.DEFAULT_MIN_STEPS_PER_SEC

/-- The limits as the constructor leaves them, and steps that are positive. -/
structure Limits (loop : StepLoop) : Prop where
  shortest : loop.control.mMinStepTime = 1 / TimeControl.DEFAULT_MAX_STEPS_PER_SEC
  longest : loop.control.mMaxStepTime = 1 / TimeControl.DEFAULT_MIN_STEPS_PER_SEC
  max_pos : 0 < loop.control.mMaxSteps
  min_pos : 0 < loop.control.mMinSteps

variable {loop next : StepLoop} {endTime startTime : ℚ}

theorem Limits.bounds_iff (limits : Limits loop) :
    (loop.control.mMinStepTime = 1 / loop.control.mMaxSteps ∧
        loop.control.mMaxStepTime = 1 / loop.control.mMinSteps) ↔
      loop.control.mMaxSteps = TimeControl.DEFAULT_MAX_STEPS_PER_SEC ∧
        loop.control.mMinSteps = TimeControl.DEFAULT_MIN_STEPS_PER_SEC := by
  rw [limits.shortest, limits.longest, one_div, one_div, one_div, one_div, inv_inj, inv_inj]
  exact and_congr eq_comm eq_comm

/-- The nap makes up for nothing. -/
theorem Limits.lasts_iff (limits : Limits loop) (stepTime : ℚ) :
    (∃ micros, loop.control.nap stepTime = some micros ∧
        (stepTime < 1 / loop.control.mMaxSteps →
          ⌊(1 / loop.control.mMaxSteps - stepTime) * 10 ^ 6⌋ ≤ (micros : Int)) ∧
        1 / loop.control.mMaxSteps - 1 / 10 ^ 6 < stepTime + micros / 10 ^ 6) ↔
      1 / loop.control.mMaxSteps - 1 / 10 ^ 6 < stepTime := by
  have configured : 0 < 1 / loop.control.mMaxSteps := one_div_pos.mpr limits.max_pos
  have shortest : loop.control.mMinStepTime = 1 / 100 := limits.shortest
  generalize 1 / loop.control.mMaxSteps = least at configured ⊢
  constructor
  · rintro ⟨micros, napped, enough, _⟩
    by_contra short
    rw [not_lt] at short
    by_cases near : loop.control.mMinStepTime - stepTime < 1
    · -- The nap is empty, and at least a microsecond is missing.
      cases Option.mem_unique napped (TimeControl.nap_eq_zero near)
      have asked := enough (by linarith)
      rw [Nat.cast_zero, Int.floor_le_iff] at asked
      norm_num at asked
      linarith
    · -- The nap is a thousandth of more than a second.
      have slept := TimeControl.nap_le (by linarith) napped
      have asked := enough (by linarith)
      have above := Int.lt_floor_add_one ((least - stepTime) * 10 ^ 6)
      have bound : ((⌊(least - stepTime) * 10 ^ 6⌋ : Int) : ℚ) ≤ micros := by
        exact_mod_cast asked
      rw [shortest] at slept near
      linarith
  · intro long
    have near : loop.control.mMinStepTime - stepTime < 1 := by
      rw [shortest]
      linarith
    refine ⟨0, TimeControl.nap_eq_zero near, ?_, ?_⟩
    · intro _
      rw [Nat.cast_zero, Int.floor_le_iff]
      norm_num
      linarith
    · rw [Nat.cast_zero, zero_div, add_zero]
      exact long

theorem Limits.obeys_iff (limits : Limits loop) :
    ObeysRate loop endTime startTime ↔ NeedsNoNap loop endTime startTime := by
  constructor
  · rintro ⟨lasts, bounds⟩
    exact ⟨(limits.lasts_iff _).mp lasts, fun ends => limits.bounds_iff.mp (bounds ends)⟩
  · rintro ⟨long, default⟩
    exact ⟨(limits.lasts_iff _).mpr long, fun ends => limits.bounds_iff.mpr (default ends)⟩

/-- The iteration among these events that the rate is about. -/
def AtIteration (property : StepLoop → ℚ → ℚ → Prop) (_ : List LoopEvent) (loop : StepLoop) :
    LoopEvent → Prop
  | .iterate endTime startTime => property loop endTime startTime
  | _ => True

/-- The setters are called with positive values. -/
def Positive (events : List LoopEvent) : Prop :=
  ∀ steps, .minSteps steps ∈ events ∨ .maxSteps steps ∈ events → 0 < steps

theorem Limits.step {event : LoopEvent} (limits : Limits loop) (positive : Positive [event])
    (stepped : loop.step event = some next) : Limits next := by
  rcases step_limits stepped with ⟨shortest, longest⟩
  have configured : 0 < next.control.mMaxSteps ∧ 0 < next.control.mMinSteps := by
    cases event with
    | iterate endTime startTime =>
        rcases iterate_eq_some_iff.mp stepped with ⟨_, _, rfl⟩
        split
        · rw [TimeControl.evaluate_eq]
          exact ⟨limits.max_pos, limits.min_pos⟩
        · exact ⟨limits.max_pos, limits.min_pos⟩
    | minSteps steps =>
        cases stepped
        exact ⟨limits.max_pos, positive steps (Or.inl (List.mem_singleton_self _))⟩
    | maxSteps steps =>
        cases stepped
        exact ⟨positive steps (Or.inr (List.mem_singleton_self _)), limits.min_pos⟩
    | timeDilationBoundary _ | timeDilationDecreaser _ =>
        cases stepped
        exact ⟨limits.max_pos, limits.min_pos⟩
  exact ⟨shortest.trans limits.shortest, longest.trans limits.longest, configured.1, configured.2⟩

/-- Whatever the setters do, the iterations that obey the configured rate are
those that need no nap, and end no second unless the steps are the default
ones. -/
theorem obeysRate_iff (startTime : ℚ) (events : List LoopEvent) (positive : Positive events) :
    AtEach step (AtIteration ObeysRate) (entered TimeControl.constructed startTime) events ↔
      AtEach step (AtIteration NeedsNoNap) (entered TimeControl.constructed startTime) events := by
  refine atEach_iff Positive (fun _ => Limits) ?_ ?_ ?_ ?_ positive
  · intro first second positive steps either
    exact positive steps (either.imp (List.mem_append_left _) (List.mem_append_left _))
  · exact ⟨rfl, rfl, by norm_num [entered, TimeControl.constructed,
      TimeControl.DEFAULT_MAX_STEPS_PER_SEC], by norm_num [entered, TimeControl.constructed,
      TimeControl.DEFAULT_MIN_STEPS_PER_SEC]⟩
  · intro before loop event _ limits
    cases event with
    | iterate endTime startTime => exact limits.obeys_iff
    | _ => exact Iff.rfl
  · intro before loop event next positive limits _ stepped
    refine limits.step ?_ stepped
    intro steps either
    exact positive steps (either.imp (List.mem_append_right _) (List.mem_append_right _))

/-- With fifty steps in a second, a step that takes a second needs no nap, but it
ends the second.  With the default steps that does no harm. -/
theorem obeysRate_iff_slow_step :
    (AtEach step (AtIteration ObeysRate) (entered TimeControl.constructed 0)
        [.maxSteps 50, .iterate 1 1] ↔
      AtEach step (AtIteration NeedsNoNap) (entered TimeControl.constructed 0)
        [.maxSteps 50, .iterate 1 1]) ∧
      AtEach step (AtIteration ObeysRate) (entered TimeControl.constructed 0)
        [.iterate 1 1] := by
  constructor
  · apply obeysRate_iff 0 [.maxSteps 50, .iterate 1 1]
    intro steps either
    simp only [List.mem_cons, reduceCtorEq, LoopEvent.maxSteps.injEq, List.not_mem_nil, or_false,
      false_or] at either
    rw [either]
    norm_num
  · refine (obeysRate_iff 0 [.iterate 1 1] ?_).mpr (atEach_cons.mpr ⟨⟨?_, ?_⟩, ?_⟩)
    · intro steps either
      simp only [List.mem_cons, reduceCtorEq, List.not_mem_nil, or_false] at either
    · norm_num [entered, TimeControl.constructed, TimeControl.DEFAULT_MAX_STEPS_PER_SEC]
    · exact fun _ => ⟨rfl, rfl⟩
    · exact fun _ _ => atEach_nil

/-- A step that takes no time at all should be followed by a nap of ten
milliseconds, and is followed by none. -/
theorem rate_not_obeyed :
    ¬ AtEach step (AtIteration ObeysRate) (entered TimeControl.constructed 0)
      [.iterate 0 0] := by
  intro obeyed
  rcases (obeyed [] (.iterate 0 0) [] _ rfl rfl).lasts with ⟨micros, napped, _, lasts⟩
  have empty : TimeControl.constructed.nap (0 - 0) = some 0 := by decide +kernel
  cases Option.mem_unique napped empty
  norm_num [entered, TimeControl.constructed, TimeControl.DEFAULT_MAX_STEPS_PER_SEC] at lasts

/-! ## The measured time -/

/-- The step time that an iteration has measured. -/
def measured (_ : StepLoop) : LoopEvent → StepLoop → List ℚ
  | .iterate _ _, next => [next.stepTime]
  | _, _ => []

/-- The two readings of the clock in an iteration. -/
def readings : LoopEvent → List (ℚ × ℚ)
  | .iterate endTime startTime => [(endTime, startTime)]
  | _ => []

/-- The time from each start to the next end. -/
def intervals : ℚ → List (ℚ × ℚ) → List ℚ
  | _, [] => []
  | startTime, (endTime, following) :: rest => (endTime - startTime) :: intervals following rest

/-- The step times are determined by the readings. -/
theorem measured_eq_intervals {events : List LoopEvent} {final : StepLoop}
    (reached : run step loop events = some final) :
    observations step measured loop events =
      intervals loop.startTime (events.flatMap readings) := by
  induction events generalizing loop with
  | nil => rfl
  | cons event rest inductionHypothesis =>
      rw [run_cons] at reached
      rcases Option.bind_eq_some_iff.mp reached with ⟨next, stepped, onwards⟩
      rw [observations_cons stepped, inductionHypothesis onwards, List.flatMap_cons]
      cases event with
      | iterate endTime startTime =>
          rcases iterate_readings stepped with ⟨taken, kept⟩
          rw [measured, readings, taken, kept]
          rfl
      | minSteps _ | maxSteps _ | timeDilationBoundary _ | timeDilationDecreaser _ =>
          cases stepped
          rfl

/-- The intervals leave out what passes between an end and the next start. -/
theorem sum_intervals (startTime : ℚ) (earlier : List (ℚ × ℚ)) (endTime following : ℚ) :
    (intervals startTime (earlier ++ [(endTime, following)])).sum +
        (earlier.map fun pair => pair.2 - pair.1).sum = endTime - startTime := by
  induction earlier generalizing startTime with
  | nil =>
      rw [List.nil_append, intervals, intervals, List.map_nil, List.sum_nil, List.sum_singleton,
        add_zero]
  | cons pair rest inductionHypothesis =>
      rcases pair with ⟨stop, start⟩
      rw [List.cons_append, intervals, List.map_cons, List.sum_cons, List.sum_cons]
      have later := inductionHypothesis start
      linarith

/-- Nothing is left out exactly if each start is read with the end before it. -/
theorem sum_lost_eq_zero_iff {pairs : List (ℚ × ℚ)} (ordered : ∀ pair ∈ pairs, pair.1 ≤ pair.2) :
    (pairs.map fun pair => pair.2 - pair.1).sum = 0 ↔ ∀ pair ∈ pairs, pair.2 = pair.1 := by
  induction pairs with
  | nil => simp only [List.map_nil, List.sum_nil, List.not_mem_nil, false_implies, implies_true]
  | cons pair rest inductionHypothesis =>
      rw [List.forall_mem_cons] at ordered
      rw [List.map_cons, List.sum_cons, List.forall_mem_cons, ← inductionHypothesis ordered.2]
      have nonnegative : 0 ≤ (rest.map fun pair => pair.2 - pair.1).sum := List.sum_nonneg ?_
      · rw [add_eq_zero_iff_of_nonneg (sub_nonneg.mpr ordered.1) nonnegative, sub_eq_zero]
      intro lost member
      rcases List.mem_map.mp member with ⟨later, inRest, rfl⟩
      exact sub_nonneg.mpr (ordered.2 later inRest)

/-- For a clock that does not go back, the measured step times add up to the
time that has passed exactly if the clock has stood still from the end of each
iteration but the last to the start of the next. -/
theorem keeps_up_iff (control : TimeControl) (startTime : ℚ) (events : List LoopEvent)
    (loop : StepLoop) (reached : run step (entered control startTime) events = some loop)
    (earlier : List (ℚ × ℚ)) (endTime following : ℚ)
    (clock : events.flatMap readings = earlier ++ [(endTime, following)])
    (forward : (startTime :: (events.flatMap readings).flatMap fun pair =>
      [pair.1, pair.2]).Pairwise (· ≤ ·)) :
    (observations step measured (entered control startTime) events).sum = endTime - startTime ↔
      ∀ pair ∈ earlier, pair.2 = pair.1 := by
  have ordered : ∀ pair ∈ earlier, pair.1 ≤ pair.2 := by
    intro pair member
    have readings := (List.pairwise_flatMap.mp (List.pairwise_cons.mp forward).2).1 pair
      (clock ▸ List.mem_append_left _ member)
    exact List.rel_of_pairwise_cons readings (List.mem_singleton_self _)
  have total := sum_intervals startTime earlier endTime following
  rw [measured_eq_intervals reached, clock, ← sum_lost_eq_zero_iff ordered, ← total]
  exact left_eq_add

/-- Both readings of the first iteration are the same, and the second
iteration ends later. -/
theorem keeps_up_iff_two_steps :
    (observations step measured (entered TimeControl.constructed 0)
        [.iterate 1 1, .iterate 2 2]).sum = 2 - 0 ↔
      ∀ pair ∈ [((1 : ℚ), (1 : ℚ))], pair.2 = pair.1 :=
  keeps_up_iff TimeControl.constructed 0 [.iterate 1 1, .iterate 2 2]
    ⟨{ TimeControl.constructed with mLoad := 1, mTDDelay := 81 / 100 }, 2, 1, 0, 0⟩
    (by decide +kernel) [(1, 1)] 2 2 rfl (by decide +kernel)

/-- The clock moves on by a second between the end of the first iteration and
the start of the second, and no step time shows it. -/
theorem second_lost :
    (run step (entered TimeControl.constructed 0) [.iterate 0 1, .iterate 1 1]).isSome ∧
      ¬ (observations step measured (entered TimeControl.constructed 0)
          [.iterate 0 1, .iterate 1 1]).sum = 1 - 0 := by
  decide +kernel

end StepLoop

end GameServer
end Pxc
