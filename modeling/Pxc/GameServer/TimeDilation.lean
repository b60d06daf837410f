import Mathlib.Tactic.NormNum
import Pxc.GameServer.StepLoop

namespace Pxc
namespace GameServer

open General

/-!
# Load and time dilation

At the end of each second the loop computes a load and compares it with the
boundary.  A load above it multiplies the delay by the decreaser, a load below
it sets the delay back to one, and a load equal to it does neither.  The delay
is thus a power of the decreaser, whose exponent can be read off the seconds
evaluated so far.
-/

namespace StepLoop

/-- The load and the boundary of a second that has just been evaluated. -/
def evaluated (loop : StepLoop) (event : LoopEvent) (next : StepLoop) : List (ℚ × ℚ) :=
  if loop.EndsSecond event then [(next.control.mLoad, next.control.mTDBoundary)] else []

theorem evaluated_of_not_ends {loop next : StepLoop} {event : LoopEvent}
    (goesOn : ¬ loop.EndsSecond event) : loop.evaluated event next = [] :=
  if_neg goesOn

/-- The seconds with a load above the boundary since the last one with a load
below it. -/
def secondsAbove (seconds : List (ℚ × ℚ)) : Nat :=
  (seconds.reverse.takeWhile fun second => ¬ second.1 < second.2).countP fun second =>
    second.2 < second.1

theorem secondsAbove_concat (seconds : List (ℚ × ℚ)) (load boundary : ℚ) :
    secondsAbove (seconds ++ [(load, boundary)]) =
      if load < boundary then 0
      else if boundary < load then secondsAbove seconds + 1
      else secondsAbove seconds := by
  rw [secondsAbove, List.reverse_append, List.reverse_singleton, List.singleton_append,
    List.takeWhile_cons]
  by_cases below : load < boundary
  · simp only [below, not_true_eq_false, decide_false, Bool.false_eq_true, if_false,
      List.countP_nil, if_true]
  · simp only [below, not_false_eq_true, decide_true, if_true, if_false, List.countP_cons,
      decide_eq_true_eq]
    by_cases above : boundary < load
    · simp only [if_pos above]
      rfl
    · simp only [if_neg above, Nat.add_zero]
      rfl

end StepLoop

namespace TimeControl

variable (control : TimeControl) (avgStepTime : ℚ)

/-- The two corrections keep the load between zero and one. -/
theorem load_eq : control.load avgStepTime =
    max (min ((avgStepTime - control.mMinStepTime) /
      (control.mMaxStepTime - control.mMinStepTime)) 1) 0 := by
  simp only [load]
  generalize (avgStepTime - control.mMinStepTime) /
    (control.mMaxStepTime - control.mMinStepTime) = quotient
  by_cases large : quotient > 1
  · rw [if_pos large, min_eq_right large.le, if_neg (not_lt.mpr zero_le_one),
      max_eq_left zero_le_one]
  · rw [if_neg large, min_eq_left (not_lt.mp large)]
    split
    · next negative => exact (max_eq_right negative.le).symm
    · next nonnegative => exact (max_eq_left (not_lt.mp nonnegative)).symm

theorem load_nonneg : 0 ≤ control.load avgStepTime := by
  rw [load_eq]
  exact le_max_right _ _

theorem load_le_one : control.load avgStepTime ≤ 1 := by
  rw [load_eq]
  exact max_le (min_le_right _ _) zero_le_one

end TimeControl

namespace StepLoop

/-- The load is a share of the allowed time, the delay is the power of the
decreaser that the evaluated seconds call for, and no iteration divides by
zero. -/
structure Dilates (decreaser : ℚ) (seconds : List (ℚ × ℚ)) (loop : StepLoop) : Prop where
  steps : ((loop.stepsPerSec + 1 : Nat) : ℚ) ≠ 0
  limits : loop.control.mMaxStepTime - loop.control.mMinStepTime ≠ 0
  load_nonneg : 0 ≤ loop.control.mLoad
  load_le_one : loop.control.mLoad ≤ 1
  delay : loop.control.mTDDelay = decreaser ^ secondsAbove seconds
  delay_pos : 0 < loop.control.mTDDelay
  delay_le_one : loop.control.mTDDelay ≤ 1

/-- The part of this that a run has to keep. -/
structure Dilating (decreaser : ℚ) (seconds : List (ℚ × ℚ)) (loop : StepLoop) : Prop where
  limits : loop.control.mMinStepTime < loop.control.mMaxStepTime
  load_nonneg : 0 ≤ loop.control.mLoad
  load_le_one : loop.control.mLoad ≤ 1
  fixed : loop.control.mTDDecreaser = decreaser
  delay : loop.control.mTDDelay = decreaser ^ secondsAbove seconds

variable {decreaser : ℚ} {seconds : List (ℚ × ℚ)} {loop next : StepLoop} {event : LoopEvent}

theorem Dilating.inRange (dilating : Dilating decreaser seconds loop) (positive : 0 < decreaser)
    (small : decreaser < 1) : Dilates decreaser seconds loop where
  steps := Nat.cast_ne_zero.mpr (Nat.succ_ne_zero _)
  limits := sub_ne_zero.mpr dilating.limits.ne'
  load_nonneg := dilating.load_nonneg
  load_le_one := dilating.load_le_one
  delay := dilating.delay
  delay_pos := dilating.delay ▸ pow_pos positive _
  delay_le_one := dilating.delay ▸ pow_le_one₀ positive.le small.le

/-- The end of a second moves the exponent the way its load asks for. -/
theorem Dilating.evaluate (dilating : Dilating decreaser seconds loop) (positive : 0 < decreaser)
    (small : decreaser < 1) (avgStepTime : ℚ) :
    (loop.control.evaluate avgStepTime).mTDDelay =
      decreaser ^ secondsAbove
        (seconds ++ [(loop.control.load avgStepTime, loop.control.mTDBoundary)]) := by
  rw [TimeControl.evaluate_eq, secondsAbove_concat]
  simp only [dilating.fixed, dilating.delay]
  rcases lt_trichotomy (loop.control.load avgStepTime) loop.control.mTDBoundary with
    below | equal | above
  · simp only [if_neg below.not_gt, below, and_true, if_true, pow_zero]
    split
    · rfl
    · next whole => exact le_antisymm (pow_le_one₀ positive.le small.le) (not_lt.mp whole)
  · simp only [equal, lt_irrefl, and_false, if_false]
  · simp only [if_pos above, if_neg above.not_gt, pow_succ]

theorem Dilating.step (dilating : Dilating decreaser seconds loop) (positive : 0 < decreaser)
    (small : decreaser < 1) (fixed : ∀ other, event ≠ .timeDilationDecreaser other)
    (stepped : loop.step event = some next) :
    Dilating decreaser (seconds ++ evaluated loop event next) next := by
  cases event with
  | iterate endTime startTime =>
      rcases iterate_eq_some_iff.mp stepped with ⟨_, _, rfl⟩
      by_cases elapsed : 1 ≤ loop.timeTillSec + (endTime - loop.startTime)
      · have moved := dilating.evaluate positive small
          ((loop.timeTillSec + (endTime - loop.startTime)) / ((loop.stepsPerSec + 1 : Nat) : ℚ))
        have ends : loop.EndsSecond (.iterate endTime startTime) := elapsed
        rw [evaluated, if_pos ends, if_pos elapsed]
        refine ⟨?_, ?_, ?_, ?_, ?_⟩
        · simp only [TimeControl.evaluate_eq]
          exact dilating.limits
        · simp only [TimeControl.evaluate_eq]
          exact TimeControl.load_nonneg _ _
        · simp only [TimeControl.evaluate_eq]
          exact TimeControl.load_le_one _ _
        · simp only [TimeControl.evaluate_eq]
          exact dilating.fixed
        · rw [moved]
          simp only [TimeControl.evaluate_eq]
      · have goesOn : ¬ loop.EndsSecond (.iterate endTime startTime) := elapsed
        rw [evaluated_of_not_ends goesOn, List.append_nil, if_neg elapsed]
        exact ⟨dilating.limits, dilating.load_nonneg, dilating.load_le_one, dilating.fixed,
          dilating.delay⟩
  | timeDilationDecreaser other => exact absurd rfl (fixed other)
  | minSteps _ | maxSteps _ | timeDilationBoundary _ =>
      cases stepped
      rw [evaluated_of_not_ends id, List.append_nil]
      exact ⟨dilating.limits, dilating.load_nonneg, dilating.load_le_one, dilating.fixed,
        dilating.delay⟩

/-- A second with a load below the boundary ends the dilation. -/
theorem Dilates.delay_eq_one {load boundary : ℚ}
    (dilates : Dilates decreaser (seconds ++ [(load, boundary)]) loop) (below : load < boundary) :
    loop.control.mTDDelay = 1 := by
  rw [dilates.delay, secondsAbove_concat, if_pos below, pow_zero]

/-- In every state that the loop reaches, with a fixed decreaser between zero
and one, the load is in range and the delay is the right power. -/
theorem dilates (mMinStepTime mMaxStepTime mTDBoundary decreaser startTime : ℚ)
    (limits : mMinStepTime < mMaxStepTime) (positive : 0 < decreaser) (small : decreaser < 1)
    (events : List LoopEvent) (fixed : ∀ other, .timeDilationDecreaser other ∉ events)
    (loop : StepLoop)
    (reached : run step
      (entered { TimeControl.constructed with
        mMinStepTime, mMaxStepTime, mTDBoundary, mTDDecreaser := decreaser } startTime)
      events = some loop) :
    Dilates decreaser
      (observations step evaluated
        (entered { TimeControl.constructed with
          mMinStepTime, mMaxStepTime, mTDBoundary, mTDDecreaser := decreaser } startTime)
        events) loop := by
  generalize begun : entered { TimeControl.constructed with
    mMinStepTime, mMaxStepTime, mTDBoundary, mTDDecreaser := decreaser } startTime = start at *
  have starts : Dilating decreaser [] start := by
    subst begun
    exact ⟨limits, le_refl 0, zero_le_one, rfl, (pow_zero decreaser).symm⟩
  have kept := run_invariant_of_step
    (fun events => ∀ other, .timeDilationDecreaser other ∉ events)
    (fun events loop => run step start events = some loop ∧
      Dilating decreaser (observations step evaluated start events) loop)
    (fun first second closed other member => closed other (List.mem_append_left second member))
    ⟨rfl, starts⟩ ?_ fixed reached
  · exact kept.2.inRange positive small
  · rintro before state event next allowed ⟨earlier, dilating⟩ stepped
    refine ⟨(run_concat_eq_some_iff _ _ _ _).mpr ⟨state, earlier, stepped⟩, ?_⟩
    rw [observations_concat earlier stepped]
    refine dilating.step positive small ?_ stepped
    rintro other rfl
    exact allowed other (List.mem_append_right before (List.mem_singleton_self _))

/-- Two seconds with one step each are both above the boundary. -/
theorem dilates_two_seconds :
    Dilates (9 / 10)
      (observations step evaluated
        (entered { TimeControl.constructed with
          mMinStepTime := 1 / 100, mMaxStepTime := 1 / 25, mTDBoundary := 3 / 4,
          mTDDecreaser := 9 / 10 } 0)
        [.iterate 1 1, .iterate 2 2])
      ⟨{ TimeControl.constructed with mLoad := 1, mTDDelay := 81 / 100 }, 2, 1, 0, 0⟩ := by
  refine dilates (1 / 100) (1 / 25) (3 / 4) (9 / 10) 0 (by norm_num) (by norm_num) (by norm_num)
    [.iterate 1 1, .iterate 2 2] ?_ _ (by decide +kernel)
  intro other member
  simp only [List.mem_cons, reduceCtorEq, List.not_mem_nil, or_self] at member

end StepLoop

end GameServer
end Pxc
