import Mathlib.Algebra.Order.Field.Rat
import Mathlib.Data.Rat.Floor
import Pxc.General.Histories

namespace Pxc
namespace GameServer

open General

/-!
# The loop of a zone's thread

`ZoneHandler::startThread` runs the game of a zone step by step.  Each
iteration measures how long its step took, naps if that was too short, and
adds the time to a second.  When a second is over, the average step time gives
the load of the zone, and a load above the boundary slows the game down: the
time handed to it is multiplied by `mTDDelay`.

The doubles are exact rational numbers here, and so are the readings of the
clock, of which one is the `endTime` of an iteration and the next one the
`startTime` for the following iteration.  What is undefined stays so: the
conversion of a double that no `unsigned int` can hold, and an `int` counter
that overflows.  The setters run in other threads, but all that the loop reads
of what they write is read once in an iteration, under the mutex they take.
The states below are those outside that mutex.
-/

/-- The data members of `ZoneHandler` that control its time. -/
structure TimeControl where
  mMaxSteps : ℚ
  mMinSteps : ℚ
  mMinStepTime : ℚ
  mMaxStepTime : ℚ
  mTDBoundary : ℚ
  mTDDelay : ℚ
  mTDDecreaser : ℚ
  mLoad : ℚ
  deriving DecidableEq, Repr

namespace TimeControl

def DEFAULT_MAX_STEPS_PER_SEC : ℚ := 100

def DEFAULT_MIN_STEPS_PER_SEC : ℚ := 25

def TD_DEFAULT_BOUNDARY : ℚ := 3 / 4

def TD_DEFAULT_DECREASER : ℚ := 9 / 10

/-- The constructor `ZoneHandler(zoneId)`. -/
def constructed : TimeControl where
  mMaxSteps := DEFAULT_MAX_STEPS_PER_SEC
  mMinSteps := DEFAULT_MIN_STEPS_PER_SEC
  mMinStepTime := 1 / DEFAULT_MAX_STEPS_PER_SEC
  mMaxStepTime := 1 / DEFAULT_MIN_STEPS_PER_SEC
  mTDBoundary := TD_DEFAULT_BOUNDARY
  mTDDelay := 1
  mTDDecreaser := TD_DEFAULT_DECREASER
  mLoad := 0

/-- `ZoneHandler::minSteps(steps)`. -/
def minSteps (control : TimeControl) (steps : ℚ) : TimeControl :=
  { control with mMinSteps := steps }

/-- `ZoneHandler::maxSteps(steps)`. -/
def maxSteps (control : TimeControl) (steps : ℚ) : TimeControl :=
  { control with mMaxSteps := steps }

/-- `ZoneHandler::timeDilationBoundary(loadPercentage)`. -/
def timeDilationBoundary (control : TimeControl) (loadPercentage : ℚ) : TimeControl :=
  { control with mTDBoundary := loadPercentage }

/-- `ZoneHandler::timeDilationDecreaser(decreaser)`. -/
def timeDilationDecreaser (control : TimeControl) (decreaser : ℚ) : TimeControl :=
  { control with mTDDecreaser := decreaser }

/-- The load that an average step time means, with its two corrections. -/
def load (control : TimeControl) (avgStepTime : ℚ) : ℚ :=
  let mLoad := (avgStepTime - control.mMinStepTime) / (control.mMaxStepTime - control.mMinStepTime)
  let mLoad := if mLoad > 1 then 1 else mLoad
  if mLoad < 0 then 0 else mLoad

/-- What the loop does at the end of a second. -/
def evaluate (control : TimeControl) (avgStepTime : ℚ) : TimeControl :=
  let mLoad := control.load avgStepTime
  if mLoad > control.mTDBoundary then
    { control with mLoad, mTDDelay := control.mTDDelay * control.mTDDecreaser }
  else if control.mTDDelay < 1 ∧ mLoad < control.mTDBoundary then
    { control with mLoad, mTDDelay := 1 }
  else { control with mLoad }

theorem evaluate_eq (control : TimeControl) (avgStepTime : ℚ) : control.evaluate avgStepTime =
    { control with
      mLoad := control.load avgStepTime
      mTDDelay :=
        if control.mTDBoundary < control.load avgStepTime then
          control.mTDDelay * control.mTDDecreaser
        else if control.mTDDelay < 1 ∧ control.load avgStepTime < control.mTDBoundary then 1
        else control.mTDDelay } := by
  simp only [evaluate, gt_iff_lt]
  split
  · rfl
  · split <;> rfl

/-- `(unsigned int)(mMinStepTime - stepTime)*1000`, where the conversion comes
before the product. -/
def usleepArgument (control : TimeControl) (stepTime : ℚ) : Option Nat :=
  let missing := control.mMinStepTime - stepTime
  if missing < 2 ^ 32 then some (⌊missing⌋.toNat * 1000 % 2 ^ 32) else none

/-- The microseconds for which an iteration sleeps, none if it does not. -/
def nap (control : TimeControl) (stepTime : ℚ) : Option Nat :=
  if stepTime < control.mMinStepTime then control.usleepArgument stepTime else some 0

end TimeControl

/-- The handler and the local variables of the loop, between two iterations. -/
structure StepLoop where
  control : TimeControl
  startTime : ℚ
  stepTime : ℚ
  stepsPerSec : Nat
  timeTillSec : ℚ
  deriving DecidableEq, Repr

/-- An iteration, with what the two calls of `time` return in it, or a call of
a setter. -/
inductive LoopEvent where
  | iterate (endTime startTime : ℚ)
  | minSteps (steps : ℚ)
  | maxSteps (steps : ℚ)
  | timeDilationBoundary (loadPercentage : ℚ)
  | timeDilationDecreaser (decreaser : ℚ)
  deriving DecidableEq, Repr

namespace StepLoop

/-- The state before the first iteration, with the first reading of the clock. -/
def entered (control : TimeControl) (startTime : ℚ) : StepLoop :=
  ⟨control, startTime, 0, 0, 0⟩

/-- The largest value of an `int`. -/
def INT_MAX : Nat := 2 ^ 31 - 1

/-- One iteration of the loop in `ZoneHandler::startThread`.  After the nap
the step time is computed once more, from the same two readings. -/
def iterate (loop : StepLoop) (endTime startTime : ℚ) : Option StepLoop :=
  let stepTime := endTime - loop.startTime
  (loop.control.nap stepTime).bind fun _ =>
    if loop.stepsPerSec < INT_MAX then
      let stepsPerSec := loop.stepsPerSec + 1
      let timeTillSec := loop.timeTillSec + stepTime
      some <|
        if 1 ≤ timeTillSec then
          ⟨loop.control.evaluate (timeTillSec / stepsPerSec), startTime, stepTime, 0, 0⟩
        else ⟨loop.control, startTime, stepTime, stepsPerSec, timeTillSec⟩
    else none

/-- One iteration, or one call of a setter. -/
def step (loop : StepLoop) : LoopEvent → Option StepLoop
  | .iterate endTime startTime => loop.iterate endTime startTime
  | .minSteps steps => some { loop with control := loop.control.minSteps steps }
  | .maxSteps steps => some { loop with control := loop.control.maxSteps steps }
  | .timeDilationBoundary loadPercentage =>
      some { loop with control := loop.control.timeDilationBoundary loadPercentage }
  | .timeDilationDecreaser decreaser =>
      some { loop with control := loop.control.timeDilationDecreaser decreaser }

/-- The event is an iteration at whose end a second is over. -/
def EndsSecond (loop : StepLoop) : LoopEvent → Prop
  | .iterate endTime _ => 1 ≤ loop.timeTillSec + (endTime - loop.startTime)
  | _ => False

instance (loop : StepLoop) : (event : LoopEvent) → Decidable (loop.EndsSecond event)
  | .iterate endTime _ =>
      inferInstanceAs (Decidable (1 ≤ loop.timeTillSec + (endTime - loop.startTime)))
  | .minSteps _ => .isFalse id
  | .maxSteps _ => .isFalse id
  | .timeDilationBoundary _ => .isFalse id
  | .timeDilationDecreaser _ => .isFalse id

variable {loop next : StepLoop} {endTime startTime : ℚ} {event : LoopEvent}

/-- Everything that one iteration can do. -/
theorem iterate_eq_some_iff :
    loop.iterate endTime startTime = some next ↔
      (∃ micros, loop.control.nap (endTime - loop.startTime) = some micros) ∧
        loop.stepsPerSec < INT_MAX ∧
        next = if 1 ≤ loop.timeTillSec + (endTime - loop.startTime) then
            ⟨loop.control.evaluate ((loop.timeTillSec + (endTime - loop.startTime)) /
                ((loop.stepsPerSec + 1 : Nat) : ℚ)),
              startTime, endTime - loop.startTime, 0, 0⟩
          else
            ⟨loop.control, startTime, endTime - loop.startTime, loop.stepsPerSec + 1,
              loop.timeTillSec + (endTime - loop.startTime)⟩ := by
  simp only [iterate, Option.bind_eq_some_iff, exists_and_right]
  apply and_congr_right
  intro _
  by_cases room : loop.stepsPerSec < INT_MAX
  · rw [if_pos room, and_iff_right room, Option.some.injEq]
    exact eq_comm
  · rw [if_neg room, iff_false_right fun both => room both.1]
    exact Option.some_ne_none next ∘ Eq.symm

theorem iterate_readings (iterated : loop.iterate endTime startTime = some next) :
    next.stepTime = endTime - loop.startTime ∧ next.startTime = startTime := by
  rcases iterate_eq_some_iff.mp iterated with ⟨_, _, rfl⟩
  split <;> exact ⟨rfl, rfl⟩

/-- The step time limits never change. -/
theorem step_limits (stepped : loop.step event = some next) :
    next.control.mMinStepTime = loop.control.mMinStepTime ∧
      next.control.mMaxStepTime = loop.control.mMaxStepTime := by
  cases event with
  | iterate endTime startTime =>
      rcases iterate_eq_some_iff.mp stepped with ⟨_, _, rfl⟩
      split
      · rw [TimeControl.evaluate_eq]
        exact ⟨rfl, rfl⟩
      · exact ⟨rfl, rfl⟩
  | minSteps _ | maxSteps _ | timeDilationBoundary _ | timeDilationDecreaser _ =>
      cases stepped
      exact ⟨rfl, rfl⟩

end StepLoop

end GameServer
end Pxc
