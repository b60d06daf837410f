import Mathlib.Tactic.Common
import Pxc.General.Runs

namespace Pxc
namespace GameServer

open General

/-!
# Stopping a zone's thread

The thread of a zone runs `ZoneHandler::startThread`.  It shares the flag
`mRun` with the thread that calls `stop()`, and each read or write of the flag
is one atomic step, under `mParamMutex`.  The flag is raised by the thread
itself after the game has been initialised, and is written again with the
result of every game step.  `stop()` lowers it and then waits for the thread
to end.

Between two accesses to the flag the thread is in one of the phases below.
The results of `init` and `step` come from the game, so any result may occur.
A null game counts as one whose initialisation fails.  Everything else that
the loop computes leaves the flag alone.
-/

/-- Where the zone's thread is. -/
inductive Phase where
  | initialising
  | starting
  | looping
  | guarding
  | stepping
  | stepped (result : Bool)
  | resting
  | ended
  deriving DecidableEq, Repr

/-- The flag, the phase of the thread, and the number of game steps begun. -/
structure Running where
  mRun : Bool
  phase : Phase
  steps : Nat
  deriving DecidableEq, Repr

/-- One atomic step of the two threads. -/
inductive ThreadStep where
  | initialise (result : Bool)
  | raise
  | test
  | guard
  | step (result : Bool)
  | write
  | rest
  | stop
  deriving DecidableEq, Repr

/-- What a handler is like just after `start()`. -/
def started : Running :=
  ⟨false, .initialising, 0⟩

/-- `ZoneHandler::startThread`, one access to the flag or one call of the game
at a time, and the write of `ZoneHandler::stop`.  Its wait is over when the
thread has ended. -/
def threadStep (s : Running) : ThreadStep → Option Running
  | .initialise result =>
      if s.phase = .initialising then
        some { s with phase := if result then .starting else .ended }
      else none
  | .raise =>
      if s.phase = .starting then some { s with mRun := true, phase := .looping } else none
  | .test =>
      if s.phase = .looping then
        some { s with phase := if s.mRun then .guarding else .ended }
      else none
  | .guard =>
      if s.phase = .guarding then
        if s.mRun then some { s with phase := .stepping, steps := s.steps + 1 }
        else some { s with phase := .resting }
      else none
  | .step result =>
      if s.phase = .stepping then some { s with phase := .stepped result } else none
  | .write =>
      match s.phase with
      | .stepped result => some { s with mRun := result, phase := .resting }
      | _ => none
  | .rest =>
      if s.phase = .resting then some { s with phase := .looping } else none
  | .stop => some { s with mRun := false }

/-- A stop request that comes in this state is not lost.  Whatever follows,
the flag stays lowered and no further game step is begun.  Left to itself the
thread gets to its end, within so many steps that the bound does not depend on
what it does. -/
structure StopHolds (s : Running) : Prop where
  lowered : ∀ steps t, run threadStep s (.stop :: steps) = some t → t.mRun = false
  stepless : ∀ steps t, run threadStep s (.stop :: steps) = some t → t.steps = s.steps
  bounded : ∃ bound, ∀ steps t, ThreadStep.stop ∉ steps →
    run threadStep s (.stop :: steps) = some t → steps.length ≤ bound
  advances : ∀ steps t, run threadStep s (.stop :: steps) = some t → t.phase ≠ .ended →
    ∃ step next, step ≠ ThreadStep.stop ∧ threadStep t step = some next

/-- The thread is not about to raise the flag: it has started its loop, and is
not within a game step whose result may be true. -/
def Phase.Quiet : Phase → Prop
  | .initialising | .starting | .stepping | .stepped true => False
  | .looping | .guarding | .stepped false | .resting | .ended => True

/-- The steps of a quiet thread with a lowered flag before its end. -/
def Phase.remaining : Phase → Nat
  | .ended => 0
  | .looping => 1
  | .resting => 2
  | _ => 3

/-- A stop request has been made, and will not be lost. -/
structure Stopped (steps : Nat) (s : Running) : Prop where
  lowered : s.mRun = false
  quiet : s.phase.Quiet
  count : s.steps = steps

/-- A stopped thread stays so, and gets nearer to its end. -/
theorem Stopped.advance {steps : Nat} {s next : Running} (stopped : Stopped steps s)
    {step : ThreadStep} (stepped : threadStep s step = some next) :
    Stopped steps next ∧ (step ≠ .stop → next.phase.remaining < s.phase.remaining) := by
  rcases s with ⟨mRun, phase, count⟩
  rcases stopped with ⟨lowered, quiet, rfl⟩
  cases lowered
  cases step with
  | stop =>
      cases stepped
      exact ⟨⟨rfl, quiet, rfl⟩, fun different => absurd rfl different⟩
  | initialise result =>
      simp only [threadStep] at stepped
      split at stepped
      · next here =>
        cases here
        cases quiet
      · cases stepped
  | raise =>
      simp only [threadStep] at stepped
      split at stepped
      · next here =>
        cases here
        cases quiet
      · cases stepped
  | test =>
      simp only [threadStep, Bool.false_eq_true, if_false] at stepped
      split at stepped
      · next here =>
        cases here
        cases stepped
        exact ⟨⟨rfl, trivial, rfl⟩, fun _ => Nat.zero_lt_one⟩
      · cases stepped
  | guard =>
      simp only [threadStep, Bool.false_eq_true, if_false] at stepped
      split at stepped
      · next here =>
        cases here
        cases stepped
        exact ⟨⟨rfl, trivial, rfl⟩, fun _ => Nat.lt_succ_self 2⟩
      · cases stepped
  | step result =>
      simp only [threadStep] at stepped
      split at stepped
      · next here =>
        cases here
        cases quiet
      · cases stepped
  | write =>
      -- A step that has failed writes the flag once more, as it already is.
      cases phase with
      | stepped result =>
          cases result with
          | true => cases quiet
          | false =>
              cases stepped
              exact ⟨⟨rfl, trivial, rfl⟩, fun _ => Nat.lt_succ_self 2⟩
      | _ => cases stepped
  | rest =>
      simp only [threadStep] at stepped
      split at stepped
      · next here =>
        cases here
        cases stepped
        exact ⟨⟨rfl, trivial, rfl⟩, fun _ => Nat.lt_succ_self 1⟩
      · cases stepped

theorem Stopped.run {steps : Nat} {s t : Running} (stopped : Stopped steps s)
    {moves : List ThreadStep} (ran : run threadStep s moves = some t) : Stopped steps t := by
  refine run_invariant_of_step (fun _ => True) (fun _ => Stopped steps) (fun _ _ _ => trivial)
    stopped ?_ trivial ran
  intro before state step next _ held stepped
  exact (held.advance stepped).1

/-- A thread that has not ended has a step to make. -/
theorem exists_threadStep {s : Running} (running : s.phase ≠ .ended) :
    ∃ step next, step ≠ ThreadStep.stop ∧ threadStep s step = some next := by
  rcases s with ⟨mRun, phase, count⟩
  cases phase with
  | initialising => exact ⟨.initialise true, _, by decide, rfl⟩
  | starting => exact ⟨.raise, _, by decide, rfl⟩
  | looping => exact ⟨.test, _, by decide, rfl⟩
  | guarding =>
      cases mRun with
      | true => exact ⟨.guard, _, by decide, rfl⟩
      | false => exact ⟨.guard, _, by decide, rfl⟩
  | stepping => exact ⟨.step true, _, by decide, rfl⟩
  | stepped result => exact ⟨.write, _, by decide, rfl⟩
  | resting => exact ⟨.rest, _, by decide, rfl⟩
  | ended => exact absurd rfl running

/-- A stop request that finds the thread quiet is not lost. -/
theorem stopHolds_of_quiet {s : Running} (quiet : s.phase.Quiet) : StopHolds s := by
  have stopped : Stopped s.steps { s with mRun := false } := ⟨rfl, quiet, rfl⟩
  have stops : ∀ moves : List ThreadStep,
      run threadStep s (.stop :: moves) = run threadStep { s with mRun := false } moves :=
    fun _ => rfl
  refine ⟨?_, ?_, ?_, ?_⟩
  · intro moves t ran
    rw [stops] at ran
    exact (stopped.run ran).lowered
  · intro moves t ran
    rw [stops] at ran
    exact (stopped.run ran).count
  · refine ⟨s.phase.remaining, ?_⟩
    intro moves t alone ran
    rw [stops] at ran
    have within := length_le_of_run (Stopped s.steps) (fun s => s.phase.remaining) stopped
      (fun state step member next held stepped =>
        ⟨(held.advance stepped).1, (held.advance stepped).2 fun same => alone (same ▸ member)⟩) ran
    exact Nat.le_of_add_right_le within
  · intro moves t _ running
    exact exists_threadStep running

/-- A stop request that comes before the thread has raised the flag, or within
a game step, can be lost. -/
theorem not_stopHolds_of_not_quiet {s : Running} (loud : ¬ s.phase.Quiet) : ¬ StopHolds s := by
  intro holds
  have raised : ∃ moves t, run threadStep s (.stop :: moves) = some t ∧ t.mRun = true := by
    rcases s with ⟨mRun, phase, count⟩
    cases phase with
    | initialising => exact ⟨[.initialise true, .raise], _, rfl, rfl⟩
    | starting => exact ⟨[.raise], _, rfl, rfl⟩
    | stepping => exact ⟨[.step true, .write], _, rfl, rfl⟩
    | stepped result =>
        cases result with
        | true => exact ⟨[.write], _, rfl, rfl⟩
        | false => exact absurd trivial loud
    | looping => exact absurd trivial loud
    | guarding => exact absurd trivial loud
    | resting => exact absurd trivial loud
    | ended => exact absurd trivial loud
  rcases raised with ⟨moves, t, ran, up⟩
  rw [holds.lowered moves t ran] at up
  cases up

/-- Along every interleaving, the stop requests that are not lost are those
that find the thread quiet. -/
theorem stopHolds_iff (moves : List ThreadStep) :
    AtEach threadStep (fun _ s move => move = .stop → StopHolds s) started moves ↔
      AtEach threadStep (fun _ s move => move = .stop → s.phase.Quiet) started moves := by
  refine atEach_iff (fun _ => True) (fun _ _ => True) (fun _ _ _ => trivial) trivial ?_
    (fun _ _ _ _ _ _ _ _ => trivial) trivial
  intro before s move _ _
  constructor
  · intro held requested
    by_contra loud
    exact not_stopHolds_of_not_quiet loud (held requested)
  · intro quiet requested
    exact stopHolds_of_quiet (quiet requested)

/-- A stop request right after `start()` is lost: the thread then raises the
flag, and goes on to make game steps. -/
theorem stop_lost : ¬ ∀ moves s, run threadStep started moves = some s → StopHolds s := by
  intro always
  have holds := always [] started rfl
  have lowered := holds.lowered [.initialise true, .raise, .test, .guard] _ rfl
  cases lowered

end GameServer
end Pxc
