import Mathlib.Tactic.Common

namespace Pxc
namespace General

/-!
# Threads that share a mutex

Each thread has a program of actions still to be done.  An action takes the
mutex, gives it back, or does some work, and work may put further actions in
front of the program.  The mutex is not recursive: a thread that asks for it
while holding it waits for itself, and so does everybody else.

Threads that take the mutex once around some work follow a discipline, which
every action keeps as long as the work puts only more work in front.  It rules
out that a thread waits for itself; work that asks for the mutex once more is
what breaks it.
-/

universe u v

/-- One action of a thread. -/
inductive Action (Work : Type u) where
  | lock
  | unlock
  | work (work : Work)

/-- What the threads still have to do, and which of them holds the mutex. -/
structure Threads (Thread : Type u) (Work : Type v) where
  program : Thread → List (Action Work)
  holder : Option Thread

namespace Threads

variable {Thread : Type u} {Work : Type v} [DecidableEq Thread]
  {threads : Threads Thread Work} {thread : Thread} {program rest pushed : List (Action Work)}

/-- No thread has anything to do, and nobody holds the mutex. -/
def idle : Threads Thread Work where
  program := fun _ => []
  holder := none

/-- Give one thread another program. -/
def setProgram (threads : Threads Thread Work) (thread : Thread) (program : List (Action Work)) :
    Threads Thread Work :=
  { threads with program := fun other => if other = thread then program else threads.program other }

/-- Take the mutex, which blocks while anybody holds it. -/
def acquire (threads : Threads Thread Work) (thread : Thread) (rest : List (Action Work)) :
    Option (Threads Thread Work) :=
  match threads.holder with
  | none => some { threads.setProgram thread rest with holder := some thread }
  | some _ => none

theorem acquire_of_free (free : threads.holder = none) : threads.acquire thread rest =
    some { threads.setProgram thread rest with holder := some thread } := by
  unfold acquire
  rw [free]

/-- Give the mutex back. -/
def release (threads : Threads Thread Work) (thread : Thread) (rest : List (Action Work)) :
    Threads Thread Work :=
  { threads.setProgram thread rest with holder := none }

@[simp] theorem program_setProgram_self :
    (threads.setProgram thread program).program thread = program :=
  if_pos rfl

theorem program_setProgram_of_ne {other : Thread} (different : other ≠ thread) :
    (threads.setProgram thread program).program other = threads.program other :=
  if_neg different

/-- A thread asks for the mutex that it holds. -/
def SelfLocked (threads : Threads Thread Work) : Prop :=
  ∃ thread rest, threads.holder = some thread ∧ threads.program thread = .lock :: rest

/-- The program consists of work. -/
def Works (program : List (Action Work)) : Prop :=
  ∀ action ∈ program, ∃ work, action = .work work

/-- What is left of a program that holds the mutex: work, then giving back. -/
def Inside (program : List (Action Work)) : Prop :=
  ∃ body, Works body ∧ program = body ++ [.unlock]

/-- What is left of a program that does not: nothing, or taking the mutex
around some work. -/
def Outside (program : List (Action Work)) : Prop :=
  program = [] ∨ ∃ rest, program = .lock :: rest ∧ Inside rest

/-- Every thread is inside or outside as the mutex says. -/
structure Disciplined (threads : Threads Thread Work) : Prop where
  inside : ∀ thread, threads.holder = some thread → Inside (threads.program thread)
  outside : ∀ thread, threads.holder ≠ some thread → Outside (threads.program thread)

omit [DecidableEq Thread] in
theorem works_nil : Works ([] : List (Action Work)) := by
  intro action member
  cases member

omit [DecidableEq Thread] in
theorem works_append (first : Works pushed) (second : Works rest) : Works (pushed ++ rest) := by
  intro action member
  rcases List.mem_append.mp member with early | late
  · exact first action early
  · exact second action late

omit [DecidableEq Thread] in
theorem not_inside_nil : ¬ Inside ([] : List (Action Work)) := by
  intro inside
  rcases inside with ⟨body, _, split⟩
  cases body <;> cases split

omit [DecidableEq Thread] in
theorem not_inside_lock : ¬ Inside (.lock :: rest) := by
  intro inside
  rcases inside with ⟨body, works, split⟩
  cases body with
  | nil => cases split
  | cons action body =>
      cases split
      rcases works .lock List.mem_cons_self with ⟨work, same⟩
      cases same

omit [DecidableEq Thread] in
theorem inside_unlock (inside : Inside (.unlock :: rest)) : rest = [] := by
  rcases inside with ⟨body, works, split⟩
  cases body with
  | nil =>
      cases split
      rfl
  | cons action body =>
      cases split
      rcases works .unlock List.mem_cons_self with ⟨work, same⟩
      cases same

omit [DecidableEq Thread] in
/-- Work inside gives way to the work it puts in front. -/
theorem inside_work {work : Work} (inside : Inside (.work work :: rest)) (works : Works pushed) :
    Inside (pushed ++ rest) := by
  rcases inside with ⟨body, worksBody, split⟩
  cases body with
  | nil => cases split
  | cons action body =>
      cases split
      refine ⟨pushed ++ body, ?_, (List.append_assoc pushed body _).symm⟩
      exact works_append works fun action member =>
        worksBody action (List.mem_cons_of_mem _ member)

omit [DecidableEq Thread] in
theorem inside_of_outside_lock (outside : Outside (.lock :: rest)) : Inside rest := by
  rcases outside with nothing | ⟨rest', split, inside⟩
  · cases nothing
  · cases split
    exact inside

omit [DecidableEq Thread] in
theorem not_outside_unlock : ¬ Outside (.unlock :: rest) := by
  intro outside
  rcases outside with nothing | ⟨rest', split, _⟩
  · cases nothing
  · cases split

omit [DecidableEq Thread] in
theorem not_outside_work {work : Work} : ¬ Outside (.work work :: rest) := by
  intro outside
  rcases outside with nothing | ⟨rest', split, _⟩
  · cases nothing
  · cases split

namespace Disciplined

omit [DecidableEq Thread] in
theorem idle : Disciplined (Threads.idle : Threads Thread Work) where
  inside := by
    intro thread held
    cases held
  outside := fun _ _ => .inl rfl

omit [DecidableEq Thread] in
theorem not_selfLocked (disciplined : Disciplined threads) : ¬ SelfLocked threads := by
  intro locked
  rcases locked with ⟨thread, rest, held, asks⟩
  have inside := disciplined.inside thread held
  rw [asks] at inside
  exact not_inside_lock inside

omit [DecidableEq Thread] in
theorem not_holder_of_idle (disciplined : Disciplined threads)
    (nothing : threads.program thread = []) : threads.holder ≠ some thread := by
  intro held
  have inside := disciplined.inside thread held
  rw [nothing] at inside
  exact not_inside_nil inside

omit [DecidableEq Thread] in
theorem holder_of_work (disciplined : Disciplined threads) {work : Work}
    (does : threads.program thread = .work work :: rest) : threads.holder = some thread := by
  apply Classical.byContradiction
  intro free
  have outside := disciplined.outside thread free
  rw [does] at outside
  exact not_outside_work outside

omit [DecidableEq Thread] in
theorem holder_of_unlock (disciplined : Disciplined threads)
    (gives : threads.program thread = .unlock :: rest) : threads.holder = some thread := by
  apply Classical.byContradiction
  intro free
  have outside := disciplined.outside thread free
  rw [gives] at outside
  exact not_outside_unlock outside

/-- An idle thread begins a program. -/
theorem start (disciplined : Disciplined threads) (nothing : threads.program thread = [])
    (outside : Outside program) : Disciplined (threads.setProgram thread program) where
  inside := by
    intro other held
    have different : other ≠ thread := by
      intro same
      exact disciplined.not_holder_of_idle nothing (same ▸ held)
    rw [program_setProgram_of_ne different]
    exact disciplined.inside other held
  outside := by
    intro other free
    by_cases same : other = thread
    · rw [same, program_setProgram_self]
      exact outside
    · rw [program_setProgram_of_ne same]
      exact disciplined.outside other free

theorem acquire (disciplined : Disciplined threads) {taken : Threads Thread Work}
    (asks : threads.program thread = .lock :: rest)
    (done : threads.acquire thread rest = some taken) : Disciplined taken := by
  unfold Threads.acquire at done
  cases held : threads.holder with
  | some holder =>
      rw [held] at done
      cases done
  | none =>
      rw [held] at done
      cases done
      have outside := disciplined.outside thread (by simp only [held, ne_eq, reduceCtorEq,
        not_false_eq_true])
      rw [asks] at outside
      refine ⟨?_, ?_⟩
      · intro other holds
        have same : thread = other := Option.some.inj holds
        subst same
        change Inside ((threads.setProgram thread rest).program thread)
        rw [program_setProgram_self]
        exact inside_of_outside_lock outside
      · intro other notHolder
        have different : other ≠ thread := fun same => notHolder (congrArg some same.symm)
        change Outside ((threads.setProgram thread rest).program other)
        rw [program_setProgram_of_ne different]
        exact disciplined.outside other (by simp only [held, ne_eq, reduceCtorEq,
          not_false_eq_true])

theorem release (disciplined : Disciplined threads)
    (gives : threads.program thread = .unlock :: rest) :
    Disciplined (threads.release thread rest) := by
  have held := disciplined.holder_of_unlock gives
  have nothing : rest = [] := inside_unlock (gives ▸ disciplined.inside thread held)
  refine ⟨?_, ?_⟩
  · intro other holds
    cases holds
  · intro other _
    change Outside ((threads.setProgram thread rest).program other)
    by_cases same : other = thread
    · rw [same, program_setProgram_self, nothing]
      exact .inl rfl
    · rw [program_setProgram_of_ne same]
      apply disciplined.outside other
      intro holds
      exact same (Option.mem_unique holds held)

/-- Work that puts only more work in front keeps the discipline. -/
theorem work (disciplined : Disciplined threads) {work : Work}
    (does : threads.program thread = .work work :: rest) (works : Works pushed) :
    Disciplined (threads.setProgram thread (pushed ++ rest)) where
  inside := by
    intro other held
    by_cases same : other = thread
    · subst same
      rw [program_setProgram_self]
      exact inside_work (does ▸ disciplined.inside other held) works
    · rw [program_setProgram_of_ne same]
      exact disciplined.inside other held
  outside := by
    intro other free
    by_cases same : other = thread
    · subst same
      exact absurd (disciplined.holder_of_work does) free
    · rw [program_setProgram_of_ne same]
      exact disciplined.outside other free

end Disciplined

/-- Work of the holder that asks for the mutex makes it wait for itself. -/
theorem selfLocked_of_lock (held : threads.holder = some thread) :
    SelfLocked (threads.setProgram thread (.lock :: rest)) :=
  ⟨thread, rest, held, program_setProgram_self⟩

end Threads

end General
end Pxc
