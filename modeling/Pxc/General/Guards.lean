import Mathlib.Data.List.Nodup
import Pxc.General.Runs

namespace Pxc
namespace General

/-!
# Work under several mutexes

A job takes some mutexes one after the other, makes its accesses, and gives
the mutexes back, the last one first.  Any number of threads do such jobs at
the same time, and a thread that wants a mutex waits while another one has it.

If every job takes its mutexes in the order of a rank, then somebody can
always go on, so that all jobs come to their end.  Two threads can be about to
make conflicting accesses just when there are two jobs with such accesses and
without a common mutex.
-/

universe u v

/-- The mutexes of a job in the order in which it takes them, and what it does
while it has them all. -/
structure Job (Mutex : Type u) (Access : Type v) where
  mutexes : List Mutex
  accesses : List Access

/-- A thread at a job: the mutexes that it has, the latest first, those that it
still has to take, and the accesses that it still has to make. -/
structure Worker (Mutex : Type u) (Access : Type v) where
  held : List Mutex
  wanted : List Mutex
  left : List Access

/-- A thread begins a job, or one of them goes on. -/
inductive CrewAct (Mutex : Type u) (Access : Type v) where
  | start (job : Job Mutex Access)
  | go (index : Nat)

variable {Mutex : Type u} {Access : Type v}

namespace Worker

variable {worker next : Worker Mutex Access} {job : Job Mutex Access} {mutex : Mutex}
  {taken : Mutex → Bool}

/-- A thread that begins the job. -/
def begins (job : Job Mutex Access) : Worker Mutex Access :=
  ⟨[], job.mutexes, job.accesses⟩

/-- The job is done. -/
def Finished (worker : Worker Mutex Access) : Prop :=
  worker = ⟨[], [], []⟩

/-- The next mutex is taken, the next access is made, or the latest mutex is
given back. -/
def proceed (taken : Mutex → Bool) : Worker Mutex Access → Option (Worker Mutex Access)
  | ⟨held, mutex :: wanted, left⟩ =>
      if taken mutex then none else some ⟨mutex :: held, wanted, left⟩
  | ⟨held, [], _ :: left⟩ => some ⟨held, [], left⟩
  | ⟨_ :: held, [], []⟩ => some ⟨held, [], []⟩
  | ⟨[], [], []⟩ => none

/-- The access that comes next. -/
def access (worker : Worker Mutex Access) : Option Access :=
  match worker.wanted with
  | [] => worker.left.head?
  | _ :: _ => none

/-- The steps that are left. -/
def size (worker : Worker Mutex Access) : Nat :=
  worker.held.length + 2 * worker.wanted.length + worker.left.length

/-- What a thread at the job is like. -/
structure Doing (job : Job Mutex Access) (worker : Worker Mutex Access) : Prop where
  accesses : worker.left <:+ job.accesses
  mutexes : worker.held.reverse ++ worker.wanted <+: job.mutexes
  holds : worker.left ≠ [] → worker.held.reverse ++ worker.wanted = job.mutexes

theorem Doing.begins (job : Job Mutex Access) : (begins job).Doing job :=
  ⟨List.suffix_rfl, List.prefix_rfl, fun _ => rfl⟩

theorem Doing.proceed (doing : worker.Doing job) (proceeded : worker.proceed taken = some next) :
    next.Doing job := by
  rcases worker with ⟨held, wanted, left⟩
  rcases doing with ⟨accesses, mutexes, holds⟩
  cases wanted with
  | cons mutex wanted =>
      have moved : (mutex :: held).reverse ++ wanted = held.reverse ++ mutex :: wanted := by
        rw [List.reverse_cons, List.append_assoc, List.singleton_append]
      simp only [Worker.proceed] at proceeded
      split at proceeded
      · cases proceeded
      · cases proceeded
        exact ⟨accesses, moved ▸ mutexes, fun more => moved.trans (holds more)⟩
  | nil =>
      cases left with
      | cons access left =>
          cases proceeded
          have first := holds (List.cons_ne_nil access left)
          exact ⟨(List.suffix_cons access left).trans accesses, mutexes, fun _ => first⟩
      | nil =>
          cases held with
          | nil => cases proceeded
          | cons mutex held =>
              cases proceeded
              refine ⟨accesses, ?_, fun more => absurd rfl more⟩
              rw [List.reverse_cons, List.append_nil] at mutexes
              rw [List.append_nil]
              exact (List.prefix_append _ _).trans mutexes

/-- A thread that is about to make an access of its job has all the mutexes. -/
theorem Doing.holds_all {access : Access} (doing : worker.Doing job)
    (comes : worker.access = some access) :
    access ∈ job.accesses ∧ ∀ mutex ∈ job.mutexes, mutex ∈ worker.held := by
  rcases worker with ⟨held, wanted, left⟩
  cases wanted with
  | cons mutex wanted => cases comes
  | nil =>
      cases left with
      | nil => cases comes
      | cons first left =>
          cases comes
          refine ⟨doing.accesses.mem List.mem_cons_self, ?_⟩
          intro mutex member
          rw [← doing.holds (List.cons_ne_nil access left), List.append_nil,
            List.mem_reverse] at member
          exact member

/-- A step is one step less to make. -/
theorem size_of_proceed (proceeded : worker.proceed taken = some next) :
    next.size + 1 = worker.size := by
  rcases worker with ⟨held, wanted, left⟩
  cases wanted with
  | cons mutex wanted =>
      simp only [proceed] at proceeded
      split at proceeded
      · cases proceeded
      · cases proceeded
        simp only [size, List.length_cons]
        omega
  | nil =>
      cases left with
      | cons access left =>
          cases proceeded
          simp only [size, List.length_cons]
          omega
      | nil =>
          cases held with
          | nil => cases proceeded
          | cons mutex held =>
              cases proceeded
              simp only [size, List.length_cons]
              omega

/-- What a thread has after a step, it had before or has just taken. -/
theorem held_of_proceed (proceeded : worker.proceed taken = some next)
    (held : mutex ∈ next.held) : mutex ∈ worker.held ∨ taken mutex = false := by
  rcases worker with ⟨before, wanted, left⟩
  cases wanted with
  | cons other wanted =>
      simp only [proceed] at proceeded
      split at proceeded
      · cases proceeded
      · next free =>
        cases proceeded
        rcases List.mem_cons.mp held with same | earlier
        · exact Or.inr (same ▸ eq_false_of_ne_true free)
        · exact Or.inl earlier
  | nil =>
      cases left with
      | cons access left =>
          cases proceeded
          exact Or.inl held
      | nil =>
          cases before with
          | nil => cases proceeded
          | cons other before =>
              cases proceeded
              exact Or.inl (List.mem_cons_of_mem other held)

/-- A thread that cannot go on is done, or wants a mutex that is taken. -/
theorem stuck_iff : worker.proceed taken = none ↔
    worker.Finished ∨ ∃ mutex rest, worker.wanted = mutex :: rest ∧ taken mutex = true := by
  rcases worker with ⟨held, wanted, left⟩
  cases wanted with
  | cons mutex wanted =>
      simp only [proceed, Finished, Worker.mk.injEq, reduceCtorEq, false_and, and_false, false_or,
        List.cons.injEq]
      split
      · next full => exact iff_of_true rfl ⟨mutex, wanted, ⟨rfl, rfl⟩, full⟩
      · next free =>
        refine iff_of_false (fun none => by cases none) ?_
        rintro ⟨_, _, ⟨rfl, rfl⟩, full⟩
        exact free full
  | nil =>
      cases left with
      | cons access left => simp [proceed, Finished]
      | nil =>
          cases held with
          | nil => simp [proceed, Finished]
          | cons mutex held => simp [proceed, Finished]

end Worker

/-! ## Several threads -/

namespace Crew

variable {crew next : List (Worker Mutex Access)} {worker other : Worker Mutex Access}
  {index second : Nat} {mutex : Mutex} {allowed : Job Mutex Access → Prop}

/-- Every thread is at a job, and no two of them have the same mutex. -/
structure Sound (allowed : Job Mutex Access → Prop) (crew : List (Worker Mutex Access)) : Prop where
  doing : ∀ worker ∈ crew, ∃ job, allowed job ∧ worker.Doing job
  apart : ∀ (index second : Nat) (worker other : Worker Mutex Access), index ≠ second →
    crew[index]? = some worker → crew[second]? = some other → worker.held.Disjoint other.held

/-- The jobs that are begun are of this kind. -/
def Starts (allowed : Job Mutex Access → Prop) : CrewAct Mutex Access → Prop
  | .start job => allowed job
  | .go _ => True

theorem Sound.nil (allowed : Job Mutex Access → Prop) : Sound allowed [] := by
  refine ⟨?_, ?_⟩
  · intro worker member
    cases member
  · intro index second worker other different found
    cases found

theorem Sound.start (sound : Sound allowed crew) {job : Job Mutex Access} (admitted : allowed job) :
    Sound allowed (crew ++ [Worker.begins job]) := by
  refine ⟨?_, ?_⟩
  · intro worker member
    rcases List.mem_append.mp member with earlier | last
    · exact sound.doing worker earlier
    · rw [List.mem_singleton] at last
      exact last ▸ ⟨job, admitted, Worker.Doing.begins job⟩
  · -- The new thread has no mutex yet.
    have empty : ∀ (index : Nat) (worker : Worker Mutex Access),
        (crew ++ [Worker.begins job])[index]? = some worker →
          crew[index]? = some worker ∨ worker.held = [] := by
      intro index worker found
      rw [List.getElem?_append] at found
      split at found
      · exact Or.inl found
      · refine Or.inr ?_
        rcases List.mem_singleton.mp (List.mem_of_getElem? found) with rfl
        rfl
    intro index second worker other different found also
    rcases empty index worker found with earlier | nothing
    · rcases empty second other also with earlierToo | nothing
      · exact sound.apart index second worker other different earlier earlierToo
      · rw [nothing]
        exact List.disjoint_nil_right _
    · rw [nothing]
      exact List.disjoint_nil_left _

variable [DecidableEq Mutex]

/-- Somebody has the mutex. -/
def taken (crew : List (Worker Mutex Access)) (mutex : Mutex) : Bool :=
  crew.any fun worker => decide (mutex ∈ worker.held)

/-- One act. -/
def step (crew : List (Worker Mutex Access)) :
    CrewAct Mutex Access → Option (List (Worker Mutex Access))
  | .start job => some (crew ++ [Worker.begins job])
  | .go index => crew[index]?.bind fun worker =>
      (worker.proceed (taken crew)).map fun worker => crew.set index worker

/-- The steps that are left to all of them. -/
def size : List (Worker Mutex Access) → Nat
  | [] => 0
  | worker :: crew => worker.size + size crew

theorem taken_iff : taken crew mutex = true ↔ ∃ worker ∈ crew, mutex ∈ worker.held := by
  unfold taken
  simp only [List.any_eq_true, decide_eq_true_eq]

theorem step_go_eq_some_iff : step crew (.go index) = some next ↔ ∃ worker after,
    crew[index]? = some worker ∧ worker.proceed (taken crew) = some after ∧
      next = crew.set index after := by
  simp only [step, Option.bind_eq_some_iff, Option.map_eq_some_iff]
  constructor
  · rintro ⟨worker, found, after, proceeded, rfl⟩
    exact ⟨worker, after, found, proceeded, rfl⟩
  · rintro ⟨worker, after, found, proceeded, rfl⟩
    exact ⟨worker, found, after, proceeded, rfl⟩

theorem Sound.go (sound : Sound allowed crew) (went : step crew (.go index) = some next) :
    Sound allowed next := by
  rcases step_go_eq_some_iff.mp went with ⟨worker, after, found, proceeded, rfl⟩
  -- What the thread has now, it had before, or nobody had.
  have separate : ∀ (second : Nat) (other : Worker Mutex Access), index ≠ second →
      crew[second]? = some other → after.held.Disjoint other.held := by
    intro second other different also mutex held heldToo
    rcases Worker.held_of_proceed proceeded held with earlier | free
    · exact sound.apart index second worker other different found also earlier heldToo
    · rw [taken_iff.mpr ⟨other, List.mem_of_getElem? also, heldToo⟩] at free
      cases free
  refine ⟨?_, ?_⟩
  · intro other member
    rcases List.mem_or_eq_of_mem_set member with earlier | rfl
    · exact sound.doing other earlier
    · rcases sound.doing worker (List.mem_of_getElem? found) with ⟨job, admitted, doing⟩
      exact ⟨job, admitted, doing.proceed proceeded⟩
  · intro first second one two different foundOne foundTwo
    rw [List.getElem?_set] at foundOne foundTwo
    split at foundOne
    · next same =>
      subst same
      rw [if_neg different] at foundTwo
      split at foundOne
      · cases foundOne
        exact separate second two different foundTwo
      · cases foundOne
    · next apart =>
      split at foundTwo
      · next same =>
        subst same
        split at foundTwo
        · cases foundTwo
          exact List.disjoint_symm (separate first one (Ne.symm different) foundOne)
        · cases foundTwo
      · exact sound.apart first second one two different foundOne foundTwo

theorem Sound.goes (sound : Sound allowed crew) {indices : List Nat}
    (ran : run step crew (indices.map .go) = some next) : Sound allowed next := by
  induction indices generalizing crew with
  | nil =>
      cases ran
      exact sound
  | cons index indices inductionHypothesis =>
      rcases Option.bind_eq_some_iff.mp ran with ⟨between, went, onwards⟩
      exact inductionHypothesis (sound.go went) onwards

theorem Sound.of_run {acts : List (CrewAct Mutex Access)}
    (admitted : ∀ act ∈ acts, Starts allowed act) (ran : run step [] acts = some crew) :
    Sound allowed crew := by
  have closed : PrefixClosed fun acts : List (CrewAct Mutex Access) =>
      ∀ act ∈ acts, Starts allowed act :=
    fun first second all act member => all act (List.mem_append_left second member)
  refine run_invariant_of_step _ (fun _ => Sound allowed) closed (Sound.nil allowed) ?_ admitted ran
  intro before crew act next all sound stepped
  cases act with
  | start job =>
      cases stepped
      exact sound.start (all (.start job) (List.mem_append_right before List.mem_cons_self))
  | go index => exact sound.go stepped

/-- A thread that goes on has one step less to make. -/
theorem size_of_go (went : step crew (.go index) = some next) : size next + 1 = size crew := by
  rcases step_go_eq_some_iff.mp went with ⟨worker, after, found, proceeded, rfl⟩
  have less := Worker.size_of_proceed proceeded
  have general : ∀ (crew : List (Worker Mutex Access)) (index : Nat), crew[index]? = some worker →
      size (crew.set index after) + 1 = size crew := by
    intro crew
    induction crew with
    | nil =>
        intro index found
        cases found
    | cons first rest inductionHypothesis =>
        intro index found
        cases index with
        | zero =>
            cases found
            simp only [size, List.set_cons_zero]
            omega
        | succ index =>
            have smaller := inductionHypothesis index found
            simp only [size, List.set_cons_succ]
            omega
  exact general crew index found

/-- Of threads that take their mutexes in the order of a rank, one can go on,
unless all are done. -/
theorem Sound.exists_go (sound : Sound allowed crew) (rank : Mutex → Nat) (bound : Nat)
    (ranked : ∀ job, allowed job →
      job.mutexes.Pairwise fun first second => rank first < rank second)
    (bounded : ∀ mutex, rank mutex < bound) (busy : ∃ worker ∈ crew, ¬ worker.Finished) :
    ∃ index next, step crew (.go index) = some next := by
  by_contra stuck
  have blocked : ∀ worker ∈ crew, ¬ worker.Finished → ∃ mutex rest,
      worker.wanted = mutex :: rest ∧ taken crew mutex = true := by
    intro worker member working
    rcases List.getElem?_of_mem member with ⟨index, found⟩
    cases proceeded : worker.proceed (taken crew) with
    | none => exact (Worker.stuck_iff.mp proceeded).resolve_left working
    | some after =>
        have went := step_go_eq_some_iff.mpr ⟨worker, after, found, proceeded, rfl⟩
        exact absurd ⟨index, _, went⟩ stuck
  -- Whoever has the mutex that is waited for waits for one of a higher rank.
  have climbs : ∀ (distance : Nat) (worker : Worker Mutex Access), worker ∈ crew →
      ∀ mutex rest, worker.wanted = mutex :: rest → taken crew mutex = true →
        bound ≤ rank mutex + distance → False := by
    intro distance
    induction distance with
    | zero =>
        intro worker _ mutex rest _ _ high
        exact Nat.not_lt_of_ge high (bounded mutex)
    | succ distance inductionHypothesis =>
        intro worker _ mutex rest _ full high
        rcases taken_iff.mp full with ⟨holder, member, held⟩
        have working : ¬ holder.Finished := by
          intro finished
          rw [finished] at held
          cases held
        rcases blocked holder member working with ⟨wanted, others, wants, fullToo⟩
        rcases sound.doing holder member with ⟨job, admitted, doing⟩
        have ordered := (ranked job admitted).sublist doing.mutexes.sublist
        rw [wants, List.pairwise_append] at ordered
        have higher := ordered.2.2 mutex (List.mem_reverse.mpr held) wanted List.mem_cons_self
        apply inductionHypothesis holder member wanted others wants fullToo
        omega
  rcases busy with ⟨worker, member, working⟩
  rcases blocked worker member working with ⟨mutex, rest, wants, full⟩
  exact climbs bound worker member mutex rest wants full (Nat.le_add_left bound _)

/-- Going on comes to an end. -/
theorem size_of_run {indices : List Nat} (ran : run step crew (indices.map .go) = some next) :
    size next + indices.length = size crew := by
  induction indices generalizing crew with
  | nil =>
      cases ran
      rfl
  | cons index indices inductionHypothesis =>
      rcases Option.bind_eq_some_iff.mp ran with ⟨between, went, onwards⟩
      have first := size_of_go went
      have rest := inductionHypothesis onwards
      rw [List.length_cons]
      omega

/-! ## Races -/

/-- Two threads are about to make conflicting accesses. -/
def Races (conflict : Access → Access → Prop) (crew : List (Worker Mutex Access)) : Prop :=
  ∃ (index second : Nat) (worker other : Worker Mutex Access) (access another : Access),
    index ≠ second ∧ crew[index]? = some worker ∧ crew[second]? = some other ∧
      worker.access = some access ∧ other.access = some another ∧ conflict access another

/-- One thread has gone on to where it is this worker, and the others are
where they were. -/
def Moved (crew : List (Worker Mutex Access)) (index : Nat) (worker : Worker Mutex Access)
    (next : List (Worker Mutex Access)) : Prop :=
  (∃ indices : List Nat, run step crew (indices.map .go) = some next) ∧
    next[index]? = some worker ∧ ∀ second, index ≠ second → next[second]? = crew[second]?

theorem Moved.refl (found : crew[index]? = some worker) : Moved crew index worker crew :=
  ⟨⟨[], rfl⟩, found, fun _ _ => rfl⟩

theorem Moved.of_go {after : Worker Mutex Access} (found : crew[index]? = some worker)
    (proceeded : worker.proceed (taken crew) = some after)
    (moved : Moved (crew.set index after) index other next) : Moved crew index other next := by
  rcases moved with ⟨⟨indices, ran⟩, final, same⟩
  refine ⟨⟨index :: indices, ?_⟩, final, ?_⟩
  · rw [List.map_cons, run_cons, step_go_eq_some_iff.mpr ⟨worker, after, found, proceeded, rfl⟩]
    exact ran
  · intro second different
    rw [same second different, List.getElem?_set_ne different]

theorem Moved.trans {between : List (Worker Mutex Access)}
    (first : Moved crew index worker between) (onward : Moved between index other next) :
    Moved crew index other next := by
  rcases first with ⟨⟨indices, ran⟩, _, same⟩
  rcases onward with ⟨⟨more, onwards⟩, final, sameThen⟩
  refine ⟨⟨indices ++ more, ?_⟩, final, ?_⟩
  · rw [List.map_append, run_append, ran]
    exact onwards
  · intro second different
    exact (sameThen second different).trans (same second different)

/-- A thread that takes free mutexes. -/
theorem exists_moved_take {left : List Access} (wanted : List Mutex) {held : List Mutex}
    (distinct : wanted.Nodup) (free : ∀ mutex ∈ wanted, taken crew mutex = false)
    (found : crew[index]? = some ⟨held, wanted, left⟩) :
    ∃ next, Moved crew index ⟨wanted.reverse ++ held, [], left⟩ next := by
  induction wanted generalizing crew held with
  | nil => exact ⟨crew, Moved.refl found⟩
  | cons mutex wanted inductionHypothesis =>
      rw [List.nodup_cons] at distinct
      have proceeded : (⟨held, mutex :: wanted, left⟩ : Worker Mutex Access).proceed (taken crew) =
          some ⟨mutex :: held, wanted, left⟩ := by
        simp only [Worker.proceed, free mutex List.mem_cons_self, Bool.false_eq_true, if_false]
      have within : index < crew.length := (List.getElem?_eq_some_iff.mp found).1
      have stillFree : ∀ other ∈ wanted,
          taken (crew.set index ⟨mutex :: held, wanted, left⟩) other = false := by
        intro other member
        by_contra full
        rcases taken_iff.mp (eq_true_of_ne_false full) with ⟨holder, inside, holds⟩
        have before := free other (List.mem_cons_of_mem mutex member)
        rcases List.mem_or_eq_of_mem_set inside with earlier | rfl
        · rw [taken_iff.mpr ⟨holder, earlier, holds⟩] at before
          cases before
        · rcases List.mem_cons.mp holds with rfl | earlier
          · exact distinct.1 member
          · rw [taken_iff.mpr ⟨_, List.mem_of_getElem? found, earlier⟩] at before
            cases before
      have placed : (crew.set index ⟨mutex :: held, wanted, left⟩)[index]? =
          some ⟨mutex :: held, wanted, left⟩ :=
        List.getElem?_set_self within
      rcases inductionHypothesis distinct.2 stillFree placed with ⟨next, moved⟩
      refine ⟨next, Moved.of_go found proceeded ?_⟩
      rw [List.reverse_cons, List.append_assoc, List.singleton_append]
      exact moved

theorem exists_moved_access {held : List Mutex} (first : List Access) {rest : List Access}
    (found : crew[index]? = some ⟨held, [], first ++ rest⟩) :
    ∃ next, Moved crew index ⟨held, [], rest⟩ next := by
  induction first generalizing crew with
  | nil => exact ⟨crew, Moved.refl found⟩
  | cons access first inductionHypothesis =>
      have within : index < crew.length := (List.getElem?_eq_some_iff.mp found).1
      have placed : (crew.set index ⟨held, [], first ++ rest⟩)[index]? =
          some ⟨held, [], first ++ rest⟩ :=
        List.getElem?_set_self within
      rcases inductionHypothesis placed with ⟨next, moved⟩
      exact ⟨next, Moved.of_go found rfl moved⟩

/-- A thread whose mutexes are free gets to each of its accesses. -/
theorem exists_moved {job : Job Mutex Access} {access : Access} (distinct : job.mutexes.Nodup)
    (free : ∀ mutex ∈ job.mutexes, taken crew mutex = false) (member : access ∈ job.accesses)
    (found : crew[index]? = some (Worker.begins job)) :
    ∃ next left, Moved crew index ⟨job.mutexes.reverse, [], access :: left⟩ next := by
  rcases List.append_of_mem member with ⟨first, rest, split⟩
  rcases exists_moved_take job.mutexes distinct free found with ⟨between, took⟩
  rw [List.append_nil, split] at took
  rcases exists_moved_access first took.2.1 with ⟨next, accessed⟩
  exact ⟨next, rest, took.trans accessed⟩

/-- A race can come about just when there are two jobs with conflicting
accesses and without a common mutex. -/
theorem exists_races_iff (allowed : Job Mutex Access → Prop)
    (distinct : ∀ job, allowed job → job.mutexes.Nodup) (conflict : Access → Access → Prop) :
    (∃ acts crew, (∀ act ∈ acts, Starts allowed act) ∧
        run (step : List (Worker Mutex Access) → _ → _) [] acts = some crew ∧
        Races conflict crew) ↔
      ∃ job other, allowed job ∧ allowed other ∧ job.mutexes.Disjoint other.mutexes ∧
        ∃ access ∈ job.accesses, ∃ another ∈ other.accesses, conflict access another := by
  constructor
  · rintro ⟨acts, crew, admitted, ran, index, second, worker, other, access, another, different,
      found, also, comes, comesToo, conflicts⟩
    have sound := Sound.of_run admitted ran
    rcases sound.doing worker (List.mem_of_getElem? found) with ⟨job, good, doing⟩
    rcases sound.doing other (List.mem_of_getElem? also) with ⟨job', good', doing'⟩
    rcases doing.holds_all comes with ⟨member, holds⟩
    rcases doing'.holds_all comesToo with ⟨member', holds'⟩
    refine ⟨job, job', good, good', ?_, access, member, another, member', conflicts⟩
    intro mutex first last
    exact sound.apart index second worker other different found also (holds mutex first)
      (holds' mutex last)
  · rintro ⟨job, other, good, good', disjoint, access, member, another, member', conflicts⟩
    -- The first thread goes to its access, and then the second one.
    have idle : ∀ mutex, taken [Worker.begins job, Worker.begins other] mutex = false := by
      intro mutex
      rfl
    have begun : [Worker.begins job, Worker.begins other][0]? = some (Worker.begins job) := rfl
    rcases exists_moved (distinct job good) (fun mutex _ => idle mutex) member begun with
      ⟨between, left, ⟨indices, ran⟩, placed, same⟩
    have waits : between[1]? = some (Worker.begins other) := same 1 (by decide)
    have free : ∀ mutex ∈ other.mutexes, taken between mutex = false := by
      intro mutex wanted
      by_contra full
      rcases taken_iff.mp (eq_true_of_ne_false full) with ⟨holder, inside, holds⟩
      rcases List.getElem?_of_mem inside with ⟨index, found⟩
      match index with
      | 0 =>
          cases Option.mem_unique placed found
          exact disjoint (List.mem_reverse.mp holds) wanted
      | 1 =>
          cases Option.mem_unique waits found
          cases holds
      | index + 2 =>
          rw [same (index + 2) (by omega)] at found
          cases found
    rcases exists_moved (distinct other good') free member' waits with
      ⟨next, left', ⟨indices', ran'⟩, placed', same'⟩
    have stays : next[0]? = some ⟨job.mutexes.reverse, [], access :: left⟩ :=
      (same' 0 (by decide)).trans placed
    refine ⟨.start job :: .start other :: (indices.map .go ++ indices'.map .go), next, ?_, ?_,
      0, 1, _, _, access, another, by decide, stays, placed', rfl, rfl, conflicts⟩
    · intro act inside
      rcases List.mem_cons.mp inside with rfl | inside
      · exact good
      · rcases List.mem_cons.mp inside with rfl | inside
        · exact good'
        · rcases List.mem_append.mp inside with first | last
          · rcases List.mem_map.mp first with ⟨_, _, rfl⟩
            trivial
          · rcases List.mem_map.mp last with ⟨_, _, rfl⟩
            trivial
    · have both : run step [Worker.begins job, Worker.begins other]
          (indices.map .go ++ indices'.map .go) = some next := by
        rw [run_append, ran]
        exact ran'
      exact both

end Crew

end General
end Pxc
