import Mathlib.Data.List.Induction
import Pxc.GameServer.Server

namespace Pxc
namespace GameServer

/-!
# The instructions of a zone

A `ZoneCallback` keeps a queue of instructions.  A step of the game that
succeeds executes and deletes them from the front until none is left, and an
instruction that is executed may add further ones at the end.  A step that
fails leaves the queue as it is.  The destructor deletes what is still there.

An instruction object is known here by what its `exec` adds to the queue of
the same callback, a finite list of instructions of the same kind.  An addition
hands over an object of its own, and gets a number, so that two additions are
never confused.  The loop ends because every instruction adds finitely many in
all, directly and through the ones it adds.

Which additions there are in all follows from the calls alone: those of the
calls, and with every step that succeeds the ones that the waiting instructions
add, then the ones that those add, and so on.  The queue executes them in this
order.
-/

/-- What the `exec` of an instruction adds to the callback's queue, where a
null pointer may be among it. -/
inductive Instruction where
  | adding (further : List (Option Instruction × Connection))

/-- What `addInstruction` is called with, but for a null pointer. -/
abbrev Addition := Instruction × Connection

/-- A pair in the queue, with the number of its addition. -/
structure Pending where
  serial : Nat
  instruction : Instruction
  connection : Connection

def Pending.addition (pending : Pending) : Addition :=
  (pending.instruction, pending.connection)

/-- What happens to an instruction. -/
inductive InstructionAction where
  | executed (pending : Pending)
  | deleted (pending : Pending)

/-- `ZoneCallback`, with all that has been added to its queue, and with what
has happened so far. -/
structure ZoneCallback where
  mInstructions : List Pending
  added : List Pending
  log : List InstructionAction

mutual

/-- An instruction together with all that follow from it. -/
def Instruction.total : Instruction → Nat
  | .adding further => totalOfAdditions further + 1

def totalOfAdditions : List (Option Instruction × Connection) → Nat
  | [] => 0
  | (none, _) :: rest => totalOfAdditions rest
  | (some ins, _) :: rest => ins.total + totalOfAdditions rest

end

/-- The additions among some calls of `addInstruction`. -/
def additionsOf : List (Option Instruction × Connection) → List Addition
  | [] => []
  | (none, _) :: rest => additionsOf rest
  | (some ins, c) :: rest => (ins, c) :: additionsOf rest

/-- What the `exec` of an instruction adds. -/
def Instruction.additions : Instruction → List Addition
  | .adding further => additionsOf further

/-- All that some instructions add, at the next level. -/
def nextLevel (waiting : List Addition) : List Addition :=
  waiting.flatMap fun addition => addition.1.additions

/-- Some instructions and all that follow from them. -/
def totalOf : List Addition → Nat
  | [] => 0
  | (ins, _) :: rest => ins.total + totalOf rest

theorem totalOf_append (first second : List Addition) :
    totalOf (first ++ second) = totalOf first + totalOf second := by
  induction first with
  | nil => exact (Nat.zero_add (totalOf second)).symm
  | cons addition rest inductionHypothesis =>
      rw [List.cons_append, totalOf, totalOf, inductionHypothesis, Nat.add_assoc]

theorem totalOf_additionsOf (further : List (Option Instruction × Connection)) :
    totalOf (additionsOf further) = totalOfAdditions further := by
  induction further with
  | nil => rfl
  | cons addition rest inductionHypothesis =>
      rcases addition with ⟨ins, c⟩
      cases ins with
      | none => exact inductionHypothesis
      | some ins => rw [additionsOf, totalOf, totalOfAdditions, inductionHypothesis]

theorem totalOf_additions_lt (ins : Instruction) : totalOf ins.additions < ins.total := by
  cases ins with
  | adding further =>
      rw [Instruction.additions, totalOf_additionsOf, Instruction.total]
      exact Nat.lt_succ_self _

theorem totalOf_nextLevel_le (waiting : List Addition) :
    totalOf (nextLevel waiting) ≤ totalOf waiting := by
  induction waiting with
  | nil => exact Nat.le_refl 0
  | cons addition rest inductionHypothesis =>
      rw [nextLevel, List.flatMap_cons, totalOf_append, totalOf]
      exact Nat.add_le_add (Nat.le_of_lt (totalOf_additions_lt addition.1)) inductionHypothesis

theorem totalOf_nextLevel_lt (addition : Addition) (rest : List Addition) :
    totalOf (nextLevel (addition :: rest)) < totalOf (addition :: rest) := by
  rw [nextLevel, List.flatMap_cons, totalOf_append, totalOf]
  exact Nat.add_lt_add_of_lt_of_le (totalOf_additions_lt addition.1) (totalOf_nextLevel_le rest)

/-- Waiting instructions and all that follow from them, level by level. -/
def levels (waiting : List Addition) : List Addition :=
  match waiting with
  | [] => []
  | addition :: rest => addition :: rest ++ levels (nextLevel (addition :: rest))
termination_by totalOf waiting
decreasing_by exact totalOf_nextLevel_lt addition rest

theorem levels_nil : levels [] = [] := by
  rw [levels]

theorem levels_eq (waiting : List Addition) :
    levels waiting = waiting ++ levels (nextLevel waiting) := by
  cases waiting with
  | nil => rw [levels_nil, nextLevel, List.flatMap_nil, levels_nil, List.append_nil]
  | cons addition rest => rw [levels]

/-- The first instructions of a level may be taken before the others, as a queue
does. -/
theorem levels_append (first rest : List Addition) :
    levels (first ++ rest) = first ++ levels (rest ++ nextLevel first) := by
  have next : nextLevel (first ++ rest) = nextLevel first ++ nextLevel rest := by
    rw [nextLevel, List.flatMap_append]
    rfl
  have nextToo : nextLevel (rest ++ nextLevel first) =
      nextLevel rest ++ nextLevel (nextLevel first) := by
    rw [nextLevel, List.flatMap_append]
    rfl
  cases first with
  | nil =>
      have nothing : nextLevel [] = [] := rfl
      rw [nothing, List.append_nil, List.nil_append, List.nil_append]
  | cons addition others =>
      have fewer : totalOf (nextLevel (addition :: others) ++ nextLevel rest) <
          totalOf (addition :: others ++ rest) := by
        rw [totalOf_append, totalOf_append]
        exact Nat.add_lt_add_of_lt_of_le (totalOf_nextLevel_lt addition others)
          (totalOf_nextLevel_le rest)
      rw [levels_eq (addition :: others ++ rest), next, levels_append, List.append_assoc,
        levels_eq (rest ++ nextLevel (addition :: others)), nextToo, List.append_assoc]
termination_by totalOf (first ++ rest)

namespace ZoneCallback

/-- The constructor. -/
def constructed : ZoneCallback :=
  ⟨[], [], []⟩

/-- `ZoneCallback::addInstruction`. -/
def addInstruction (callback : ZoneCallback) (ins : Option Instruction) (c : Connection) :
    ZoneCallback :=
  match ins with
  | none => callback
  | some ins =>
      { callback with
        mInstructions := callback.mInstructions ++ [⟨callback.added.length, ins, c⟩]
        added := callback.added ++ [⟨callback.added.length, ins, c⟩] }

/-- The additions of an `exec`, one after the other. -/
def addAll (callback : ZoneCallback) : List (Option Instruction × Connection) → ZoneCallback
  | [] => callback
  | (ins, c) :: rest => addAll (callback.addInstruction ins c) rest

/-- `ins.first->exec(ins.second)`. -/
def exec (callback : ZoneCallback) (ins : Pending) : ZoneCallback :=
  match ins.instruction with
  | .adding further => addAll { callback with log := callback.log ++ [.executed ins] } further

/-- `delete ins.first; mInstructions.pop()`. -/
def deleteFront (callback : ZoneCallback) (ins : Pending) : ZoneCallback :=
  { callback with
    mInstructions := callback.mInstructions.tail
    log := callback.log ++ [.deleted ins] }

/-- What waits in the queue, without the numbers. -/
def waiting (callback : ZoneCallback) : List Addition :=
  callback.mInstructions.map Pending.addition

/-- The additions of an `exec` go to the end, and carry the next numbers. -/
theorem exists_addAll (callback : ZoneCallback)
    (further : List (Option Instruction × Connection)) :
    ∃ more, callback.addAll further =
        ⟨callback.mInstructions ++ more, callback.added ++ more, callback.log⟩ ∧
      more.map Pending.addition = additionsOf further ∧
      more.map Pending.serial = List.range' callback.added.length more.length := by
  induction further generalizing callback with
  | nil =>
      refine ⟨[], ?_, rfl, rfl⟩
      rw [addAll, List.append_nil, List.append_nil]
  | cons addition rest inductionHypothesis =>
      rcases addition with ⟨ins, c⟩
      cases ins with
      | none =>
          rcases inductionHypothesis callback with ⟨more, added, additions, serials⟩
          exact ⟨more, added, additions, serials⟩
      | some ins =>
          rcases inductionHypothesis (callback.addInstruction (some ins) c) with
            ⟨more, added, additions, serials⟩
          refine ⟨⟨callback.added.length, ins, c⟩ :: more, ?_, ?_, ?_⟩
          · rw [addAll, added, addInstruction]
            simp only [List.append_assoc, List.singleton_append]
          · rw [List.map_cons, additions]
            rfl
          · rw [List.map_cons, serials, addInstruction, List.length_append, List.length_singleton,
              List.length_cons, List.range'_succ]

theorem exists_exec (callback : ZoneCallback) (ins : Pending) :
    ∃ more, callback.exec ins = ⟨callback.mInstructions ++ more, callback.added ++ more,
        callback.log ++ [.executed ins]⟩ ∧
      more.map Pending.addition = ins.instruction.additions ∧
      more.map Pending.serial = List.range' callback.added.length more.length := by
  rcases ins with ⟨serial, ⟨further⟩, connection⟩
  exact exists_addAll
    { callback with log := callback.log ++ [.executed ⟨serial, .adding further, connection⟩] }
    further

theorem waiting_round {callback : ZoneCallback} {ins : Pending} {rest : List Pending}
    (queue : callback.mInstructions = ins :: rest) :
    ((callback.exec ins).deleteFront ins).waiting =
      rest.map Pending.addition ++ ins.instruction.additions := by
  rcases exists_exec callback ins with ⟨more, executed, additions, _⟩
  rw [executed, waiting, deleteFront, queue, List.cons_append, List.tail_cons, List.map_append,
    additions]

/-- `ZoneCallback::execInstructions`. -/
def execInstructions (callback : ZoneCallback) : ZoneCallback :=
  match _queue : callback.mInstructions with
  | [] => callback
  | ins :: _ => execInstructions ((callback.exec ins).deleteFront ins)
termination_by totalOf callback.waiting
decreasing_by
  rw [waiting_round _queue, waiting, _queue, List.map_cons, totalOf_append, Pending.addition,
    totalOf, Nat.add_comm]
  exact Nat.add_lt_add_right (totalOf_additions_lt ins.instruction) _

/-- `ZoneCallback::step`, with the result of its `gameStep`. -/
def step (callback : ZoneCallback) (valid : Bool) : ZoneCallback :=
  if valid then callback.execInstructions else callback

/-- The destructor. -/
def destructor (callback : ZoneCallback) : ZoneCallback :=
  match _queue : callback.mInstructions with
  | [] => callback
  | ins :: _ => destructor (callback.deleteFront ins)
termination_by callback.mInstructions.length
decreasing_by
  rw [deleteFront, _queue, List.tail_cons, List.length_cons]
  exact Nat.lt_succ_self _

/-! ## What happens, in which order -/

variable {callback : ZoneCallback}

theorem execInstructions_nil (empty : callback.mInstructions = []) :
    callback.execInstructions = callback := by
  rw [execInstructions]
  split
  · rfl
  · next ins rest queue =>
    rw [empty] at queue
    cases queue

theorem execInstructions_cons {ins : Pending} {rest : List Pending}
    (queue : callback.mInstructions = ins :: rest) :
    callback.execInstructions = ((callback.exec ins).deleteFront ins).execInstructions := by
  rw [execInstructions]
  split
  · next empty =>
    rw [queue] at empty
    cases empty
  · next front _ same =>
    rw [queue] at same
    cases same
    rfl

/-- An instruction is deleted right after its execution. -/
def executedAndDeleted (pending : Pending) : List InstructionAction :=
  [.executed pending, .deleted pending]

/-- Those instructions that are no longer in the queue have been executed in
the order of their addition, and the numbers count the additions. -/
structure Ordered (done : List Pending) (callback : ZoneCallback) : Prop where
  added : callback.added = done ++ callback.mInstructions
  log : callback.log = done.flatMap executedAndDeleted
  serials : callback.added.map Pending.serial = List.range callback.added.length

namespace Ordered

variable {done : List Pending}

theorem constructed : Ordered [] constructed :=
  ⟨rfl, rfl, rfl⟩

theorem append (ordered : Ordered done callback) {more : List Pending}
    (serials : more.map Pending.serial = List.range' callback.added.length more.length) :
    Ordered done ⟨callback.mInstructions ++ more, callback.added ++ more, callback.log⟩ where
  added := by rw [ordered.added, List.append_assoc]
  log := ordered.log
  serials := by
    rw [List.map_append, ordered.serials, serials, List.length_append, List.range_eq_range',
      List.range_eq_range', ← List.range'_append_1, Nat.zero_add]

theorem addInstruction (ordered : Ordered done callback) (ins : Option Instruction)
    (c : Connection) : Ordered done (callback.addInstruction ins c) := by
  cases ins with
  | none => exact ordered
  | some ins => exact ordered.append rfl

theorem round (ordered : Ordered done callback) {ins : Pending} {rest : List Pending}
    (queue : callback.mInstructions = ins :: rest) :
    Ordered (done ++ [ins]) ((callback.exec ins).deleteFront ins) := by
  rcases exists_exec callback ins with ⟨more, executed, _, serials⟩
  have grown := ordered.append serials
  rw [executed, deleteFront]
  refine ⟨?_, ?_, grown.serials⟩
  · rw [grown.added, queue, List.cons_append, List.tail_cons, List.append_assoc,
      List.singleton_append]
  · rw [ordered.log, List.flatMap_append, List.append_assoc]
    rfl

/-- The loop executes all, and what it adds, and leaves the queue empty. -/
theorem execInstructions (ordered : Ordered done callback) :
    ∃ all, Ordered all callback.execInstructions ∧
      callback.execInstructions.mInstructions = [] ∧
      all.map Pending.addition = done.map Pending.addition ++ levels callback.waiting := by
  induction callback using ZoneCallback.execInstructions.induct generalizing done with
  | case1 callback empty =>
      rw [execInstructions_nil empty]
      refine ⟨done, ordered, empty, ?_⟩
      rw [waiting, empty, List.map_nil, levels_nil, List.append_nil]
  | case2 callback ins rest queue inductionHypothesis =>
      rw [execInstructions_cons queue]
      rcases inductionHypothesis (ordered.round queue) with ⟨all, ordered, empty, same⟩
      have front : levels callback.waiting =
          ins.addition :: levels (rest.map Pending.addition ++ ins.instruction.additions) := by
        have next : nextLevel [ins.addition] = ins.instruction.additions := List.append_nil _
        rw [waiting, queue, List.map_cons, ← List.singleton_append, levels_append, next,
          List.singleton_append]
      refine ⟨all, ordered, empty, ?_⟩
      rw [same, waiting_round queue, front, List.map_append, List.append_assoc]
      rfl

end Ordered

/-- The destructor deletes what is left, in its order. -/
theorem destructor_eq (callback : ZoneCallback) :
    callback.destructor =
      ⟨[], callback.added, callback.log ++ callback.mInstructions.map .deleted⟩ := by
  induction callback using ZoneCallback.destructor.induct with
  | case1 callback empty =>
      rw [destructor]
      split
      · rw [empty, List.map_nil, List.append_nil, ← empty]
      · next front _ queue =>
        rw [empty] at queue
        cases queue
  | case2 callback ins rest queue inductionHypothesis =>
      rw [destructor]
      split
      · next empty =>
        rw [queue] at empty
        cases empty
      · next front _ same =>
        rw [queue] at same
        cases same
        rw [inductionHypothesis, deleteFront, queue, List.tail_cons, List.map_cons]
        simp only [List.append_assoc, List.singleton_append]

/-- A call on the callback. -/
inductive CallbackEvent where
  | addInstruction (ins : Option Instruction) (c : Connection)
  | step (valid : Bool)

/-- What one call does. -/
def call (callback : ZoneCallback) : CallbackEvent → ZoneCallback
  | .addInstruction ins c => callback.addInstruction ins c
  | .step valid => callback.step valid

/-- The callback after these calls. -/
def after (events : List CallbackEvent) : ZoneCallback :=
  events.foldl call constructed

/-- The additions that some calls lead to: those that have been executed by
now, and those that wait. -/
structure Schedule where
  executed : List Addition
  waiting : List Addition

/-- What a call should do. -/
def Schedule.call (schedule : Schedule) : CallbackEvent → Schedule
  | .addInstruction none _ => schedule
  | .addInstruction (some ins) c => { schedule with waiting := schedule.waiting ++ [(ins, c)] }
  | .step false => schedule
  | .step true => ⟨schedule.executed ++ levels schedule.waiting, []⟩

/-- The schedule of these calls. -/
def scheduled (events : List CallbackEvent) : Schedule :=
  events.foldl Schedule.call ⟨[], []⟩

/-- The instructions that have been executed, in that order. -/
def executions (log : List InstructionAction) : List Pending :=
  log.filterMap fun action =>
    match action with
    | .executed pending => some pending
    | .deleted _ => none

/-- The instructions that have been deleted, in that order. -/
def deletions (log : List InstructionAction) : List Pending :=
  log.filterMap fun action =>
    match action with
    | .executed _ => none
    | .deleted pending => some pending

theorem executions_flatMap (done : List Pending) :
    executions (done.flatMap executedAndDeleted) = done := by
  induction done with
  | nil => rfl
  | cons first rest inductionHypothesis =>
      rw [List.flatMap_cons, executions, List.filterMap_append]
      exact congrArg (first :: ·) inductionHypothesis

theorem deletions_flatMap (done : List Pending) :
    deletions (done.flatMap executedAndDeleted) = done := by
  induction done with
  | nil => rfl
  | cons first rest inductionHypothesis =>
      rw [List.flatMap_cons, deletions, List.filterMap_append]
      exact congrArg (first :: ·) inductionHypothesis

theorem deletions_map (left : List Pending) :
    deletions (left.map InstructionAction.deleted) = left := by
  induction left with
  | nil => rfl
  | cons first rest inductionHypothesis => exact congrArg (first :: ·) inductionHypothesis

theorem mem_of_deleted {left : List Pending} {pending : Pending}
    (member : .deleted pending ∈ left.map InstructionAction.deleted) : pending ∈ left := by
  rcases List.mem_map.mp member with ⟨waiting, inLeft, same⟩
  cases same
  exact inLeft

/-- No two additions have the same number.  The executions so far are an
initial part of the additions.  Once the callback is destroyed, each addition
has been deleted once, after its execution unless it was still waiting. -/
structure RunsOnce (callback : ZoneCallback) : Prop where
  distinct : (callback.added.map Pending.serial).Nodup
  executed : executions callback.log <+: callback.added
  deleted : deletions callback.destructor.log = callback.added
  afterwards : ∀ before pending later,
    callback.destructor.log = before ++ .deleted pending :: later →
      .executed pending ∈ before ∨ pending ∈ callback.mInstructions

namespace Ordered

variable {done : List Pending}

/-- Each deletion of an executed instruction follows the execution. -/
theorem executed_before {before later : List InstructionAction} {pending : Pending}
    (split : done.flatMap executedAndDeleted = before ++ .deleted pending :: later) :
    .executed pending ∈ before := by
  induction done generalizing before with
  | nil => cases before <;> cases split
  | cons first rest inductionHypothesis =>
      rw [List.flatMap_cons, executedAndDeleted] at split
      rcases before with _ | ⟨execution, _ | ⟨deletion, before⟩⟩
      · cases split
      · cases split
        exact List.mem_cons_self
      · simp only [List.cons_append, List.nil_append, List.cons.injEq] at split
        exact List.mem_cons_of_mem _ (List.mem_cons_of_mem _ (inductionHypothesis split.2.2))

theorem runsOnce (ordered : Ordered done callback) : RunsOnce callback where
  distinct := by
    rw [ordered.serials]
    exact List.nodup_range
  executed := by
    rw [ordered.log, executions_flatMap, ordered.added]
    exact List.prefix_append _ _
  deleted := by
    rw [destructor_eq, deletions, List.filterMap_append, ordered.log, ordered.added]
    exact congrArg₂ (· ++ ·) (deletions_flatMap done) (deletions_map callback.mInstructions)
  afterwards := by
    intro before pending later split
    rw [destructor_eq, ordered.log] at split
    rcases List.append_eq_append_iff.mp split with ⟨middle, old, new⟩ | ⟨middle, old, new⟩
    · right
      apply mem_of_deleted
      rw [new]
      exact List.mem_append_right _ List.mem_cons_self
    · rcases middle with _ | ⟨first, middle⟩
      · right
        apply mem_of_deleted
        rw [← List.nil_append (callback.mInstructions.map _), ← new]
        exact List.mem_cons_self
      · cases new
        exact Or.inl (executed_before old)

end Ordered

/-- The callback keeps to the schedule. -/
theorem exists_ordered (events : List CallbackEvent) :
    ∃ done, Ordered done (after events) ∧
      done.map Pending.addition = (scheduled events).executed ∧
      (after events).waiting = (scheduled events).waiting := by
  induction events using List.reverseRecOn with
  | nil => exact ⟨[], Ordered.constructed, rfl, rfl⟩
  | append_singleton events event inductionHypothesis =>
      rcases inductionHypothesis with ⟨done, ordered, executed, waits⟩
      rw [after, List.foldl_concat, scheduled, List.foldl_concat]
      cases event with
      | addInstruction ins c =>
          refine ⟨done, ordered.addInstruction ins c, ?_⟩
          cases ins with
          | none => exact ⟨executed, waits⟩
          | some ins =>
              refine ⟨executed, ?_⟩
              rw [Schedule.call, ← scheduled, ← waits]
              exact List.map_append
      | step valid =>
          cases valid with
          | false => exact ⟨done, ordered, executed, waits⟩
          | true =>
              rcases ordered.execInstructions with ⟨all, orderedToo, empty, same⟩
              rw [executed, waits] at same
              refine ⟨all, orderedToo, same, ?_⟩
              rw [waiting]
              exact congrArg (List.map Pending.addition) empty

/-- After any calls, instructions have been executed in the order of their
addition, each at most once, and the destructor completes their deletion.  What
has been added and what has been executed is what the calls lead to.  After a
step that succeeded, the queue is empty and all have been executed. -/
theorem instructions_run_once (events : List CallbackEvent) :
    RunsOnce (after events) ∧
      (after events).added.map Pending.addition =
        (scheduled events).executed ++ (scheduled events).waiting ∧
      (executions (after events).log).map Pending.addition = (scheduled events).executed ∧
      ∀ earlier, events = earlier ++ [.step true] →
        (after events).mInstructions = [] ∧
          executions (after events).log = (after events).added := by
  rcases exists_ordered events with ⟨done, ordered, executed, waits⟩
  refine ⟨ordered.runsOnce, ?_, ?_, ?_⟩
  · rw [ordered.added, List.map_append, executed, ← waits, waiting]
  · rw [ordered.log, executions_flatMap, executed]
  · rintro earlier rfl
    rcases exists_ordered earlier with ⟨_, before, _⟩
    have stepped : after (earlier ++ [.step true]) = (after earlier).execInstructions := by
      rw [after, List.foldl_concat]
      rfl
    rw [stepped]
    rcases before.execInstructions with ⟨all, ran, empty, _⟩
    refine ⟨empty, ?_⟩
    rw [ran.log, executions_flatMap, ran.added, empty, List.append_nil]

/-- An instruction that adds nothing, and one that adds it twice, with a null
pointer in between. -/
def plainInstruction : Instruction :=
  .adding []

def nestedInstruction : Instruction :=
  .adding [(some plainInstruction, 2), (none, 3), (some plainInstruction, 4)]

/-- A step that fails executes nothing, and the next one also executes what is
added meanwhile. -/
theorem nested_instructions_run :
    (executions (after [.addInstruction (some nestedInstruction) 1, .step false,
      .addInstruction (some plainInstruction) 5, .step true]).log).map Pending.addition =
        [(nestedInstruction, 1), (plainInstruction, 5), (plainInstruction, 2),
          (plainInstruction, 4)] ∧
      (after [.addInstruction (some nestedInstruction) 1, .step false,
        .addInstruction (some plainInstruction) 5, .step true]).mInstructions = [] := by
  rcases instructions_run_once [.addInstruction (some nestedInstruction) 1, .step false,
    .addInstruction (some plainInstruction) 5, .step true] with ⟨_, _, executed, last⟩
  refine ⟨?_, (last [_, _, _] rfl).1⟩
  rw [executed]
  change levels [(nestedInstruction, 1), (plainInstruction, 5)] = _
  rw [levels_eq, levels_eq (nextLevel _)]
  change [(nestedInstruction, 1), (plainInstruction, 5)] ++
    ([(plainInstruction, 2), (plainInstruction, 4)] ++ levels []) = _
  rw [levels_nil]
  rfl

end ZoneCallback

end GameServer
end Pxc
