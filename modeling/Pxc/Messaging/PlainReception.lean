import Mathlib.Algebra.GroupWithZero.Nat
import Pxc.General.Runs
import Pxc.Messaging.Reception

namespace Pxc
namespace Messaging
namespace Plain

open General

/-!
# Receiving over plain TCP

`TCPConnection` reads a header, and then a body, with calls that may return
fewer bytes than they asked for.  When that happens it asks for the whole
header or body once more, into the same buffer from its start, so that the
bytes that had come are lost and the next read begins within the frame.

The result of a read is kept in an unsigned variable.  A failed read returns
-1, which becomes the largest number there is: it is not zero, not negative,
and not the length of any buffer, and the loop goes on, whether the error can
be retried or not.

A run is the sequence of the results of the reads.  No other thread closes the
link, and a body of length zero takes no read, since the result is zero then.
-/

/-- `lengthCommunication`: `sizeof(size_t)`, the protocol and `sizeof(int)`. -/
def lengthCommunication : Nat := 8 + 8 + 4

/-- The fields of a header, where a string behind the protocol may go on. -/
def sizeMessage (header : List UInt8) : Nat :=
  (header.take 8).foldr (fun byte value => byte.toNat + 256 * value) 0

def protocol (header behind : List UInt8) : List UInt8 :=
  readString ((header.drop 8).take 8 ++ behind)

def instruction (header : List UInt8) : Int :=
  readInt ((header.drop 16).take 4)

/-- The result of a `BIO_read`: some bytes, an error that can be retried or not,
or the end of the stream. -/
inductive ReadResult where
  | bytes (r : Nat)
  | retry
  | error
  | endOfStream
  deriving DecidableEq, Repr

/-- A connection that receives: what the transport has still to deliver, the
creator and the length when a body is being read, and the creators that have
been called, with the bodies. -/
structure Receiver (Creator : Type) where
  stream : List UInt8
  awaiting : Option (Creator × Nat)
  created : List (Creator × List UInt8)
  online : Bool

namespace Receiver

variable {Creator : Type}

/-- How many bytes the next read asks for. -/
def requested (receiver : Receiver Creator) : Nat :=
  match receiver.awaiting with
  | none => lengthCommunication
  | some (_, size) => size

/-- What follows a read of all the bytes.  When no creator is found, the
exception ends the call, and the next one reads a header. -/
def complete (profile : Profile Creator) (behind : List UInt8) (receiver : Receiver Creator)
    (buffer : List UInt8) : Receiver Creator :=
  match receiver.awaiting with
  | none =>
      match profile.creatorFor (protocol buffer behind) (instruction buffer) with
      | .error _ => receiver
      | .ok creator =>
          if sizeMessage buffer = 0 then
            { receiver with created := receiver.created ++ [(creator, [])] }
          else { receiver with awaiting := some (creator, sizeMessage buffer) }
  | some (creator, _) =>
      { receiver with awaiting := none, created := receiver.created ++ [(creator, buffer)] }

/-- One read of `TCPConnection::receiveThread`, with what the two loops of
`receiveTransfThread` do with its result. -/
def step (profile : Profile Creator) (behind : List UInt8) (receiver : Receiver Creator)
    (result : ReadResult) : Option (Receiver Creator) :=
  if receiver.online then
    match result with
    | .bytes r =>
        if 1 ≤ r ∧ r ≤ receiver.requested ∧ r ≤ receiver.stream.length then
          let left := { receiver with stream := receiver.stream.drop r }
          if r = receiver.requested then
            some (left.complete profile behind (receiver.stream.take r))
          else some left
        else none
    | .retry => some receiver
    | .error => some receiver
    | .endOfStream => if receiver.stream = [] then some { receiver with online := false } else none
  else none

end Receiver

/-- A well-formed frame with a known id. -/
structure Frame {Creator : Type} (profile : Profile Creator) (behind : List UInt8) where
  header : List UInt8
  body : List UInt8
  creator : Creator
  header_length : header.length = lengthCommunication
  complete : sizeMessage header = body.length
  known : profile.creatorFor (protocol header behind) (instruction header) = .ok creator

variable {Creator : Type} {profile : Profile Creator} {behind : List UInt8}

namespace Frame

def bytes (frame : Frame profile behind) : List UInt8 :=
  frame.header ++ frame.body

/-- What is made of a frame: its creator is called with its body. -/
def transferable (frame : Frame profile behind) : Creator × List UInt8 :=
  (frame.creator, frame.body)

theorem length_bytes (frame : Frame profile behind) :
    frame.bytes.length = lengthCommunication + frame.body.length := by
  rw [bytes, List.length_append, frame.header_length]

end Frame

/-- The stream of some frames. -/
def streamOf (frames : List (Frame profile behind)) : List UInt8 :=
  frames.flatMap Frame.bytes

/-- A connection to which the frames will be delivered. -/
def start (frames : List (Frame profile behind)) : Receiver Creator where
  stream := streamOf frames
  awaiting := none
  created := []
  online := true

/-- When all bytes have been delivered the frames' transferables have been
created, in order, and an error that cannot be retried closes the link. -/
def ReceivesFrames (frames : List (Frame profile behind)) (results : List ReadResult)
    (final : Receiver Creator) : Prop :=
  (final.stream = [] → final.created = frames.map Frame.transferable) ∧
    AtEach (Receiver.step profile behind)
      (fun _ receiver result => result = .error →
        ∀ next, receiver.step profile behind result = some next → next.online = false)
      (start frames) results

/-- The read returns all the bytes that it asks for, if it returns bytes. -/
def Whole (receiver : Receiver Creator) (result : ReadResult) : Prop :=
  ∀ r, result = .bytes r → r = receiver.requested

/-- No read fails for good, and if all bytes are delivered, no read returns
fewer bytes than it asks for. -/
def NeverCut (frames : List (Frame profile behind)) (results : List ReadResult)
    (final : Receiver Creator) : Prop :=
  .error ∉ results ∧ (final.stream = [] →
    AtEach (Receiver.step profile behind) (fun _ receiver result => Whole receiver result)
      (start frames) results)

/-- Everything that a read can do. -/
inductive Read (profile : Profile Creator) (behind : List UInt8) (receiver : Receiver Creator) :
    ReadResult → Receiver Creator → Prop where
  | whole (enough : receiver.requested ≤ receiver.stream.length)
      (positive : 1 ≤ receiver.requested) :
      Read profile behind receiver (.bytes receiver.requested)
        (({ receiver with stream := receiver.stream.drop receiver.requested } :
          Receiver Creator).complete profile behind (receiver.stream.take receiver.requested))
  | cut (r : Nat) (positive : 1 ≤ r) (fewer : r < receiver.requested)
      (enough : r ≤ receiver.stream.length) :
      Read profile behind receiver (.bytes r) { receiver with stream := receiver.stream.drop r }
  | retry : Read profile behind receiver .retry receiver
  | error : Read profile behind receiver .error receiver
  | endOfStream (exhausted : receiver.stream = []) :
      Read profile behind receiver .endOfStream { receiver with online := false }

theorem read_of_step {receiver next : Receiver Creator} {result : ReadResult}
    (stepped : receiver.step profile behind result = some next) :
    receiver.online = true ∧ Read profile behind receiver result next := by
  unfold Receiver.step at stepped
  split at stepped
  · next online =>
    refine ⟨online, ?_⟩
    split at stepped
    · next r =>
      split at stepped
      · next inside =>
        split at stepped
        · next same =>
          cases stepped
          subst same
          exact .whole inside.2.2 inside.1
        · next fewer =>
          cases stepped
          exact .cut r inside.1 (Nat.lt_of_le_of_ne inside.2.1 fewer) inside.2.2
      · cases stepped
    · cases stepped
      exact .retry
    · cases stepped
      exact .error
    · split at stepped
      · next exhausted =>
        cases stepped
        exact .endOfStream exhausted
      · cases stepped
  · cases stepped

/-! ## Bytes that are lost -/

/-- The bytes that have gone into a transferable, or into the header of the
body that is being read. -/
def Receiver.used (receiver : Receiver Creator) : Nat :=
  (receiver.created.map fun made => lengthCommunication + made.2.length).sum +
    if receiver.awaiting.isSome then lengthCommunication else 0

/-- The bytes that have not been lost so far. -/
def Receiver.kept (receiver : Receiver Creator) : Nat :=
  receiver.used + receiver.stream.length

/-- The bytes of a complete read are used, unless there is no creator. -/
theorem kept_complete {receiver : Receiver Creator} {buffer : List UInt8}
    (length : buffer.length = receiver.requested) :
    (receiver.complete profile behind buffer).kept ≤ receiver.kept + buffer.length := by
  unfold Receiver.complete
  cases waits : receiver.awaiting with
  | none =>
      have header : buffer.length = lengthCommunication := by
        rw [length, Receiver.requested, waits]
      simp only
      cases profile.creatorFor (protocol buffer behind) (instruction buffer) with
      | error what => exact Nat.le_add_right _ _
      | ok creator =>
          simp only
          split
          · simp only [Receiver.kept, Receiver.used, waits, List.map_append, List.map_cons,
              List.map_nil, List.sum_append, List.sum_cons, List.sum_nil, List.length_nil,
              Option.isSome_none, Bool.false_eq_true, if_false]
            omega
          · simp only [Receiver.kept, Receiver.used, waits, Option.isSome_none, Option.isSome_some,
              Bool.false_eq_true, if_false, if_true]
            omega
  | some body =>
      simp only [Receiver.kept, Receiver.used, waits, List.map_append, List.map_cons, List.map_nil,
        List.sum_append, List.sum_cons, List.sum_nil, Option.isSome_none, Option.isSome_some,
        Bool.false_eq_true, if_false, if_true]
      omega

/-- No read makes lost bytes come back, and one that is cut loses some. -/
theorem kept_le_of_read {receiver next : Receiver Creator} {result : ReadResult}
    (read : Read profile behind receiver result next) :
    next.kept ≤ receiver.kept ∧ (¬ Whole receiver result → next.kept < receiver.kept) := by
  cases read with
  | whole enough positive =>
      refine ⟨?_, fun cut => absurd (fun _ same => ?_) cut⟩
      · have taken : (receiver.stream.take receiver.requested).length = receiver.requested := by
          rw [List.length_take, Nat.min_eq_left enough]
        refine Nat.le_trans (kept_complete taken) ?_
        simp only [Receiver.kept, Receiver.used, List.length_drop, taken]
        omega
      · cases same
        rfl
  | cut r positive fewer enough =>
      have lost : ({ receiver with stream := receiver.stream.drop r } : Receiver Creator).kept + r =
          receiver.kept := by
        simp only [Receiver.kept, Receiver.used, List.length_drop]
        omega
      exact ⟨by omega, fun _ => by omega⟩
  | retry => exact ⟨Nat.le_refl _, fun cut => absurd (fun _ same => by cases same) cut⟩
  | error => exact ⟨Nat.le_refl _, fun cut => absurd (fun _ same => by cases same) cut⟩
  | endOfStream exhausted =>
      exact ⟨Nat.le_refl _, fun cut => absurd (fun _ same => by cases same) cut⟩

theorem kept_start (frames : List (Frame profile behind)) :
    (start frames).kept = ((frames.map Frame.transferable).map fun made =>
      lengthCommunication + made.2.length).sum := by
  have stream : (streamOf frames).length = ((frames.map Frame.transferable).map fun made =>
      lengthCommunication + made.2.length).sum := by
    induction frames with
    | nil => rfl
    | cons frame rest inductionHypothesis =>
        rw [streamOf, List.flatMap_cons, List.length_append, frame.length_bytes, List.map_cons,
          List.map_cons, List.sum_cons]
        exact congrArg (_ + ·) inductionHypothesis
  rw [Receiver.kept, Receiver.used]
  simp only [start, List.map_nil, List.sum_nil, Option.isSome_none, Bool.false_eq_true, if_false]
  omega

/-- A run that creates all transferables loses no byte, so that no read of it
is cut. -/
theorem whole_of_created {frames : List (Frame profile behind)} {results : List ReadResult}
    {final : Receiver Creator}
    (ran : run (Receiver.step profile behind) (start frames) results = some final)
    (all : final.created = frames.map Frame.transferable) :
    AtEach (Receiver.step profile behind) (fun _ receiver result => Whole receiver result)
      (start frames) results := by
  have lowers : ∀ receiver result next, Receiver.step profile behind receiver result = some next →
      next.kept ≤ receiver.kept :=
    fun _ _ _ stepped => (kept_le_of_read (read_of_step stepped).2).1
  intro before result after receiver split reached
  rw [split] at ran
  rcases exists_states_of_split ran with ⟨same, next, reachedToo, stepped, later⟩
  have isSame : receiver = same := Option.mem_unique reached reachedToo
  subst isSame
  by_contra cut
  have lost := (kept_le_of_read (read_of_step stepped).2).2 cut
  have earlier := measure_le_of_run Receiver.kept lowers reached
  have onwards := measure_le_of_run Receiver.kept lowers later
  have enough : (start frames).kept ≤ final.kept := by
    rw [kept_start, ← all, Receiver.kept, Receiver.used, Nat.add_assoc]
    exact Nat.le_add_right _ _
  omega

/-! ## Reading at the frames' boundaries -/

/-- The next read begins with the header of the first of these frames, or with
its body. -/
inductive Expects (rest : List (Frame profile behind)) (receiver : Receiver Creator) : Prop where
  | header (waits : receiver.awaiting = none) (stream : receiver.stream = streamOf rest)
  | body (frame : Frame profile behind) (later : List (Frame profile behind))
      (split : rest = frame :: later)
      (waits : receiver.awaiting = some (frame.creator, frame.body.length))
      (nonempty : frame.body ≠ []) (stream : receiver.stream = frame.body ++ streamOf later)

/-- Some of the frames have become transferables, and the others follow. -/
def Aligned (frames : List (Frame profile behind)) (receiver : Receiver Creator) : Prop :=
  ∃ done rest, frames = done ++ rest ∧ receiver.created = done.map Frame.transferable ∧
    Expects rest receiver

theorem aligned_start (frames : List (Frame profile behind)) : Aligned frames (start frames) :=
  ⟨[], frames, rfl, rfl, .header rfl rfl⟩

/-- A whole header is that of the next frame. -/
theorem Aligned.readHeader {frames : List (Frame profile behind)} {receiver : Receiver Creator}
    {done : List (Frame profile behind)} {frame : Frame profile behind}
    {later : List (Frame profile behind)} (split : frames = done ++ frame :: later)
    (created : receiver.created = done.map Frame.transferable)
    (waits : receiver.awaiting = none) (left : receiver.stream = frame.body ++ streamOf later) :
    Aligned frames (receiver.complete profile behind frame.header) := by
  rw [Receiver.complete, waits]
  simp only [frame.known, frame.complete]
  by_cases empty : frame.body.length = 0
  · have nothing : frame.body = [] := List.length_eq_zero_iff.mp empty
    rw [if_pos empty]
    refine ⟨done ++ [frame], later, ?_, ?_, .header rfl ?_⟩
    · rw [split, List.append_assoc, List.singleton_append]
    · rw [created, List.map_append, List.map_singleton, Frame.transferable, nothing]
    · rw [left, nothing, List.nil_append]
  · rw [if_neg empty]
    refine ⟨done, frame :: later, split, created, .body frame later rfl rfl ?_ left⟩
    intro nothing
    exact empty (congrArg List.length nothing)

theorem Aligned.read {frames : List (Frame profile behind)} {receiver next : Receiver Creator}
    {result : ReadResult} (aligned : Aligned frames receiver)
    (read : Read profile behind receiver result next) (whole : Whole receiver result) :
    Aligned frames next := by
  rcases aligned with ⟨done, rest, split, created, expects⟩
  cases read with
  | whole enough positive =>
      cases expects with
      | header waits stream =>
          have asks : receiver.requested = lengthCommunication := by
            rw [Receiver.requested, waits]
          cases rest with
          | nil =>
              rw [asks, stream] at enough
              exact absurd enough (Nat.not_succ_le_zero _)
          | cons frame later =>
              have front : receiver.stream = frame.header ++ (frame.body ++ streamOf later) := by
                rw [stream, streamOf, List.flatMap_cons, Frame.bytes, List.append_assoc]
                rfl
              rw [asks, ← frame.header_length, front, List.take_left, List.drop_left]
              exact Aligned.readHeader split created waits rfl
      | body frame later begins waits nonempty stream =>
          have asks : receiver.requested = frame.body.length := by
            rw [Receiver.requested, waits]
          rw [asks, stream, List.take_left, List.drop_left, Receiver.complete]
          simp only [waits]
          refine ⟨done ++ [frame], later, ?_, ?_, .header rfl rfl⟩
          · rw [split, begins, List.append_assoc, List.singleton_append]
          · rw [created, List.map_append]
            rfl
  | cut r positive fewer enough =>
      exact absurd (whole r rfl) (Nat.ne_of_lt fewer)
  | retry => exact ⟨done, rest, split, created, expects⟩
  | error => exact ⟨done, rest, split, created, expects⟩
  | endOfStream exhausted =>
      refine ⟨done, rest, split, created, ?_⟩
      cases expects with
      | header waits stream => exact .header waits stream
      | body frame later begins waits nonempty stream =>
          exact .body frame later begins waits nonempty stream

/-- When nothing is left to deliver, all transferables have been created. -/
theorem Aligned.created {frames : List (Frame profile behind)} {receiver : Receiver Creator}
    (aligned : Aligned frames receiver) (exhausted : receiver.stream = []) :
    receiver.created = frames.map Frame.transferable := by
  rcases aligned with ⟨done, rest, split, created, expects⟩
  cases expects with
  | header waits stream =>
      cases rest with
      | nil => rw [created, split, List.append_nil]
      | cons frame later =>
          rw [exhausted, streamOf, List.flatMap_cons] at stream
          have length := congrArg List.length stream
          rw [List.length_append, frame.length_bytes, lengthCommunication,
            List.length_nil] at length
          omega
  | body frame later begins waits nonempty stream =>
      rw [exhausted] at stream
      exact absurd (List.append_eq_nil_iff.mp stream.symm).1 nonempty

theorem created_of_whole {frames : List (Frame profile behind)} {results : List ReadResult}
    {final : Receiver Creator}
    (ran : run (Receiver.step profile behind) (start frames) results = some final)
    (whole : AtEach (Receiver.step profile behind) (fun _ receiver result => Whole receiver result)
      (start frames) results)
    (exhausted : final.stream = []) : final.created = frames.map Frame.transferable := by
  have aligned : Aligned frames final := by
    refine run_invariant (fun _ => True) (fun _ receiver => Aligned frames receiver)
      (fun _ _ _ => trivial) (aligned_start frames) ?_ trivial whole ran
    intro before receiver result next _ aligned whole stepped
    exact aligned.read (read_of_step stepped).2 whole
  exact aligned.created exhausted

/-- An error never closes the link. -/
theorem errors_close_iff {frames : List (Frame profile behind)} {results : List ReadResult}
    {final : Receiver Creator}
    (ran : run (Receiver.step profile behind) (start frames) results = some final) :
    AtEach (Receiver.step profile behind)
      (fun _ receiver result => result = .error →
        ∀ next, receiver.step profile behind result = some next → next.online = false)
      (start frames) results ↔ .error ∉ results := by
  constructor
  · intro closes member
    rcases List.append_of_mem member with ⟨before, after, split⟩
    rw [split] at ran
    rcases exists_states_of_split ran with ⟨receiver, next, reached, stepped, _⟩
    have closed := closes before .error after receiver split reached rfl next stepped
    rcases read_of_step stepped with ⟨online, read⟩
    cases read
    rw [online] at closed
    cases closed
  · intro never before result after receiver split _ same
    rw [split, same] at never
    exact absurd (List.mem_append_right _ List.mem_cons_self) never

/-- Frames are received as they should if and only if no read fails for good,
and none is cut when all bytes are delivered. -/
theorem receivesFrames_iff {frames : List (Frame profile behind)} {results : List ReadResult}
    {final : Receiver Creator}
    (ran : run (Receiver.step profile behind) (start frames) results = some final) :
    ReceivesFrames frames results final ↔ NeverCut frames results final := by
  rw [ReceivesFrames, NeverCut, errors_close_iff ran, and_comm]
  refine and_congr_right fun _ => forall_congr' fun exhausted => ?_
  exact ⟨whole_of_created ran, fun whole => created_of_whole ran whole exhausted⟩

/-- A profile that knows the class 7. -/
def oneClass : Profile Nat where
  mCreators := [(7, 1)]
  mCreatorIds := []

/-- A frame of the protocol "0.1a" and the class 7, whose body has one byte. -/
def knownFrame : Frame oneClass [0] where
  header := [1, 0, 0, 0, 0, 0, 0, 0] ++ bytesOf "0.1a" ++ [0, 0, 0, 0] ++ [7, 0, 0, 0]
  body := [5]
  creator := 1
  header_length := by decide
  complete := by decide
  known := by decide

/-- The connection after all bytes of the frame have been delivered. -/
def delivered (created : List (Nat × List UInt8)) : Receiver Nat where
  stream := []
  awaiting := none
  created := created
  online := true

theorem whole_reads_receive :
    ReceivesFrames [knownFrame] [.retry, .bytes 20, .retry, .bytes 1] (delivered [(1, [5])]) := by
  have ran : run (Receiver.step oneClass [0]) (start [knownFrame])
      [.retry, .bytes 20, .retry, .bytes 1] = some (delivered [(1, [5])]) := by rfl
  apply (receivesFrames_iff ran).mpr
  refine ⟨by decide, fun _ => ?_⟩
  refine atEach_cons.mpr ⟨(fun _ same => by cases same), fun next stepped => ?_⟩
  cases stepped
  refine atEach_cons.mpr ⟨(fun _ same => by cases same; rfl), fun next stepped => ?_⟩
  cases stepped
  refine atEach_cons.mpr ⟨(fun _ same => by cases same), fun next stepped => ?_⟩
  cases stepped
  exact atEach_cons.mpr ⟨(fun _ same => by cases same; rfl), fun _ _ => atEach_nil⟩

/-- The header comes in two pieces: nothing is created. -/
theorem cut_header_lost :
    run (Receiver.step oneClass [0]) (start [knownFrame]) [.bytes 10, .bytes 11] =
        some (delivered []) ∧
      ¬ ReceivesFrames [knownFrame] [.bytes 10, .bytes 11] (delivered []) := by
  refine ⟨by rfl, fun receives => ?_⟩
  have created := receives.1 rfl
  cases created

end Plain
end Messaging
end Pxc
