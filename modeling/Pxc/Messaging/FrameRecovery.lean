import Pxc.Messaging.Reception

namespace Pxc
namespace Messaging

open General

/-!
# Whether one bad frame damages the next

A stream of complete frames should raise one error for each frame whose type
id is unknown, and create the transferables of all others.  The exception for
an unknown id leaves the body in the stream, where it is taken for the next
header.

The theorem at the end says exactly which streams are received as they
should.  An unknown frame must have an empty body, unless it is the last one
and its body begins no frame that would be complete.  A known frame must name
a protocol, and its body must be at least as long as its class.
-/

variable {Creator : Type}

/-- A complete frame: sixteen bytes of header, and a body of the length that
the header announces. -/
structure Frame where
  header : List UInt8
  body : List UInt8
  header_length : header.length = 16
  complete : sizeMessage header = body.length

namespace Frame

def bytes (frame : Frame) : List UInt8 :=
  frame.header ++ frame.body

theorem length_bytes (frame : Frame) : frame.bytes.length = 16 + frame.body.length := by
  rw [bytes, List.length_append, frame.header_length]

theorem take_bytes (frame : Frame) (after : List UInt8) :
    (frame.bytes ++ after).take 16 = frame.header := by
  rw [bytes, List.append_assoc, ← frame.header_length, List.take_left]

theorem drop_bytes (frame : Frame) (after : List UInt8) :
    (frame.bytes ++ after).drop 16 = frame.body ++ after := by
  rw [bytes, List.append_assoc, ← frame.header_length, List.drop_left]

end Frame

/-- The stream of some frames. -/
def streamOf (frames : List Frame) : List UInt8 :=
  frames.flatMap Frame.bytes

/-- What a stream of frames should do from a position on: one error for each
unknown frame, and for each other frame its transferable, made from the first
bytes of its own body. -/
def expected (typeSize : Creator → Nat) (profile : Profile Creator) :
    Nat → List Frame → List (Raised Creator)
  | _, [] => []
  | position, frame :: rest =>
      (match profile.mCreators.lookup (instruction frame.header) with
        | none => .error position
        | some creator => .created position creator (frame.body.take (typeSize creator))) ::
        expected typeSize profile (position + frame.bytes.length) rest

/-- The header's protocol is the string "none". -/
def NoProtocol (header : List UInt8) : Prop :=
  (header.drop 4).take 5 = NO_PROTOCOL ++ [0]

/-- The bytes begin no frame that would raise an error or be complete. -/
def BeginsNothing (profile : Profile Creator) (bytes : List UInt8) : Prop :=
  bytes.length < 16 ∨
    (¬ NoProtocol (bytes.take 16) ∧
      (∃ creator, profile.mCreators.lookup (instruction (bytes.take 16)) = some creator) ∧
      0 ≤ sizeMessage (bytes.take 16) ∧
      ((bytes.drop 16).length : Int) < sizeMessage (bytes.take 16))

/-- The frame does no damage, where `last` says that no frame follows. -/
def Harmless (typeSize : Creator → Nat) (profile : Profile Creator) (last : Prop)
    (frame : Frame) : Prop :=
  match profile.mCreators.lookup (instruction frame.header) with
  | some creator => ¬ NoProtocol frame.header ∧ typeSize creator ≤ frame.body.length
  | none => frame.body = [] ∨ last ∧ BeginsNothing profile frame.body

/-- No frame of the stream does damage. -/
def Recoverable (typeSize : Creator → Nat) (profile : Profile Creator) (frames : List Frame) :
    Prop :=
  ∀ before frame after, frames = before ++ frame :: after →
    Harmless typeSize profile (after = []) frame

variable {typeSize : Creator → Nat} {profile : Profile Creator}

theorem recoverable_nil : Recoverable typeSize profile [] := by
  intro before frame after split
  cases before <;> cases split

theorem recoverable_cons {frame : Frame} {rest : List Frame} :
    Recoverable typeSize profile (frame :: rest) ↔
      Harmless typeSize profile (rest = []) frame ∧ Recoverable typeSize profile rest := by
  constructor
  · intro recoverable
    refine ⟨recoverable [] frame rest rfl, fun before other after split => ?_⟩
    exact recoverable (frame :: before) other after (by rw [split, List.cons_append])
  · rintro ⟨first, others⟩ before other after split
    cases before with
    | nil =>
        cases split
        exact first
    | cons head before =>
        cases split
        exact others before other after rfl

/-! ## Protocol strings -/

/-- A string shorter than its array is decided by the array alone. -/
theorem readString_append_eq_iff {target array : List UInt8} (nonzero : ∀ byte ∈ target, byte ≠ 0)
    (shorter : target.length < array.length) (behind : List UInt8) :
    readString (array ++ behind) = target ↔ array.take (target.length + 1) = target ++ [0] := by
  unfold readString
  induction target generalizing array with
  | nil =>
      cases array with
      | nil => cases shorter
      | cons byte rest =>
          by_cases zero : byte = 0
          · simp [zero]
          · simp [zero]
  | cons first target inductionHypothesis =>
      cases array with
      | nil => cases shorter
      | cons byte rest =>
          have nonzeroFirst : first ≠ 0 := nonzero first List.mem_cons_self
          have others := inductionHypothesis
            (fun other member => nonzero other (List.mem_cons_of_mem first member))
            (Nat.lt_of_succ_lt_succ shorter)
          by_cases zero : byte = 0
          · subst zero
            simp [Ne.symm nonzeroFirst]
          · simp only [List.cons_append, List.takeWhile_cons, ne_eq, zero, not_false_eq_true,
              decide_true, if_true, List.cons.injEq, List.length_cons, List.take_succ_cons]
            simpa using fun _ => others

theorem protocol_eq_iff {header : List UInt8} (length : header.length = 16) (behind : Behind) :
    protocol header behind = NO_PROTOCOL ↔ NoProtocol header := by
  have array : ((header.drop 4).take 8).length = 8 := by
    rw [List.length_take, List.length_drop, length]
    rfl
  have nonzero : ∀ byte ∈ NO_PROTOCOL, byte ≠ 0 := by
    have bytes : NO_PROTOCOL = [110, 111, 110, 101] := rfl
    simp [bytes]
  have shorter : NO_PROTOCOL.length < ((header.drop 4).take 8).length := by
    rw [array]
    decide
  have decided := readString_append_eq_iff nonzero shorter behind.protocol
  rw [List.take_take] at decided
  exact decided

section OneFrame

variable {factory : TransferableFactory Creator} {memory : Nat → Behind} {behind : Behind}
  {position : Nat}

theorem creatorFor_ok_iff {header : List UInt8} (length : header.length = 16)
    {creator : Creator} :
    profile.creatorFor (protocol header behind) (instruction header) = .ok creator ↔
      ¬ NoProtocol header ∧ profile.mCreators.lookup (instruction header) = some creator := by
  rw [← protocol_eq_iff length behind]
  unfold Profile.creatorFor
  by_cases none : protocol header behind = NO_PROTOCOL
  · simp only [none, if_true, reduceCtorEq, not_true_eq_false, false_and]
  · simp only [none, if_false, not_false_eq_true, true_and]
    cases profile.mCreators.lookup (instruction header) with
    | none => simp only [reduceCtorEq]
    | some found => simp only [Except.ok.injEq, Option.some.injEq]

theorem create_eq_take_iff {size : Nat} {body : List UInt8} :
    create size body behind = body.take size ↔ size ≤ body.length := by
  unfold create
  rw [List.append_right_eq_self, List.map_eq_nil_iff, List.range_eq_nil]
  omega

theorem receiveBody_complete (creator : Creator) (frame : Frame) (after : List UInt8) :
    receiveBody typeSize creator (sizeMessage frame.header) behind (frame.body ++ after) =
      .created creator (create (typeSize creator) frame.body behind) after := by
  have nonnegative : ¬ ((frame.body.length : Int) < 0) := by omega
  have present : ¬ ((frame.body ++ after).length < frame.body.length) := by
    rw [List.length_append]
    omega
  rw [receiveBody, frame.complete, if_neg nonnegative, Int.toNat_natCast, if_neg present,
    List.take_left, List.drop_left]

theorem map_cons_eq_some_cons_iff {Item : Type} {items : Option (List Item)} {first second : Item}
    {rest : List Item} :
    items.map (first :: ·) = some (second :: rest) ↔ first = second ∧ items = some rest := by
  cases items with
  | none => simp only [Option.map_none, reduceCtorEq, and_false]
  | some items => simp only [Option.map_some, Option.some.injEq, List.cons.injEq]

/-- What a call raises is known by the position at which the call began. -/
theorem position_of_receiveThread {stream : List UInt8} {raised : Raised Creator}
    {others : List (Raised Creator)}
    (done : receiveThread typeSize memory factory position stream = some (raised :: others)) :
    raised.position = position := by
  cases received : (receiveTransfThread typeSize factory (memory position) stream).2 with
  | closed => rw [receiveThread_closed received] at done; cases done
  | undefined => rw [receiveThread_undefined received] at done; cases done
  | failed what rest =>
      rw [receiveThread_failed received] at done
      rw [← (map_cons_eq_some_cons_iff.mp done).1]
      rfl
  | created creator content rest =>
      rw [receiveThread_created received] at done
      rw [← (map_cons_eq_some_cons_iff.mp done).1]
      rfl

/-- Bytes raise nothing exactly when they begin nothing. -/
theorem receiveThread_eq_nil_iff (set : factory.mProfile = some profile) {bytes : List UInt8} :
    receiveThread typeSize memory factory position bytes = some [] ↔
      BeginsNothing profile bytes := by
  by_cases short : bytes.length < 16
  · have closed : (receiveTransfThread typeSize factory (memory position) bytes).2 = .closed := by
      rw [receiveTransfThread, if_pos short]
    rw [receiveThread_closed closed]
    exact ⟨fun _ => Or.inl short, fun _ => rfl⟩
  · have enough := Nat.le_of_not_lt short
    have header : (bytes.take 16).length = 16 := by
      rw [List.length_take, Nat.min_eq_left enough]
    have received := (receiveTransfThread_header typeSize (memory position) set enough).2
    unfold BeginsNothing
    cases found : profile.creatorFor (protocol (bytes.take 16) (memory position))
        (instruction (bytes.take 16)) with
    | error what =>
        rw [found] at received
        rw [receiveThread_failed received]
        constructor
        · intro raises
          rcases Option.map_eq_some_iff.mp raises with ⟨_, _, impossible⟩
          cases impossible
        · rintro (few | ⟨real, ⟨creator, listed⟩, _⟩)
          · exact absurd few short
          · rw [(creatorFor_ok_iff header).mpr ⟨real, listed⟩] at found
            cases found
    | ok creator =>
        rcases (creatorFor_ok_iff header).mp found with ⟨real, listed⟩
        simp only [short, real, not_false_eq_true, listed, Option.some.injEq, exists_eq', true_and,
          false_or]
        rw [found] at received
        simp only [receiveBody] at received
        by_cases negative : sizeMessage (bytes.take 16) < 0
        · rw [if_pos negative] at received
          rw [receiveThread_undefined received]
          constructor
          · intro raises
            cases raises
          · intro begins
            omega
        · rw [if_neg negative] at received
          by_cases missing : (bytes.drop 16).length < (sizeMessage (bytes.take 16)).toNat
          · rw [if_pos missing] at received
            rw [receiveThread_closed received]
            exact ⟨fun _ => by omega, fun _ => rfl⟩
          · rw [if_neg missing] at received
            rw [receiveThread_created received]
            constructor
            · intro raises
              rcases Option.map_eq_some_iff.mp raises with ⟨_, _, impossible⟩
              cases impossible
            · intro begins
              omega

end OneFrame

/-! ## Streams of frames -/

section Streams

variable {factory : TransferableFactory Creator} {memory : Nat → Behind} {position : Nat}

/-- The first call of a stream that begins with a frame. -/
theorem receive_frame (typeSize : Creator → Nat) (set : factory.mProfile = some profile)
    (frame : Frame) (after : List UInt8) (behind : Behind) :
    (receiveTransfThread typeSize factory behind (frame.bytes ++ after)).1.mProfile =
        some profile ∧
      (receiveTransfThread typeSize factory behind (frame.bytes ++ after)).2 =
        match profile.creatorFor (protocol frame.header behind) (instruction frame.header) with
        | .error what => .failed what (frame.body ++ after)
        | .ok creator => .created creator (create (typeSize creator) frame.body behind) after := by
  have enough : 16 ≤ (frame.bytes ++ after).length := by
    rw [List.length_append, frame.length_bytes]
    omega
  have received := receiveTransfThread_header typeSize behind set enough
  simp only [frame.take_bytes, frame.drop_bytes, receiveBody_complete] at received
  exact received

/-- A frame for which no creator is found raises an error, and its body is
left in the stream. -/
theorem receiveThread_not_created (set : factory.mProfile = some profile) (frame : Frame)
    (after : List UInt8)
    (fails : ∀ creator, profile.creatorFor (protocol frame.header (memory position))
      (instruction frame.header) ≠ .ok creator) :
    receiveThread typeSize memory factory position (frame.bytes ++ after) =
      (receiveThread typeSize memory
        (receiveTransfThread typeSize factory (memory position) (frame.bytes ++ after)).1
        (position + 16) (frame.body ++ after)).map (.error position :: ·) := by
  have received := (receive_frame typeSize set frame after (memory position)).2
  cases found : profile.creatorFor (protocol frame.header (memory position))
      (instruction frame.header) with
  | ok creator => exact absurd found (fails creator)
  | error what =>
      rw [found] at received
      have header : (frame.bytes ++ after).length - (frame.body ++ after).length = 16 := by
        rw [List.length_append, List.length_append, frame.length_bytes]
        omega
      rw [receiveThread_failed received, header]

/-- The rest of an unknown frame that is not as it should be. -/
theorem not_expected_after_body {frame next : Frame} {rest : List Frame} {stream : List UInt8}
    (body : frame.body ≠ []) :
    receiveThread typeSize memory factory (position + 16) stream ≠
      some (expected typeSize profile (position + frame.bytes.length) (next :: rest)) := by
  intro done
  have first := position_of_receiveThread done
  have later : ∀ found : Option Creator, (match found with
      | none => Raised.error (position + frame.bytes.length)
      | some creator => .created (position + frame.bytes.length) creator
          (next.body.take (typeSize creator))).position = position + frame.bytes.length := by
    intro found
    cases found <;> rfl
  rw [later, frame.length_bytes] at first
  exact body (List.length_eq_zero_iff.mp (by omega))

/-- A stream of frames, from any position and in any state of the factory. -/
theorem receiveThread_frames_iff (frames : List Frame) (set : factory.mProfile = some profile) :
    receiveThread typeSize memory factory position (streamOf frames) =
        some (expected typeSize profile position frames) ↔
      Recoverable typeSize profile frames := by
  induction frames generalizing factory position with
  | nil =>
      have closed : (receiveTransfThread typeSize factory (memory position) []).2 = .closed := rfl
      exact ⟨fun _ => recoverable_nil, fun _ => receiveThread_closed closed⟩
  | cons frame rest inductionHypothesis =>
      have stream : streamOf (frame :: rest) = frame.bytes ++ streamOf rest := List.flatMap_cons
      rcases receive_frame typeSize set frame (streamOf rest) (memory position) with
        ⟨setAfter, received⟩
      have following := @inductionHypothesis _ (position + frame.bytes.length) setAfter
      rw [recoverable_cons, stream]
      unfold expected Harmless
      have length : (frame.bytes ++ streamOf rest).length - (streamOf rest).length =
          frame.bytes.length := by
        rw [List.length_append, Nat.add_sub_cancel]
      cases listed : profile.mCreators.lookup (instruction frame.header) with
      | some creator =>
          by_cases none : NoProtocol frame.header
          · rw [receiveThread_not_created set frame (streamOf rest) fun other found =>
              ((creatorFor_ok_iff frame.header_length).mp found).1 none]
            simp only [none, not_true_eq_false, false_and, iff_false]
            intro done
            rcases Option.map_eq_some_iff.mp done with ⟨_, _, impossible⟩
            cases impossible
          · rw [(creatorFor_ok_iff frame.header_length).mpr ⟨none, listed⟩] at received
            rw [receiveThread_created received, map_cons_eq_some_cons_iff, length, following]
            simp only [Raised.created.injEq, true_and, create_eq_take_iff, none, not_false_eq_true]
      | none =>
          rw [receiveThread_not_created set frame (streamOf rest) fun other found => by
            rw [((creatorFor_ok_iff frame.header_length).mp found).2] at listed
            cases listed]
          rw [map_cons_eq_some_cons_iff]
          simp only [true_and]
          by_cases empty : frame.body = []
          · have sixteen : frame.bytes.length = 16 := by
              rw [frame.length_bytes, empty]
              rfl
            rw [sixteen] at following ⊢
            simp only [empty, List.nil_append, following, true_or, true_and]
          · cases rest with
            | nil =>
                simp only [streamOf, List.flatMap_nil, List.append_nil] at setAfter
                simp only [streamOf, List.flatMap_nil, List.append_nil, expected, empty, true_and,
                  false_or, recoverable_nil, and_true]
                exact receiveThread_eq_nil_iff setAfter
            | cons next rest =>
                simp only [empty, reduceCtorEq, false_and, or_self, iff_false]
                exact not_expected_after_body empty

/-- A stream of complete frames raises one error for each unknown frame, and
creates the transferables of all others from exactly their own bodies, if and
only if none of its frames does damage. -/
theorem frames_received_iff (set : factory.mProfile = some profile) (frames : List Frame) :
    receiveThread typeSize memory factory 0 (streamOf frames) =
        some (expected typeSize profile 0 frames) ↔
      Recoverable typeSize profile frames :=
  receiveThread_frames_iff frames set

/-- A frame of the protocol "0.1a" and the class 7, whose body has two bytes. -/
def knownFrame : Frame where
  header := [2, 0, 0, 0] ++ bytesOf "0.1a" ++ [0, 0, 0, 0] ++ [7, 0, 0, 0]
  body := [1, 2]
  header_length := by decide
  complete := by decide

/-- A frame of the class 9, whose body has one byte. -/
def unknownFrame : Frame where
  header := [1, 0, 0, 0] ++ bytesOf "0.1a" ++ [0, 0, 0, 0] ++ [9, 0, 0, 0]
  body := [5]
  header_length := by decide
  complete := by decide

/-- A profile that knows the class 7, an object of two bytes. -/
def oneClass : Profile Nat where
  mCreators := [(7, 2)]
  mCreatorIds := []

/-- The factory before the first frame. -/
def freshFactory : TransferableFactory Nat where
  mProfile := some oneClass
  mProtocolVersion := NO_PROTOCOL
  mCreators := ∅
  mSendingType := ∅

/-- Zeros behind the buffers. -/
def zeros : Nat → Behind :=
  fun _ => ⟨[0], fun _ => 0⟩

theorem known_frames_received :
    receiveThread id zeros freshFactory 0 (streamOf [knownFrame, knownFrame]) =
      some (expected id oneClass 0 [knownFrame, knownFrame]) := by
  have set : freshFactory.mProfile = some oneClass := rfl
  apply (frames_received_iff set _).mpr
  have harmless : ∀ last, Harmless id oneClass last knownFrame := fun _ => by
    have listed : oneClass.mCreators.lookup (instruction knownFrame.header) = some 2 := by decide
    simp only [Harmless, listed, NoProtocol]
    decide
  exact recoverable_cons.mpr ⟨harmless _, recoverable_cons.mpr ⟨harmless _, recoverable_nil⟩⟩

/-- The body of an unknown frame is taken for a header, and the known frame
after it is not created. -/
theorem known_frame_after_unknown_lost :
    receiveThread id zeros freshFactory 0 (streamOf [unknownFrame, knownFrame]) ≠
      some (expected id oneClass 0 [unknownFrame, knownFrame]) := by
  intro done
  have set : freshFactory.mProfile = some oneClass := rfl
  have recoverable := (receiveThread_frames_iff _ set).mp done
  have harmless := (recoverable_cons.mp recoverable).1
  have listed : oneClass.mCreators.lookup (instruction unknownFrame.header) = none := by decide
  simp only [Harmless, listed, reduceCtorEq, false_and, or_false] at harmless
  cases harmless

end Streams

end Messaging
end Pxc
