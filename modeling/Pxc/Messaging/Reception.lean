import Mathlib.Data.List.TakeWhile
import Pxc.Messaging.Factory

namespace Pxc
namespace Messaging

open General

/-!
# Receiving transferables

A connection reads a header of sixteen bytes, which announces the length of
the body, the protocol and the type id.  It then looks up a creator, reads
the body, and lets the creator copy as many bytes of it as its class has.
When no creator is found, an exception ends this before the body is read, and
the receiving loop goes on with whatever comes next in the stream.

The buffers are arrays of the exact size.  The protocol is read as a string,
up to a terminator that may lie behind its array, and a creator copies what
lies behind a body that is too short.  What lies there is a parameter.  A
negative length has no defined result.
-/

/-- What lies in memory behind the two buffers. -/
structure Behind where
  protocol : List UInt8
  message : Nat → UInt8

/-- The `int` in four bytes, the lowest first. -/
def readInt (bytes : List UInt8) : Int :=
  (BitVec.ofNat 32 (bytes.foldr (fun byte value => byte.toNat + 256 * value) 0)).toInt

/-- The string that begins at a place in memory. -/
def readString (memory : List UInt8) : List UInt8 :=
  memory.takeWhile fun byte => byte ≠ 0

theorem length_readString_le (memory : List UInt8) : (readString memory).length ≤ memory.length :=
  (List.takeWhile_prefix _).length_le

/-- A terminator within the array ends the string, whatever lies behind. -/
theorem readString_append_of_zero {array : List UInt8} (terminated : 0 ∈ array)
    (behind : List UInt8) : readString (array ++ behind) = readString array := by
  unfold readString
  induction array with
  | nil => cases terminated
  | cons byte rest inductionHypothesis =>
      by_cases zero : byte = 0
      · simp only [List.cons_append, List.takeWhile_cons, zero, ne_eq, not_true_eq_false,
          decide_false, Bool.false_eq_true, if_false]
      · have later : 0 ∈ rest := by
          rcases List.mem_cons.mp terminated with same | later
          · exact absurd same.symm zero
          · exact later
        simp only [List.cons_append, List.takeWhile_cons, ne_eq, zero, not_false_eq_true,
          decide_true, if_true, inductionHypothesis later]

/-- Without one, the string goes on behind the array. -/
theorem readString_of_no_zero {memory : List UInt8} (unterminated : 0 ∉ memory) :
    readString memory = memory := by
  unfold readString
  rw [List.takeWhile_eq_self_iff]
  intro byte member
  exact decide_eq_true fun zero => unterminated (zero ▸ member)

theorem zero_not_mem_readString (memory : List UInt8) : 0 ∉ readString memory := by
  unfold readString
  intro member
  have nonzero := List.mem_takeWhile_imp member
  exact absurd nonzero (by decide)

theorem readString_append_zero {text : List UInt8} (nonzero : 0 ∉ text) (behind : List UInt8) :
    readString (text ++ 0 :: behind) = text := by
  unfold readString
  rw [List.takeWhile_append_of_pos]
  · exact List.append_nil text
  · intro byte member
    exact decide_eq_true fun zero => nonzero (zero ▸ member)

/-- The fields of a header. -/
def sizeMessage (header : List UInt8) : Int :=
  readInt (header.take 4)

def protocol (header : List UInt8) (behind : Behind) : List UInt8 :=
  readString ((header.drop 4).take 8 ++ behind.protocol)

def instruction (header : List UInt8) : Int :=
  readInt ((header.drop 12).take 4)

/-- `Datagram::Creator::create`: the bytes it copies into the new object. -/
def create (typeSize : Nat) (bufferMessage : List UInt8) (behind : Behind) : List UInt8 :=
  bufferMessage.take typeSize ++
    (List.range (typeSize - bufferMessage.length)).map behind.message

theorem length_create (typeSize : Nat) (bufferMessage : List UInt8) (behind : Behind) :
    (create typeSize bufferMessage behind).length = typeSize := by
  rw [create, List.length_append, List.length_take, List.length_map, List.length_range]
  omega

theorem create_append {typeSize : Nat} {fields : List UInt8} (length : fields.length = typeSize)
    (excess : List UInt8) (behind : Behind) :
    create typeSize (fields ++ excess) behind = fields := by
  have none : typeSize - (fields ++ excess).length = 0 := by
    rw [List.length_append, length]
    omega
  rw [create, none, ← length, List.take_left]
  exact List.append_nil fields

/-- How one call of `receiveTransfThread` ends, with the rest of the stream. -/
inductive Received (Creator : Type) where
  | closed
  | failed (what : String) (rest : List UInt8)
  | created (creator : Creator) (content : List UInt8) (rest : List UInt8)
  | undefined

variable {Creator : Type}

/-- The part of `receiveTransfThread` that follows the lookup of a creator:
`rest` is what follows the header. -/
def receiveBody (typeSize : Creator → Nat) (creator : Creator) (size : Int) (behind : Behind)
    (rest : List UInt8) : Received Creator :=
  if size < 0 then .undefined
  else if rest.length < size.toNat then .closed
  else
    .created creator (create (typeSize creator) (rest.take size.toNat) behind)
      (rest.drop size.toNat)

/-- `TCPConnectionSecurity::receiveTransfThread`.  The end of the stream
closes the connection. -/
def receiveTransfThread (typeSize : Creator → Nat) (factory : TransferableFactory Creator)
    (behind : Behind) (stream : List UInt8) : TransferableFactory Creator × Received Creator :=
  if stream.length < 16 then (factory, .closed)
  else
    let header := stream.take 16
    let rest := stream.drop 16
    let (factory, set) := factory.setProtocol (protocol header behind)
    match set with
    | .error what => (factory, .failed what rest)
    | .ok _ =>
        match factory.creator (instruction header) with
        | .error what => (factory, .failed what rest)
        | .ok creator => (factory, receiveBody typeSize creator (sizeMessage header) behind rest)

/-- The rest of the stream after a call that leaves the connection open. -/
def Received.rest : Received Creator → Option (List UInt8)
  | .failed _ rest => some rest
  | .created _ _ rest => some rest
  | _ => none

/-- What the receiving loop does: raise an error, or create a transferable.
Both are known by the position in the stream at which the call began. -/
inductive Raised (Creator : Type) where
  | error (position : Nat)
  | created (position : Nat) (creator : Creator) (content : List UInt8)

def Raised.position : Raised Creator → Nat
  | .error position => position
  | .created position _ _ => position

variable {typeSize : Creator → Nat} {factory : TransferableFactory Creator} {behind : Behind}
  {stream rest : List UInt8}

/-- A call that leaves the connection open takes a header, at least. -/
theorem length_rest_lt
    (left : (receiveTransfThread typeSize factory behind stream).2.rest = some rest) :
    rest.length < stream.length := by
  unfold receiveTransfThread at left
  split at left
  · cases left
  · next enough =>
    have header : (stream.drop 16).length < stream.length := by
      rw [List.length_drop]
      omega
    simp only at left
    split at left
    · cases left
      exact header
    · split at left
      · cases left
        exact header
      · unfold receiveBody at left
        split at left
        · cases left
        · split at left
          · cases left
          · cases left
            rw [List.length_drop]
            omega

/-- `TCPConnectionSecurity::receiveThread`, from a position of the stream on.
What lies behind the buffers may differ from call to call. -/
def receiveThread (typeSize : Creator → Nat) (memory : Nat → Behind)
    (factory : TransferableFactory Creator) (position : Nat) (stream : List UInt8) :
    Option (List (Raised Creator)) :=
  match _received : receiveTransfThread typeSize factory (memory position) stream with
  | (_, .closed) => some []
  | (_, .undefined) => none
  | (factory, .failed _ rest) =>
      (receiveThread typeSize memory factory (position + (stream.length - rest.length)) rest).map
        (.error position :: ·)
  | (factory, .created creator content rest) =>
      (receiveThread typeSize memory factory (position + (stream.length - rest.length)) rest).map
        (.created position creator content :: ·)
termination_by stream.length
decreasing_by
  · exact length_rest_lt (congrArg (fun result => result.2.rest) _received)
  · exact length_rest_lt (congrArg (fun result => result.2.rest) _received)

section Steps

variable {profile : Profile Creator} {memory : Nat → Behind} {position : Nat}

/-- A call that finds a header sets the protocol, and then does what the
lookup of a creator makes it do. -/
theorem receiveTransfThread_eq (enough : 16 ≤ stream.length) :
    receiveTransfThread typeSize factory behind stream =
      ((factory.setProtocol (protocol (stream.take 16) behind)).1,
        match factory.lookUp (protocol (stream.take 16) behind)
            (instruction (stream.take 16)) with
        | .error what => .failed what (stream.drop 16)
        | .ok creator =>
            receiveBody typeSize creator (sizeMessage (stream.take 16)) behind
              (stream.drop 16)) := by
  rw [receiveTransfThread, if_neg (Nat.not_lt_of_le enough), TransferableFactory.lookUp]
  simp only
  rcases factory.setProtocol (protocol (stream.take 16) behind) with ⟨after, outcome⟩
  cases outcome with
  | error what => rfl
  | ok _ =>
      cases found : after.creator (instruction (stream.take 16)) with
      | error what => simp only [found]
      | ok creator => simp only [found]

theorem receiveTransfThread_header (typeSize : Creator → Nat) (behind : Behind)
    (set : factory.mProfile = some profile) (enough : 16 ≤ stream.length) :
    (receiveTransfThread typeSize factory behind stream).1.mProfile = some profile ∧
      (receiveTransfThread typeSize factory behind stream).2 =
        match profile.creatorFor (protocol (stream.take 16) behind)
            (instruction (stream.take 16)) with
        | .error what => .failed what (stream.drop 16)
        | .ok creator =>
            receiveBody typeSize creator (sizeMessage (stream.take 16)) behind
              (stream.drop 16) := by
  rw [receiveTransfThread_eq enough, TransferableFactory.lookUp_eq_creatorFor set]
  exact ⟨TransferableFactory.setProtocol_mProfile.trans set, rfl⟩

theorem receiveThread_closed
    (closed : (receiveTransfThread typeSize factory (memory position) stream).2 = .closed) :
    receiveThread typeSize memory factory position stream = some [] := by
  rw [receiveThread]
  split
  · rfl
  all_goals next received => rw [received] at closed; cases closed

theorem receiveThread_undefined
    (undefined : (receiveTransfThread typeSize factory (memory position) stream).2 = .undefined) :
    receiveThread typeSize memory factory position stream = none := by
  rw [receiveThread]
  split
  · next received => rw [received] at undefined; cases undefined
  · rfl
  all_goals next received => rw [received] at undefined; cases undefined

theorem receiveThread_failed {what : String}
    (failed : (receiveTransfThread typeSize factory (memory position) stream).2 =
      .failed what rest) :
    receiveThread typeSize memory factory position stream =
      (receiveThread typeSize memory
        (receiveTransfThread typeSize factory (memory position) stream).1
        (position + (stream.length - rest.length)) rest).map (.error position :: ·) := by
  rw [receiveThread]
  split <;> next received => rw [received] at failed ⊢; cases failed <;> rfl

theorem receiveThread_created {creator : Creator} {content : List UInt8}
    (created : (receiveTransfThread typeSize factory (memory position) stream).2 =
      .created creator content rest) :
    receiveThread typeSize memory factory position stream =
      (receiveThread typeSize memory
        (receiveTransfThread typeSize factory (memory position) stream).1
        (position + (stream.length - rest.length)) rest).map
          (.created position creator content :: ·) := by
  rw [receiveThread]
  split <;> next received => rw [received] at created ⊢; cases created <;> rfl

end Steps

end Messaging
end Pxc
