import Mathlib.Algebra.Group.Int.Defs
import Mathlib.Algebra.Group.Nat.Defs
import Pxc.Messaging.FrameRecovery

namespace Pxc
namespace Messaging

open General

/-!
# Sending transferables

A message is sent under the protocol and the type id that the sender's factory
holds at that time.  The packet is a header of sixteen bytes (the length of
the body, eight bytes of protocol, the type id) followed by the object's own
bytes.  The sender refuses a protocol of more than eight bytes, and a class
that has no type id; nothing is written then.

The protocol's eight bytes are copied from its string with the terminator,
and from whatever lies behind the terminator when the string is short.  The
link is one without errors, so a packet is written whole.
-/

/-- A message as the connection sees it: its class, and the `size()` bytes at
`transferableObject()`. -/
structure Outgoing where
  mType : String
  transferableObject : List UInt8

/-- The fields of a packet. -/
structure Message where
  protocol : List UInt8
  instruction : Int
  payload : List UInt8
  deriving DecidableEq, Repr

/-- `memcpy` from an `int`, which is converted to its range. -/
def writeInt (value : Int) : List UInt8 :=
  let bits := (BitVec.ofInt 32 value).toNat
  [UInt8.ofNat bits, UInt8.ofNat (bits / 256), UInt8.ofNat (bits / 65536),
    UInt8.ofNat (bits / 16777216)]

/-- The eight bytes at `protocol.c_str()`. -/
def writeProtocol (protocol : List UInt8) (behind : Nat → UInt8) : List UInt8 :=
  (protocol ++ 0 :: (List.range 7).map behind).take 8

namespace Message

/-- The header of a packet. -/
def header (message : Message) (behind : Nat → UInt8) : List UInt8 :=
  writeInt message.payload.length ++ writeProtocol message.protocol behind ++
    writeInt message.instruction

/-- The buffer that is written to the link. -/
def packet (message : Message) (behind : Nat → UInt8) : List UInt8 :=
  message.header behind ++ message.payload

end Message

variable {Creator : Type}

/-- The checks of the sender, with the fields of the packet if they are met. -/
def TransferableFactory.prepare (factory : TransferableFactory Creator) (message : Outgoing) :
    Option Message :=
  if 8 < factory.mProtocolVersion.length then none
  else
    match factory.type message.mType with
    | .error _ => none
    | .ok type => some ⟨factory.mProtocolVersion, type, message.transferableObject⟩

/-- One message to be sent: by `sendAnswer` or by `send`, on a link that is
online or not, with the sender's factory at that time and what lies behind the
protocol's string. -/
structure Sending (Creator : Type) where
  answer : Bool
  online : Bool
  factory : TransferableFactory Creator
  behind : Nat → UInt8
  message : Outgoing

namespace Sending

/-- The message that is sent.  Only `send` looks at the link. -/
def sent (sending : Sending Creator) : Option Message :=
  if sending.answer || sending.online then sending.factory.prepare sending.message else none

/-- `TCPConnectionSecurity::sendAnswer` and `TCPConnectionSecurity::send`: the
bytes that are written. -/
def bytes (sending : Sending Creator) : List UInt8 :=
  match sending.sent with
  | none => []
  | some message => message.packet sending.behind

end Sending

/-- The messages that are sent, in order. -/
def sentMessages (sendings : List (Sending Creator)) : List Message :=
  sendings.filterMap Sending.sent

/-- The bytes that are written, in order. -/
def written (sendings : List (Sending Creator)) : List UInt8 :=
  sendings.flatMap Sending.bytes

/-- What the sender's checks ensure. -/
theorem prepare_eq_some {factory : TransferableFactory Creator} {outgoing : Outgoing}
    {message : Message} (prepared : factory.prepare outgoing = some message) :
    message.protocol.length ≤ 8 ∧ message.protocol ≠ NO_PROTOCOL := by
  unfold TransferableFactory.prepare at prepared
  split at prepared
  · cases prepared
  · next short =>
    split at prepared
    · cases prepared
    · next type found =>
      cases prepared
      refine ⟨Nat.le_of_not_lt short, ?_⟩
      intro none
      unfold TransferableFactory.type at found
      split at found
      · cases found
      · rw [if_pos none] at found
        cases found

theorem protocol_of_prepare {factory : TransferableFactory Creator} {outgoing : Outgoing}
    {message : Message} (prepared : factory.prepare outgoing = some message) :
    message.protocol = factory.mProtocolVersion := by
  unfold TransferableFactory.prepare at prepared
  split at prepared
  · cases prepared
  · split at prepared
    · cases prepared
    · cases prepared
      rfl

theorem sent_eq_some {sending : Sending Creator} {message : Message}
    (sent : sending.sent = some message) :
    message.protocol.length ≤ 8 ∧ message.protocol ≠ NO_PROTOCOL := by
  unfold Sending.sent at sent
  split at sent
  · exact prepare_eq_some sent
  · cases sent

/-! ## The fields of a packet -/

@[simp] theorem length_writeInt (value : Int) : (writeInt value).length = 4 :=
  rfl

@[simp] theorem length_writeProtocol (protocol : List UInt8) (behind : Nat → UInt8) :
    (writeProtocol protocol behind).length = 8 := by
  rw [writeProtocol, List.length_take, List.length_append, List.length_cons, List.length_map,
    List.length_range]
  omega

theorem readInt_writeInt {value : Int} (low : -2 ^ 31 ≤ value) (high : value < 2 ^ 31) :
    readInt (writeInt value) = value := by
  have bound := (BitVec.ofInt 32 value).isLt
  have digits : (writeInt value).foldr (fun byte value => byte.toNat + 256 * value) 0 =
      (BitVec.ofInt 32 value).toNat := by
    simp only [writeInt, List.foldr_cons, List.foldr_nil, UInt8.toNat_ofNat']
    omega
  rw [readInt, digits, BitVec.ofNat_toNat, BitVec.setWidth_eq]
  exact BitVec.toInt_ofInt_eq_self (by decide) low high

theorem length_header (message : Message) (behind : Nat → UInt8) :
    (message.header behind).length = 16 := by
  rw [Message.header, List.length_append, List.length_append, length_writeInt,
    length_writeProtocol, length_writeInt]

theorem sizeMessage_header (message : Message) (behind : Nat → UInt8) :
    sizeMessage (message.header behind) = readInt (writeInt message.payload.length) := by
  rw [sizeMessage, Message.header, List.append_assoc, ← length_writeInt message.payload.length,
    List.take_left]

theorem field_header (message : Message) (behind : Nat → UInt8) :
    ((message.header behind).drop 4).take 8 = writeProtocol message.protocol behind := by
  rw [Message.header, List.append_assoc, ← length_writeInt message.payload.length,
    List.drop_left, ← length_writeProtocol message.protocol behind, List.take_left]

theorem instruction_header (message : Message) (behind : Nat → UInt8) :
    instruction (message.header behind) = readInt (writeInt message.instruction) := by
  have front : (writeInt message.payload.length ++
      writeProtocol message.protocol behind).length = 12 := by
    rw [List.length_append, length_writeInt, length_writeProtocol]
  rw [instruction, Message.header, ← front, List.drop_left,
    ← length_writeInt message.instruction, List.take_length]

/-- The frame of a message whose length is an `int`. -/
def Message.frame (message : Message) (behind : Nat → UInt8)
    (small : (message.payload.length : Int) < 2 ^ 31) : Frame where
  header := message.header behind
  body := message.payload
  header_length := length_header message behind
  complete := by
    rw [sizeMessage_header]
    exact readInt_writeInt (by omega) small

end Messaging
end Pxc
