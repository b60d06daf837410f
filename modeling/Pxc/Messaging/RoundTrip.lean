import Pxc.Messaging.Sending
import Pxc.Messaging.BufferSafety

namespace Pxc
namespace Messaging

open General

/-!
# The framing round trip

What one side sends, the other side's receiving loop should recover: message
by message the same protocol, the same type id and the same bytes.  The sender
accepts a protocol of eight bytes and then writes no terminator, while the
receiver reads the protocol as a string from an array of eight bytes.  So the
name that is recovered is the one that was sent followed by what lies behind
the array, up to the next terminator.

The theorem at the end says that this is the only obstacle: for any messages
the sender lets through, the loop recovers all of them exactly, whatever lies
behind its arrays, if and only if every protocol is shorter than eight bytes.
-/

variable {Creator Sender : Type}

/-- What a call of `receiveTransfThread` that finds a creator takes from the
stream: its locals `protocol`, `instruction` and `bufferMessage`. -/
def recovered (behind : Behind) (stream : List UInt8) : Message where
  protocol := protocol (stream.take 16) behind
  instruction := instruction (stream.take 16)
  payload := (stream.drop 16).take (sizeMessage (stream.take 16)).toNat

/-- The calls of the receiving loop, one for each item of `memory`, and what
they leave of the stream.  An exception is caught and the loop goes on. -/
def receiveMessages (typeSize : Creator → Nat) :
    List Behind → TransferableFactory Creator → List UInt8 → List Message × List UInt8
  | [], _, stream => ([], stream)
  | behind :: memory, factory, stream =>
      match receiveTransfThread typeSize factory behind stream with
      | (_, .closed) => ([], stream)
      | (_, .undefined) => ([], stream)
      | (factory, .failed _ rest) => receiveMessages typeSize memory factory rest
      | (factory, .created _ _ rest) =>
          let (messages, left) := receiveMessages typeSize memory factory rest
          (recovered behind stream :: messages, left)

/-- The messages that are asked about: a protocol without NUL, a type id that
the receiver knows, and a payload of bounded length.  The type id is an
`int`. -/
structure Admissible (receiver : Profile Creator) (message : Message) : Prop where
  protocol_nonzero : 0 ∉ message.protocol
  known : ∃ creator, receiver.mCreators.lookup message.instruction = some creator
  instruction_low : -2 ^ 31 ≤ message.instruction
  instruction_high : message.instruction < 2 ^ 31
  payload_small : message.payload.length < 2 ^ 31 - 16

theorem Admissible.length_lt {receiver : Profile Creator} {message : Message}
    (admissible : Admissible receiver message) : (message.payload.length : Int) < 2 ^ 31 := by
  have small := admissible.payload_small
  omega

/-- A short protocol is read as it was sent. -/
theorem readString_writeProtocol_short {protocol : List UInt8} (nonzero : 0 ∉ protocol)
    (short : protocol.length < 8) (tail : Nat → UInt8) (behind : List UInt8) :
    readString (writeProtocol protocol tail ++ behind) = protocol := by
  have room : ∀ byte ∈ protocol, byte ≠ 0 := fun byte member zero => nonzero (zero ▸ member)
  rw [readString_append_eq_iff room (by rw [length_writeProtocol]; exact short)]
  have enough : protocol.length + 1 ≤ 8 := short
  rw [writeProtocol, List.take_take, Nat.min_eq_left enough, List.take_length_add_append]
  rfl

/-- A protocol of eight bytes is read on behind the array. -/
theorem readString_writeProtocol_full {protocol : List UInt8} (nonzero : 0 ∉ protocol)
    (full : protocol.length = 8) (tail : Nat → UInt8) (behind : List UInt8) :
    readString (writeProtocol protocol tail ++ behind) = protocol ++ readString behind := by
  have field : writeProtocol protocol tail = protocol := by
    rw [writeProtocol, ← full, List.take_left]
  rw [field, readString, List.takeWhile_append_of_pos]
  · rfl
  · intro byte member
    exact decide_eq_true fun zero => nonzero (zero ▸ member)

/-- The message as it is recovered with some memory behind the array. -/
def Message.readBack (message : Message) (behind : Behind) : Message where
  protocol :=
    if message.protocol.length < 8 then message.protocol
    else message.protocol ++ readString behind.protocol
  instruction := message.instruction
  payload := message.payload

theorem protocol_header {message : Message} (nonzero : 0 ∉ message.protocol)
    (bounded : message.protocol.length ≤ 8) (tail : Nat → UInt8) (behind : Behind) :
    protocol (message.header tail) behind = (message.readBack behind).protocol := by
  rw [protocol, field_header, Message.readBack]
  by_cases short : message.protocol.length < 8
  · rw [if_pos short]
    exact readString_writeProtocol_short nonzero short tail behind.protocol
  · have full : message.protocol.length = 8 := by omega
    rw [if_neg short]
    exact readString_writeProtocol_full nonzero full tail behind.protocol

/-- What is read is no reserved name, unless one was sent. -/
theorem readBack_ne_none {message : Message} (real : message.protocol ≠ NO_PROTOCOL)
    (behind : Behind) : (message.readBack behind).protocol ≠ NO_PROTOCOL := by
  unfold Message.readBack
  by_cases short : message.protocol.length < 8
  · simp only [if_pos short]
    exact real
  · simp only [if_neg short]
    intro same
    have length := congrArg List.length same
    have four : NO_PROTOCOL.length = 4 := rfl
    rw [List.length_append, four] at length
    omega

/-- Memory that does not terminate the array at once. -/
def unterminated : Behind :=
  ⟨[1], fun _ => 0⟩

theorem readBack_of_short {message : Message} (short : message.protocol.length < 8)
    (behind : Behind) : message.readBack behind = message := by
  rw [Message.readBack, if_pos short]

theorem short_of_readBack {message : Message} (same : message.readBack unterminated = message) :
    message.protocol.length < 8 := by
  apply Classical.byContradiction
  intro full
  have read := congrArg Message.protocol same
  rw [Message.readBack, if_neg full] at read
  have one : readString [1] = [] := List.append_right_eq_self.mp read
  cases one

section OneMessage

variable {factory : TransferableFactory Creator} {receiver : Profile Creator}
  {message : Message}

/-- The call that begins with a message's packet creates its transferable,
and leaves what follows the packet. -/
theorem receive_packet (typeSize : Creator → Nat) (behind : Behind)
    (set : factory.mProfile = some receiver)
    (admissible : Admissible receiver message) (bounded : message.protocol.length ≤ 8)
    (real : message.protocol ≠ NO_PROTOCOL) (tail : Nat → UInt8) (after : List UInt8) :
    ∃ next creator content, next.mProfile = some receiver ∧
      receiveTransfThread typeSize factory behind (message.packet tail ++ after) =
        (next, .created creator content after) := by
  rcases admissible.known with ⟨creator, listed⟩
  have name := protocol_header admissible.protocol_nonzero bounded tail behind
  have id : instruction (message.header tail) = message.instruction := by
    rw [instruction_header]
    exact readInt_writeInt admissible.instruction_low admissible.instruction_high
  have found : receiver.creatorFor (protocol (message.header tail) behind)
      (instruction (message.header tail)) = .ok creator := by
    rw [name, id, Profile.creatorFor, if_neg (readBack_ne_none real behind), listed]
  rcases receive_frame typeSize set (message.frame tail admissible.length_lt) after behind with
    ⟨kept, received⟩
  simp only [Message.frame, found] at received
  exact ⟨_, creator, _, kept, Prod.ext rfl received⟩

theorem recovered_packet (behind : Behind) (admissible : Admissible receiver message)
    (bounded : message.protocol.length ≤ 8) (tail : Nat → UInt8) (after : List UInt8) :
    recovered behind (message.packet tail ++ after) = message.readBack behind := by
  have header := (message.frame tail admissible.length_lt).take_bytes after
  have body := (message.frame tail admissible.length_lt).drop_bytes after
  have size := (message.frame tail admissible.length_lt).complete
  change (message.packet tail ++ after).take 16 = message.header tail at header
  change (message.packet tail ++ after).drop 16 = message.payload ++ after at body
  change sizeMessage (message.header tail) = message.payload.length at size
  unfold recovered
  rw [header, body, size, Int.toNat_natCast, List.take_left, instruction_header,
    readInt_writeInt admissible.instruction_low admissible.instruction_high,
    protocol_header admissible.protocol_nonzero bounded]
  rfl

end OneMessage

/-! ## Sequences of messages -/

section Sequences

variable {typeSize : Creator → Nat} {factory : TransferableFactory Creator}
  {receiver : Profile Creator}

/-- The loop recovers each message as it is read back, and leaves nothing. -/
theorem receiveMessages_written (sendings : List (Sending Sender)) (memory : List Behind)
    (set : factory.mProfile = some receiver)
    (admissible : ∀ message ∈ sentMessages sendings, Admissible receiver message)
    (calls : memory.length = (sentMessages sendings).length) :
    receiveMessages typeSize memory factory (written sendings) =
      (List.zipWith Message.readBack (sentMessages sendings) memory, []) := by
  induction sendings generalizing factory memory with
  | nil =>
      have nothing : memory = [] := List.length_eq_zero_iff.mp calls
      subst nothing
      rfl
  | cons sending sendings inductionHypothesis =>
      cases sent : sending.sent with
      | none =>
          have silent : sending.bytes = [] := by
            unfold Sending.bytes
            rw [sent]
          have messages : sentMessages (sending :: sendings) = sentMessages sendings :=
            List.filterMap_cons_none sent
          have bytes : written (sending :: sendings) = written sendings := by
            rw [written, List.flatMap_cons, silent]
            rfl
          rw [messages] at admissible calls
          rw [messages, bytes]
          exact inductionHypothesis memory set admissible calls
      | some message =>
          have packet : sending.bytes = message.packet sending.behind := by
            unfold Sending.bytes
            rw [sent]
          have messages : sentMessages (sending :: sendings) =
              message :: sentMessages sendings := List.filterMap_cons_some sent
          have bytes : written (sending :: sendings) =
              message.packet sending.behind ++ written sendings := by
            rw [written, List.flatMap_cons, packet]
            rfl
          rw [messages] at admissible calls
          have first := admissible message List.mem_cons_self
          rcases sent_eq_some sent with ⟨bounded, real⟩
          cases memory with
          | nil => cases calls
          | cons behind memory =>
              have others := fun other member =>
                admissible other (List.mem_cons_of_mem message member)
              rcases receive_packet typeSize behind set first bounded real sending.behind
                (written sendings) with ⟨next, creator, content, kept, received⟩
              rw [messages, bytes, receiveMessages, received]
              simp only [List.zipWith_cons_cons, recovered_packet behind first bounded,
                inductionHypothesis memory kept others (Nat.succ.inj calls)]

/-- Short protocols are read back in every call. -/
theorem zipWith_readBack {messages : List Message} {memory : List Behind}
    (calls : memory.length = messages.length)
    (short : ∀ message ∈ messages, message.protocol.length < 8) :
    List.zipWith Message.readBack messages memory = messages := by
  induction messages generalizing memory with
  | nil => rfl
  | cons message messages inductionHypothesis =>
      cases memory with
      | nil => cases calls
      | cons behind memory =>
          rw [List.zipWith_cons_cons, readBack_of_short (short message List.mem_cons_self),
            inductionHypothesis (Nat.succ.inj calls) fun other member =>
              short other (List.mem_cons_of_mem message member)]

/-- The loop recovers all messages exactly, with any memory behind its
arrays, if and only if every protocol is shorter than its field. -/
theorem framing_round_trip_iff (typeSize : Creator → Nat) (set : factory.mProfile = some receiver)
    (sendings : List (Sending Sender))
    (admissible : ∀ message ∈ sentMessages sendings, Admissible receiver message) :
    (∀ memory : List Behind, memory.length = (sentMessages sendings).length →
        receiveMessages typeSize memory factory (written sendings) =
          (sentMessages sendings, [])) ↔
      ∀ message ∈ sentMessages sendings, message.protocol.length < 8 := by
  constructor
  · intro recovers message member
    have calls : ((sentMessages sendings).map fun _ => unterminated).length =
        (sentMessages sendings).length := List.length_map _
    have read := (receiveMessages_written sendings _ set admissible calls).symm.trans
      (recovers _ calls)
    rw [Prod.mk.injEq, List.zipWith_map_right, List.zipWith_self] at read
    have same := List.map_inj_left.mp (read.1.trans (List.map_id _).symm) message member
    exact short_of_readBack same
  · intro short memory calls
    rw [receiveMessages_written sendings memory set admissible calls,
      zipWith_readBack calls short]

end Sequences

/-- A sender that knows one class, by the type id 7, under a protocol. -/
def echoFactory (protocol : List UInt8) : TransferableFactory Nat where
  mProfile := some ⟨[], [("Echo", 7)]⟩
  mProtocolVersion := protocol
  mCreators := ∅
  mSendingType := FiniteMap.ofPairs [("Echo", 7)]

/-- An answer of two bytes. -/
def echo (protocol : List UInt8) : Sending Nat where
  answer := true
  online := true
  factory := echoFactory protocol
  behind := fun _ => 0
  message := ⟨"Echo", [1, 2]⟩

theorem sent_echo {protocol : List UInt8} (bounded : protocol.length ≤ 8)
    (real : protocol ≠ NO_PROTOCOL) : (echo protocol).sent = some ⟨protocol, 7, [1, 2]⟩ := by
  have id : (echoFactory protocol).type "Echo" = .ok 7 := by
    simp only [TransferableFactory.type, echoFactory, if_neg real, FiniteMap.getElem?_ofPairs]
    rfl
  have short : ¬ 8 < protocol.length := Nat.not_lt_of_le bounded
  change (echoFactory protocol).prepare ⟨"Echo", [1, 2]⟩ = _
  simp only [TransferableFactory.prepare, id]
  exact if_neg short

theorem admissible_echo {protocol : List UInt8} (nonzero : 0 ∉ protocol) :
    Admissible oneClass ⟨protocol, 7, [1, 2]⟩ where
  protocol_nonzero := nonzero
  known := ⟨2, rfl⟩
  instruction_low := by
    change (-2 ^ 31 : Int) ≤ 7
    decide
  instruction_high := by
    change (7 : Int) < 2 ^ 31
    decide
  payload_small := by
    change 2 < 2 ^ 31 - 16
    decide

theorem sentMessages_echo (protocol : List UInt8) (bounded : protocol.length ≤ 8)
    (real : protocol ≠ NO_PROTOCOL) :
    sentMessages [echo protocol] = [⟨protocol, 7, [1, 2]⟩] :=
  List.filterMap_cons_some (sent_echo bounded real)

/-- The protocol "0.1a", with memory behind the array that does not terminate it. -/
theorem echo_round_trip :
    receiveMessages id [unterminated] freshFactory (written [echo (bytesOf "0.1a")]) =
      (sentMessages [echo (bytesOf "0.1a")], []) := by
  have set : freshFactory.mProfile = some oneClass := rfl
  have sent := sentMessages_echo (bytesOf "0.1a") (by decide) (by decide)
  have admissible : ∀ message ∈ sentMessages [echo (bytesOf "0.1a")],
      Admissible oneClass message := by
    intro message member
    rw [sent, List.mem_singleton] at member
    exact member ▸ admissible_echo (by decide)
  have short : ∀ message ∈ sentMessages [echo (bytesOf "0.1a")],
      message.protocol.length < 8 := by
    intro message member
    rw [sent, List.mem_singleton] at member
    rw [member]
    decide
  refine (framing_round_trip_iff id set _ admissible).mpr short [unterminated] ?_
  rw [sent]
  rfl

/-- A protocol of eight bytes passes the sender's check, and is recovered
with a ninth byte. -/
theorem full_protocol_not_recovered :
    (∀ message ∈ sentMessages [echo (bytesOf "version1")],
      Admissible oneClass message ∧ message.protocol.length ≤ 8) ∧
    ¬ ∀ memory : List Behind, memory.length = (sentMessages [echo (bytesOf "version1")]).length →
      receiveMessages id memory freshFactory (written [echo (bytesOf "version1")]) =
        (sentMessages [echo (bytesOf "version1")], []) := by
  have set : freshFactory.mProfile = some oneClass := rfl
  have sent := sentMessages_echo (bytesOf "version1") (by decide) (by decide)
  have admissible : ∀ message ∈ sentMessages [echo (bytesOf "version1")],
      Admissible oneClass message ∧ message.protocol.length ≤ 8 := by
    intro message member
    rw [sent, List.mem_singleton] at member
    rw [member]
    exact ⟨admissible_echo (by decide), by decide⟩
  refine ⟨admissible, ?_⟩
  intro recovers
  have calls : [unterminated].length = (sentMessages [echo (bytesOf "version1")]).length := by
    rw [sent]
    rfl
  have read := (receiveMessages_written _ [unterminated] set
    (fun message member => (admissible message member).1) calls).symm.trans
      (recovers [unterminated] calls)
  rw [sent] at read
  have same : Message.readBack ⟨bytesOf "version1", 7, [1, 2]⟩ unterminated =
      ⟨bytesOf "version1", 7, [1, 2]⟩ := List.head_eq_of_cons_eq (Prod.mk.inj read).1
  exact absurd (short_of_readBack same) (by decide)

end Messaging
end Pxc
