import Pxc.Messaging.PlainReception
import Pxc.Messaging.Transmission

namespace Pxc
namespace Messaging
namespace Plain

open General

/-!
# Messages over a plain connection

`TCPConnection::send` and `sendAnswer` hand the whole packet to `BIO_write`, and
do so again as long as the error can be retried.  A write of no byte or of
fewer bytes than the packet has closes the link, as does any other error.  The
two routines differ only in how they close it.

Here the sender and the receiver act in turn, in any order.  A thread that
sends holds `mSendMutex` until its packet is written or given up, while other
threads may close the link.  The bytes that were written and not read yet are
on their way.  As long as no read is cut, the receiver creates exactly what was
written whole, in order, however the acts are interleaved.
-/

variable {Creator Sender : Type}

/-- `memcpy` from a `size_t`. -/
def writeSize (value : Nat) : List UInt8 :=
  [UInt8.ofNat value, UInt8.ofNat (value / 256), UInt8.ofNat (value / 65536),
    UInt8.ofNat (value / 16777216), UInt8.ofNat (value / 4294967296),
    UInt8.ofNat (value / 1099511627776), UInt8.ofNat (value / 281474976710656),
    UInt8.ofNat (value / 72057594037927936)]

@[simp] theorem length_writeSize (value : Nat) : (writeSize value).length = 8 :=
  rfl

/-- The header of a packet. -/
def header (packet : Packet) : List UInt8 :=
  writeSize packet.message.payload.length ++
    writeProtocol packet.message.protocol packet.behind ++ writeInt packet.message.instruction

/-- The buffer that is written to the link. -/
def bytes (packet : Packet) : List UInt8 :=
  header packet ++ packet.message.payload

theorem length_header (packet : Packet) : (header packet).length = lengthCommunication := by
  rw [header, List.length_append, List.length_append, length_writeProtocol, length_writeInt]
  rfl

theorem bytes_ne_nil (packet : Packet) : bytes packet ≠ [] := by
  intro empty
  have length := congrArg List.length empty
  rw [bytes, List.length_append, length_header, lengthCommunication, List.length_nil] at length
  omega

/-- A message that the receiver can take for what was sent. -/
structure Recognized (profile : Profile Creator) (message : Message) : Prop where
  protocol_nonzero : 0 ∉ message.protocol
  short : message.protocol.length < 8
  known : ∃ creator, profile.mCreators.lookup message.instruction = some creator
  instruction_low : -2 ^ 31 ≤ message.instruction
  instruction_high : message.instruction < 2 ^ 31
  size : message.payload.length < 2 ^ 64

/-- What should be made of a message. -/
def transferable (profile : Profile Creator) (packet : Packet) : Option (Creator × List UInt8) :=
  (profile.mCreators.lookup packet.message.instruction).map (·, packet.message.payload)

theorem sizeMessage_header {packet : Packet} (size : packet.message.payload.length < 2 ^ 64) :
    sizeMessage (header packet) = packet.message.payload.length := by
  have field : (header packet).take 8 = writeSize packet.message.payload.length := by
    rw [header, List.append_assoc, ← length_writeSize packet.message.payload.length,
      List.take_left]
  rw [sizeMessage, field]
  simp only [writeSize, List.foldr_cons, List.foldr_nil, UInt8.toNat_ofNat']
  omega

theorem protocol_header {packet : Packet} (nonzero : 0 ∉ packet.message.protocol)
    (short : packet.message.protocol.length < 8) (behind : List UInt8) :
    protocol (header packet) behind = packet.message.protocol := by
  have field : ((header packet).drop 8).take 8 =
      writeProtocol packet.message.protocol packet.behind := by
    rw [header, List.append_assoc, ← length_writeSize packet.message.payload.length,
      List.drop_left, length_writeSize,
      ← length_writeProtocol packet.message.protocol packet.behind, List.take_left]
  rw [protocol, field]
  exact readString_writeProtocol_short nonzero short packet.behind behind

theorem instruction_header {packet : Packet} (low : -2 ^ 31 ≤ packet.message.instruction)
    (high : packet.message.instruction < 2 ^ 31) :
    instruction (header packet) = packet.message.instruction := by
  have front : (writeSize packet.message.payload.length ++
      writeProtocol packet.message.protocol packet.behind).length = 16 := by
    rw [List.length_append, length_writeSize, length_writeProtocol]
  rw [instruction, header, ← front, List.drop_left, ← length_writeInt packet.message.instruction,
    List.take_length, readInt_writeInt low high]

/-- The lookup that the header leads to. -/
theorem exists_creator {profile : Profile Creator} {packet : Packet}
    (recognized : Recognized profile packet.message)
    (real : packet.message.protocol ≠ NO_PROTOCOL) (behind : List UInt8) :
    ∃ creator, profile.creatorFor (protocol (header packet) behind)
        (instruction (header packet)) = .ok creator ∧
      transferable profile packet = some (creator, packet.message.payload) := by
  rcases recognized.known with ⟨creator, listed⟩
  refine ⟨creator, ?_, ?_⟩
  · rw [protocol_header recognized.protocol_nonzero recognized.short,
      instruction_header recognized.instruction_low recognized.instruction_high,
      Profile.creatorFor, if_neg real, listed]
  · rw [transferable, listed]
    rfl

/-! ## The two sides -/

/-- What a call of `BIO_write` returns: how many bytes it wrote, or an error
that can be retried or not. -/
inductive WriteOutcome where
  | bytes (r : Nat)
  | retry
  | error
  deriving DecidableEq, Repr

/-- The sender's link and the packet in the loop of `send` or `sendAnswer`, the
receiver with what is on its way to it, and the packets that were written
whole. -/
structure Conversation (Creator : Type) where
  online : Bool
  sending : Option Packet
  receiver : Receiver Creator
  completed : List Packet

/-- What the two sides do.  Each turn of the sender's loop, and each read, is an
act of its own. -/
inductive ConversationAct (Sender : Type) where
  | send (factory : TransferableFactory Sender) (behind : Nat → UInt8) (message : Outgoing)
  | write (outcome : WriteOutcome)
  | close
  | read (result : ReadResult)
  | closeReceiver

namespace Conversation

/-- Both ends of a new connection. -/
def start : Conversation Creator where
  online := true
  sending := none
  receiver := ⟨[], none, [], true⟩
  completed := []

/-- The sender gives its packet up and closes the link. -/
def giveUp (conversation : Conversation Creator) : Conversation Creator :=
  { conversation with online := false, sending := none }

/-- Some bytes have been written. -/
def put (conversation : Conversation Creator) (written : List UInt8) : Conversation Creator :=
  { conversation with
    receiver.stream := conversation.receiver.stream ++ written }

/-- A turn of the loop, in which a link that is offline counts as a write of no
byte. -/
def write (conversation : Conversation Creator) (packet : Packet) :
    WriteOutcome → Option (Conversation Creator)
  | .bytes r =>
      if conversation.online then
        if r ≤ (bytes packet).length then
          let written := conversation.put ((bytes packet).take r)
          if r = (bytes packet).length then
            some { written with sending := none, completed := written.completed ++ [packet] }
          else some written.giveUp
        else none
      else some conversation.giveUp
  | .retry => some (if conversation.online then conversation else conversation.giveUp)
  | .error => some conversation.giveUp

/-- One act.  The end of the stream comes when the sender has closed. -/
def step (profile : Profile Creator) (behind : List UInt8) (conversation : Conversation Creator) :
    ConversationAct Sender → Option (Conversation Creator)
  | .send factory tail message =>
      if conversation.sending.isNone then
        some { conversation with
          sending := (factory.prepare message).map fun message => ⟨message, tail⟩ }
      else none
  | .write outcome => conversation.sending.bind fun packet => conversation.write packet outcome
  | .close => some { conversation with online := false }
  | .read result =>
      if result = .endOfStream ∧ conversation.online = true then none
      else
        (conversation.receiver.step profile behind result).map fun receiver =>
          { conversation with receiver }
  | .closeReceiver => some { conversation with receiver.online := false }

/-- A read returns all the bytes that it asked for, or all that are on their
way. -/
def Uncut (conversation : Conversation Creator) (act : ConversationAct Sender) : Prop :=
  ∀ r, act = .read (.bytes r) →
    r = conversation.receiver.requested ∨ r = conversation.receiver.stream.length

end Conversation

/-- The receiver has read the header of the next packet, or nothing of it. -/
inductive Reading (profile : Profile Creator) (packets : List Packet) (last : Option Packet)
    (receiver : Receiver Creator) : Prop where
  | atHeader (waits : receiver.awaiting = none)
      (carries : Carries bytes packets last receiver.stream)
  | atBody (packet : Packet) (creator : Creator)
      (waits : receiver.awaiting = some (creator, packet.message.payload.length))
      (nonempty : packet.message.payload ≠ [])
      (made : transferable profile packet = some (creator, packet.message.payload))
      (next : packets.head?.or last = some packet)
      (carries : Carries bytes packets last (header packet ++ receiver.stream))

namespace Reading

variable {profile : Profile Creator} {behind : List UInt8} {packets : List Packet}
  {last : Option Packet} {receiver next : Receiver Creator}

theorem start : Reading profile [] none (⟨[], none, [], true⟩ : Receiver Creator) :=
  .atHeader rfl .nil

theorem offline (reading : Reading profile packets last receiver) :
    Reading profile packets last { receiver with online := false } := by
  cases reading with
  | atHeader waits carries => exact .atHeader waits carries
  | atBody packet creator waits nonempty made next carries =>
      exact .atBody packet creator waits nonempty made next carries

theorem write (reading : Reading profile packets none receiver) (packet : Packet) :
    Reading profile (packets ++ [packet]) none
      { receiver with stream := receiver.stream ++ bytes packet } := by
  cases reading with
  | atHeader waits carries => exact .atHeader waits (carries.write packet)
  | atBody reads creator waits nonempty made next carries =>
      refine .atBody reads creator waits nonempty made ?_ ?_
      · rw [Option.or_none] at next ⊢
        rw [List.head?_append, next]
        rfl
      · rw [← List.append_assoc]
        exact carries.write packet

/-- A part of another packet is written, and it is the last one. -/
theorem stop (reading : Reading profile packets none receiver) {packet : Packet}
    {part : List UInt8} (initial : part <+: bytes packet) (incomplete : part ≠ bytes packet) :
    Reading profile packets (some packet)
      { receiver with stream := receiver.stream ++ part } := by
  cases reading with
  | atHeader waits carries => exact .atHeader waits (carries.stop initial incomplete)
  | atBody reads creator waits nonempty made next carries =>
      refine .atBody reads creator waits nonempty made ?_ ?_
      · rw [Option.or_none] at next
        rw [next]
        rfl
      · rw [← List.append_assoc]
        exact carries.stop initial incomplete

/-- The next packet has no body, so that its header is all of it. -/
theorem completeEmpty {packet : Packet} {left : List UInt8}
    (next : packets.head?.or last = some packet)
    (carries : Carries bytes packets last (header packet ++ left))
    (empty : packet.message.payload = []) :
    ∃ later, packets = packet :: later ∧ Carries bytes later last left := by
  have all : bytes packet = header packet := by
    rw [bytes, empty, List.append_nil]
  rcases carries.cases_first with ⟨first, later, rest, rfl, split, others⟩ |
    ⟨first, missing, rfl, rfl, split, incomplete⟩ | ⟨rfl, rfl, nothing⟩
  · cases next
    rw [all] at split
    exact ⟨later, rfl, List.append_cancel_left split ▸ others⟩
  · cases next
    rw [all, List.append_assoc] at split
    have none := List.append_right_eq_self.mp split
    exact absurd (List.append_eq_nil_iff.mp none).2 incomplete
  · cases next

/-- The body of the next packet has come whole. -/
theorem completeBody {packet : Packet} {stream : List UInt8}
    (next : packets.head?.or last = some packet)
    (carries : Carries bytes packets last (header packet ++ stream))
    (enough : packet.message.payload.length ≤ stream.length) :
    ∃ later rest, packets = packet :: later ∧ stream = packet.message.payload ++ rest ∧
      Carries bytes later last rest := by
  rcases carries.cases_first with ⟨first, later, rest, rfl, split, others⟩ |
    ⟨first, missing, rfl, rfl, split, incomplete⟩ | ⟨rfl, rfl, nothing⟩
  · cases next
    rw [bytes, List.append_assoc] at split
    exact ⟨later, rest, rfl, List.append_cancel_left split, others⟩
  · cases next
    rw [bytes, List.append_assoc] at split
    have length := congrArg List.length (List.append_cancel_left split)
    have more : 0 < missing.length := List.length_pos_of_ne_nil incomplete
    rw [List.length_append] at length
    omega
  · cases next

/-- A header has come whole. -/
theorem takeHeader (carries : Carries bytes packets last receiver.stream)
    (enough : lengthCommunication ≤ receiver.stream.length) :
    ∃ packet, packets.head?.or last = some packet ∧
      receiver.stream = header packet ++ receiver.stream.drop lengthCommunication := by
  have front : ∀ packet rest more, receiver.stream ++ rest = bytes packet ++ more →
      receiver.stream.take lengthCommunication = header packet := by
    intro packet rest more split
    rw [← List.take_append_of_le_length enough, split, bytes, List.append_assoc,
      ← length_header packet, List.take_left]
  have split : ∀ packet, receiver.stream.take lengthCommunication = header packet →
      receiver.stream = header packet ++ receiver.stream.drop lengthCommunication := by
    intro packet same
    rw [← same, List.take_append_drop]
  rcases carries.cases_first with ⟨first, later, rest, rfl, whole, _⟩ |
    ⟨first, missing, rfl, rfl, part, _⟩ | ⟨rfl, rfl, nothing⟩
  · refine ⟨first, rfl, split first (front first [] rest ?_)⟩
    rw [List.append_nil, whole]
  · refine ⟨first, rfl, split first (front first missing [] ?_)⟩
    rw [List.append_nil, part]
  · rw [nothing] at enough
    exact absurd enough (Nat.not_succ_le_zero _)

/-- The last packet will not come whole, and what has come of it is taken. -/
theorem readRest (reading : Reading profile packets last receiver)
    (positive : 1 ≤ receiver.stream.length)
    (fewer : receiver.stream.length < receiver.requested) :
    packets = [] ∧ Reading profile [] last { receiver with stream := [] } := by
  cases reading with
  | atHeader waits carries =>
      rw [Receiver.requested, waits] at fewer
      rcases carries.cases_first with ⟨first, later, rest, rfl, whole, _⟩ |
        ⟨first, missing, rfl, rfl, part, incomplete⟩ | ⟨rfl, rfl, nothing⟩
      · have length := congrArg List.length whole
        rw [bytes, List.length_append, List.length_append, length_header] at length
        simp only at fewer
        omega
      · refine ⟨rfl, .atHeader waits (.cut first [] (bytes first) rfl (bytes_ne_nil first))⟩
      · rw [nothing] at positive
        exact absurd positive (Nat.not_succ_le_zero 0)
  | atBody packet creator waits nonempty made next carries =>
      rw [Receiver.requested, waits] at fewer
      simp only at fewer
      rcases carries.cases_first with ⟨first, later, rest, rfl, whole, _⟩ |
        ⟨first, missing, rfl, rfl, part, incomplete⟩ | ⟨rfl, rfl, nothing⟩
      · cases next
        rw [bytes, List.append_assoc] at whole
        have length := congrArg List.length (List.append_cancel_left whole)
        rw [List.length_append] at length
        omega
      · cases next
        refine ⟨rfl, .atBody packet creator waits nonempty made rfl ?_⟩
        rw [List.append_nil]
        exact .cut packet (header packet) packet.message.payload rfl nonempty
      · cases next

/-- What a read that is not cut does: it takes the header or the body of the
next packet, and creates what should be made of it when nothing is missing. -/
theorem read (reading : Reading profile packets last receiver)
    (known : ∀ packet, packets.head?.or last = some packet →
      Recognized profile packet.message ∧ packet.message.protocol ≠ NO_PROTOCOL)
    {result : ReadResult} (reads : Read profile behind receiver result next)
    (uncut : ∀ r, result = .bytes r → r = receiver.requested ∨ r = receiver.stream.length) :
    ∃ done rest, packets = done ++ rest ∧ Reading profile rest last next ∧
      next.created.map some = receiver.created.map some ++ done.map (transferable profile) := by
  have unread : ∀ same : Receiver Creator, same.awaiting = receiver.awaiting →
      same.stream = receiver.stream → same.created = receiver.created →
      ∃ done rest, packets = done ++ rest ∧ Reading profile rest last same ∧
        same.created.map some = receiver.created.map some ++ done.map (transferable profile) := by
    intro same waits stream created
    refine ⟨[], packets, rfl, ?_, by rw [created, List.map_nil, List.append_nil]⟩
    cases reading with
    | atHeader awaits carries => exact .atHeader (waits.trans awaits) (stream ▸ carries)
    | atBody packet creator awaits nonempty made next carries =>
        exact .atBody packet creator (waits.trans awaits) nonempty made next (stream ▸ carries)
  cases reads with
  | whole enough positive =>
      cases reading with
      | atHeader waits carries =>
          have asks : receiver.requested = lengthCommunication := by
            rw [Receiver.requested, waits]
          rw [asks] at enough ⊢
          rcases takeHeader carries enough with ⟨packet, next, split⟩
          rcases known packet next with ⟨recognized, real⟩
          rcases exists_creator recognized real behind with ⟨creator, found, made⟩
          have taken : receiver.stream.take lengthCommunication = header packet := by
            rw [split, ← length_header packet, List.take_left]
          rw [split] at carries
          rw [taken, Receiver.complete, waits]
          simp only [found, sizeMessage_header recognized.size]
          by_cases empty : packet.message.payload = []
          · rw [if_pos (List.length_eq_zero_iff.mpr empty)]
            rcases completeEmpty next carries empty with ⟨later, rfl, others⟩
            refine ⟨[packet], later, rfl, .atHeader rfl others, ?_⟩
            rw [List.map_append, List.map_singleton, List.map_singleton, made, empty]
          · rw [if_neg (mt List.length_eq_zero_iff.mp empty)]
            refine ⟨[], packets, rfl, .atBody packet creator rfl empty made next carries, ?_⟩
            rw [List.map_nil, List.append_nil]
      | atBody packet creator waits nonempty made next carries =>
          have asks : receiver.requested = packet.message.payload.length := by
            rw [Receiver.requested, waits]
          rw [asks] at enough ⊢
          rcases completeBody next carries enough with ⟨later, rest, rfl, split, others⟩
          rw [Receiver.complete]
          simp only [waits]
          rw [split, List.take_left, List.drop_left]
          refine ⟨[packet], later, rfl, .atHeader rfl others, ?_⟩
          rw [List.map_append, List.map_singleton, List.map_singleton, made]
  | cut r positive fewer enough =>
      have rest : r = receiver.stream.length := (uncut r rfl).resolve_left (Nat.ne_of_lt fewer)
      subst rest
      rcases reading.readRest positive fewer with ⟨rfl, reads⟩
      rw [List.drop_length]
      exact ⟨[], [], rfl, reads, by rw [List.map_nil, List.append_nil]⟩
  | retry => exact unread receiver rfl rfl rfl
  | error => exact unread receiver rfl rfl rfl
  | endOfStream exhausted => exact unread _ rfl rfl rfl

/-- Nothing is left of the packets when nothing is on its way. -/
theorem eq_nil (reading : Reading profile packets last receiver)
    (exhausted : receiver.stream = []) : packets = [] := by
  cases reading with
  | atHeader waits carries =>
      rw [exhausted] at carries
      exact carries.frames_eq_nil fun packet _ => bytes_ne_nil packet
  | atBody packet creator waits nonempty made next carries =>
      cases packets with
      | nil => rfl
      | cons first later =>
          cases next
          rcases carries.uncons with ⟨rest, split, _⟩
          rw [exhausted, bytes, List.append_assoc] at split
          have none := List.append_cancel_left split
          exact absurd (List.append_eq_nil_iff.mp none.symm).1 nonempty

end Reading

/-! ## Every run -/

/-- What has been created is what was written whole, but for what the receiver
has before it.  When the stream ends within a packet, the sender has closed the
link. -/
structure Conversation.Sound (profile : Profile Creator) (among : Packet → Prop)
    (conversation : Conversation Creator) : Prop where
  reading : ∃ done rest last, conversation.completed = done ++ rest ∧
    Reading profile rest last conversation.receiver ∧
    conversation.receiver.created.map some = done.map (transferable profile) ∧
    ∀ packet ∈ last, among packet ∧ conversation.online = false
  completed : ∀ packet ∈ conversation.completed, among packet
  sending : ∀ packet ∈ conversation.sending, among packet

namespace Conversation.Sound

variable {profile : Profile Creator} {behind : List UInt8} {among : Packet → Prop}
  {conversation next : Conversation Creator}

theorem start : (Conversation.start : Conversation Creator).Sound profile among where
  reading := ⟨[], [], none, rfl, .start, rfl, fun _ impossible => by cases impossible⟩
  completed := fun _ impossible => by cases impossible
  sending := fun _ impossible => by cases impossible

theorem offline (sound : conversation.Sound profile among) {sending : Option Packet}
    (known : ∀ packet ∈ sending, among packet) :
    ({ conversation with online := false, sending } : Conversation Creator).Sound profile
      among := by
  rcases sound with ⟨⟨done, rest, last, split, reading, created, stopped⟩, completed, _⟩
  exact ⟨⟨done, rest, last, split, reading, created,
    fun packet member => ⟨(stopped packet member).1, rfl⟩⟩, completed, known⟩

theorem closeReceiver (sound : conversation.Sound profile among) :
    ({ conversation with receiver.online := false } : Conversation Creator).Sound profile
      among := by
  rcases sound with ⟨⟨done, rest, last, split, reading, created, stopped⟩, completed, sending⟩
  exact ⟨⟨done, rest, last, split, reading.offline, created, stopped⟩, completed, sending⟩

theorem giveUp (sound : conversation.Sound profile among) :
    conversation.giveUp.Sound profile among :=
  sound.offline fun _ impossible => by cases impossible

theorem write {packet : Packet} {outcome : WriteOutcome} (sound : conversation.Sound profile among)
    (sending : conversation.sending = some packet)
    (written : conversation.write packet outcome = some next) : next.Sound profile among := by
  have known := sound.sending packet sending
  cases outcome with
  | retry =>
      cases written
      split
      · exact sound
      · exact sound.giveUp
  | error =>
      cases written
      exact sound.giveUp
  | bytes r =>
      simp only [Conversation.write] at written
      split at written
      · next online =>
        split at written
        · next within =>
          rcases sound with ⟨⟨done, rest, last, split, reading, created, stopped⟩, completed, _⟩
          have nobody : last = none := by
            cases last with
            | none => rfl
            | some stuck =>
                have offline := (stopped stuck rfl).2
                rw [online] at offline
                cases offline
          subst nobody
          split at written
          · next whole =>
            cases written
            rw [whole, List.take_length]
            refine ⟨⟨done, rest ++ [packet], none, ?_, reading.write packet, created,
              fun _ impossible => by cases impossible⟩, ?_, fun _ impossible => by
                cases impossible⟩
            · rw [← List.append_assoc, ← split]
              rfl
            · intro other member
              rcases List.mem_append.mp member with before | now
              · exact completed other before
              · exact List.mem_singleton.mp now ▸ known
          · next fewer =>
            cases written
            refine ⟨⟨done, rest, some packet, split, ?_, created, fun other member => ?_⟩,
              completed, fun _ impossible => by cases impossible⟩
            · refine reading.stop (List.take_prefix r (bytes packet)) fun same => fewer ?_
              have length := congrArg List.length same
              rwa [List.length_take, Nat.min_eq_left within] at length
            · exact Option.some.inj member ▸ ⟨known, rfl⟩
        · cases written
      · cases written
        exact sound.giveUp

theorem read {result : ReadResult} {receiver : Receiver Creator}
    (sound : conversation.Sound profile among)
    (recognized : ∀ packet, among packet →
      Recognized profile packet.message ∧ packet.message.protocol ≠ NO_PROTOCOL)
    (stepped : conversation.receiver.step profile behind result = some receiver)
    (uncut : ∀ r, result = .bytes r →
      r = conversation.receiver.requested ∨ r = conversation.receiver.stream.length) :
    ({ conversation with receiver } : Conversation Creator).Sound profile among := by
  rcases sound with ⟨⟨done, rest, last, split, reading, created, stopped⟩, completed, sending⟩
  have known : ∀ packet, rest.head?.or last = some packet →
      Recognized profile packet.message ∧ packet.message.protocol ≠ NO_PROTOCOL := by
    intro packet next
    apply recognized packet
    rcases Option.or_eq_some_iff.mp next with first | ⟨_, isLast⟩
    · exact completed packet (split ▸ List.mem_append_right done (List.mem_of_mem_head? first))
    · exact (stopped packet isLast).1
  rcases reading.read known (read_of_step stepped).2 uncut with ⟨now, later, apart, reads, made⟩
  refine ⟨⟨done ++ now, later, last, ?_, reads, ?_, stopped⟩, completed, sending⟩
  · rw [List.append_assoc, ← apart]
    exact split
  · rw [made, created, List.map_append]

end Conversation.Sound

/-- Every message that passes the sender's checks in these acts. -/
def Sends (acts : List (ConversationAct Sender)) (packet : Packet) : Prop :=
  ∃ factory message, .send factory packet.behind message ∈ acts ∧
    factory.prepare message = some packet.message

theorem sound_of_run {profile : Profile Creator} {behind : List UInt8}
    {acts : List (ConversationAct Sender)} {final : Conversation Creator}
    (reached : run (Conversation.step profile behind) Conversation.start acts = some final)
    (recognized : ∀ packet, Sends acts packet → Recognized profile packet.message)
    (uncut : AtEach (Conversation.step profile behind)
      (fun _ conversation act => conversation.Uncut act) Conversation.start acts) :
    final.Sound profile (Sends acts) := by
  have closed : PrefixClosed fun before : List (ConversationAct Sender) => before <+: acts :=
    fun first second initial => (List.prefix_append first second).trans initial
  refine run_invariant (fun before => before <+: acts)
    (fun _ conversation => conversation.Sound profile (Sends acts)) closed .start ?_
    List.prefix_rfl uncut reached
  intro before conversation act next initial sound uncut stepped
  cases act with
  | send factory tail message =>
      simp only [Conversation.step] at stepped
      split at stepped
      · cases stepped
        refine ⟨sound.reading, sound.completed, fun packet member => ?_⟩
        rcases Option.map_eq_some_iff.mp member with ⟨fields, passes, rfl⟩
        exact ⟨factory, message, initial.subset (List.mem_append_right _ List.mem_cons_self),
          passes⟩
      · cases stepped
  | write outcome =>
      rcases Option.bind_eq_some_iff.mp stepped with ⟨packet, sending, written⟩
      exact sound.write sending written
  | close =>
      cases stepped
      exact sound.offline sound.sending
  | read result =>
      simp only [Conversation.step] at stepped
      split at stepped
      · cases stepped
      · rcases Option.map_eq_some_iff.mp stepped with ⟨receiver, received, rfl⟩
        refine sound.read (fun packet sends => ⟨recognized packet sends, ?_⟩) received
          fun r same => uncut r (same ▸ rfl)
        rcases sends with ⟨factory, message, _, passes⟩
        exact (prepare_eq_some passes).2
  | closeReceiver =>
      cases stepped
      exact sound.closeReceiver

/-- However the two sides act, as long as no read is cut, what the receiver has
created is what should be made of the first packets that were written whole, in
order, and of all of them when nothing is on its way. -/
theorem created_of_conversation {profile : Profile Creator} {behind : List UInt8}
    {acts : List (ConversationAct Sender)} {final : Conversation Creator}
    (reached : run (Conversation.step profile behind) Conversation.start acts = some final)
    (recognized : ∀ packet, Sends acts packet → Recognized profile packet.message)
    (uncut : AtEach (Conversation.step profile behind)
      (fun _ conversation act => conversation.Uncut act) Conversation.start acts) :
    final.receiver.created.map some <+: final.completed.map (transferable profile) ∧
      (final.receiver.stream = [] →
        final.receiver.created.map some = final.completed.map (transferable profile)) := by
  rcases (sound_of_run reached recognized uncut).reading with
    ⟨done, rest, last, split, reading, created, _⟩
  rw [created, split]
  constructor
  · exact (List.prefix_append done rest).map (transferable profile)
  · intro exhausted
    rw [reading.eq_nil exhausted, List.append_nil]

/-- A message of one byte is written, and ten bytes of another. -/
def stoppedSender : List (ConversationAct Nat) :=
  [.send (echoFactory (bytesOf "0.1a")) (fun _ => 0) ⟨"Echo", [5]⟩, .write .retry,
    .write (.bytes 21), .read (.bytes 20),
    .send (echoFactory (bytesOf "0.1a")) (fun _ => 0) ⟨"Echo", [6]⟩, .write (.bytes 10),
    .read (.bytes 1), .read (.bytes 10), .read .endOfStream]

theorem stoppedSender_uncut : AtEach (Conversation.step oneClass [0])
    (fun _ conversation act => conversation.Uncut act) Conversation.start stoppedSender := by
  have noRead : ∀ {conversation : Conversation Nat} {act : ConversationAct Nat},
      (∀ r, act ≠ .read (.bytes r)) → conversation.Uncut act :=
    fun differs r same => absurd same (differs r)
  refine atEach_cons.mpr ⟨noRead (fun _ same => by cases same), fun next stepped => ?_⟩
  cases stepped
  refine atEach_cons.mpr ⟨noRead (fun _ same => by cases same), fun next stepped => ?_⟩
  cases stepped
  refine atEach_cons.mpr ⟨noRead (fun _ same => by cases same), fun next stepped => ?_⟩
  cases stepped
  refine atEach_cons.mpr ⟨(fun r same => by cases same; exact Or.inl rfl), fun next stepped => ?_⟩
  cases stepped
  refine atEach_cons.mpr ⟨noRead (fun _ same => by cases same), fun next stepped => ?_⟩
  cases stepped
  refine atEach_cons.mpr ⟨noRead (fun _ same => by cases same), fun next stepped => ?_⟩
  cases stepped
  refine atEach_cons.mpr ⟨(fun r same => by cases same; exact Or.inl rfl), fun next stepped => ?_⟩
  cases stepped
  refine atEach_cons.mpr ⟨(fun r same => by cases same; exact Or.inr rfl), fun next stepped => ?_⟩
  cases stepped
  exact atEach_cons.mpr ⟨noRead (fun _ same => by cases same), fun _ _ => atEach_nil⟩

theorem stoppedSender_created : ∃ final : Conversation Nat,
    run (Conversation.step oneClass [0]) Conversation.start stoppedSender = some final ∧
      final.receiver.stream = [] ∧ final.receiver.created.map some = [some (1, [5])] := by
  have ran : (run (Conversation.step oneClass [0]) Conversation.start stoppedSender).map
      (fun final => (final.receiver.stream, final.completed.map (transferable oneClass))) =
      some ([], [some (1, [5])]) := rfl
  rcases Option.map_eq_some_iff.mp ran with ⟨final, reached, same⟩
  rcases Prod.mk.inj same with ⟨exhausted, completed⟩
  refine ⟨final, reached, exhausted, ?_⟩
  rw [← completed]
  refine (created_of_conversation reached ?_ stoppedSender_uncut).2 exhausted
  rintro ⟨message, tail⟩ ⟨factory, outgoing, made, passes⟩
  have first : (echoFactory (bytesOf "0.1a")).prepare ⟨"Echo", [5]⟩ =
      some ⟨bytesOf "0.1a", 7, [5]⟩ := rfl
  have second : (echoFactory (bytesOf "0.1a")).prepare ⟨"Echo", [6]⟩ =
      some ⟨bytesOf "0.1a", 7, [6]⟩ := rfl
  have sent : message = ⟨bytesOf "0.1a", 7, [5]⟩ ∨ message = ⟨bytesOf "0.1a", 7, [6]⟩ := by
    simp only [stoppedSender, List.mem_cons, ConversationAct.send.injEq, reduceCtorEq, false_or,
      List.not_mem_nil, or_false] at made
    rcases made with ⟨rfl, _, rfl⟩ | ⟨rfl, _, rfl⟩
    · exact Or.inl (Option.some.inj (passes.symm.trans first))
    · exact Or.inr (Option.some.inj (passes.symm.trans second))
  have recognized : ∀ byte : UInt8, Recognized oneClass ⟨bytesOf "0.1a", 7, [byte]⟩ := fun _ =>
    ⟨(by decide : 0 ∉ bytesOf "0.1a"), (by decide : (bytesOf "0.1a").length < 8), ⟨1, rfl⟩,
      (by decide : (-2 ^ 31 : Int) ≤ 7), (by decide : (7 : Int) < 2 ^ 31),
      (by decide : 1 < 2 ^ 64)⟩
  rcases sent with rfl | rfl
  · exact recognized 5
  · exact recognized 6

end Plain
end Messaging
end Pxc
