import Pxc.General.Framing
import Pxc.Messaging.RoundTrip
import Pxc.Messaging.WriteFailures

namespace Pxc
namespace Messaging

open General

/-!
# Messages over a secure connection

The two sides of a connection are put together here.  On one side, threads
call `send` and `sendAnswer` on the same link, one at a time, while any write
may fail and the link may be closed and connected again in between.  On the
other side the receiving loop takes what has come so far.

A write that fails closes the link, which then has no session to write to.  So
the session takes whole packets, in order, and at most a part of one more at
its end.  The receiver creates nothing of that part.  What it recovers is
therefore the first of the messages that were written whole, and all of them
when everything has come.
-/

variable {Creator Sender : Type}

/-! ## The sender -/

/-- The bytes that the session takes of some writes, from the write at `n` on:
those of the writes that do not fail. -/
def taken (results : Nat → WriteResult) : Nat → List SslWrite → List UInt8
  | _, [] => []
  | n, write :: rest =>
      if write.ssl = true ∧ ¬ (results n).Fails then write.byte :: taken results (n + 1) rest
      else taken results (n + 1) rest

/-- A message as it was sent, with what lay behind its protocol's string. -/
structure Packet where
  message : Message
  behind : Nat → UInt8

def Packet.bytes (packet : Packet) : List UInt8 :=
  packet.message.packet packet.behind

theorem Packet.bytes_ne_nil (packet : Packet) : packet.bytes ≠ [] := by
  intro empty
  have length := congrArg List.length empty
  rw [bytes, Message.packet, List.length_append, length_header, List.length_nil] at length
  omega

/-- A call of `sendAnswer` or of `send`. -/
structure Attempt (Creator : Type) where
  answer : Bool
  caller : Caller
  factory : TransferableFactory Creator
  behind : Nat → UInt8
  message : Outgoing
  results : Nat → WriteResult

namespace Attempt

/-- The call, on the link as it finds it. -/
def call (attempt : Attempt Sender) (link : Link) : WriteCall Sender :=
  ⟨link, attempt.caller, attempt.factory, attempt.message, attempt.results⟩

def written (attempt : Attempt Sender) (link : Link) : Written :=
  if attempt.answer then (attempt.call link).sendAnswer attempt.behind
  else (attempt.call link).send attempt.behind

/-- The packet, if the message passes the checks of the sender. -/
def packet (attempt : Attempt Sender) : Option Packet :=
  (attempt.factory.prepare attempt.message).map fun message => ⟨message, attempt.behind⟩

def bytesTaken (attempt : Attempt Sender) (link : Link) : List UInt8 :=
  taken attempt.results 0 (attempt.written link).writes

/-- The packet, if the session has taken all of it. -/
def completed (attempt : Attempt Sender) (link : Link) : List Packet :=
  attempt.packet.toList.filter fun packet => attempt.bytesTaken link = packet.bytes

end Attempt

/-- What happens on the sender's side. -/
inductive SessionEvent (Sender : Type) where
  | attempt (attempt : Attempt Sender)
  | link (event : LinkEvent)

/-- `connect` makes a new session as soon as it has a socket. -/
def LinkEvent.begins : LinkEvent → Bool
  | .connect outcome => outcome ≠ .socketFails
  | _ => false

/-- The sender's side of a link: the link as long as the program goes on, what
its last session has taken, and the packets that the session has taken
whole. -/
structure Session where
  link : Option Link
  wire : List UInt8
  completed : List Packet

/-- One event.  Nothing follows the end of the program. -/
def Session.step (session : Session) : SessionEvent Sender → Option Session
  | .attempt attempt =>
      session.link.bind fun link =>
        if link.Calls attempt.caller then
          some {
            link := (attempt.written link).link
            wire := session.wire ++ attempt.bytesTaken link
            completed := session.completed ++ attempt.completed link }
        else none
  | .link event =>
      session.link.bind fun link =>
        (linkStep link event).map fun next =>
          if event.begins then ⟨some next, [], []⟩ else { session with link := some next }

/-- A link that has not been used. -/
def Session.start (link : Link) : Session :=
  ⟨some link, [], []⟩

theorem Link.ssl_of_close {link next : Link} {threadListen : Bool} {caller : Caller}
    (closed : link.close threadListen caller = some next) : next.ssl = false := by
  rcases Link.close_cases closed with rfl | ⟨_, _, _, rfl⟩
  · rfl
  · rfl

section Loop

variable {close : Link → Option Link} {link : Link} {results : Nat → WriteResult}

theorem taken_of_no_session {writes : List SslWrite} (n : Nat)
    (without : ∀ write ∈ writes, write.ssl = false) : taken results n writes = [] := by
  induction writes generalizing n with
  | nil => rfl
  | cons write rest inductionHypothesis =>
      have first := without write List.mem_cons_self
      rw [taken, if_neg (fun both => by rw [first] at both; cases both.1)]
      exact inductionHypothesis (n + 1) fun other member =>
        without other (List.mem_cons_of_mem write member)

variable (close results) in
/-- The session takes the bytes in front of the first write that fails. -/
theorem taken_writePacket (session : link.ssl = true) (n : Nat) (bytes : List UInt8) :
    taken results n (writePacket close link results n bytes).writes <+: bytes ∧
      (taken results n (writePacket close link results n bytes).writes = bytes ↔
        ∀ i < bytes.length, ¬ (results (n + i)).Fails) := by
  induction bytes generalizing n with
  | nil => exact ⟨List.prefix_rfl, fun _ _ bound => absurd bound (Nat.not_lt_zero _), fun _ => rfl⟩
  | cons byte rest inductionHypothesis =>
      by_cases fails : (results n).Fails
      · rw [writePacket_of_fails fails, taken, if_neg fun both => both.2 fails]
        refine ⟨List.nil_prefix, ?_⟩
        constructor
        · intro impossible
          cases impossible
        · intro succeed
          exact absurd fails (succeed 0 (Nat.succ_pos rest.length))
      · rcases inductionHypothesis (n + 1) with ⟨initial, whole⟩
        rw [writePacket_of_not_fails fails, taken, if_pos ⟨session, fails⟩]
        refine ⟨(List.prefix_cons_inj byte).mpr initial, ?_⟩
        rw [List.cons_inj_right, whole]
        constructor
        · intro later i bound
          cases i with
          | zero => exact fails
          | succ i =>
              have succeeds := later i (Nat.lt_of_succ_lt_succ bound)
              rwa [Nat.add_assoc, Nat.add_comm 1 i] at succeeds
        · intro succeed i bound
          rw [Nat.add_assoc, Nat.add_comm 1 i]
          exact succeed (i + 1) (Nat.succ_lt_succ bound)

end Loop

namespace Attempt

variable {attempt : Attempt Sender} {link : Link}

/-- Either routine does nothing, or does what both have in common. -/
theorem written_cases (attempt : Attempt Sender) (link : Link) :
    attempt.written link = ⟨[], some link⟩ ∨
      attempt.written link = (attempt.call link).sendMessage attempt.behind attempt.answer := by
  unfold written
  cases attempt.answer with
  | true => exact Or.inr rfl
  | false =>
      rw [if_neg Bool.false_ne_true, WriteCall.send]
      split
      · exact Or.inr rfl
      · exact Or.inl rfl

theorem frame_call (attempt : Attempt Sender) (link : Link) {packet : Packet}
    (prepared : attempt.packet = some packet) :
    (attempt.call link).frame attempt.behind = packet.bytes := by
  rcases Option.map_eq_some_iff.mp prepared with ⟨message, passes, rfl⟩
  have called : (attempt.call link).factory.prepare (attempt.call link).message = some message :=
    passes
  rw [WriteCall.frame, called]
  rfl

/-- On a session, the bytes in front of the first write that fails are taken. -/
theorem bytesTaken_of_made {packet : Packet} (sent : attempt.packet = some packet)
    (made : attempt.written link = (attempt.call link).sendMessage attempt.behind attempt.answer)
    (session : link.ssl = true) :
    attempt.bytesTaken link <+: packet.bytes ∧
      (attempt.bytesTaken link = packet.bytes ↔ ¬ (attempt.call link).Interrupted) := by
  rcases Option.map_eq_some_iff.mp sent with ⟨message, passes, _⟩
  have frame := attempt.frame_call link sent
  have loop : (attempt.call link).sendMessage attempt.behind attempt.answer =
      writePacket (fun link => link.close attempt.answer attempt.caller) link attempt.results 0
        packet.bytes :=
    frame ▸ WriteCall.sendMessage_of_prepared passes attempt.behind attempt.answer
  rw [bytesTaken, made, loop]
  rcases taken_writePacket (fun link => link.close attempt.answer attempt.caller)
    attempt.results session 0 packet.bytes with ⟨initial, whole⟩
  refine ⟨initial, whole.trans ?_⟩
  rw [WriteCall.Interrupted, ← WriteCall.length_frame _ attempt.behind, frame]
  simp only [Nat.zero_add, not_exists, not_and]
  rfl

/-- What a session is left with after an attempt: nothing new, the whole
packet, or a part of it and a link that has been closed. -/
inductive Leaves (attempt : Attempt Sender) (link : Link) : Prop where
  | nothing (nothing : attempt.bytesTaken link = [])
  | whole (packet : Packet) (sent : attempt.packet = some packet)
      (all : attempt.bytesTaken link = packet.bytes) (session : link.ssl = true)
  | part (packet : Packet) (sent : attempt.packet = some packet)
      (initial : attempt.bytesTaken link <+: packet.bytes)
      (incomplete : attempt.bytesTaken link ≠ packet.bytes) (session : link.ssl = true)
      (closed : ∀ next, (attempt.written link).link = some next → next.ssl = false)

theorem closed_of_interrupted
    (made : attempt.written link = (attempt.call link).sendMessage attempt.behind attempt.answer)
    (interrupted : (attempt.call link).Interrupted) {next : Link}
    (after : (attempt.written link).link = some next) : next.ssl = false := by
  rw [made,
    (WriteCall.sendMessage_of_interrupted interrupted attempt.behind attempt.answer).1] at after
  exact Link.ssl_of_close after

/-- No attempt gives the link a session that it did not have. -/
theorem ssl_of_written {next : Link} (after : (attempt.written link).link = some next) :
    next.ssl = link.ssl ∨ next.ssl = false := by
  rcases attempt.written_cases link with idle | made
  · rw [idle] at after
    exact Or.inl (Option.some.inj after ▸ rfl)
  · by_cases interrupted : (attempt.call link).Interrupted
    · exact Or.inr (closed_of_interrupted made interrupted after)
    · rw [made, WriteCall.sendMessage_of_not_interrupted interrupted] at after
      exact Or.inl (Option.some.inj after ▸ rfl)

theorem leaves (attempt : Attempt Sender) (link : Link) : attempt.Leaves link := by
  rcases attempt.written_cases link with idle | made
  · refine .nothing ?_
    rw [bytesTaken, idle]
    rfl
  · cases sent : attempt.packet with
    | none =>
        have refused : attempt.factory.prepare attempt.message = none :=
          Option.map_eq_none_iff.mp sent
        have idle : (attempt.call link).sendMessage attempt.behind attempt.answer =
            ⟨[], some link⟩ :=
          WriteCall.sendMessage_of_refused refused attempt.behind attempt.answer
        refine .nothing ?_
        rw [bytesTaken, made, idle]
        rfl
    | some packet =>
        cases session : link.ssl with
        | false =>
            refine .nothing (taken_of_no_session 0 fun write member => ?_)
            rw [made] at member
            exact (WriteCall.ssl_of_mem_sendMessage member).trans session
        | true =>
            rcases bytesTaken_of_made sent made session with ⟨initial, whole⟩
            by_cases interrupted : (attempt.call link).Interrupted
            · exact .part packet sent initial (fun all => whole.mp all interrupted) session
                fun next => closed_of_interrupted made interrupted
            · exact .whole packet sent (whole.mpr interrupted) session

end Attempt

/-- Only `connect` gives a link a session. -/
theorem ssl_of_linkStep {link next : Link} {event : LinkEvent} (continues : event.begins = false)
    (stepped : linkStep link event = some next) : next.ssl = link.ssl ∨ next.ssl = false := by
  rcases linkStep_cases stepped with ⟨outcome, rfl, rfl⟩ | ⟨_, _, closed⟩ | ⟨_, _, _, rfl⟩ |
    ⟨_, _, _, rfl⟩
  · have noSocket : outcome = .socketFails := not_not.mp (of_decide_eq_false continues)
    rw [noSocket]
    exact Or.inl rfl
  · exact Or.inr (Link.ssl_of_close closed)
  · exact Or.inl rfl
  · exact Or.inl rfl

/-- The wire carries the packets that were completed.  When it ends within
another one, the link has no session any more. -/
structure Session.Sound (among : Packet → Prop) (session : Session) : Prop where
  carries : ∃ last, Carries Packet.bytes session.completed last session.wire ∧
    (∀ packet ∈ last, among packet ∧ ∀ link, session.link = some link → link.ssl = false)
  known : ∀ packet ∈ session.completed, among packet

namespace Session.Sound

variable {among : Packet → Prop} {session next : Session}

theorem start (among : Packet → Prop) (link : Link) : (Session.start link).Sound among where
  carries := ⟨none, .nil, fun _ impossible => by cases impossible⟩
  known := fun _ impossible => by cases impossible

theorem attempt {attempt : Attempt Sender} (sound : session.Sound among)
    (sends : ∀ packet ∈ attempt.packet, among packet)
    (stepped : session.step (.attempt attempt) = some next) : next.Sound among := by
  rcases Option.bind_eq_some_iff.mp stepped with ⟨link, goesOn, made⟩
  split at made
  · cases made
    rcases sound with ⟨⟨last, carries, stopped⟩, known⟩
    have nobody : link.ssl = true → last = none := by
      intro session
      cases last with
      | none => rfl
      | some packet =>
          have without := (stopped packet rfl).2 link goesOn
          rw [without] at session
          cases session
    cases attempt.leaves link with
    | nothing nothing =>
        have none : attempt.completed link = [] := by
          rw [Attempt.completed, List.filter_eq_nil_iff]
          intro packet _ all
          exact packet.bytes_ne_nil ((of_decide_eq_true all).symm.trans nothing)
        refine ⟨⟨last, ?_, fun packet member => ⟨(stopped packet member).1, ?_⟩⟩, ?_⟩
        · simpa only [nothing, none, List.append_nil] using carries
        · intro after same
          have before := (stopped packet member).2 link goesOn
          exact (Attempt.ssl_of_written same).elim (·.trans before) id
        · simpa only [none, List.append_nil] using known
    | whole packet sent all session =>
        have completed : attempt.completed link = [packet] := by
          rw [Attempt.completed, sent, all]
          simp only [Option.toList_some, List.filter_cons, decide_true, if_true, List.filter_nil]
        cases nobody session
        refine ⟨⟨none, ?_, fun _ impossible => by cases impossible⟩, ?_⟩
        · simp only [completed, all]
          exact carries.write packet
        · simp only [completed]
          intro other member
          rcases List.mem_append.mp member with before | now
          · exact known other before
          · exact List.mem_singleton.mp now ▸ sends packet sent
    | part packet sent initial incomplete session closed =>
        have none : attempt.completed link = [] := by
          rw [Attempt.completed, sent]
          simp only [Option.toList_some, List.filter_cons, incomplete, decide_false,
            Bool.false_eq_true, if_false, List.filter_nil]
        cases nobody session
        refine ⟨⟨some packet, ?_, fun other member => ?_⟩, ?_⟩
        · simp only [none, List.append_nil]
          exact carries.stop initial incomplete
        · exact Option.some.inj member ▸ ⟨sends packet sent, closed⟩
        · simpa only [none, List.append_nil] using known
  · cases made

theorem link {event : LinkEvent} (sound : session.Sound among)
    (stepped : session.step (.link event : SessionEvent Sender) = some next) :
    next.Sound among := by
  rcases Option.bind_eq_some_iff.mp stepped with ⟨link, goesOn, moved⟩
  rcases Option.map_eq_some_iff.mp moved with ⟨after, happened, rfl⟩
  cases begins : event.begins with
  | true => exact start among after
  | false =>
      rcases sound with ⟨⟨last, carries, stopped⟩, known⟩
      refine ⟨⟨last, carries, fun packet member => ⟨(stopped packet member).1, ?_⟩⟩, known⟩
      intro same isSame
      cases isSame
      have before := (stopped packet member).2 link goesOn
      exact (ssl_of_linkStep begins happened).elim (·.trans before) id

end Session.Sound

/-- Every message that passes the sender's checks in these events. -/
def Sends (events : List (SessionEvent Sender)) (packet : Packet) : Prop :=
  ∃ attempt, .attempt attempt ∈ events ∧ attempt.packet = some packet

theorem Sends.real {events : List (SessionEvent Sender)} {packet : Packet}
    (sends : Sends events packet) : packet.message.protocol ≠ NO_PROTOCOL := by
  rcases sends with ⟨attempt, _, sent⟩
  rcases Option.map_eq_some_iff.mp sent with ⟨message, passes, rfl⟩
  exact (prepare_eq_some passes).2

theorem sound_of_run {start : Link} {events : List (SessionEvent Sender)} {session : Session}
    (reached : run Session.step (Session.start start) events = some session) :
    session.Sound (Sends events) := by
  have among : PrefixClosed fun before : List (SessionEvent Sender) => before <+: events :=
    fun first second initial => (List.prefix_append first second).trans initial
  refine run_invariant_of_step (fun before => before <+: events)
    (fun _ session => session.Sound (Sends events)) among (.start _ start) ?_ List.prefix_rfl
    reached
  intro before session event next initial sound stepped
  cases event with
  | attempt attempt =>
      refine sound.attempt (fun packet sent => ⟨attempt, initial.subset ?_, sent⟩) stepped
      exact List.mem_append_right before List.mem_cons_self
  | link event => exact sound.link stepped

/-! ## The receiver -/

section Receiving

variable {typeSize : Creator → Nat} {factory : TransferableFactory Creator}
  {receiver : Profile Creator}

/-- A packet that the receiver can take for the message that was sent. -/
structure Packet.Recoverable (receiver : Profile Creator) (packet : Packet) : Prop where
  admissible : Admissible receiver packet.message
  short : packet.message.protocol.length < 8
  real : packet.message.protocol ≠ NO_PROTOCOL

namespace Packet.Recoverable

variable {packet : Packet}

/-- The header leads to a creator, whatever lies behind the receiver's array. -/
theorem exists_creator (recoverable : packet.Recoverable receiver) (behind : Behind) :
    ∃ creator, receiver.creatorFor (protocol (packet.message.header packet.behind) behind)
      (instruction (packet.message.header packet.behind)) = .ok creator := by
  have admissible := recoverable.admissible
  rcases admissible.known with ⟨creator, listed⟩
  refine ⟨creator, ?_⟩
  rw [protocol_header admissible.protocol_nonzero (Nat.le_of_lt recoverable.short),
    instruction_header, readInt_writeInt admissible.instruction_low admissible.instruction_high,
    Profile.creatorFor, if_neg (readBack_ne_none recoverable.real behind), listed]

/-- A part of a packet creates nothing: the call waits for the rest, and closes
the connection when there is none. -/
theorem receive_part (recoverable : packet.Recoverable receiver)
    (set : factory.mProfile = some receiver) (behind : Behind) {part missing : List UInt8}
    (split : part ++ missing = packet.bytes) (incomplete : missing ≠ []) :
    (receiveTransfThread typeSize factory behind part).2 = .closed := by
  by_cases enough : 16 ≤ part.length
  · have header : part.take 16 = packet.message.header packet.behind := by
      rw [← List.take_append_of_le_length enough, split, Packet.bytes, Message.packet,
        ← length_header packet.message packet.behind, List.take_left]
    have size : sizeMessage (packet.message.header packet.behind) =
        packet.message.payload.length := by
      rw [sizeMessage_header]
      exact readInt_writeInt (by omega) recoverable.admissible.length_lt
    have fewer : (part.drop 16).length < packet.message.payload.length := by
      have length := congrArg List.length split
      have rest : 0 < missing.length := List.length_pos_of_ne_nil incomplete
      rw [List.length_append, Packet.bytes, Message.packet, List.length_append,
        length_header] at length
      rw [List.length_drop]
      omega
    rcases recoverable.exists_creator behind with ⟨creator, found⟩
    rw [(receiveTransfThread_header typeSize behind set enough).2, header, found]
    simp only [receiveBody, size]
    rw [if_neg (by omega), if_pos (by rw [Int.toNat_natCast]; exact fewer)]
  · rw [receiveTransfThread, if_pos (Nat.lt_of_not_le enough)]

/-- The call that begins with a packet recovers its message. -/
theorem receive_whole (typeSize : Creator → Nat) (recoverable : packet.Recoverable receiver)
    (set : factory.mProfile = some receiver) (behind : Behind) (memory : List Behind)
    (after : List UInt8) : ∃ next, next.mProfile = some receiver ∧
      receiveMessages typeSize (behind :: memory) factory (packet.bytes ++ after) =
        (packet.message :: (receiveMessages typeSize memory next after).1,
          (receiveMessages typeSize memory next after).2) := by
  have bounded := Nat.le_of_lt recoverable.short
  rcases receive_packet typeSize behind set recoverable.admissible bounded recoverable.real
    packet.behind after with ⟨next, creator, content, kept, received⟩
  refine ⟨next, kept, ?_⟩
  rw [Packet.bytes, receiveMessages, received]
  simp only [recovered_packet behind recoverable.admissible bounded,
    readBack_of_short recoverable.short]

end Packet.Recoverable

/-- A call that finds no whole packet ends the loop. -/
theorem receiveMessages_of_closed {stream : List UInt8} (memory : List Behind)
    (closed : ∀ behind, (receiveTransfThread typeSize factory behind stream).2 = .closed) :
    receiveMessages typeSize memory factory stream = ([], stream) := by
  cases memory with
  | nil => rfl
  | cons behind memory =>
      have ends := closed behind
      rw [receiveMessages]
      split
      · rfl
      · rfl
      · next received =>
        rw [received] at ends
        cases ends
      · next received =>
        rw [received] at ends
        cases ends

/-- The loop recovers the messages of all packets that have come whole. -/
theorem receiveMessages_of_carries {packets : List Packet} {last : Option Packet}
    {stream : List UInt8} (carries : Carries Packet.bytes packets last stream)
    (set : factory.mProfile = some receiver)
    (recoverable : ∀ packet, packet ∈ packets ∨ packet ∈ last → packet.Recoverable receiver)
    {memory : List Behind} (enough : stream.length ≤ memory.length) :
    (receiveMessages typeSize memory factory stream).1 = packets.map Packet.message := by
  induction packets generalizing factory stream memory with
  | nil =>
      rw [receiveMessages_of_closed memory]
      · rfl
      · intro behind
        cases carries with
        | whole => rfl
        | cut packet part missing split incomplete =>
            exact (recoverable packet (Or.inr rfl)).receive_part set behind split incomplete
  | cons packet packets inductionHypothesis =>
      rcases carries.uncons with ⟨rest, rfl, others⟩
      have begins := List.length_pos_of_ne_nil packet.bytes_ne_nil
      rw [List.length_append] at enough
      cases memory with
      | nil =>
          rw [List.length_nil] at enough
          omega
      | cons behind memory =>
          rcases (recoverable packet (Or.inl List.mem_cons_self)).receive_whole typeSize set behind
            memory rest with ⟨next, kept, received⟩
          rw [received, List.map_cons]
          refine congrArg (packet.message :: ·) (inductionHypothesis others kept ?_ ?_)
          · exact fun other among => recoverable other
              (among.imp_left (List.mem_cons_of_mem packet))
          · rw [List.length_cons] at enough
            omega

end Receiving

/-- What the receiver recovers, when any part of the stream has come, is the
first of the messages that were written whole, in order.  When all has come, it
is all of them. -/
theorem messages_of_run (typeSize : Creator → Nat) {factory : TransferableFactory Creator}
    {receiver : Profile Creator} (set : factory.mProfile = some receiver) {start : Link}
    {events : List (SessionEvent Sender)} {session : Session}
    (reached : run Session.step (Session.start start) events = some session)
    (admissible : ∀ packet, Sends events packet →
      Admissible receiver packet.message ∧ packet.message.protocol.length < 8)
    {arrived : List UInt8} (initial : arrived <+: session.wire) {memory : List Behind}
    (enough : arrived.length ≤ memory.length) :
    (receiveMessages typeSize memory factory arrived).1 <+:
        session.completed.map Packet.message ∧
      (arrived = session.wire → (receiveMessages typeSize memory factory arrived).1 =
        session.completed.map Packet.message) := by
  have sound := sound_of_run reached
  have recoverable : ∀ packet, Sends events packet → packet.Recoverable receiver := by
    intro packet sends
    exact ⟨(admissible packet sends).1, (admissible packet sends).2, sends.real⟩
  rcases sound.carries with ⟨last, carries, stopped⟩
  have everyone : ∀ packet, packet ∈ session.completed ∨ packet ∈ last →
      packet.Recoverable receiver := by
    rintro packet (completed | isLast)
    · exact recoverable packet (sound.known packet completed)
    · exact recoverable packet (stopped packet isLast).1
  constructor
  · rcases carries.of_initial initial with ⟨earlier, next, begins, came, known⟩
    rw [receiveMessages_of_carries came set ?_ enough]
    · exact begins.map Packet.message
    · rintro packet (came | isNext)
      · exact everyone packet (Or.inl (begins.subset came))
      · exact everyone packet (known packet isNext)
  · rintro rfl
    exact receiveMessages_of_carries carries set everyone enough

/-- An answer of two bytes. -/
def echoAttempt (results : Nat → WriteResult) : Attempt Nat where
  answer := true
  caller := .user
  factory := echoFactory (bytesOf "0.1a")
  behind := fun _ => 0
  message := ⟨"Echo", [1, 2]⟩
  results := results

/-- Every write succeeds, or every write but the third one. -/
def noFailure : Nat → WriteResult :=
  fun _ => ⟨1, SSL_ERROR_NONE⟩

def thirdFails : Nat → WriteResult :=
  fun i => if i = 2 then ⟨-1, 5⟩ else ⟨1, SSL_ERROR_NONE⟩

/-- The first answer comes through, and two bytes of the second. -/
theorem echo_messages : ∃ session,
    run Session.step (Session.start accepted)
        [.attempt (echoAttempt noFailure), .attempt (echoAttempt thirdFails)] = some session ∧
      session.wire.length = 20 ∧
      (receiveMessages id (List.replicate 20 unterminated) freshFactory session.wire).1 =
        [⟨bytesOf "0.1a", 7, [1, 2]⟩] := by
  have ran : (run Session.step (Session.start accepted)
      [.attempt (echoAttempt noFailure), .attempt (echoAttempt thirdFails)]).map
        (fun session => (session.wire.length, session.completed.map Packet.message)) =
      some (20, [⟨bytesOf "0.1a", 7, [1, 2]⟩]) := rfl
  rcases Option.map_eq_some_iff.mp ran with ⟨session, reached, same⟩
  rcases Prod.mk.inj same with ⟨length, completed⟩
  have admissible : ∀ packet, Sends [.attempt (echoAttempt noFailure),
      .attempt (echoAttempt thirdFails)] packet →
      Admissible oneClass packet.message ∧ packet.message.protocol.length < 8 := by
    rintro packet ⟨attempt, made, sent⟩
    have message : packet.message = ⟨bytesOf "0.1a", 7, [1, 2]⟩ := by
      rcases List.mem_cons.mp made with first | later
      · cases first
        exact congrArg Packet.message (Option.some.inj sent.symm)
      · cases List.mem_singleton.mp later
        exact congrArg Packet.message (Option.some.inj sent.symm)
    rw [message]
    exact ⟨admissible_echo (by decide), by decide⟩
  refine ⟨session, reached, length, ?_⟩
  rw [← completed]
  refine (messages_of_run id rfl reached admissible List.prefix_rfl ?_).2 rfl
  rw [length]
  exact Nat.le_refl 20

end Messaging
end Pxc
