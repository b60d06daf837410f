import Pxc.Messaging.FactoryIsolation
import Pxc.Messaging.Listeners
import Pxc.Messaging.Sending

namespace Pxc
namespace Messaging

open General

/-!
# Writes that fail

A packet is handed to `SSL_write` one byte at a time.  The loop ends with the
packet, or with the first call that does not write its byte, after which the
link is closed.  `send` and `sendAnswer` are two copies of this.  They differ
in how they close the link, since a listener that answers a message must not
wait for itself, and in that only `send` looks at the link first.

A call runs by itself here: nothing else closes the link between its writes.
Either routine copies eight bytes of a string of its own, so that what lies
behind a short protocol is another argument of each.  What comes back from a
call of `SSL_write` is free, also when `ssl` is null.
-/

/-- `SSL_ERROR_NONE`. -/
def SSL_ERROR_NONE : Int :=
  0

/-- What one call of `SSL_write` returns, and what `SSL_get_error` makes of
it. -/
structure WriteResult where
  r : Int
  error : Int

/-- The byte was not written. -/
def WriteResult.Fails (result : WriteResult) : Prop :=
  result.error = SSL_ERROR_NONE → result.r ≠ 1

instance (result : WriteResult) : Decidable result.Fails :=
  inferInstanceAs (Decidable (_ → _))

/-- One call of `SSL_write`: whether `ssl` points to a session, and the
byte. -/
structure SslWrite where
  ssl : Bool
  byte : UInt8
  deriving DecidableEq, Repr

/-- The calls of `SSL_write` that a routine makes, and the link after it.
There is none when a thread waits for itself. -/
structure Written where
  writes : List SslWrite
  link : Option Link

namespace Written

/-- The bytes that are handed to `SSL_write`, in order. -/
def handed (written : Written) : List UInt8 :=
  written.writes.map SslWrite.byte

/-- The routine has come back, and the link is offline. -/
def LeavesOffline (written : Written) : Prop :=
  ∃ next, written.link = some next ∧ next.online = false

/-- The routine has done nothing to the link. -/
def Idle (written : Written) (link : Link) : Prop :=
  written.writes = [] ∧ written.link = some link

end Written

/-- The loop of both routines, from the byte at `n` on. -/
def writePacket (close : Link → Option Link) (link : Link) (results : Nat → WriteResult) :
    Nat → List UInt8 → Written
  | _, [] => ⟨[], some link⟩
  | n, byte :: rest =>
      let write := ⟨link.ssl, byte⟩
      if (results n).error = SSL_ERROR_NONE then
        if (results n).r ≠ 1 then ⟨[write], close link⟩
        else
          let after := writePacket close link results (n + 1) rest
          ⟨write :: after.writes, after.link⟩
      else ⟨[write], close link⟩

/-- A message that a thread sends over a link, with the sender's factory and
what comes of each write. -/
structure WriteCall (Creator : Type) where
  link : Link
  caller : Caller
  factory : TransferableFactory Creator
  message : Outgoing
  results : Nat → WriteResult

/-- A link that is online has a session. -/
def Link.HasSession (link : Link) : Prop :=
  link.online = true → link.ssl = true

/-- What the constructor that is given a session leaves. -/
def accepted : Link :=
  ⟨true, true, none, [], 1⟩

namespace WriteCall

variable {Creator : Type}

/-- The part of both routines that begins with the length of the message.  The
routine's own string has some memory behind it. -/
def sendMessage (call : WriteCall Creator) (behind : Nat → UInt8) (threadListen : Bool) :
    Written :=
  match call.factory.prepare call.message with
  | none => ⟨[], some call.link⟩
  | some fields =>
      writePacket (fun link => link.close threadListen call.caller) call.link call.results 0
        (fields.packet behind)

/-- `TCPConnectionSecurity::send`. -/
def send (call : WriteCall Creator) (behind : Nat → UInt8) : Written :=
  if call.link.online then call.sendMessage behind false else ⟨[], some call.link⟩

/-- `TCPConnectionSecurity::sendAnswer`. -/
def sendAnswer (call : WriteCall Creator) (behind : Nat → UInt8) : Written :=
  call.sendMessage behind true

/-- The packet of the message.  A message that is refused has none. -/
def frame (call : WriteCall Creator) (behind : Nat → UInt8) : List UInt8 :=
  match call.factory.prepare call.message with
  | none => []
  | some fields => fields.packet behind

/-- The length of the packet: a length, eight bytes, a type and the body. -/
def lengthPacket (call : WriteCall Creator) : Nat :=
  match call.factory.prepare call.message with
  | none => 0
  | some fields => 4 + 8 + 4 + fields.payload.length

/-- The same call, on a link without errors. -/
def sending (call : WriteCall Creator) (behind : Nat → UInt8) (answer : Bool) : Sending Creator :=
  ⟨answer, call.link.online, call.factory, behind, call.message⟩

/-- A write of the packet's bytes is going to fail. -/
def Interrupted (call : WriteCall Creator) : Prop :=
  ∃ i < call.lengthPacket, (call.results i).Fails

/-- The caller is the thread that `close(false)` waits for. -/
def WaitsForItself (call : WriteCall Creator) : Prop :=
  ∃ thread, call.link.tListen = some thread ∧ call.caller = .listener thread

/-- Of the eight bytes that each routine copies, those that lie behind the
terminator are the same as far as no write in front of them fails. -/
def SamePadding (call : WriteCall Creator) (first second : Nat → UInt8) : Prop :=
  ∀ i, call.factory.mProtocolVersion.length + 1 + i < 8 →
    (∀ earlier < 4 + (call.factory.mProtocolVersion.length + 1 + i),
      ¬ (call.results earlier).Fails) → first i = second i

/-- `send` and `sendAnswer` agree, each with the memory behind its own
string. -/
structure Agree (call : WriteCall Creator) (sends answers : Nat → UInt8) : Prop where
  same : (call.send sends).handed = (call.sendAnswer answers).handed
  inOrder : (call.send sends).handed <+: call.frame sends ∧
    (call.sendAnswer answers).handed <+: call.frame answers
  whole : call.link.online = true → ¬ call.Interrupted →
    (call.send sends).handed = call.frame sends ∧
      (call.sendAnswer answers).handed = call.frame answers
  offline : ∀ i, (call.results i).Fails →
    (i < (call.send sends).writes.length → (call.send sends).LeavesOffline) ∧
      (i < (call.sendAnswer answers).writes.length → (call.sendAnswer answers).LeavesOffline)
  idle : call.link.online = false →
    (call.send sends).Idle call.link ∧ (call.sendAnswer answers).Idle call.link
  session : ∀ write ∈ (call.send sends).writes ++ (call.sendAnswer answers).writes,
    write.ssl = true

end WriteCall

section Loop

variable {close : Link → Option Link} {link : Link} {results : Nat → WriteResult}

theorem writePacket_of_fails {n : Nat} (fails : (results n).Fails) (byte : UInt8)
    (rest : List UInt8) :
    writePacket close link results n (byte :: rest) = ⟨[⟨link.ssl, byte⟩], close link⟩ := by
  simp only [writePacket]
  by_cases noError : (results n).error = SSL_ERROR_NONE
  · rw [if_pos noError, if_pos (fails noError)]
  · rw [if_neg noError]

/-- A write that succeeds is followed by the rest of the packet. -/
theorem writePacket_of_not_fails {n : Nat} (succeeds : ¬ (results n).Fails) (byte : UInt8)
    (rest : List UInt8) :
    writePacket close link results n (byte :: rest) =
      ⟨⟨link.ssl, byte⟩ :: (writePacket close link results (n + 1) rest).writes,
        (writePacket close link results (n + 1) rest).link⟩ := by
  have noError : (results n).error = SSL_ERROR_NONE := by
    by_contra error
    exact succeeds fun noError => absurd noError error
  have one : ¬ (results n).r ≠ 1 := fun other => succeeds fun _ => other
  simp only [writePacket]
  rw [if_pos noError, if_neg one]

theorem handed_writePacket_prefix (n : Nat) (bytes : List UInt8) :
    (writePacket close link results n bytes).handed <+: bytes := by
  induction bytes generalizing n with
  | nil => exact List.prefix_rfl
  | cons byte rest inductionHypothesis =>
      by_cases fails : (results n).Fails
      · rw [writePacket_of_fails fails]
        exact ⟨rest, rfl⟩
      · rw [writePacket_of_not_fails fails]
        exact (List.prefix_cons_inj byte).mpr (inductionHypothesis (n + 1))

theorem ssl_of_mem_writePacket {n : Nat} {bytes : List UInt8} {write : SslWrite}
    (made : write ∈ (writePacket close link results n bytes).writes) : write.ssl = link.ssl := by
  induction bytes generalizing n with
  | nil => cases made
  | cons byte rest inductionHypothesis =>
      by_cases fails : (results n).Fails
      · rw [writePacket_of_fails fails] at made
        rw [List.mem_singleton.mp made]
      · rw [writePacket_of_not_fails fails] at made
        rcases List.mem_cons.mp made with first | later
        · rw [first]
        · exact inductionHypothesis later

/-- Two packets of one length are handed over alike exactly when they agree up
to the first write that fails. -/
theorem handed_writePacket_eq_iff (other : Link → Option Link) {n : Nat}
    {bytes others : List UInt8} (length : bytes.length = others.length) :
    (writePacket close link results n bytes).handed =
        (writePacket other link results n others).handed ↔
      ∀ i, (∀ earlier < i, ¬ (results (n + earlier)).Fails) → bytes[i]? = others[i]? := by
  induction bytes generalizing n others with
  | nil =>
      rw [List.eq_nil_of_length_eq_zero length.symm]
      exact iff_of_true rfl fun _ _ => rfl
  | cons byte bytes inductionHypothesis =>
      cases others with
      | nil => cases length
      | cons alike others =>
          have lengths : bytes.length = others.length := Nat.succ.inj length
          by_cases fails : (results n).Fails
          · rw [writePacket_of_fails fails, writePacket_of_fails fails]
            constructor
            · intro same i succeed
              cases i with
              | zero => exact congrArg List.head? same
              | succ i => exact absurd fails (succeed 0 (Nat.succ_pos i))
            · intro same
              exact congrArg Option.toList
                (same 0 fun earlier impossible => absurd impossible (Nat.not_lt_zero earlier))
          · rw [writePacket_of_not_fails fails, writePacket_of_not_fails fails]
            change byte :: (writePacket close link results (n + 1) bytes).handed =
              alike :: (writePacket other link results (n + 1) others).handed ↔ _
            rw [List.cons.injEq, inductionHypothesis lengths]
            constructor
            · rintro ⟨first, rest⟩ i succeed
              cases i with
              | zero => exact congrArg some first
              | succ i =>
                  apply rest i
                  intro earlier bound
                  rw [Nat.add_assoc, Nat.add_comm 1 earlier]
                  exact succeed (earlier + 1) (Nat.succ_lt_succ bound)
            · intro same
              refine ⟨Option.some.inj (same 0 fun earlier impossible =>
                absurd impossible (Nat.not_lt_zero earlier)), fun i succeed => ?_⟩
              apply same (i + 1)
              intro earlier bound
              cases earlier with
              | zero => exact fails
              | succ earlier =>
                  rw [Nat.add_comm earlier 1, ← Nat.add_assoc]
                  exact succeed earlier (Nat.lt_of_succ_lt_succ bound)

theorem writes_writePacket_ne_nil {bytes : List UInt8} (nonempty : bytes ≠ []) (n : Nat) :
    (writePacket close link results n bytes).writes ≠ [] := by
  cases bytes with
  | nil => exact absurd rfl nonempty
  | cons byte rest =>
      by_cases fails : (results n).Fails
      · rw [writePacket_of_fails fails]
        exact List.cons_ne_nil _ _
      · rw [writePacket_of_not_fails fails]
        exact List.cons_ne_nil _ _

/-- Without a failure the packet is written whole, and the link stays. -/
theorem writePacket_whole {n : Nat} {bytes : List UInt8}
    (succeed : ∀ i < bytes.length, ¬ (results (n + i)).Fails) :
    writePacket close link results n bytes = ⟨bytes.map (SslWrite.mk link.ssl), some link⟩ := by
  induction bytes generalizing n with
  | nil => rfl
  | cons byte rest inductionHypothesis =>
      have first : ¬ (results n).Fails := succeed 0 (Nat.succ_pos rest.length)
      have later : ∀ i < rest.length, ¬ (results (n + 1 + i)).Fails := by
        intro i bound
        rw [Nat.add_assoc, Nat.add_comm 1 i]
        exact succeed (i + 1) (Nat.succ_lt_succ bound)
      rw [writePacket_of_not_fails first, inductionHypothesis later]
      rfl

variable (close link) in
/-- A failure is met, and the link is closed at it. -/
theorem writePacket_interrupted {n : Nat} {bytes : List UInt8}
    (interrupted : ∃ i < bytes.length, (results (n + i)).Fails) :
    (writePacket close link results n bytes).link = close link ∧
      ∃ i < (writePacket close link results n bytes).writes.length, (results (n + i)).Fails := by
  induction bytes generalizing n with
  | nil =>
      rcases interrupted with ⟨i, bound, _⟩
      exact absurd bound (Nat.not_lt_zero i)
  | cons byte rest inductionHypothesis =>
      by_cases first : (results n).Fails
      · rw [writePacket_of_fails first]
        exact ⟨rfl, 0, Nat.zero_lt_one, first⟩
      · have later : ∃ i < rest.length, (results (n + 1 + i)).Fails := by
          rcases interrupted with ⟨i, bound, fails⟩
          cases i with
          | zero => exact absurd fails first
          | succ i =>
              refine ⟨i, Nat.lt_of_succ_lt_succ bound, ?_⟩
              rw [Nat.add_assoc, Nat.add_comm 1 i]
              exact fails
        rcases inductionHypothesis later with ⟨closed, i, bound, fails⟩
        rw [writePacket_of_not_fails first]
        refine ⟨closed, i + 1, Nat.succ_lt_succ bound, ?_⟩
        rw [Nat.add_comm i 1, ← Nat.add_assoc]
        exact fails

end Loop

/-! ## Links and their sessions -/

theorem Link.hasSession_of_close {link next : Link} {threadListen : Bool} {caller : Caller}
    (closed : link.close threadListen caller = some next) : next.HasSession := by
  intro online
  rw [Link.offline_of_close closed] at online
  cases online

theorem Link.HasSession.connect {link : Link} (hasSession : link.HasSession)
    (outcome : Outcome) : (link.connect outcome).HasSession := by
  intro online
  cases outcome with
  | socketFails => exact hasSession online
  | tlsFails => rfl
  | certificateFails => rfl
  | succeeds =>
      rw [Link.connect, Link.receive]
      split
      · rfl
      · rfl

theorem Link.HasSession.step {link next : Link} (hasSession : link.HasSession)
    {event : LinkEvent} (stepped : linkStep link event = some next) : next.HasSession := by
  rcases linkStep_cases stepped with ⟨outcome, rfl, rfl⟩ | ⟨threadListen, caller, closed⟩ |
    ⟨thread, rfl, _, rfl⟩ | ⟨caller, rfl, _, rfl⟩
  · exact hasSession.connect outcome
  · exact Link.hasSession_of_close closed
  · exact hasSession
  · exact hasSession

/-- Every link that a program gets to has a session while it is online. -/
theorem hasSession_of_run {start link : Link} (starts : start = constructed ∨ start = accepted)
    {events : List LinkEvent} (reached : run linkStep start events = some link) :
    link.HasSession := by
  have begun : start.HasSession := by
    rcases starts with isConstructed | isAccepted
    · rw [isConstructed]
      intro online
      cases online
    · rw [isAccepted]
      intro _
      rfl
  exact run_invariant_of_step (fun _ => True) (fun _ => Link.HasSession)
    (fun _ _ _ => trivial) begun (fun _ _ _ _ _ hasSession => hasSession.step) trivial reached

/-- A listener may close its link this way: nobody is waited for. -/
theorem Link.close_true (link : Link) (caller : Caller) :
    link.close true caller = some { link with online := false, ssl := false } := by
  rw [Link.close_eq]
  rfl

/-- The eight bytes end with what lies behind the terminator. -/
theorem writeProtocol_eq (protocol : List UInt8) (behind : Nat → UInt8) :
    writeProtocol protocol behind =
      (protocol ++ [0]).take 8 ++ (List.range (7 - protocol.length)).map behind := by
  have split : protocol ++ 0 :: (List.range 7).map behind =
      (protocol ++ [0]) ++ (List.range 7).map behind := by
    rw [List.append_assoc, List.singleton_append]
  have length : 8 - (protocol ++ [0]).length = 7 - protocol.length := by
    rw [List.length_append, List.length_singleton]
    omega
  rw [writeProtocol, split, List.take_append, length, ← List.map_take, List.take_range,
    Nat.min_eq_left (Nat.sub_le 7 _)]

theorem getElem?_padding (lead tail : List UInt8) (behind : Nat → UInt8) {m i : Nat}
    (inside : i < m) :
    (lead ++ ((List.range m).map behind ++ tail))[lead.length + i]? = some (behind i) := by
  have within : i < ((List.range m).map behind).length := by
    rw [List.length_map, List.length_range]
    exact inside
  rw [List.getElem?_append_right (Nat.le_add_right _ i), Nat.add_sub_cancel_left,
    List.getElem?_append_left within, List.getElem?_map, List.getElem?_range inside]
  rfl

theorem getElem?_beside_padding (lead tail : List UInt8) (first second : Nat → UInt8) {m i : Nat}
    (outside : i < lead.length ∨ lead.length + m ≤ i) :
    (lead ++ ((List.range m).map first ++ tail))[i]? =
      (lead ++ ((List.range m).map second ++ tail))[i]? := by
  rcases outside with before | after
  · rw [List.getElem?_append_left before, List.getElem?_append_left before]
  · have beyond : ∀ behind : Nat → UInt8,
        ((List.range m).map behind).length ≤ i - lead.length := by
      intro behind
      rw [List.length_map, List.length_range]
      exact Nat.le_sub_of_add_le' after
    rw [List.getElem?_append_right (Nat.le_of_add_right_le after),
      List.getElem?_append_right (Nat.le_of_add_right_le after),
      List.getElem?_append_right (beyond first), List.getElem?_append_right (beyond second),
      List.length_map, List.length_map]

/-- Two packets of one message differ in these bytes only. -/
theorem packet_eq_iff (message : Message) (first second : Nat → UInt8) (Reached : Nat → Prop) :
    (∀ i, Reached i → (message.packet first)[i]? = (message.packet second)[i]?) ↔
      ∀ i, message.protocol.length + 1 + i < 8 →
        Reached (4 + (message.protocol.length + 1 + i)) → first i = second i := by
  let lead := writeInt message.payload.length ++ (message.protocol ++ [0]).take 8
  have split : ∀ behind, message.packet behind =
      lead ++ ((List.range (7 - message.protocol.length)).map behind ++
        (writeInt message.instruction ++ message.payload)) := by
    intro behind
    rw [Message.packet, Message.header, writeProtocol_eq]
    simp only [lead, List.append_assoc]
  have length : lead.length = 4 + min 8 (message.protocol.length + 1) := by
    simp only [lead, List.length_append, length_writeInt, List.length_take, List.length_singleton]
  constructor
  · intro same i inside reached
    have place : 4 + (message.protocol.length + 1 + i) = lead.length + i := by omega
    have atByte := same _ reached
    rw [split, split, place, getElem?_padding lead _ first (by omega),
      getElem?_padding lead _ second (by omega)] at atByte
    exact Option.some.inj atByte
  · intro same i reached
    rw [split, split]
    by_cases outside : i < lead.length ∨ lead.length + (7 - message.protocol.length) ≤ i
    · exact getElem?_beside_padding lead _ first second outside
    · rcases Nat.exists_eq_add_of_le (show lead.length ≤ i by omega) with ⟨offset, rfl⟩
      have place : 4 + (message.protocol.length + 1 + offset) = lead.length + offset := by omega
      rw [getElem?_padding lead _ first (by omega), getElem?_padding lead _ second (by omega),
        same offset (by omega) (place ▸ reached)]

/-! ## The two routines -/

namespace WriteCall

variable {Creator : Type} {call : WriteCall Creator} {behind : Nat → UInt8}

theorem sendMessage_of_refused (refused : call.factory.prepare call.message = none)
    (behind : Nat → UInt8) (threadListen : Bool) :
    call.sendMessage behind threadListen = ⟨[], some call.link⟩ := by
  rw [sendMessage, refused]

theorem sendMessage_of_prepared {fields : Message}
    (prepared : call.factory.prepare call.message = some fields) (behind : Nat → UInt8)
    (threadListen : Bool) :
    call.sendMessage behind threadListen =
      writePacket (fun link => link.close threadListen call.caller) call.link call.results 0
        (call.frame behind) := by
  rw [sendMessage, frame, prepared]

theorem length_frame (call : WriteCall Creator) (behind : Nat → UInt8) :
    (call.frame behind).length = call.lengthPacket := by
  rw [frame, lengthPacket]
  cases call.factory.prepare call.message with
  | none => rfl
  | some fields =>
      change (fields.header behind ++ fields.payload).length = 4 + 8 + 4 + fields.payload.length
      rw [List.length_append, length_header]

theorem frame_ne_nil {fields : Message}
    (prepared : call.factory.prepare call.message = some fields) (behind : Nat → UInt8) :
    call.frame behind ≠ [] := by
  intro empty
  have length := call.length_frame behind
  rw [empty, lengthPacket, prepared] at length
  change 0 = 4 + 8 + 4 + fields.payload.length at length
  omega

theorem send_of_online (online : call.link.online = true) (behind : Nat → UInt8) :
    call.send behind = call.sendMessage behind false := by
  rw [send, if_pos online]

theorem send_of_offline (offline : call.link.online = false) (behind : Nat → UInt8) :
    call.send behind = ⟨[], some call.link⟩ := by
  rw [send, offline]
  rfl

/-- On a link that is online the two routines write the same bytes exactly when
those behind the terminators are the same as far as they are written. -/
theorem handed_sendMessage_eq_iff {fields : Message}
    (prepared : call.factory.prepare call.message = some fields) (sends answers : Nat → UInt8)
    (threadListen other : Bool) :
    (call.sendMessage sends threadListen).handed = (call.sendMessage answers other).handed ↔
      call.SamePadding sends answers := by
  have length : (call.frame sends).length = (call.frame answers).length := by
    rw [length_frame, length_frame]
  have version : fields.protocol = call.factory.mProtocolVersion := protocol_of_prepare prepared
  rw [sendMessage_of_prepared prepared, sendMessage_of_prepared prepared,
    handed_writePacket_eq_iff _ length, SamePadding, ← version]
  simp only [frame, prepared, Nat.zero_add]
  exact packet_eq_iff fields sends answers _

theorem handed_sendMessage_prefix (call : WriteCall Creator) (behind : Nat → UInt8)
    (threadListen : Bool) :
    (call.sendMessage behind threadListen).handed <+: call.frame behind := by
  cases prepared : call.factory.prepare call.message with
  | none =>
      rw [sendMessage_of_refused prepared]
      exact List.nil_prefix
  | some fields =>
      rw [sendMessage_of_prepared prepared]
      exact handed_writePacket_prefix 0 _

theorem ssl_of_mem_sendMessage {threadListen : Bool} {write : SslWrite}
    (made : write ∈ (call.sendMessage behind threadListen).writes) :
    write.ssl = call.link.ssl := by
  cases prepared : call.factory.prepare call.message with
  | none =>
      rw [sendMessage_of_refused prepared] at made
      cases made
  | some fields =>
      rw [sendMessage_of_prepared prepared] at made
      exact ssl_of_mem_writePacket made

/-- Without a failure the whole packet is handed over, and the link stays. -/
theorem sendMessage_of_not_interrupted (uninterrupted : ¬ call.Interrupted)
    (behind : Nat → UInt8) (threadListen : Bool) :
    call.sendMessage behind threadListen =
      ⟨(call.frame behind).map (SslWrite.mk call.link.ssl), some call.link⟩ := by
  cases prepared : call.factory.prepare call.message with
  | none =>
      rw [sendMessage_of_refused prepared, frame, prepared]
      rfl
  | some fields =>
      rw [sendMessage_of_prepared prepared]
      apply writePacket_whole
      intro i bound fails
      rw [Nat.zero_add] at fails
      rw [length_frame] at bound
      exact uninterrupted ⟨i, bound, fails⟩

/-- At a failure the link is closed. -/
theorem sendMessage_of_interrupted (interrupted : call.Interrupted) (behind : Nat → UInt8)
    (threadListen : Bool) :
    (call.sendMessage behind threadListen).link = call.link.close threadListen call.caller ∧
      ∃ i < (call.sendMessage behind threadListen).writes.length, (call.results i).Fails := by
  rcases interrupted with ⟨i, bound, fails⟩
  rw [← call.length_frame behind] at bound
  cases prepared : call.factory.prepare call.message with
  | none =>
      rw [frame, prepared] at bound
      exact absurd bound (Nat.not_lt_zero i)
  | some fields =>
      rw [sendMessage_of_prepared prepared]
      have met : ∃ i < (call.frame behind).length, (call.results (0 + i)).Fails := by
        refine ⟨i, bound, ?_⟩
        rw [Nat.zero_add]
        exact fails
      rcases writePacket_interrupted (fun link => link.close threadListen call.caller) call.link
        met with ⟨closed, j, made, failsThere⟩
      rw [Nat.zero_add] at failsThere
      exact ⟨closed, j, made, failsThere⟩

theorem interrupted_of_fails {threadListen : Bool} {i : Nat} (fails : (call.results i).Fails)
    (made : i < (call.sendMessage behind threadListen).writes.length) : call.Interrupted := by
  have atMost := (call.handed_sendMessage_prefix behind threadListen).length_le
  rw [Written.handed, List.length_map, length_frame] at atMost
  exact ⟨i, Nat.lt_of_lt_of_le made atMost, fails⟩

/-- `close(false)` comes back unless it waits for its own caller. -/
theorem leavesOffline_iff (interrupted : call.Interrupted) (behind : Nat → UInt8) :
    (call.sendMessage behind false).LeavesOffline ↔ ¬ call.WaitsForItself := by
  rw [Written.LeavesOffline, (sendMessage_of_interrupted interrupted behind false).1,
    Link.close_eq, Link.join, WaitsForItself]
  cases call.link.tListen with
  | none => simp
  | some thread =>
      by_cases own : call.caller = .listener thread
      · simp [own]
      · simp [own]

theorem leavesOffline_sendAnswer (interrupted : call.Interrupted) (behind : Nat → UInt8) :
    (call.sendAnswer behind).LeavesOffline := by
  refine ⟨{ call.link with online := false, ssl := false }, ?_, rfl⟩
  rw [sendAnswer, (sendMessage_of_interrupted interrupted behind true).1, Link.close_true]

theorem bytes_sending (behind : Nat → UInt8) (answer : Bool)
    (sent : (answer || call.link.online) = true) :
    (call.sending behind answer).bytes = call.frame behind := by
  have passed : (call.sending behind answer).sent = call.factory.prepare call.message :=
    if_pos sent
  rw [Sending.bytes, passed, frame]
  cases call.factory.prepare call.message with
  | none => rfl
  | some fields => rfl

theorem handed_sendMessage_of_not_interrupted (uninterrupted : ¬ call.Interrupted)
    (behind : Nat → UInt8) (threadListen : Bool) :
    (call.sendMessage behind threadListen).handed = call.frame behind := by
  rw [sendMessage_of_not_interrupted uninterrupted, Written.handed, List.map_map]
  exact List.map_id _

/-- When no write fails, the bytes are those that are written to a link without
errors. -/
theorem handed_of_not_interrupted (uninterrupted : ¬ call.Interrupted)
    (sends answers : Nat → UInt8) :
    (call.send sends).handed = (call.sending sends false).bytes ∧
      (call.sendAnswer answers).handed = (call.sending answers true).bytes := by
  constructor
  · cases online : call.link.online with
    | false =>
        rw [send_of_offline online, Sending.bytes, Sending.sent, sending, online]
        rfl
    | true =>
        rw [send_of_online online, handed_sendMessage_of_not_interrupted uninterrupted,
          bytes_sending sends false online]
  · rw [sendAnswer, handed_sendMessage_of_not_interrupted uninterrupted,
      bytes_sending answers true rfl]

/-- When a write fails, the link goes through the event of the listener's
model. -/
theorem link_of_interrupted (interrupted : call.Interrupted)
    (calls : call.link.Calls call.caller) (behind : Nat → UInt8) :
    linkStep call.link (.sendFails call.caller) = (call.send behind).link ∧
      (call.link.ssl = true →
        linkStep call.link (.sendAnswerFails call.caller) = (call.sendAnswer behind).link) := by
  constructor
  · simp only [linkStep]
    rw [if_pos calls]
    cases online : call.link.online with
    | false =>
        rw [send_of_offline online]
        rfl
    | true =>
        rw [send_of_online online, (sendMessage_of_interrupted interrupted behind false).1]
        rfl
  · intro session
    simp only [linkStep]
    rw [if_pos ⟨calls, session⟩, sendAnswer,
      (sendMessage_of_interrupted interrupted behind true).1]

/-- A message that is refused is written by neither routine. -/
theorem agree_of_refused (refused : call.factory.prepare call.message = none)
    (sends answers : Nat → UInt8) : call.Agree sends answers := by
  have nothing : call.send sends = ⟨[], some call.link⟩ := by
    rw [send]
    split
    · exact sendMessage_of_refused refused sends false
    · rfl
  have nothingToo : call.sendAnswer answers = ⟨[], some call.link⟩ :=
    sendMessage_of_refused refused answers true
  have noFrame : ∀ behind, call.frame behind = [] := by
    intro behind
    rw [frame, refused]
  constructor
  · rw [nothing, nothingToo]
  · rw [nothing, nothingToo]
    exact ⟨List.nil_prefix, List.nil_prefix⟩
  · intro _ _
    rw [nothing, nothingToo, noFrame, noFrame]
    exact ⟨rfl, rfl⟩
  · intro i _
    rw [nothing, nothingToo]
    exact ⟨fun made => absurd made (Nat.not_lt_zero i), fun made => absurd made (Nat.not_lt_zero i)⟩
  · intro _
    rw [nothing, nothingToo]
    exact ⟨⟨rfl, rfl⟩, ⟨rfl, rfl⟩⟩
  · intro write made
    rw [nothing, nothingToo] at made
    cases made

/-- On a link that is online the routines agree as long as `send` comes back
and the strings agree. -/
theorem agree_of_online (hasSession : call.link.HasSession) (online : call.link.online = true)
    {fields : Message} (prepared : call.factory.prepare call.message = some fields)
    (comesBack : call.WaitsForItself → ¬ call.Interrupted) {sends answers : Nat → UInt8}
    (padding : call.SamePadding sends answers) : call.Agree sends answers := by
  constructor
  · rw [send_of_online online, sendAnswer]
    exact (handed_sendMessage_eq_iff prepared sends answers false true).mpr padding
  · rw [send_of_online online]
    exact ⟨call.handed_sendMessage_prefix sends false, call.handed_sendMessage_prefix answers true⟩
  · intro _ uninterrupted
    rw [send_of_online online]
    exact ⟨handed_sendMessage_of_not_interrupted uninterrupted sends false,
      handed_sendMessage_of_not_interrupted uninterrupted answers true⟩
  · intro i fails
    rw [send_of_online online]
    constructor
    · intro made
      have interrupted := interrupted_of_fails fails made
      exact (leavesOffline_iff interrupted sends).mpr fun waits => comesBack waits interrupted
    · intro made
      exact leavesOffline_sendAnswer (interrupted_of_fails fails made) answers
  · intro offline
    rw [online] at offline
    cases offline
  · intro write made
    rw [send_of_online online] at made
    rcases List.mem_append.mp made with sent | answered
    · rw [ssl_of_mem_sendMessage sent]
      exact hasSession online
    · rw [ssl_of_mem_sendMessage answered]
      exact hasSession online

/-- `sendAnswer` writes on a link that is not online. -/
theorem not_agree_of_offline (offline : call.link.online = false) {fields : Message}
    (prepared : call.factory.prepare call.message = some fields) (sends answers : Nat → UInt8) :
    ¬ call.Agree sends answers := by
  intro agree
  have idle := (agree.idle offline).2.1
  rw [sendAnswer, sendMessage_of_prepared prepared] at idle
  exact writes_writePacket_ne_nil (frame_ne_nil prepared answers) 0 idle

/-- `send` and `sendAnswer` agree exactly on the messages that are refused,
and on a link that is online, as long as no listener of the link meets a
failure in `send` and the strings agree as far as they are written. -/
theorem agree_iff (call : WriteCall Creator) (hasSession : call.link.HasSession)
    (sends answers : Nat → UInt8) :
    call.Agree sends answers ↔ call.factory.prepare call.message = none ∨
      (call.link.online = true ∧ (call.WaitsForItself → ¬ call.Interrupted) ∧
        call.SamePadding sends answers) := by
  constructor
  · intro agree
    cases prepared : call.factory.prepare call.message with
    | none => exact Or.inl rfl
    | some fields =>
        cases online : call.link.online with
        | false => exact absurd agree (not_agree_of_offline online prepared sends answers)
        | true =>
            refine Or.inr ⟨rfl, ?_, ?_⟩
            · intro waits interrupted
              rcases (sendMessage_of_interrupted interrupted sends false).2 with ⟨i, made, fails⟩
              have offline := (agree.offline i fails).1
              rw [send_of_online online] at offline
              exact (leavesOffline_iff interrupted sends).mp (offline made) waits
            · have same := agree.same
              rw [send_of_online online, sendAnswer] at same
              exact (handed_sendMessage_eq_iff prepared sends answers false true).mp same
  · intro condition
    cases prepared : call.factory.prepare call.message with
    | none => exact agree_of_refused prepared sends answers
    | some fields =>
        rcases condition with refused | ⟨online, comesBack, padding⟩
        · rw [prepared] at refused
          cases refused
        · exact agree_of_online hasSession online prepared comesBack padding

end WriteCall

/-- What the login server sends to the control server at a login. -/
def loginProfile : Profile Unit where
  mCreators := []
  mCreatorIds := [("NewClientSend", 50)]

/-- A login after the control server has gone away. -/
def newClient : WriteCall Unit where
  link := ⟨false, false, some 1, [1], 1⟩
  caller := .user
  factory := TransferableFactory.startUp loginProfile
  message := ⟨"NewClientSend", [1, 0, 0, 0, 1, 0, 0, 0]⟩
  results := fun _ => ⟨1, SSL_ERROR_NONE⟩

/-- The same login while the control server is there.  The two strings differ
behind the eight bytes only. -/
theorem newClient_online :
    WriteCall.Agree { newClient with link := accepted } (fun _ => 0)
      fun i => if i < 3 then 0 else 1 := by
  apply (WriteCall.agree_iff { newClient with link := accepted } (fun _ => rfl) _ _).mpr
  refine Or.inr ⟨rfl, ?_, ?_⟩
  · rintro ⟨thread, listening, _⟩
    cases listening
  · intro i inside _
    have copied : i < 3 := by
      have version : newClient.factory.mProtocolVersion.length = 4 := by decide
      change newClient.factory.mProtocolVersion.length + 1 + i < 8 at inside
      omega
    exact (if_pos copied).symm

/-- The answer goes to a session that is not there. -/
theorem newClient_after_close :
    run linkStep constructed [.connect .succeeds, .readFails 1] = some newClient.link ∧
      ¬ newClient.Agree (fun _ => 0) fun _ => 0 := by
  refine ⟨rfl, ?_⟩
  intro agree
  have idle := (agree.idle rfl).2.1
  exact absurd (congrArg List.length idle) (by decide)

end Messaging
end Pxc
