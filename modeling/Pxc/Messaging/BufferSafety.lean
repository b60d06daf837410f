import Pxc.Messaging.FrameRecovery

namespace Pxc
namespace Messaging

open General

/-!
# What one reception stores, reads and copies

Every stored byte goes to the next place of one of two arrays: sixteen bytes
for the header, and as many as the header announces for the body.  The loops
run until their counter equals the length.  An array of a negative size is
undefined, and so is a call that declares one.  The stack is taken to be large
enough for both arrays.

The call below is the one of the model of reception, with every store, the
string that is read as the protocol, and the number of copied bytes.
-/

/-- A byte stored at an index of a buffer. -/
structure Store where
  index : Nat
  byte : UInt8
  deriving DecidableEq, Repr

/-- The loop `while (n != size)`, from some `n` on.  Each `SSL_read` stores
one byte, and the end of the stream ends the call. -/
def readLoop (size : Int) : Nat → List UInt8 → List Store × Option (List UInt8)
  | n, [] => if (n : Int) = size then ([], some []) else ([], none)
  | n, byte :: rest =>
      if (n : Int) = size then ([], some (byte :: rest))
      else
        let (stores, left) := readLoop size (n + 1) rest
        (⟨n, byte⟩ :: stores, left)

/-- One call of `receiveTransfThread`: the stores into its two buffers, the
string given to `setProtocol`, the bytes that the creator copies, and how the
call ends. -/
structure Call (Creator : Type) where
  bufsizeCommunication : List Store
  version : Option (List UInt8)
  bufferMessage : List Store
  copied : Option Nat
  received : Received Creator

variable {Creator : Type}

/-- `TCPConnectionSecurity::receiveTransfThread`, store by store. -/
def call (typeSize : Creator → Nat) (factory : TransferableFactory Creator) (behind : Behind)
    (stream : List UInt8) : Call Creator :=
  match readLoop 16 0 stream with
  | (stores, none) => ⟨stores, none, [], none, .closed⟩
  | (stores, some rest) =>
      let header := stores.map Store.byte
      let version := protocol header behind
      match factory.lookUp version (instruction header) with
      | .error what => ⟨stores, some version, [], none, .failed what rest⟩
      | .ok creator =>
          if sizeMessage header < 0 then ⟨stores, some version, [], none, .undefined⟩
          else
            match readLoop (sizeMessage header) 0 rest with
            | (body, none) => ⟨stores, some version, body, none, .closed⟩
            | (body, some after) =>
                ⟨stores, some version, body, some (typeSize creator),
                  .created creator (create (typeSize creator) (body.map Store.byte) behind) after⟩

/-- The call is defined, stores inside its buffers, reads the announced body or
gives up at the end of the stream, takes no longer string for the protocol
than the field, and copies no more bytes than it read of the body. -/
structure Call.Robust (call : Call Creator) (announced : Int) : Prop where
  defined : call.received ≠ .undefined
  header_inside : ∀ store ∈ call.bufsizeCommunication, store.index < 16
  body_inside : ∀ store ∈ call.bufferMessage, (store.index : Int) < announced
  body_exact : call.received = .closed ∨ (call.bufferMessage.length : Int) = announced
  version_within : ∀ version, call.version = some version → version.length ≤ 8
  copy_within : ∀ count, call.copied = some count → count ≤ call.bufferMessage.length

/-- The protocol field of a header. -/
def protocolField (header : List UInt8) : List UInt8 :=
  (header.drop 4).take 8

/-- The header, if it is complete, terminates its protocol.  Without a creator
it announces no body.  With one it announces no negative length, and a
complete body is as long as the class. -/
def WellAnnounced (typeSize : Creator → Nat) (factory : TransferableFactory Creator)
    (stream : List UInt8) : Prop :=
  stream.length < 16 ∨ (0 ∈ protocolField (stream.take 16) ∧
    match factory.lookUp (readString (protocolField (stream.take 16)))
        (instruction (stream.take 16)) with
    | .error _ => sizeMessage (stream.take 16) = 0
    | .ok creator =>
        0 ≤ sizeMessage (stream.take 16) ∧
        (sizeMessage (stream.take 16) ≤ ((stream.drop 16).length : Int) →
          (typeSize creator : Int) ≤ sizeMessage (stream.take 16)))

/-! ## The loops -/

/-- Bytes stored one after the other. -/
def storesFrom : Nat → List UInt8 → List Store
  | _, [] => []
  | n, byte :: rest => ⟨n, byte⟩ :: storesFrom (n + 1) rest

@[simp] theorem bytes_storesFrom (n : Nat) (bytes : List UInt8) :
    (storesFrom n bytes).map Store.byte = bytes := by
  induction bytes generalizing n with
  | nil => rfl
  | cons byte rest inductionHypothesis =>
      rw [storesFrom, List.map_cons, inductionHypothesis]

@[simp] theorem length_storesFrom (n : Nat) (bytes : List UInt8) :
    (storesFrom n bytes).length = bytes.length := by
  rw [← List.length_map Store.byte, bytes_storesFrom]

theorem index_of_mem_storesFrom {n : Nat} {bytes : List UInt8} {store : Store}
    (member : store ∈ storesFrom n bytes) : store.index < n + bytes.length := by
  induction bytes generalizing n with
  | nil => cases member
  | cons byte rest inductionHypothesis =>
      rw [List.length_cons]
      rcases List.mem_cons.mp member with same | later
      · subst same
        exact Nat.lt_add_of_pos_right (Nat.succ_pos _)
      · have bound := inductionHypothesis later
        omega

/-- A length that the counter meets before the stream ends. -/
theorem readLoop_complete {n length : Nat} {stream : List UInt8} (enough : length ≤ stream.length) :
    readLoop ((n : Int) + length) n stream =
      (storesFrom n (stream.take length), some (stream.drop length)) := by
  induction stream generalizing n length with
  | nil =>
      have zero : length = 0 := Nat.le_zero.mp enough
      subst zero
      rw [readLoop, if_pos (by omega)]
      rfl
  | cons byte rest inductionHypothesis =>
      cases length with
      | zero =>
          rw [readLoop, if_pos (by omega)]
          rfl
      | succ length =>
          have others : readLoop (((n + 1 : Nat) : Int) + length) (n + 1) rest = _ :=
            inductionHypothesis (Nat.le_of_succ_le_succ enough)
          have sum : ((n : Int) + (length + 1 : Nat)) = ((n + 1 : Nat) : Int) + length := by
            omega
          rw [readLoop, if_neg (by omega), sum, others]
          rfl

/-- A length that the counter does not meet: the stream is read to its end. -/
theorem readLoop_incomplete {size : Int} {n : Nat} {stream : List UInt8}
    (never : ∀ length ≤ stream.length, ((n : Int) + length) ≠ size) :
    readLoop size n stream = (storesFrom n stream, none) := by
  induction stream generalizing n with
  | nil =>
      have here := never 0 (Nat.le_refl _)
      rw [readLoop, if_neg (by omega)]
      rfl
  | cons byte rest inductionHypothesis =>
      have here := never 0 (Nat.zero_le _)
      have others : readLoop size (n + 1) rest = _ := inductionHypothesis (by
        intro length bound
        have later := never (length + 1) (Nat.succ_le_succ bound)
        omega)
      rw [readLoop, if_neg (by omega), others]
      rfl

/-- The loop of the body, for every announced length. -/
theorem readLoop_body (size : Int) (stream : List UInt8) :
    readLoop size 0 stream =
      if 0 ≤ size ∧ size ≤ (stream.length : Int) then
        (storesFrom 0 (stream.take size.toNat), some (stream.drop size.toNat))
      else (storesFrom 0 stream, none) := by
  split
  · next inside =>
    have enough : size.toNat ≤ stream.length := by omega
    have sum : (((0 : Nat) : Int) + size.toNat) = size := by omega
    have complete : readLoop (((0 : Nat) : Int) + size.toNat) 0 stream = _ :=
      readLoop_complete enough
    rw [sum] at complete
    exact complete
  · next outside =>
    apply readLoop_incomplete
    intro length bound same
    omega

section Cases

variable {typeSize : Creator → Nat} {factory : TransferableFactory Creator} {behind : Behind}
  {stream : List UInt8}

theorem call_short (short : stream.length < 16) :
    call typeSize factory behind stream = ⟨storesFrom 0 stream, none, [], none, .closed⟩ := by
  rw [call, readLoop_body, if_neg (by omega)]

/-- The call after a complete header. -/
theorem call_header (enough : 16 ≤ stream.length) :
    call typeSize factory behind stream =
      match factory.lookUp (protocol (stream.take 16) behind) (instruction (stream.take 16)) with
      | .error what =>
          ⟨storesFrom 0 (stream.take 16), some (protocol (stream.take 16) behind), [], none,
            .failed what (stream.drop 16)⟩
      | .ok creator =>
          if sizeMessage (stream.take 16) < 0 then
            ⟨storesFrom 0 (stream.take 16), some (protocol (stream.take 16) behind), [], none,
              .undefined⟩
          else
            match readLoop (sizeMessage (stream.take 16)) 0 (stream.drop 16) with
            | (body, none) =>
                ⟨storesFrom 0 (stream.take 16), some (protocol (stream.take 16) behind), body, none,
                  .closed⟩
            | (body, some after) =>
                ⟨storesFrom 0 (stream.take 16), some (protocol (stream.take 16) behind), body,
                  some (typeSize creator),
                  .created creator (create (typeSize creator) (body.map Store.byte) behind)
                    after⟩ := by
  have sixteen : (16 : Int).toNat = 16 := rfl
  rw [call, readLoop_body, if_pos (by omega)]
  simp only [sixteen, bytes_storesFrom]

/-- A call ends as in the model of reception. -/
theorem call_received (typeSize : Creator → Nat) (factory : TransferableFactory Creator)
    (behind : Behind) (stream : List UInt8) :
    (call typeSize factory behind stream).received =
      (receiveTransfThread typeSize factory behind stream).2 := by
  by_cases short : stream.length < 16
  · rw [call_short short, receiveTransfThread, if_pos short]
  · have enough := Nat.le_of_not_lt short
    rw [receiveTransfThread_eq enough, call_header enough]
    cases factory.lookUp (protocol (stream.take 16) behind) (instruction (stream.take 16)) with
    | error what => rfl
    | ok creator =>
        simp only [receiveBody]
        by_cases negative : sizeMessage (stream.take 16) < 0
        · rw [if_pos negative, if_pos negative]
        · rw [if_neg negative, if_neg negative, readLoop_body]
          by_cases missing : (stream.drop 16).length < (sizeMessage (stream.take 16)).toNat
          · rw [if_pos missing, if_neg (by omega)]
          · rw [if_neg missing, if_pos (by omega)]
            simp only [bytes_storesFrom]

/-! ## When a call is robust -/

variable {header version body : List UInt8} {announced : Int}

theorem header_stores_inside (sixteen : header.length = 16) :
    ∀ store ∈ storesFrom 0 header, store.index < 16 := by
  intro store member
  have bound := index_of_mem_storesFrom member
  omega

/-- Without a creator, no body is read. -/
theorem robust_failed_iff {what : String} {rest : List UInt8} (sixteen : header.length = 16) :
    (Call.mk (storesFrom 0 header) (some version) [] none
        (.failed what rest : Received Creator)).Robust announced ↔
      version.length ≤ 8 ∧ announced = 0 := by
  constructor
  · intro robust
    refine ⟨robust.version_within version rfl, ?_⟩
    rcases robust.body_exact with closed | read
    · cases closed
    · exact read.symm
  · rintro ⟨short, nothing⟩
    refine ⟨nofun, header_stores_inside sixteen, ?_, .inr nothing.symm, ?_, ?_⟩
    · intro store member
      cases member
    · intro read same
      cases same
      exact short
    · intro count same
      cases same

/-- The stream ends before the counter meets the announced length. -/
theorem robust_incomplete_iff (sixteen : header.length = 16)
    (incomplete : (body.length : Int) < announced) :
    (Call.mk (storesFrom 0 header) (some version) (storesFrom 0 body) none
        (.closed : Received Creator)).Robust announced ↔ version.length ≤ 8 := by
  constructor
  · exact fun robust => robust.version_within version rfl
  · intro short
    refine ⟨nofun, header_stores_inside sixteen, ?_, .inl rfl, ?_, ?_⟩
    · intro store member
      have bound := index_of_mem_storesFrom member
      omega
    · intro read same
      cases same
      exact short
    · intro count same
      cases same

/-- A complete body is copied from, whatever its length. -/
theorem robust_created_iff {count : Nat} {creator : Creator} {content rest : List UInt8}
    (sixteen : header.length = 16) (complete : (body.length : Int) = announced) :
    (Call.mk (storesFrom 0 header) (some version) (storesFrom 0 body) (some count)
        (.created creator content rest)).Robust announced ↔
      version.length ≤ 8 ∧ (count : Int) ≤ announced := by
  have read : (storesFrom 0 body).length = body.length := length_storesFrom 0 body
  constructor
  · intro robust
    have copied : count ≤ (storesFrom 0 body).length := robust.copy_within count rfl
    exact ⟨robust.version_within version rfl, by omega⟩
  · rintro ⟨short, copied⟩
    refine ⟨nofun, header_stores_inside sixteen, ?_,
      .inr (by rw [read]; exact complete), ?_, ?_⟩
    · intro store member
      have bound := index_of_mem_storesFrom member
      omega
    · intro read same
      cases same
      exact short
    · intro copies same
      cases same
      change count ≤ (storesFrom 0 body).length
      omega

/-- The conditions on a call after a complete header. -/
theorem robust_iff_of_header (enough : 16 ≤ stream.length) :
    (call typeSize factory behind stream).Robust (sizeMessage (stream.take 16)) ↔
      (protocol (stream.take 16) behind).length ≤ 8 ∧
      match factory.lookUp (protocol (stream.take 16) behind)
          (instruction (stream.take 16)) with
      | .error _ => sizeMessage (stream.take 16) = 0
      | .ok creator =>
          0 ≤ sizeMessage (stream.take 16) ∧
          (sizeMessage (stream.take 16) ≤ ((stream.drop 16).length : Int) →
            (typeSize creator : Int) ≤ sizeMessage (stream.take 16)) := by
  have sixteen : (stream.take 16).length = 16 := by
    rw [List.length_take, Nat.min_eq_left enough]
  rw [call_header enough]
  cases factory.lookUp (protocol (stream.take 16) behind) (instruction (stream.take 16)) with
  | error what => exact robust_failed_iff sixteen
  | ok creator =>
      by_cases negative : sizeMessage (stream.take 16) < 0
      · simp only [if_pos negative]
        constructor
        · exact fun robust => absurd rfl robust.defined
        · rintro ⟨_, nonnegative, _⟩
          exact absurd negative (Int.not_lt.mpr nonnegative)
      · have nonnegative := Int.not_lt.mp negative
        simp only [if_neg negative, readLoop_body, nonnegative, true_and]
        by_cases complete : sizeMessage (stream.take 16) ≤ ((stream.drop 16).length : Int)
        · have exactly : ((((stream.drop 16).take (sizeMessage (stream.take 16)).toNat).length :
              Nat) : Int) = sizeMessage (stream.take 16) := by
            rw [List.length_take]
            omega
          simp only [complete, forall_const]
          exact robust_created_iff sixteen exactly
        · simp only [complete, false_implies, and_true]
          exact robust_incomplete_iff sixteen (Int.not_le.mp complete)

/-- A stream that ends within the header does no harm. -/
theorem robust_of_short (short : stream.length < 16) :
    (call typeSize factory behind stream).Robust (sizeMessage (stream.take 16)) := by
  rw [call_short short]
  refine ⟨nofun, ?_, ?_, .inl rfl, ?_, ?_⟩
  · intro store member
    have bound := index_of_mem_storesFrom member
    omega
  · intro store member
    cases member
  · intro read same
    cases same
  · intro count same
    cases same

end Cases

theorem length_protocolField {header : List UInt8} (sixteen : header.length = 16) :
    (protocolField header).length = 8 := by
  rw [protocolField, List.length_take, List.length_drop, sixteen]
  rfl

/-- A reception is robust, whatever lies behind the arrays, exactly for the
streams that are well announced. -/
theorem robust_reception_iff (typeSize : Creator → Nat) (factory : TransferableFactory Creator)
    (stream : List UInt8) :
    (∀ behind, (call typeSize factory behind stream).Robust (sizeMessage (stream.take 16))) ↔
      WellAnnounced typeSize factory stream := by
  by_cases short : stream.length < 16
  · exact ⟨fun _ => .inl short, fun _ _ => robust_of_short short⟩
  · have enough := Nat.le_of_not_lt short
    have sixteen : (stream.take 16).length = 16 := by
      rw [List.length_take, Nat.min_eq_left enough]
    have eight := length_protocolField sixteen
    simp only [robust_iff_of_header enough, WellAnnounced, short, false_or]
    by_cases terminated : 0 ∈ protocolField (stream.take 16)
    · have version : ∀ behind, protocol (stream.take 16) behind =
          readString (protocolField (stream.take 16)) :=
        fun behind => readString_append_of_zero terminated behind.protocol
      have within := length_readString_le (protocolField (stream.take 16))
      rw [eight] at within
      simp only [version, within, terminated, true_and]
      exact ⟨fun all => all ⟨[], fun _ => 0⟩, fun holds _ => holds⟩
    · simp only [terminated, false_and, iff_false]
      intro all
      have within : (readString (protocolField (stream.take 16) ++ [1])).length ≤ 8 :=
        (all ⟨[1], fun _ => 0⟩).1
      have unterminated : 0 ∉ protocolField (stream.take 16) ++ [1] := by
        rw [List.mem_append]
        rintro (inside | behind)
        · exact terminated inside
        · exact absurd (List.mem_singleton.mp behind) (by decide)
      rw [readString_of_no_zero unterminated, List.length_append, eight] at within
      exact absurd within (by decide)

/-- A frame of the class 7, whose objects have two bytes, without a body. -/
def emptyFrame : List UInt8 :=
  [0, 0, 0, 0] ++ bytesOf "0.1a" ++ [0, 0, 0, 0] ++ [7, 0, 0, 0]

/-- Two bytes are copied into the new object, and the frame carried none. -/
theorem copies_beyond_empty_body :
    ¬ ∀ behind, (call id freshFactory behind emptyFrame).Robust
      (sizeMessage (emptyFrame.take 16)) := by
  intro all
  have copied := (all ⟨[], fun _ => 0⟩).copy_within 2 (by decide)
  exact absurd copied (by decide)

end Messaging
end Pxc
