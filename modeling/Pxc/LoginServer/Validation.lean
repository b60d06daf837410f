import Mathlib.Data.List.Induction
import Pxc.General.QuotedLiterals
import Pxc.Messaging.Reception

namespace Pxc
namespace LoginServer

open General
open Messaging (bytesOf readString readString_append_zero readString_of_no_zero)

/-!
# Checking a user's password

`Login::validate` hashes the password, and asks the database for the rows with
the user's name and the digits of the hash.  The query is put together from
strings, with the name as it came from the client.

The length of the bytes to hash is that of the name.  The hash function itself
is a parameter, as is what was in the local arrays before.  A write is recorded
with its place, since the last one goes behind the array that it is for; what
lies there is nothing else's.
-/

def SHA_DIGEST_LENGTH : Nat := 20

/-- The local arrays of `convertPwdToSha1`.  Each has `SHA_DIGEST_LENGTH * 2`
bytes. -/
inductive HashArray where
  | ibuf
  | obuf
  | resultPwd
  deriving DecidableEq, Repr

/-- The memory from the start of an array on. -/
abbrev Memory := Nat → UInt8

/-- Write bytes from a position on. -/
def Memory.store (memory : Memory) (position : Nat) (bytes : List UInt8) : Memory := fun i =>
  if position ≤ i ∧ i < position + bytes.length then bytes.getD (i - position) 0 else memory i

/-- The bytes before a position. -/
def Memory.load (memory : Memory) (count : Nat) : List UInt8 :=
  (List.range count).map memory

/-- The places of a write. -/
def places (array : HashArray) (position count : Nat) : List (HashArray × Nat) :=
  (List.range' position count).map fun i => (array, i)

/-- A digit as `sprintf` writes it. -/
def hexDigit (value : Nat) : UInt8 :=
  if value < 10 then UInt8.ofNat (48 + value) else UInt8.ofNat (87 + value)

/-- A byte in the format `%02x`. -/
def hexByte (byte : UInt8) : List UInt8 :=
  [hexDigit (byte.toNat / 16), hexDigit (byte.toNat % 16)]

def hexForm (bytes : List UInt8) : List UInt8 :=
  bytes.flatMap hexByte

/-- `SHA1`. -/
abbrev HashFunction := List UInt8 → Vector UInt8 SHA_DIGEST_LENGTH

/-- What a call of `convertPwdToSha1` does: the bytes it hashes, where it
writes, and the string it returns. -/
structure Conversion where
  hashed : List UInt8
  writes : List (HashArray × Nat)
  result : List UInt8

/-- The loop that formats the digest, after `count` iterations. -/
def formatLoop (obuf cleared : Memory) (count : Nat) : Memory :=
  (List.range count).foldl
    (fun resultPwd i => resultPwd.store (i * 2) (hexByte (obuf i) ++ [0])) cleared

/-- `Login::convertPwdToSha1`. -/
def convertPwdToSha1 (sha1 : HashFunction) (memory : HashArray → Memory) (pwd : List UInt8)
    (lengthPwd : Nat) : Conversion :=
  let text := readString pwd
  let ibuf := (memory .ibuf).store 0 (text ++ [0])
  let obuf := (memory .obuf).store 0 (sha1 (ibuf.load lengthPwd)).toList
  let cleared := (memory .resultPwd).store 0 (List.replicate SHA_DIGEST_LENGTH 0)
  let resultPwd := formatLoop obuf cleared SHA_DIGEST_LENGTH
  { hashed := ibuf.load lengthPwd
    writes :=
      places .ibuf 0 (text.length + 1) ++ places .obuf 0 SHA_DIGEST_LENGTH ++
        places .resultPwd 0 SHA_DIGEST_LENGTH ++
        (List.range SHA_DIGEST_LENGTH).flatMap fun i => places .resultPwd (i * 2) 3
    result := readString (resultPwd.load (SHA_DIGEST_LENGTH * 2 + 1)) }

/-- What an escaped byte stands for in a literal. -/
def mysqlEscape (symbol : UInt8) : List UInt8 :=
  if symbol = 48 then [0]
  else if symbol = 98 then [8]
  else if symbol = 110 then [10]
  else if symbol = 114 then [13]
  else if symbol = 116 then [9]
  else if symbol = 90 then [26]
  else if symbol = 37 ∨ symbol = 95 then [92, symbol]
  else [symbol]

/-- An escape stands for one byte, but before the two wildcards. -/
theorem mysqlEscape_cases (symbol : UInt8) :
    (symbol = 37 ∨ symbol = 95) ∧ mysqlEscape symbol = [92, symbol] ∨
      ¬ (symbol = 37 ∨ symbol = 95) ∧ ∃ byte, mysqlEscape symbol = [byte] := by
  by_cases wildcard : symbol = 37 ∨ symbol = 95
  · refine Or.inl ⟨wildcard, ?_⟩
    rcases wildcard with rfl | rfl
    · rfl
    · rfl
  · refine Or.inr ⟨wildcard, ?_⟩
    simp only [mysqlEscape, if_neg wildcard]
    split_ifs
    all_goals exact ⟨_, rfl⟩

/-- The single-quoted literals of MySQL. -/
def mysqlLiterals : Quoting UInt8 where
  quote := 39
  backslash := 92
  escape := mysqlEscape
  distinct := by decide
  escape_length := by
    intro symbol
    rcases mysqlEscape_cases symbol with ⟨_, self⟩ | ⟨_, byte, one⟩
    · rw [self]
      exact Nat.le_refl 2
    · rw [one]
      exact Nat.le_succ 1
  escape_self := by
    intro symbol two
    rcases mysqlEscape_cases symbol with ⟨_, self⟩ | ⟨_, byte, one⟩
    · exact self
    · rw [one] at two
      cases two

/-- The query of `Login::validate`. -/
def queryText (user pwd : List UInt8) : List UInt8 :=
  bytesOf "SELECT * FROM USERS WHERE USERNAME='" ++ user ++ bytesOf "' AND PASSWORD='" ++ pwd ++
    bytesOf "'"

/-- The query as `mysql_query` reads it. -/
def sentQuery (sha1 : HashFunction) (memory : HashArray → Memory) (user pwd : List UInt8) :
    List UInt8 :=
  readString
    (queryText user (convertPwdToSha1 sha1 memory pwd (readString user).length).result)

/-- The two literals of a query of this form. -/
def readQuery (text : List UInt8) : Option (List UInt8 × List UInt8) :=
  mysqlLiterals.readTwo (bytesOf "SELECT * FROM USERS WHERE USERNAME=")
    (bytesOf " AND PASSWORD=") text

/-- `Login::validate`, with the names and digits in the table USERS.  It is
undefined for a query of another form. -/
def validate (sha1 : HashFunction) (memory : HashArray → Memory)
    (users : List (List UInt8 × List UInt8)) (user pwd : List UInt8) : Option Bool :=
  (readQuery (sentQuery sha1 memory user pwd)).map fun row => users.contains row

/-! ## The digits -/

namespace Memory

theorem length_load (memory : Memory) (count : Nat) : (memory.load count).length = count := by
  rw [load, List.length_map, List.length_range]

theorem load_succ (memory : Memory) (count : Nat) :
    memory.load (count + 1) = memory.load count ++ [memory count] := by
  rw [load, load, List.range_succ, List.map_append]
  rfl

theorem load_store_of_le (memory : Memory) {position count : Nat} (before : count ≤ position)
    (bytes : List UInt8) : (memory.store position bytes).load count = memory.load count := by
  apply List.map_congr_left
  intro i member
  have below := List.mem_range.mp member
  rw [store, if_neg (by omega)]

theorem store_eq (memory : Memory) {position i : Nat} {bytes : List UInt8} {byte : UInt8}
    (found : bytes[i]? = some byte) : memory.store position bytes (position + i) = byte := by
  have inside := (List.getElem?_eq_some_iff.mp found).1
  rw [store, if_pos (by omega), Nat.add_sub_cancel_left, List.getD_eq_getElem?_getD, found]
  rfl

/-- The bytes that were written at the start. -/
theorem load_store (memory : Memory) (bytes : List UInt8) {count : Nat}
    (enough : count ≤ bytes.length) : (memory.store 0 bytes).load count = bytes.take count := by
  apply List.ext_getElem?
  intro i
  by_cases inside : i < count
  · have found := List.getElem?_eq_getElem (Nat.lt_of_lt_of_le inside enough)
    have stored : memory.store 0 bytes (0 + i) = bytes[i] := store_eq memory found
    rw [Nat.zero_add] at stored
    rw [load, List.getElem?_map, List.getElem?_range inside, List.getElem?_take_of_lt inside, found,
      ← stored]
    rfl
  · rw [List.getElem?_eq_none (by rw [length_load]; omega),
      List.getElem?_eq_none (by rw [List.length_take]; omega)]

end Memory

/-- After some iterations the digits of as many bytes are there, and the last
iteration has put a terminator behind them. -/
theorem load_formatLoop (obuf cleared : Memory) (count : Nat) :
    (formatLoop obuf cleared count).load (count * 2) = hexForm (obuf.load count) ∧
      (0 < count → formatLoop obuf cleared count (count * 2) = 0) := by
  induction count with
  | zero => exact ⟨rfl, fun positive => absurd positive (Nat.lt_irrefl 0)⟩
  | succ count inductionHypothesis =>
      let written := formatLoop obuf cleared count
      have again : formatLoop obuf cleared (count + 1) =
          written.store (count * 2) (hexByte (obuf count) ++ [0]) := by
        rw [formatLoop, List.range_succ, List.foldl_append]
        rfl
      have first : written.store (count * 2) (hexByte (obuf count) ++ [0]) (count * 2) =
          hexDigit ((obuf count).toNat / 16) := by
        have atStart : written.store (count * 2) (hexByte (obuf count) ++ [0]) (count * 2 + 0) =
            hexDigit ((obuf count).toNat / 16) :=
          Memory.store_eq written rfl
        exact atStart
      have second : written.store (count * 2) (hexByte (obuf count) ++ [0]) (count * 2 + 1) =
          hexDigit ((obuf count).toNat % 16) :=
        Memory.store_eq written rfl
      have terminator : written.store (count * 2) (hexByte (obuf count) ++ [0]) (count * 2 + 2) =
          0 :=
        Memory.store_eq written rfl
      rw [again, Nat.succ_mul]
      refine ⟨?_, fun _ => terminator⟩
      rw [Memory.load_succ, Memory.load_succ, first, second,
        Memory.load_store_of_le written (Nat.le_refl _), inductionHypothesis.1, Memory.load_succ,
        hexForm, hexForm, List.flatMap_append, List.append_assoc]
      rfl

theorem hexDigit_ne (value : Nat) (small : value < 16) :
    hexDigit value ≠ 0 ∧ hexDigit value ≠ 39 ∧ hexDigit value ≠ 92 := by
  revert value
  decide

/-- No digit ends a string, or a literal, or escapes anything. -/
theorem mem_hexForm {bytes : List UInt8} {byte : UInt8} (member : byte ∈ hexForm bytes) :
    byte ≠ 0 ∧ byte ≠ 39 ∧ byte ≠ 92 := by
  rcases List.mem_flatMap.mp member with ⟨origin, _, digit⟩
  have high : origin.toNat / 16 < 16 := by
    have bound := origin.toNat_lt
    omega
  have low : origin.toNat % 16 < 16 := Nat.mod_lt _ (by decide)
  rcases List.mem_cons.mp digit with rfl | later
  · exact hexDigit_ne _ high
  · rw [List.mem_singleton.mp later]
    exact hexDigit_ne _ low

/-- The string that is returned has the digits of the hash of the bytes that
were hashed. -/
theorem result_eq (sha1 : HashFunction) (memory : HashArray → Memory) (pwd : List UInt8)
    (lengthPwd : Nat) :
    (convertPwdToSha1 sha1 memory pwd lengthPwd).result =
      hexForm (sha1 (convertPwdToSha1 sha1 memory pwd lengthPwd).hashed).toList := by
  let digest := sha1 (convertPwdToSha1 sha1 memory pwd lengthPwd).hashed
  let obuf := (memory .obuf).store 0 digest.toList
  let cleared := (memory .resultPwd).store 0 (List.replicate SHA_DIGEST_LENGTH 0)
  have loaded : obuf.load SHA_DIGEST_LENGTH = digest.toList := by
    have length : digest.toList.length = SHA_DIGEST_LENGTH := Vector.length_toList
    rw [Memory.load_store _ _ (Nat.le_of_eq length.symm), List.take_of_length_le]
    exact Nat.le_of_eq length
  rcases load_formatLoop obuf cleared SHA_DIGEST_LENGTH with ⟨digits, terminated⟩
  have nonzero : 0 ∉ hexForm digest.toList := fun member => (mem_hexForm member).1 rfl
  change readString ((formatLoop obuf cleared SHA_DIGEST_LENGTH).load (SHA_DIGEST_LENGTH * 2 + 1)) =
    hexForm digest.toList
  rw [Memory.load_succ, digits, loaded, terminated (by decide)]
  exact readString_append_zero nonzero []

theorem length_hexForm (bytes : List UInt8) : (hexForm bytes).length = bytes.length * 2 := by
  induction bytes with
  | nil => rfl
  | cons byte rest inductionHypothesis =>
      rw [hexForm, List.flatMap_cons, List.length_append]
      change 2 + (hexForm rest).length = (rest.length + 1) * 2
      omega

theorem length_result (sha1 : HashFunction) (memory : HashArray → Memory) (pwd : List UInt8)
    (lengthPwd : Nat) :
    (convertPwdToSha1 sha1 memory pwd lengthPwd).result.length = SHA_DIGEST_LENGTH * 2 := by
  rw [result_eq, length_hexForm, Vector.length_toList]

/-! ## What the query says -/

/-- The query is read as two literals, the name and the digits of the hash,
with nothing after them. -/
def MeansWhatItSays (sha1 : HashFunction) (memory : HashArray → Memory) (user pwd : List UInt8) :
    Prop :=
  readQuery (sentQuery sha1 memory user pwd) =
    some (user,
      hexForm (sha1 (convertPwdToSha1 sha1 memory pwd (readString user).length).hashed).toList)

/-- The name has no quote, and each of its backslashes is directly followed by
a wildcard. -/
def Harmless (user : List UInt8) : Prop :=
  39 ∉ user ∧ ∀ i : Nat, user[i]? = some 92 → user[i + 1]? = some 37 ∨ user[i + 1]? = some 95

theorem escape_self_iff {symbol : UInt8} :
    mysqlEscape symbol = [92, symbol] ↔ symbol = 37 ∨ symbol = 95 := by
  rcases mysqlEscape_cases symbol with ⟨wildcard, self⟩ | ⟨other, byte, one⟩
  · exact ⟨fun _ => wildcard, fun _ => self⟩
  · rw [one]
    refine ⟨fun two => ?_, fun wildcard => absurd wildcard other⟩
    cases congrArg List.length two

theorem Harmless.tail {symbol : UInt8} {rest : List UInt8} (harmless : Harmless (symbol :: rest)) :
    Harmless rest :=
  ⟨fun member => harmless.1 (List.mem_cons_of_mem symbol member),
    fun i found => harmless.2 (i + 1) found⟩

theorem Harmless.cons {symbol : UInt8} {rest : List UInt8} (harmless : Harmless rest)
    (notQuote : symbol ≠ 39) (notBackslash : symbol ≠ 92) : Harmless (symbol :: rest) := by
  refine ⟨?_, ?_⟩
  · intro member
    rcases List.mem_cons.mp member with same | later
    · exact notQuote same.symm
    · exact harmless.1 later
  · intro i found
    cases i with
    | zero => exact absurd (Option.some.inj found) notBackslash
    | succ i => exact harmless.2 i found

/-- A backslash and a wildcard in front of a harmless name. -/
theorem Harmless.escaped {symbol : UInt8} {rest : List UInt8} (harmless : Harmless rest)
    (wildcard : symbol = 37 ∨ symbol = 95) : Harmless (92 :: symbol :: rest) := by
  have notQuote : symbol ≠ 39 := by
    rcases wildcard with rfl | rfl
    · decide
    · decide
  have notBackslash : symbol ≠ 92 := by
    rcases wildcard with rfl | rfl
    · decide
    · decide
  have later := harmless.cons notQuote notBackslash
  refine ⟨?_, ?_⟩
  · intro member
    rcases List.mem_cons.mp member with same | member
    · exact absurd same (by decide)
    · exact later.1 member
  · intro i found
    cases i with
    | zero => exact wildcard.imp (congrArg some) (congrArg some)
    | succ i => exact later.2 i found

/-- A name is plain exactly when it is harmless. -/
theorem plain_iff_harmless {user : List UInt8} : mysqlLiterals.Plain user ↔ Harmless user := by
  constructor
  · intro plain
    induction plain with
    | nil =>
        refine ⟨List.not_mem_nil, fun i found => ?_⟩
        cases found
    | symbol notQuote notBackslash _ inductionHypothesis =>
        exact inductionHypothesis.cons notQuote notBackslash
    | escaped self _ inductionHypothesis =>
        exact inductionHypothesis.escaped (escape_self_iff.mp self)
  · intro harmless
    induction user using List.twoStepInduction with
    | nil => exact .nil
    | singleton symbol =>
        refine .symbol (fun quote => harmless.1 (quote ▸ List.mem_cons_self)) ?_ .nil
        intro backslash
        rcases harmless.2 0 (congrArg some backslash) with found | found
        · cases found
        · cases found
    | cons_cons first second rest inductionHypothesis inductionHypothesisLater =>
        by_cases backslash : first = 92
        · have wildcard : second = 37 ∨ second = 95 :=
            (harmless.2 0 (congrArg some backslash)).imp Option.some.inj Option.some.inj
          rw [backslash]
          exact .escaped (escape_self_iff.mpr wildcard) (inductionHypothesis harmless.tail.tail)
        · exact .symbol (fun quote => harmless.1 (quote ▸ List.mem_cons_self)) backslash
            (inductionHypothesisLater second harmless.tail)

theorem queryText_eq (user pwd : List UInt8) :
    queryText user pwd = mysqlLiterals.writeTwo (bytesOf "SELECT * FROM USERS WHERE USERNAME=")
      (bytesOf " AND PASSWORD=") user pwd := by
  have opening : bytesOf "SELECT * FROM USERS WHERE USERNAME='" =
      bytesOf "SELECT * FROM USERS WHERE USERNAME=" ++ [39] := by decide
  have joining : bytesOf "' AND PASSWORD='" = [39] ++ bytesOf " AND PASSWORD=" ++ [39] := by decide
  have closing : bytesOf "'" = [39] := by decide
  simp only [queryText, Quoting.writeTwo, opening, joining, closing, List.append_assoc]
  rfl

/-- The whole query goes to the database. -/
theorem sentQuery_eq (sha1 : HashFunction) (memory : HashArray → Memory) {user : List UInt8}
    (nonzero : 0 ∉ user) (pwd : List UInt8) :
    sentQuery sha1 memory user pwd =
      queryText user (hexForm
        (sha1 (convertPwdToSha1 sha1 memory pwd (readString user).length).hashed).toList) := by
  rw [sentQuery, result_eq]
  apply readString_of_no_zero
  have digits (bytes : List UInt8) : 0 ∉ hexForm bytes := fun member => (mem_hexForm member).1 rfl
  have opening : 0 ∉ bytesOf "SELECT * FROM USERS WHERE USERNAME='" := by decide
  have joining : 0 ∉ bytesOf "' AND PASSWORD='" := by decide
  have closing : 0 ∉ bytesOf "'" := by decide
  simp only [queryText, List.mem_append, not_or]
  exact ⟨⟨⟨⟨opening, nonzero⟩, joining⟩, digits _⟩, closing⟩

/-- The login query means what it says if and only if the name is harmless. -/
theorem meansWhatItSays_iff (sha1 : HashFunction) (memory : HashArray → Memory)
    {user : List UInt8} (nonzero : 0 ∉ user) (pwd : List UInt8) :
    MeansWhatItSays sha1 memory user pwd ↔ Harmless user := by
  have digits (bytes : List UInt8) : mysqlLiterals.Plain (hexForm bytes) :=
    Quoting.plain_of_forall fun _ member => (mem_hexForm member).2
  have apart : (bytesOf " AND PASSWORD=" ++ [mysqlLiterals.quote]).head? ≠
      some mysqlLiterals.quote := by decide
  rw [MeansWhatItSays, sentQuery_eq sha1 memory nonzero, queryText_eq, readQuery,
    Quoting.readTwo_writeTwo_iff apart, plain_iff_harmless]
  exact and_iff_left (digits _)

/-- A hash function, and memory that is zero everywhere. -/
def zeroHash : HashFunction := fun _ => Vector.replicate SHA_DIGEST_LENGTH 0

def zeroMemory : HashArray → Memory := fun _ _ => 0

theorem ana_means_ana :
    MeansWhatItSays zeroHash zeroMemory (bytesOf "ana") (bytesOf "secreta") := by
  apply (meansWhatItSays_iff zeroHash zeroMemory (by decide) _).mpr
  exact ⟨by decide, fun _ found => absurd (List.mem_of_getElem? found) (by decide)⟩

/-- A name that goes on with SQL: its quote ends the literal. -/
theorem query_says_more :
    ¬ MeansWhatItSays zeroHash zeroMemory (bytesOf "' OR 1=1 -- ") (bytesOf "x") := by
  unfold MeansWhatItSays
  decide +kernel

/-- The password is checked as a whole: its bytes are hashed, every write is
inside its array, the result is the hexadecimal form of the digest, and a user
is accepted if and only if the name and the digits of the password's hash are
in the table. -/
structure ChecksWhole (sha1 : HashFunction) (memory : HashArray → Memory) (user pwd : List UInt8) :
    Prop where
  hashed : (convertPwdToSha1 sha1 memory pwd (readString user).length).hashed = pwd
  inside : ∀ write ∈ (convertPwdToSha1 sha1 memory pwd (readString user).length).writes,
    write.2 < SHA_DIGEST_LENGTH * 2
  result : (convertPwdToSha1 sha1 memory pwd (readString user).length).result =
    hexForm (sha1 (convertPwdToSha1 sha1 memory pwd (readString user).length).hashed).toList
  accepts : ∀ users, validate sha1 memory users user pwd = some true ↔
    (user, hexForm (sha1 pwd).toList) ∈ users

/-- As many bytes of the password are hashed as the name has, so that they are
the password's bytes only if the two have the same length. -/
theorem hashed_eq_iff (sha1 : HashFunction) (memory : HashArray → Memory) {pwd : List UInt8}
    (nonzero : 0 ∉ pwd) (length : Nat) :
    (convertPwdToSha1 sha1 memory pwd length).hashed = pwd ↔ length = pwd.length := by
  have hashes : (convertPwdToSha1 sha1 memory pwd length).hashed =
      ((memory .ibuf).store 0 (readString pwd ++ [0])).load length := rfl
  rw [hashes, readString_of_no_zero nonzero]
  constructor
  · intro same
    rw [← same, Memory.length_load]
  · rintro rfl
    rw [Memory.load_store _ _ (by rw [List.length_append]; omega), List.take_left]

/-- The last digits are written with a terminator behind them, and it is
outside of the array. -/
theorem mem_writes_outside (sha1 : HashFunction) (memory : HashArray → Memory) (pwd : List UInt8)
    (lengthPwd : Nat) :
    (HashArray.resultPwd, SHA_DIGEST_LENGTH * 2) ∈
      (convertPwdToSha1 sha1 memory pwd lengthPwd).writes := by
  apply List.mem_append_right
  refine List.mem_flatMap.mpr ⟨SHA_DIGEST_LENGTH - 1, by decide, by decide⟩

/-- No password is checked as it should be, whatever the user's name. -/
theorem not_checksWhole (sha1 : HashFunction) (memory : HashArray → Memory)
    (user pwd : List UInt8) : ¬ ChecksWhole sha1 memory user pwd := by
  intro whole
  have below := whole.inside _ (mem_writes_outside sha1 memory pwd _)
  exact absurd below (Nat.lt_irrefl _)

/-- With a name of two letters, two letters of the password are hashed. -/
theorem ab_checks_two : ¬ ChecksWhole zeroHash zeroMemory (bytesOf "ab") (bytesOf "abc") := by
  intro whole
  exact absurd whole.hashed (by decide)

end LoginServer
end Pxc
