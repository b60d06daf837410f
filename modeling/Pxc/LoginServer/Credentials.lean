import Pxc.Messaging.Reception

namespace Pxc
namespace LoginServer

open Messaging

/-!
# Credentials on the wire

A login request has a name and a password, each in an array of 32 bytes.  The
client copies at most 31 bytes of what was typed into each array and fills the
rest with zeros, so that there is always a terminator.  The login server reads
the arrays as strings, up to a terminator that may lie in the other array or
behind the object, when a client sends something else.
-/

/-- The fields of `LoginRequestSend` at the client and of `LoginRequestRcvd` at
the login server. -/
structure LoginRequest where
  username : List UInt8
  password : List UInt8
  username_length : username.length = 32
  password_length : password.length = 32

/-- `strncpy`, which fills up with zeros. -/
def strncpy (source : List UInt8) (count : Nat) : List UInt8 :=
  (readString source ++ List.replicate count 0).take count

/-- An array of the client: 31 bytes are copied, and the last one is set. -/
def credential (typed : List UInt8) : List UInt8 :=
  strncpy typed 31 ++ [0]

theorem length_credential (typed : List UInt8) : (credential typed).length = 32 := by
  rw [credential, strncpy, List.length_append, List.length_take, List.length_append,
    List.length_replicate, List.length_singleton]
  omega

/-- The constructor `LoginRequestSend(username, password)` of the client. -/
def LoginRequestSend (username password : List UInt8) : LoginRequest where
  username := credential username
  password := credential password
  username_length := length_credential username
  password_length := length_credential password

/-- The bytes of the fields. -/
def LoginRequest.fields (request : LoginRequest) : List UInt8 :=
  request.username ++ request.password

/-- The object that the creator makes from a body. -/
def LoginRequestRcvd.create (bufferMessage : List UInt8) (behind : Behind) : LoginRequest where
  username := (Messaging.create 64 bufferMessage behind).take 32
  password := (Messaging.create 64 bufferMessage behind).drop 32
  username_length := by
    rw [List.length_take, length_create]
    rfl
  password_length := by rw [List.length_drop, length_create]

/-- `user = username`, with the memory behind the object. -/
def LoginRequest.user (request : LoginRequest) (after : List UInt8) : List UInt8 :=
  readString (request.username ++ (request.password ++ after))

/-- `pwd = password`. -/
def LoginRequest.pwd (request : LoginRequest) (after : List UInt8) : List UInt8 :=
  readString (request.password ++ after)

theorem length_readString_lt {array : List UInt8} (terminated : 0 ∈ array) :
    (readString array).length < array.length := by
  apply Nat.lt_of_le_of_ne (length_readString_le array)
  intro same
  have whole : readString array = array := (List.takeWhile_prefix _).eq_of_length same
  exact zero_not_mem_readString array (whole.symm ▸ terminated)

theorem le_length_readString {array : List UInt8} (unterminated : 0 ∉ array)
    (behind : List UInt8) : array.length ≤ (readString (array ++ behind)).length := by
  unfold readString
  rw [List.takeWhile_append_of_pos, List.length_append]
  · exact Nat.le_add_right _ _
  · intro byte member
    exact decide_eq_true fun zero => unterminated (zero ▸ member)

theorem readString_within_iff {array behind : List UInt8} :
    (readString (array ++ behind)).length < array.length ↔ 0 ∈ array := by
  constructor
  · intro within
    by_contra unterminated
    exact Nat.not_lt_of_le (le_length_readString unterminated behind) within
  · intro terminated
    rw [readString_append_of_zero terminated]
    exact length_readString_lt terminated

/-- The first 31 bytes are read back from an array of the client. -/
theorem readString_credential (typed behind : List UInt8) :
    readString (credential typed ++ behind) = (readString typed).take 31 := by
  have nonzero : 0 ∉ (readString typed).take 31 :=
    fun member => zero_not_mem_readString typed (List.mem_of_mem_take member)
  have array : credential typed ++ behind = (readString typed).take 31 ++
      0 :: (List.replicate (31 - (readString typed).length) 0 ++ behind) := by
    have zeros : List.replicate (31 - (readString typed).length) (0 : UInt8) ++ [0] =
        0 :: List.replicate (31 - (readString typed).length) 0 :=
      List.replicate_succ'.symm
    have room : 31 - (readString typed).length ≤ 31 := Nat.sub_le _ _
    rw [credential, strncpy, List.take_append, List.take_replicate, Nat.min_eq_left room,
      List.append_assoc _ _ [0], zeros, List.append_assoc, List.cons_append]
  rw [array]
  exact readString_append_zero nonzero _

/-! ## What survives -/

/-- The body that the client sends is read at the login server as the first 31
bytes of what was typed, whatever follows it and lies behind the object. -/
def ArrivesAsTyped (username password : List UInt8) : Prop :=
  ∀ excess behind after,
    let received := LoginRequestRcvd.create
      ((LoginRequestSend username password).fields ++ excess) behind
    received.user after = (readString username).take 31 ∧
      received.pwd after = (readString password).take 31

/-- The two strings end within their arrays, and each is that of any other
request with the same bytes in its array. -/
def ReadsOwnArrays (request : LoginRequest) : Prop :=
  ∀ after, (request.user after).length < 32 ∧ (request.pwd after).length < 32 ∧
    ∀ (other : LoginRequest) (elsewhere : List UInt8),
      (other.username = request.username → other.user elsewhere = request.user after) ∧
        (other.password = request.password → other.pwd elsewhere = request.pwd after)

/-- The credentials survive the wire, and a body is read array by array. -/
def CredentialsSurvive (username password : List UInt8) (body : LoginRequest) : Prop :=
  ArrivesAsTyped username password ∧ ReadsOwnArrays body

theorem create_fields (request : LoginRequest) (excess : List UInt8) (behind : Behind) :
    LoginRequestRcvd.create (request.fields ++ excess) behind = request := by
  cases request with
  | mk username password username_length password_length =>
      have length : (username ++ password).length = 64 := by
        rw [List.length_append, username_length, password_length]
      simp only [LoginRequestRcvd.create, LoginRequest.fields, LoginRequest.mk.injEq,
        create_append length]
      rw [← username_length, List.take_left, List.drop_left]
      exact ⟨rfl, rfl⟩

theorem arrivesAsTyped (username password : List UInt8) : ArrivesAsTyped username password := by
  intro excess behind after received
  have same : received = LoginRequestSend username password := create_fields _ excess behind
  rw [same]
  exact ⟨readString_credential username _, readString_credential password after⟩

theorem readsOwnArrays_iff (request : LoginRequest) :
    ReadsOwnArrays request ↔ 0 ∈ request.username ∧ 0 ∈ request.password := by
  constructor
  · intro own
    rcases own [] with ⟨user, pwd, _⟩
    rw [← request.username_length] at user
    rw [← request.password_length] at pwd
    exact ⟨readString_within_iff.mp user, readString_within_iff.mp pwd⟩
  · rintro ⟨terminated, terminatedToo⟩ after
    have user (request : LoginRequest) (terminated : 0 ∈ request.username) (after : List UInt8) :
        request.user after = readString request.username :=
      readString_append_of_zero terminated _
    have pwd (request : LoginRequest) (terminated : 0 ∈ request.password) (after : List UInt8) :
        request.pwd after = readString request.password :=
      readString_append_of_zero terminated after
    refine ⟨?_, ?_, fun other elsewhere => ⟨fun same => ?_, fun same => ?_⟩⟩
    · rw [user request terminated, ← request.username_length]
      exact length_readString_lt terminated
    · rw [pwd request terminatedToo, ← request.password_length]
      exact length_readString_lt terminatedToo
    · rw [user other (same.symm ▸ terminated), user request terminated, same]
    · rw [pwd other (same.symm ▸ terminatedToo), pwd request terminatedToo, same]

/-- What was typed arrives, and a body is read array by array if and only if
each of its arrays has a terminator. -/
theorem credentialsSurvive_iff (username password : List UInt8) (body : LoginRequest) :
    CredentialsSurvive username password body ↔ 0 ∈ body.username ∧ 0 ∈ body.password := by
  rw [CredentialsSurvive, and_iff_right (arrivesAsTyped username password)]
  exact readsOwnArrays_iff body

/-- The arrays of a client that sends no terminators. -/
def unterminated : LoginRequest where
  username := List.replicate 32 97
  password := List.replicate 32 98
  username_length := rfl
  password_length := rfl

/-- The name runs into the password. -/
theorem unterminated_runs_on :
    ¬ CredentialsSurvive [97] [98] unterminated := by
  rintro ⟨_, own⟩
  exact absurd (own []).1 (by decide)

end LoginServer
end Pxc
