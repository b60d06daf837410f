import Pxc.LoginServer.Server

namespace Pxc
namespace LoginServer

open General

/-!
# The identity of a client

The id in the answer to a login is meant to be a direct mapping of the
username, under which Control finds the player's zone.  The handler takes it
from the token counter instead, so it counts the accepted logins, modulo
2 ^ 32, and says nothing about who logged in.
-/

variable {login next : Login} {sent : List Sent} {event : Event}

/-- The id in an answer to a login request. -/
def Sent.answeredId (sent : Sent) : Option Int :=
  match sent.message with
  | .loginRequestSend _ _ _ clientId _ => some clientId
  | _ => none

/-- The username of an accepted login, with the id it is answered with. -/
def identityOf (event : Event) (sent : List Sent) : List (String × Int) :=
  match event with
  | .loginRequest _ user true _ => (sent.filterMap Sent.answeredId).map fun clientId =>
      (user, clientId)
  | _ => []

/-- The accepted logins of a run, in order, each with its username and the id
it is answered with. -/
def identities (login : Login) : List Event → List (String × Int)
  | [] => []
  | event :: rest =>
      match handle login event with
      | some (next, sent) => identityOf event sent ++ identities next rest
      | none => []

/-- The usernames of the accepted logins, in order. -/
def usernames : List Event → List String
  | [] => []
  | .loginRequest _ user true _ :: rest => user :: usernames rest
  | _ :: rest => usernames rest

/-- Any two accepted logins are answered with the same id exactly when they
carry the same username. -/
def StableIdentity (identities : List (String × Int)) : Prop :=
  ∀ (first second : Nat) (a b : String × Int), first < second → identities[first]? = some a →
    identities[second]? = some b → (a.2 = b.2 ↔ a.1 = b.1)

/-- The same username logs in exactly at the positions that the counter cannot
tell apart. -/
def NamesFollowCounter (usernames : List String) : Prop :=
  ∀ (first second : Nat) (a b : String), first < second → usernames[first]? = some a →
    usernames[second]? = some b → (a = b ↔ first % unsignedRange = second % unsignedRange)

theorem answeredId_sendControl {message : Message} {answered : Sent}
    (notAnswer : ∀ connection, Sent.answeredId ⟨connection, message⟩ = none)
    (member : answered ∈ login.sendControl message) : answered.answeredId = none := by
  unfold Login.sendControl at member
  cases control : login.controlConnection with
  | none =>
      rw [control] at member
      cases member
  | some connection =>
      rw [control] at member
      have same := List.mem_singleton.mp member
      exact same ▸ notAnswer connection

theorem filterMap_sendControl {message : Message}
    (notAnswer : ∀ connection, Sent.answeredId ⟨connection, message⟩ = none) :
    (login.sendControl message).filterMap Sent.answeredId = [] := by
  rw [List.filterMap_eq_nil_iff]
  intro answered member
  exact answeredId_sendControl notAnswer member

theorem retireOldSession_counter {user : String} {clientId : Int}
    (retired : retireOldSession login user clientId = some (next, sent)) :
    next.nextFreeToken = login.nextFreeToken ∧ sent.filterMap Sent.answeredId = [] := by
  simp only [retireOldSession, Option.bind_eq_bind, Option.bind_eq_some_iff,
    FiniteMap.eraseFound_eq_some_iff, Option.pure_def, Option.some.injEq, Prod.mk.injEq] at retired
  rcases retired with ⟨token, _, _, _, _, _, connection, _, _, _, _, _, _, _, same, sameSent⟩
  subst same sameSent
  exact ⟨rfl, filterMap_sendControl fun _ => rfl⟩

theorem acceptLogin_counter {c : Connection} {user : String}
    (accepted : acceptLogin login c user = some (next, sent)) :
    next.nextFreeToken = (login.nextFreeToken + 1) % unsignedRange ∧
      sent.filterMap Sent.answeredId = [] := by
  unfold acceptLogin at accepted
  simp only at accepted
  split at accepted
  · simp only [Option.bind_eq_bind, Option.bind_eq_some_iff, Option.pure_def, Option.some.injEq,
      Prod.mk.injEq, Prod.exists] at accepted
    rcases accepted with ⟨retired, sentBefore, done, same, sameSent⟩
    subst same sameSent
    rcases retireOldSession_counter done with ⟨sameCounter, silent⟩
    refine ⟨?_, silent⟩
    rw [registerSession, sameCounter]
  · cases accepted
    exact ⟨rfl, rfl⟩

/-- An accepted login is answered with the counter's value, and advances it. -/
theorem handle_accepted {c : Connection} {user : String} {unset : Uninitialised}
    (handled : handle login (.loginRequest c user true unset) = some (next, sent)) :
    next.nextFreeToken = (login.nextFreeToken + 1) % unsignedRange ∧
      identityOf (.loginRequest c user true unset) sent =
        [(user, intOfUnsigned login.nextFreeToken)] := by
  simp only [handle, LoginRequestRcvd.exec, if_true, Option.bind_eq_bind, Option.bind_eq_some_iff,
    Option.pure_def, Option.some.injEq, Prod.mk.injEq, Prod.exists] at handled
  rcases handled with ⟨accepted, sentBefore, done, same, sameSent⟩
  subst same sameSent
  rcases acceptLogin_counter done with ⟨advanced, silent⟩
  refine ⟨advanced, ?_⟩
  have announced : (accepted.sendControl (.newClientSend (intOfUnsigned login.nextFreeToken)
      (intOfUnsigned login.nextFreeToken))).filterMap Sent.answeredId = [] :=
    filterMap_sendControl fun _ => rfl
  rw [identityOf, List.filterMap_append, List.filterMap_append, silent, announced]
  rfl

theorem endSession_counter {c : Connection} {clientId : Int}
    (ended : endSession login c clientId = some next) :
    next.nextFreeToken = login.nextFreeToken := by
  simp only [endSession, Option.bind_eq_bind, Option.bind_eq_some_iff, Option.pure_def,
    Option.some.injEq] at ended
  rcases ended with ⟨_, _, _, _, _, _, _, _, _, _, _, _, same⟩
  subst same
  rfl

theorem dropSession_counter {c : Connection} {clientId : Int}
    (dropped : dropSession login c clientId = some next) :
    next.nextFreeToken = login.nextFreeToken := by
  simp only [dropSession, Option.bind_eq_bind, Option.bind_eq_some_iff, Option.pure_def,
    Option.some.injEq] at dropped
  rcases dropped with ⟨_, _, _, _, _, _, _, _, _, _, _, _, same⟩
  subst same
  rfl

/-- Everything else leaves the counter alone. -/
theorem handle_other (refused : event.accepted = false)
    (handled : handle login event = some (next, sent)) :
    next.nextFreeToken = login.nextFreeToken ∧ identityOf event sent = [] := by
  cases event with
  | loginRequest c user valid unset =>
      have same : valid = false := refused
      subst same
      simp only [handle, LoginRequestRcvd.exec, Bool.false_eq_true, if_false, Option.some.injEq,
        Prod.mk.injEq] at handled
      exact ⟨by rw [handled.1], rfl⟩
  | logoutRequest c clientId token =>
      refine ⟨?_, rfl⟩
      simp only [handle, LogoutRequestRcvd.exec] at handled
      split at handled
      · cases handled
        rfl
      · split at handled
        · cases handled
          rfl
        · simp only [Option.bind_eq_bind, Option.bind_eq_some_iff, Option.pure_def,
            Option.some.injEq, Prod.mk.injEq] at handled
          rcases handled with ⟨ended, done, same, _⟩
          subst same
          exact endSession_counter done
  | connectionClosed c =>
      refine ⟨?_, rfl⟩
      simp only [handle, ClientClosedConnection.callOnClose] at handled
      split at handled
      · cases handled
        rfl
      · simp only [Option.bind_eq_bind, Option.bind_eq_some_iff, Option.pure_def,
          Option.some.injEq, Prod.mk.injEq] at handled
        rcases handled with ⟨dropped, done, same, _⟩
        subst same
        exact dropSession_counter done
  | controlConnection c =>
      cases handled
      exact ⟨rfl, rfl⟩

theorem usernames_refused (refused : event.accepted = false) (rest : List Event) :
    usernames (event :: rest) = usernames rest := by
  cases event with
  | loginRequest c user valid unset =>
      have same : valid = false := refused
      subst same
      rfl
  | _ => rfl

/-- The accepted logins are answered with consecutive values of the counter. -/
theorem identities_eq {events : List Event} {world final : World}
    (reached : run step world events = some final)
    (bounded : world.login.nextFreeToken < unsignedRange) :
    identities world.login events = (usernames events).mapIdx fun position user =>
      (user, intOfUnsigned ((world.login.nextFreeToken + position) % unsignedRange)) := by
  induction events generalizing world with
  | nil => rfl
  | cons event rest inductionHypothesis =>
      rw [run_cons, Option.bind_eq_some_iff] at reached
      rcases reached with ⟨middle, stepped, later⟩
      rcases Option.map_eq_some_iff.mp stepped with ⟨⟨next, sent⟩, handled, same⟩
      subst same
      have range : 0 < unsignedRange := by decide
      rw [identities, handled]
      cases accepted : event.accepted with
      | false =>
          rcases handle_other accepted handled with ⟨sameCounter, silent⟩
          have rest' := inductionHypothesis later (sameCounter.symm ▸ bounded)
          simp only at rest' ⊢
          rw [silent, List.nil_append, rest', usernames_refused accepted, sameCounter]
      | true =>
          cases event with
          | loginRequest c user valid unset =>
              have same : valid = true := accepted
              subst same
              rcases handle_accepted handled with ⟨advanced, answered⟩
              have small : next.nextFreeToken < unsignedRange := by
                rw [advanced]
                exact Nat.mod_lt _ range
              have rest' := inductionHypothesis later small
              simp only at rest' ⊢
              rw [answered, rest', usernames, List.mapIdx_cons, Nat.add_zero,
                Nat.mod_eq_of_lt bounded, List.singleton_append, advanced]
              congr 1
              apply congrArg (fun f => List.mapIdx f (usernames rest))
              funext position user'
              rw [Nat.mod_add_mod, Nat.add_assoc, Nat.add_comm 1 position]
          | _ => cases accepted

theorem intOfUnsigned_injective {first second : Nat} (firstSmall : first < unsignedRange)
    (secondSmall : second < unsignedRange)
    (same : intOfUnsigned first = intOfUnsigned second) : first = second := by
  unfold intOfUnsigned unsignedRange at *
  split at same <;> split at same <;> omega

/-- Along every run, any two accepted logins are answered with the same id
exactly when they carry the same username, if and only if the same username
logs in exactly at the positions that agree modulo 2 ^ 32. -/
theorem client_identity_iff {events : List Event} {world : World}
    (reached : run step World.initial events = some world) :
    StableIdentity (identities Login.initializeLogin events) ↔
      NamesFollowCounter (usernames events) := by
  have range : 0 < unsignedRange := by decide
  have answered : identities Login.initializeLogin events =
      (usernames events).mapIdx fun position user =>
        (user, intOfUnsigned (position % unsignedRange)) := by
    have ids := identities_eq reached range
    simpa only [World.initial, Login.initializeLogin, Nat.zero_add] using ids
  have sameId : ∀ first second : Nat, intOfUnsigned (first % unsignedRange) =
      intOfUnsigned (second % unsignedRange) ↔ first % unsignedRange = second % unsignedRange := by
    intro first second
    constructor
    · exact intOfUnsigned_injective (Nat.mod_lt _ range) (Nat.mod_lt _ range)
    · intro same
      rw [same]
  rw [answered]
  constructor
  · intro stable first second a b earlier atFirst atSecond
    have both := stable first second (a, intOfUnsigned (first % unsignedRange))
      (b, intOfUnsigned (second % unsignedRange)) earlier
      (by rw [List.getElem?_mapIdx, atFirst, Option.map_some])
      (by rw [List.getElem?_mapIdx, atSecond, Option.map_some])
    exact both.symm.trans (sameId first second)
  · intro follows first second a b earlier atFirst atSecond
    rw [List.getElem?_mapIdx, Option.map_eq_some_iff] at atFirst atSecond
    rcases atFirst with ⟨user, nameFirst, sameFirst⟩
    rcases atSecond with ⟨other, nameSecond, sameSecond⟩
    subst sameFirst sameSecond
    exact (sameId first second).trans (follows first second user other earlier nameFirst
      nameSecond).symm

/-- As long as the counter does not wrap, this asks that no username logs in
twice. -/
theorem namesFollowCounter_iff_nodup {names : List String} (few : names.length ≤ unsignedRange) :
    NamesFollowCounter names ↔ names.Nodup := by
  have inRange : ∀ {position : Nat} {user : String}, names[position]? = some user →
      position % unsignedRange = position := by
    intro position user found
    have inside := (List.getElem?_eq_some_iff.mp found).1
    exact Nat.mod_eq_of_lt (by omega)
  constructor
  · intro follows
    rw [List.nodup_iff_pairwise_ne, List.pairwise_iff_getElem]
    intro first second firstInside secondInside earlier same
    have atFirst := List.getElem?_eq_getElem firstInside
    have atSecond := List.getElem?_eq_getElem secondInside
    have samePosition := (follows first second _ _ earlier atFirst atSecond).mp same
    rw [inRange atFirst, inRange atSecond] at samePosition
    omega
  · intro distinct first second a b earlier atFirst atSecond
    rw [inRange atFirst, inRange atSecond]
    rcases List.getElem?_eq_some_iff.mp atFirst with ⟨firstInside, isFirst⟩
    rcases List.getElem?_eq_some_iff.mp atSecond with ⟨secondInside, isSecond⟩
    rw [List.nodup_iff_pairwise_ne, List.pairwise_iff_getElem] at distinct
    have different := distinct first second firstInside secondInside earlier
    rw [isFirst, isSecond] at different
    constructor
    · intro same
      exact absurd same different
    · intro samePosition
      omega

/-- Two users who log in once each are told apart. -/
theorem client_identity_of_two_users :
    StableIdentity (identities Login.initializeLogin
      [.loginRequest 1 "ana" true default, .loginRequest 2 "bea" true default]) := by
  have reached : run step World.initial
      [.loginRequest 1 "ana" true default, .loginRequest 2 "bea" true default] = some _ := rfl
  have distinct : NamesFollowCounter ["ana", "bea"] :=
    (namesFollowCounter_iff_nodup (by decide)).mpr (by decide)
  exact (client_identity_iff reached).mpr distinct

/-- A user who logs in again gets another id. -/
theorem relogin_changes_identity :
    (∃ world, run step World.initial
        [.loginRequest 1 "ana" true default, .loginRequest 2 "ana" true default] = some world) ∧
      ¬ StableIdentity (identities Login.initializeLogin
        [.loginRequest 1 "ana" true default, .loginRequest 2 "ana" true default]) := by
  refine ⟨⟨_, rfl⟩, fun stable => ?_⟩
  have sameName := (stable 0 1 ("ana", 0) ("ana", 1) (by decide) rfl rfl).mpr rfl
  cases sameName

end LoginServer
end Pxc
