import Pxc.LoginServer.Handlers

namespace Pxc
namespace LoginServer

open General

/-!
# The session table of the login server

A session is an id with its token, its user and its connection.  This module
is about the part of it that does not involve connections: the two maps
between users and ids, the token map, and the two counters.

Removing a session and opening one keep the table whatever the connection
maps hold.  That is why the table survives runs in which the connection maps
are already out of step, up to the first handler that works on a failed
lookup.
-/

variable {login : Login} {c : Connection} {user : String} {clientId : Int}

/-- The table invariant. -/
structure SessionTable (login : Login) : Prop where
  users_inverse : Inverse login.userToIdMap login.idToUserMap
  same_ids : SameKeys login.idToUserMap login.userTokenMap
  own_token : ∀ clientId token : Int, login.userTokenMap[clientId]? = some token → token = clientId
  issued : ∀ clientId, clientId ∈ login.userTokenMap → clientId < login.nextFreeToken
  counted : login.usersConnected = login.userTokenMap.size

namespace SessionTable

theorem initial : SessionTable Login.initializeLogin where
  users_inverse := Inverse.empty
  same_ids := SameKeys.empty
  own_token := by
    intro clientId token found
    rw [Login.initializeLogin, Std.ExtTreeMap.getElem?_empty] at found
    cases found
  issued := fun clientId member => absurd member Std.ExtTreeMap.not_mem_empty
  counted := Std.ExtTreeMap.size_empty.symm

/-- Every user has at most one live session. -/
theorem one_session (table : SessionTable login) {first second : Int}
    (atFirst : login.idToUserMap[first]? = some user)
    (atSecond : login.idToUserMap[second]? = some user) : first = second :=
  table.users_inverse.symm.injective atFirst atSecond

theorem live_of_known (table : SessionTable login)
    (known : login.userToIdMap[user]? = some clientId) : clientId ∈ login.userTokenMap :=
  (table.same_ids clientId).mp (table.users_inverse.mem_backward known)

theorem exists_user (table : SessionTable login) (live : clientId ∈ login.userTokenMap) :
    ∃ user, login.idToUserMap[clientId]? = some user ∧
      login.userToIdMap[user]? = some clientId := by
  rcases FiniteMap.exists_of_mem ((table.same_ids clientId).mpr live) with ⟨user, named⟩
  exact ⟨user, named, (table.users_inverse user clientId).mpr named⟩

theorem nextId_eq (few : login.nextFreeToken < 2 ^ 31) : nextId login = login.nextFreeToken :=
  intOfUnsigned_of_lt few

theorem nextId_not_live (table : SessionTable login) (few : login.nextFreeToken < 2 ^ 31) :
    nextId login ∉ login.userTokenMap := by
  intro live
  have below := table.issued _ live
  rw [nextId_eq few] at below
  exact Int.lt_irrefl _ below

theorem unissued (table : SessionTable login) (few : login.nextFreeToken < 2 ^ 31) (user : String)
    (clientId : Int) (known : login.userToIdMap[user]? = some clientId) :
    clientId ≠ nextId login := by
  intro same
  exact table.nextId_not_live few (same ▸ table.live_of_known known)

theorem size_forget (user : String) (c : Connection) (live : clientId ∈ login.userTokenMap) :
    (forget login user clientId c).userTokenMap.size + 1 = login.userTokenMap.size := by
  have positive : login.userTokenMap.size ≠ 0 := by
    intro zero
    rw [Std.ExtTreeMap.eq_empty_iff_size_eq_zero.mpr zero] at live
    exact Std.ExtTreeMap.not_mem_empty live
  change (login.userTokenMap.erase clientId).size + 1 = _
  rw [Std.ExtTreeMap.size_erase, if_pos (Std.ExtTreeMap.mem_iff_contains.mp live)]
  omega

theorem forget (table : SessionTable login) (few : login.userTokenMap.size < unsignedRange)
    (named : login.idToUserMap[clientId]? = some user) (live : clientId ∈ login.userTokenMap) :
    SessionTable (LoginServer.forget login user clientId c) where
  users_inverse := table.users_inverse.erase ((table.users_inverse user clientId).mpr named)
  same_ids := table.same_ids.erase clientId
  own_token := by
    intro key token found
    simp only [LoginServer.forget, FiniteMap.getElem?_erase_eq] at found
    by_cases erased : clientId = key
    · rw [if_pos erased] at found
      cases found
    · rw [if_neg erased] at found
      exact table.own_token key token found
  issued := fun key member => table.issued key (FiniteMap.mem_erase_iff.mp member).2
  counted := by
    have smaller := size_forget user c live
    have counted := table.counted
    change (login.usersConnected + (unsignedRange - 1)) % unsignedRange = _
    unfold unsignedRange at few ⊢
    omega

theorem size_openSession (table : SessionTable login) (few : login.nextFreeToken < 2 ^ 31) :
    (openSession login c user).userTokenMap.size = login.userTokenMap.size + 1 := by
  change (login.userTokenMap.insertIfNew (nextId login) (nextId login)).size = _
  rw [Std.ExtTreeMap.size_insertIfNew, if_neg (table.nextId_not_live few)]

theorem openSession (table : SessionTable login) (few : login.nextFreeToken < 2 ^ 31)
    (room : login.userTokenMap.size + 1 < unsignedRange)
    (unknown : login.userToIdMap[user]? = none) :
    SessionTable (LoginServer.openSession login c user) where
  users_inverse := by
    apply table.users_inverse.insertIfNew (FiniteMap.getElem?_eq_none_iff.mp unknown)
    intro named
    exact table.nextId_not_live few ((table.same_ids _).mp named)
  same_ids := table.same_ids.insertIfNew _ _ _
  own_token := by
    intro key token found
    simp only [LoginServer.openSession, registerSession,
      FiniteMap.getElem?_insertIfNew_of_not_mem (table.nextId_not_live few)] at found
    by_cases entered : nextId login = key
    · rw [if_pos entered, Option.some.injEq] at found
      exact found.symm.trans entered
    · rw [if_neg entered] at found
      exact table.own_token key token found
  issued := by
    intro key member
    change key < ((login.nextFreeToken + 1) % unsignedRange : Nat)
    have next : (login.nextFreeToken + 1) % unsignedRange = login.nextFreeToken + 1 :=
      Nat.mod_eq_of_lt (by unfold unsignedRange; omega)
    rw [next]
    rcases FiniteMap.mem_insertIfNew_iff.mp member with entered | earlier
    · rw [← entered, nextId_eq few]
      omega
    · have below := table.issued key earlier
      omega
  counted := by
    rw [table.size_openSession few]
    change (login.usersConnected + 1) % unsignedRange = _
    rw [table.counted, Nat.mod_eq_of_lt room]

theorem withControl (table : SessionTable login) (control : Option Connection) :
    SessionTable { login with controlConnection := control } :=
  ⟨table.users_inverse, table.same_ids, table.own_token, table.issued, table.counted⟩

end SessionTable

/-! ## The table along a run -/

/-- The table invariant with the bookkeeping that bounds the two counters:
every id was issued by an accepted login. -/
structure TableAfter (events : List Event) (login : Login) : Prop where
  table : SessionTable login
  issued : login.nextFreeToken = acceptedLogins events
  bounded : login.userTokenMap.size ≤ login.nextFreeToken

namespace TableAfter

variable {before : List Event} {event : Event} {next : Login} {sent : List Sent}

theorem initial : TableAfter [] Login.initializeLogin where
  table := SessionTable.initial
  issued := rfl
  bounded := by
    change Std.ExtTreeMap.size ∅ ≤ 0
    exact Nat.le_of_eq Std.ExtTreeMap.size_empty

private theorem acceptedLogins_concat :
    acceptedLogins (before ++ [event]) =
      acceptedLogins before + if event.accepted then 1 else 0 := by
  rw [acceptedLogins_append]
  unfold acceptedLogins
  rw [List.countP_singleton]

/-- A handler that is no accepted login issues no id. -/
private theorem of_same_counter (after : TableAfter before login) (table : SessionTable next)
    (refused : event.accepted = false) (same : next.nextFreeToken = login.nextFreeToken)
    (smaller : next.userTokenMap.size ≤ login.userTokenMap.size) :
    TableAfter (before ++ [event]) next where
  table := table
  issued := by
    rw [acceptedLogins_concat, refused, same]
    simpa only [Bool.false_eq_true, if_false, Nat.add_zero] using after.issued
  bounded := by
    have bounded := after.bounded
    omega

private theorem of_openSession (after : TableAfter before login) {retired : Login}
    (few : FewLogins (before ++ [event])) (accepted : event.accepted = true)
    (table : SessionTable retired) (same : retired.nextFreeToken = login.nextFreeToken)
    (smaller : retired.userTokenMap.size ≤ login.userTokenMap.size)
    (unknown : retired.userToIdMap[user]? = none) :
    TableAfter (before ++ [event]) (openSession retired c user) := by
  have counted : acceptedLogins (before ++ [event]) = retired.nextFreeToken + 1 := by
    rw [acceptedLogins_concat, accepted, if_pos rfl, ← after.issued, same]
  have small : retired.nextFreeToken + 1 < 2 ^ 31 := by
    unfold FewLogins at few
    omega
  have bounded := after.bounded
  have room : retired.userTokenMap.size + 1 < unsignedRange := by
    unfold unsignedRange
    omega
  refine ⟨table.openSession (by omega) room unknown, ?_, ?_⟩
  · change (retired.nextFreeToken + 1) % unsignedRange = _
    rw [counted, Nat.mod_eq_of_lt (by unfold unsignedRange; omega)]
  · rw [table.size_openSession (by omega)]
    change _ ≤ (retired.nextFreeToken + 1) % unsignedRange
    rw [Nat.mod_eq_of_lt (by unfold unsignedRange; omega)]
    omega

theorem few (after : TableAfter before login) (few : FewLogins (before ++ [event])) :
    login.nextFreeToken < 2 ^ 31 := by
  rw [after.issued]
  exact fewLogins_prefixClosed before [event] few

theorem room (after : TableAfter before login) (few : FewLogins (before ++ [event])) :
    login.userTokenMap.size < unsignedRange := by
  have bounded := after.bounded
  have small := after.few few
  unfold unsignedRange
  omega

theorem unknown_after_forget :
    (forget login user clientId c).userToIdMap[user]? = none := by
  simp only [forget, FiniteMap.getElem?_erase_eq, if_true]

/-- One handler execution keeps the table. -/
theorem step (after : TableAfter before login) (few : FewLogins (before ++ [event]))
    (handled : Handled login event next sent) : TableAfter (before ++ [event]) next := by
  have table := after.table
  have removed : ∀ (user : String) (clientId : Int) (c : Connection),
      login.idToUserMap[clientId]? = some user → clientId ∈ login.userTokenMap →
      SessionTable (forget login user clientId c) ∧
        (forget login user clientId c).userTokenMap.size ≤ login.userTokenMap.size := by
    intro user clientId c named live
    refine ⟨table.forget (after.room few) named live, ?_⟩
    have smaller := SessionTable.size_forget user c live
    omega
  cases handled with
  | refused => exact after.of_same_counter table rfl rfl (Nat.le_refl _)
  | firstLogin _ _ _ unknown =>
      exact after.of_openSession few rfl table rfl (Nat.le_refl _) unknown
  | relogin _ user _ oldClientId _ oldConnection known stored connected removable =>
      have named := (table.users_inverse user oldClientId).mp known
      have retired := removed user oldClientId oldConnection named removable.id_live
      exact after.of_openSession few rfl retired.1 rfl retired.2 unknown_after_forget
  | logoutUnknown => exact after.of_same_counter table rfl rfl (Nat.le_refl _)
  | logoutWrongToken => exact after.of_same_counter table rfl rfl (Nat.le_refl _)
  | logout c clientId _ user _ named removable =>
      have ended := removed user clientId c named removable.id_live
      exact after.of_same_counter ended.1 rfl rfl ended.2
  | closedUnknown => exact after.of_same_counter table rfl rfl (Nat.le_refl _)
  | closed c clientId user _ named removable =>
      have ended := removed user clientId c named removable.id_live
      exact after.of_same_counter ended.1 rfl rfl ended.2
  | control c => exact after.of_same_counter (table.withControl (some c)) rfl rfl (Nat.le_refl _)

end TableAfter

theorem handled_of_step {before : List Event} {event : Event} {world next : World}
    (after : TableAfter before world.login) (few : FewLogins (before ++ [event]))
    (stepped : step world event = some next) :
    ∃ sent, Handled world.login event next.login sent ∧ next.sent = world.sent ++ sent := by
  unfold LoginServer.step at stepped
  rw [Option.map_eq_some_iff] at stepped
  rcases stepped with ⟨⟨login, sent⟩, handled, rfl⟩
  exact ⟨sent, (handle_iff (after.table.unissued (after.few few))).mp handled, rfl⟩

theorem step_of_handled {before : List Event} {event : Event} {world : World} {login : Login}
    {sent : List Sent} (after : TableAfter before world.login)
    (few : FewLogins (before ++ [event])) (handled : Handled world.login event login sent) :
    step world event = some ⟨login, world.sent ++ sent⟩ := by
  unfold LoginServer.step
  rw [(handle_iff (after.table.unissued (after.few few))).mpr handled]
  rfl

theorem tableAfter_run {events : List Event} {world : World} (few : FewLogins events)
    (reached : run step World.initial events = some world) : TableAfter events world.login := by
  refine run_invariant_of_step FewLogins (fun events world => TableAfter events world.login)
    fewLogins_prefixClosed TableAfter.initial ?_ few reached
  intro before world event next within after stepped
  rcases handled_of_step after within stepped with ⟨sent, handled, _⟩
  exact after.step within handled

/-- The session table in every state that a run reaches before a handler has
worked on a failed lookup. -/
theorem session_table_of_run {events : List Event} {world : World} (few : FewLogins events)
    (reached : run step World.initial events = some world) :
    SessionTable world.login ∧
      ∀ (user : String) (first second : Int), world.login.idToUserMap[first]? = some user →
        world.login.idToUserMap[second]? = some user → first = second := by
  have table := (tableAfter_run few reached).table
  exact ⟨table, fun user first second => table.one_session⟩

/-- One user logs in twice, another once; then one logs out and the other's
connection is closed. -/
def twoUsers : List Event :=
  [.loginRequest 1 "ana" true default, .loginRequest 2 "bea" true default,
    .loginRequest 3 "ana" true default, .logoutRequest 2 1 1, .connectionClosed 3]

theorem session_table_of_two_users :
    ∃ world, run step World.initial twoUsers = some world ∧ SessionTable world.login ∧
      world.login.nextFreeToken = 3 ∧ world.login.usersConnected = 0 := by
  have few : FewLogins twoUsers := by decide
  exact ⟨_, rfl, (session_table_of_run few rfl).1, rfl, rfl⟩

end LoginServer
end Pxc
