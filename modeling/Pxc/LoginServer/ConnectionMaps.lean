import Pxc.LoginServer.SessionTable

namespace Pxc
namespace LoginServer

open General

/-!
# The connection maps of the login server

The maps between ids and connections are meant to be each other's inverse,
with one entry for every live session.  They are kept so exactly as long as
a connection carries one session at a time and a session is left through its
own connection.  An accepted login on a connection that carries another
user's session does not replace that connection's entry, and a logout erases
the entry of the connection it arrived on, not the one of its session.

The theorem at the end is about whole runs: the maps agree after every event,
and no lookup that is used fails, if and only if every accepted login and
every successful logout of the run meets this condition.
-/

variable {login : Login} {c connection : Connection} {user : String} {clientId : Int}

/-- The two connection maps undo each other and list the live sessions. -/
structure ConnectionMaps (login : Login) : Prop where
  inverse : Inverse login.idToConnectionMap login.connectionToIdMap
  same_ids : SameKeys login.idToConnectionMap login.userTokenMap

namespace ConnectionMaps

theorem initial : ConnectionMaps Login.initializeLogin :=
  ⟨Inverse.empty, SameKeys.empty⟩

theorem exists_connection (maps : ConnectionMaps login) (live : clientId ∈ login.userTokenMap) :
    ∃ connection, login.idToConnectionMap[clientId]? = some connection ∧
      login.connectionToIdMap[connection]? = some clientId := by
  rcases FiniteMap.exists_of_mem ((maps.same_ids clientId).mpr live) with ⟨connection, connected⟩
  exact ⟨connection, connected, (maps.inverse clientId connection).mp connected⟩

theorem live_of_carried (maps : ConnectionMaps login)
    (carried : login.connectionToIdMap[c]? = some clientId) : clientId ∈ login.userTokenMap :=
  (maps.same_ids clientId).mp
    (FiniteMap.mem_of_getElem? ((maps.inverse clientId c).mpr carried))

/-- With both groups of maps in step, every live session can be removed
through its own connection. -/
theorem removable (maps : ConnectionMaps login) (table : SessionTable login)
    (named : login.idToUserMap[clientId]? = some user)
    (connected : login.idToConnectionMap[clientId]? = some connection) :
    Removable login user clientId connection where
  user_known := table.users_inverse.symm.mem_backward named
  id_named := FiniteMap.mem_of_getElem? named
  id_connected := FiniteMap.mem_of_getElem? connected
  connection_known := maps.inverse.mem_backward connected
  id_live := (table.same_ids clientId).mp (FiniteMap.mem_of_getElem? named)

/-- Removing a live session leaves the maps in step exactly when the
connection entry erased is the session's own. -/
theorem forget_iff (maps : ConnectionMaps login)
    (known : c ∈ login.connectionToIdMap) :
    ConnectionMaps (forget login user clientId c) ↔
      login.idToConnectionMap[clientId]? = some c := by
  constructor
  · intro left
    rcases FiniteMap.exists_of_mem known with ⟨carried, atC⟩
    have back := (maps.inverse carried c).mpr atC
    by_cases same : clientId = carried
    · exact same ▸ back
    · have kept : (forget login user clientId c).idToConnectionMap[carried]? = some c := by
        simp only [forget, FiniteMap.getElem?_erase_eq, if_neg same]
        exact back
      have erased : (forget login user clientId c).connectionToIdMap[c]? = none := by
        simp only [forget, FiniteMap.getElem?_erase_eq, if_true]
      have impossible := (left.inverse carried c).mp kept
      rw [erased] at impossible
      cases impossible
  · intro connected
    exact ⟨maps.inverse.erase connected, maps.same_ids.erase clientId⟩

/-- Opening a session of a fresh id leaves the maps in step exactly when its
connection carries no session yet. -/
theorem openSession_iff (maps : ConnectionMaps login) (fresh : nextId login ∉ login.userTokenMap) :
    ConnectionMaps (openSession login c user) ↔ login.connectionToIdMap[c]? = none := by
  have freshId : nextId login ∉ login.idToConnectionMap :=
    fun member => fresh ((maps.same_ids _).mp member)
  constructor
  · intro opened
    cases carried : login.connectionToIdMap[c]? with
    | none => rfl
    | some clientId =>
        have member := FiniteMap.mem_of_getElem? carried
        have entered : (openSession login c user).idToConnectionMap[nextId login]? = some c := by
          change (login.idToConnectionMap.insertIfNew (nextId login) c)[nextId login]? = some c
          rw [FiniteMap.getElem?_insertIfNew_of_not_mem freshId, if_pos rfl]
        have kept : (openSession login c user).connectionToIdMap[c]? = some clientId := by
          change (login.connectionToIdMap.insertIfNew c (nextId login))[c]? = some clientId
          rw [Std.ExtTreeMap.getElem?_insertIfNew, if_neg (fun both => both.2 member)]
          exact carried
        have same : clientId = nextId login :=
          Option.mem_unique kept ((opened.inverse _ c).mp entered)
        exact absurd (same ▸ maps.live_of_carried carried) fresh
  · intro free
    exact ⟨maps.inverse.insertIfNew freshId (FiniteMap.getElem?_eq_none_iff.mp free),
      maps.same_ids.insertIfNew _ _ _⟩

theorem withControl (maps : ConnectionMaps login) (control : Option Connection) :
    ConnectionMaps { login with controlConnection := control } :=
  ⟨maps.inverse, maps.same_ids⟩

end ConnectionMaps

/-- An accepted login comes on a connection without a session of another
user, and a successful logout comes on the connection of its session. -/
def OwnConnection (login : Login) : Event → Prop
  | .loginRequest c user true _ => ∀ clientId : Int, login.connectionToIdMap[c]? = some clientId →
      login.userToIdMap[user]? = some clientId
  | .logoutRequest c clientId token => login.userTokenMap[clientId]? = some token →
      login.idToConnectionMap[clientId]? = some c
  | _ => True

/-- The event is handled without a failed lookup, and the connection maps
are in step after it. -/
def KeepsConnectionMaps (world : World) (event : Event) : Prop :=
  ∃ next, step world event = some next ∧ ConnectionMaps next.login

section OneEvent

variable {before : List Event} {event : Event} {world : World}

/-- A handler execution decides the outcome of its event. -/
theorem keepsConnectionMaps_iff_of_handled (after : TableAfter before world.login)
    (few : FewLogins (before ++ [event])) {next : Login} {sent : List Sent}
    (handled : Handled world.login event next sent) :
    KeepsConnectionMaps world event ↔ ConnectionMaps next := by
  have stepped := step_of_handled after few handled
  constructor
  · rintro ⟨other, reached, maps⟩
    have same : (⟨next, world.sent ++ sent⟩ : World) = other :=
      Option.mem_unique stepped reached
    subst same
    exact maps
  · intro maps
    exact ⟨_, stepped, maps⟩

private theorem accepted_iff {c : Connection} {user : String} {unset : Uninitialised}
    (after : TableAfter before world.login) (maps : ConnectionMaps world.login)
    (few : FewLogins (before ++ [.loginRequest c user true unset])) :
    KeepsConnectionMaps world (.loginRequest c user true unset) ↔
      OwnConnection world.login (.loginRequest c user true unset) := by
  have table := after.table
  have fresh := table.nextId_not_live (after.few few)
  cases found : world.login.userToIdMap[user]? with
  | none =>
      rw [keepsConnectionMaps_iff_of_handled after few (.firstLogin c user unset found),
        maps.openSession_iff fresh]
      simp only [OwnConnection, found, reduceCtorEq, imp_false]
      exact Option.eq_none_iff_forall_ne_some
  | some oldClientId =>
      have named := (table.users_inverse user oldClientId).mp found
      have live := table.live_of_known found
      rcases FiniteMap.exists_of_mem live with ⟨oldToken, stored⟩
      rcases maps.exists_connection live with ⟨oldConnection, connected, carried⟩
      have removable := maps.removable table named connected
      have retired : ConnectionMaps (forget world.login user oldClientId oldConnection) :=
        (maps.forget_iff removable.connection_known).mpr connected
      have freshAfter : nextId (forget world.login user oldClientId oldConnection) ∉
          (forget world.login user oldClientId oldConnection).userTokenMap :=
        fun member => fresh (FiniteMap.mem_erase_iff.mp member).2
      rw [keepsConnectionMaps_iff_of_handled after few
          (.relogin c user unset oldClientId oldToken oldConnection found stored connected
            removable),
        retired.openSession_iff freshAfter]
      simp only [OwnConnection, found, forget, FiniteMap.getElem?_erase_eq, Option.some.injEq]
      constructor
      · intro free clientId atC
        by_cases same : oldConnection = c
        · exact Option.mem_unique carried (same ▸ atC)
        · rw [if_neg same, atC] at free
          cases free
      · intro own
        by_cases same : oldConnection = c
        · exact if_pos same
        · rw [if_neg same]
          apply Option.eq_none_iff_forall_ne_some.mpr
          intro clientId atC
          have back := (maps.inverse clientId c).mpr atC
          rw [← own clientId atC, connected] at back
          exact same (Option.some.inj back)

private theorem logout_iff {c : Connection} {clientId token : Int}
    (after : TableAfter before world.login) (maps : ConnectionMaps world.login)
    (few : FewLogins (before ++ [.logoutRequest c clientId token])) :
    KeepsConnectionMaps world (.logoutRequest c clientId token) ↔
      OwnConnection world.login (.logoutRequest c clientId token) := by
  have table := after.table
  cases found : world.login.userTokenMap[clientId]? with
  | none =>
      rw [keepsConnectionMaps_iff_of_handled after few (.logoutUnknown c clientId token found)]
      simp only [OwnConnection, found, reduceCtorEq, false_implies, iff_true]
      exact maps
  | some stored =>
      by_cases wrong : stored = token
      · subst wrong
        have live := FiniteMap.mem_of_getElem? found
        rcases table.exists_user live with ⟨user, named, _⟩
        simp only [OwnConnection, found, true_implies]
        constructor
        · rintro ⟨⟨next, log⟩, stepped, left⟩
          rcases handled_of_step after few stepped with ⟨sent, handled, _⟩
          cases handled with
          | logoutUnknown _ _ _ unknown =>
              rw [found] at unknown
              cases unknown
          | logoutWrongToken _ _ _ other known different =>
              exact absurd (Option.mem_unique known found) different
          | logout _ _ _ user _ _ removable =>
              exact (maps.forget_iff removable.connection_known).mp left
        · intro connected
          have removable := maps.removable table named connected
          refine (keepsConnectionMaps_iff_of_handled after few
            (.logout c clientId stored user found named removable)).mpr ?_
          exact (maps.forget_iff removable.connection_known).mpr connected
      · rw [keepsConnectionMaps_iff_of_handled after few
          (.logoutWrongToken c clientId token stored found wrong)]
        simp only [OwnConnection, found, Option.some.injEq, wrong, false_implies, iff_true]
        exact maps

private theorem closed_keeps {c : Connection} (after : TableAfter before world.login)
    (maps : ConnectionMaps world.login) (few : FewLogins (before ++ [.connectionClosed c])) :
    KeepsConnectionMaps world (.connectionClosed c) := by
  cases carried : world.login.connectionToIdMap[c]? with
  | none => exact (keepsConnectionMaps_iff_of_handled after few (.closedUnknown c carried)).mpr maps
  | some clientId =>
      have live := maps.live_of_carried carried
      have connected := (maps.inverse clientId c).mpr carried
      rcases after.table.exists_user live with ⟨user, named, _⟩
      have removable := maps.removable after.table named connected
      refine (keepsConnectionMaps_iff_of_handled after few
        (.closed c clientId user carried named removable)).mpr ?_
      exact (maps.forget_iff removable.connection_known).mpr connected

/-- One event: with the maps in step before it, they are in step after it,
and every used lookup succeeds, exactly when the event meets the condition. -/
theorem keepsConnectionMaps_iff (after : TableAfter before world.login)
    (maps : ConnectionMaps world.login) (few : FewLogins (before ++ [event])) :
    KeepsConnectionMaps world event ↔ OwnConnection world.login event := by
  cases event with
  | loginRequest c user valid unset =>
      cases valid with
      | true => exact accepted_iff after maps few
      | false =>
          rw [keepsConnectionMaps_iff_of_handled after few (.refused c user unset)]
          exact ⟨fun _ => trivial, fun _ => maps⟩
  | logoutRequest c clientId token => exact logout_iff after maps few
  | connectionClosed c => exact ⟨fun _ => trivial, fun _ => closed_keeps after maps few⟩
  | controlConnection c =>
      rw [keepsConnectionMaps_iff_of_handled after few (.control c)]
      exact ⟨fun _ => trivial, fun _ => maps.withControl (some c)⟩

end OneEvent

/-- Along every run, the connection maps are in step after every event and
every used lookup succeeds, if and only if every accepted login comes on a
connection free of other users' sessions and every successful logout comes on
its session's connection. -/
theorem connection_maps_iff_own_connections {events : List Event} (few : FewLogins events) :
    AtEach step (fun _ world event => KeepsConnectionMaps world event) World.initial events ↔
      AtEach step (fun _ world event => OwnConnection world.login event) World.initial events := by
  refine atEach_iff FewLogins
    (fun before world => TableAfter before world.login ∧ ConnectionMaps world.login)
    fewLogins_prefixClosed ⟨TableAfter.initial, ConnectionMaps.initial⟩ ?_ ?_ few
  · intro before world event within held
    exact keepsConnectionMaps_iff held.1 held.2 within
  · intro before world event next within held own stepped
    rcases (keepsConnectionMaps_iff held.1 held.2 within).mpr own with ⟨other, reached, maps⟩
    have same : next = other := Option.mem_unique stepped reached
    subst same
    rcases handled_of_step held.1 within stepped with ⟨sent, handled, _⟩
    exact ⟨held.1.step within handled, maps⟩

/-- A login and a logout on the same connection keep the maps in step. -/
theorem connection_maps_of_one_user :
    AtEach step (fun _ world event => KeepsConnectionMaps world event) World.initial
      [.loginRequest 1 "ana" true default, .logoutRequest 1 0 0] := by
  apply (connection_maps_iff_own_connections (by decide)).mpr
  refine atEach_cons.mpr ⟨fun clientId carried => ?_, fun next stepped => ?_⟩
  · cases carried
  · cases stepped
    refine atEach_cons.mpr ⟨fun _ => rfl, fun _ _ => atEach_nil⟩

/-- Two users on one connection: the second one's id leads to the connection,
which still leads to the first one's id. -/
theorem connection_maps_differ_on_shared_connection :
    FewLogins [.loginRequest 1 "ana" true default, .loginRequest 1 "bea" true default] ∧
      ¬ AtEach step (fun _ world event => KeepsConnectionMaps world event) World.initial
        [.loginRequest 1 "ana" true default, .loginRequest 1 "bea" true default] := by
  refine ⟨by decide, fun held => ?_⟩
  rcases held [.loginRequest 1 "ana" true default] _ [] _ rfl rfl with ⟨next, stepped, maps⟩
  cases stepped
  have backward := (maps.inverse 1 1).mp rfl
  cases backward

end LoginServer
end Pxc
