import Pxc.LoginServer.Server

namespace Pxc
namespace LoginServer

open General

/-!
# What the login handlers do

Three handlers remove a session, and all three remove it from the same five
maps.  They differ in the order of their lookups, which does not matter, and
in the connection whose entry they erase, which does: the login handler takes
the connection stored for the old session, the logout handler the connection
its request came on, and the close listener the connection that was closed.

The lemmas of this module state once what each handler does, as a removal
`forget`, an addition `openSession`, and the condition `Removable` under
which all lookups of a removal succeed.
-/

variable {login next : Login} {c connection : Connection} {user : String} {clientId token : Int}
  {sent : List Sent}

/-- A session taken out of the five maps, with the connection entry `c`. -/
def forget (login : Login) (user : String) (clientId : Int) (c : Connection) : Login :=
  { login with
    userToIdMap := login.userToIdMap.erase user
    idToUserMap := login.idToUserMap.erase clientId
    idToConnectionMap := login.idToConnectionMap.erase clientId
    connectionToIdMap := login.connectionToIdMap.erase c
    userTokenMap := login.userTokenMap.erase clientId
    usersConnected := (login.usersConnected + (unsignedRange - 1)) % unsignedRange }

/-- Every lookup of a removal finds its key. -/
structure Removable (login : Login) (user : String) (clientId : Int) (c : Connection) : Prop where
  user_known : user ∈ login.userToIdMap
  id_named : clientId ∈ login.idToUserMap
  id_connected : clientId ∈ login.idToConnectionMap
  connection_known : c ∈ login.connectionToIdMap
  id_live : clientId ∈ login.userTokenMap

/-- The id, and the token, of the next accepted login. -/
def nextId (login : Login) : Int :=
  intOfUnsigned login.nextFreeToken

/-- A session of the next id put into the five maps. -/
def openSession (login : Login) (c : Connection) (user : String) : Login :=
  registerSession
    { login with userTokenMap := login.userTokenMap.insertIfNew (nextId login) (nextId login) }
    c user (nextId login)

theorem endSession_eq_some_iff :
    endSession login c clientId = some next ↔
      ∃ user, login.idToUserMap[clientId]? = some user ∧ Removable login user clientId c ∧
        next = forget login user clientId c := by
  simp only [endSession, Option.bind_eq_bind, Option.bind_eq_some_iff,
    FiniteMap.eraseFound_eq_some_iff, Option.pure_def, Option.some.injEq]
  constructor
  · rintro ⟨user, named, _, ⟨userKnown, rfl⟩, _, ⟨idNamed, rfl⟩, _, ⟨idConnected, rfl⟩, _,
      ⟨connectionKnown, rfl⟩, _, ⟨idLive, rfl⟩, rfl⟩
    exact ⟨user, named, ⟨userKnown, idNamed, idConnected, connectionKnown, idLive⟩, rfl⟩
  · rintro ⟨user, named, removable, rfl⟩
    exact ⟨user, named, _, ⟨removable.user_known, rfl⟩, _, ⟨removable.id_named, rfl⟩, _,
      ⟨removable.id_connected, rfl⟩, _, ⟨removable.connection_known, rfl⟩, _,
      ⟨removable.id_live, rfl⟩, rfl⟩

/-- The close listener looks its keys up in another order than the logout
handler, and removes the same session. -/
theorem dropSession_eq_some_iff :
    dropSession login c clientId = some next ↔
      ∃ user, login.idToUserMap[clientId]? = some user ∧ Removable login user clientId c ∧
        next = forget login user clientId c := by
  simp only [dropSession, Option.bind_eq_bind, Option.bind_eq_some_iff,
    FiniteMap.eraseFound_eq_some_iff, Option.pure_def, Option.some.injEq]
  constructor
  · rintro ⟨user, named, _, ⟨idLive, rfl⟩, _, ⟨connectionKnown, rfl⟩, _, ⟨idConnected, rfl⟩, _,
      ⟨userKnown, rfl⟩, _, ⟨idNamed, rfl⟩, rfl⟩
    exact ⟨user, named, ⟨userKnown, idNamed, idConnected, connectionKnown, idLive⟩, rfl⟩
  · rintro ⟨user, named, removable, rfl⟩
    exact ⟨user, named, _, ⟨removable.id_live, rfl⟩, _, ⟨removable.connection_known, rfl⟩, _,
      ⟨removable.id_connected, rfl⟩, _, ⟨removable.user_known, rfl⟩, _,
      ⟨removable.id_named, rfl⟩, rfl⟩

theorem retireOldSession_eq_some_iff :
    retireOldSession login user clientId = some (next, sent) ↔
      ∃ token connection, login.userTokenMap[clientId]? = some token ∧
        login.idToConnectionMap[clientId]? = some connection ∧
        Removable login user clientId connection ∧ next = forget login user clientId connection ∧
        sent = login.sendControl (.clientDisconnectSend clientId token) := by
  simp only [retireOldSession, Option.bind_eq_bind, Option.bind_eq_some_iff,
    FiniteMap.eraseFound_eq_some_iff, Option.pure_def, Option.some.injEq, Prod.mk.injEq]
  constructor
  · rintro ⟨token, stored, _, ⟨userKnown, rfl⟩, _, ⟨idNamed, rfl⟩, connection, connected, _,
      ⟨connectionKnown, rfl⟩, _, ⟨idConnected, rfl⟩, _, ⟨idLive, rfl⟩, rfl, rfl⟩
    exact ⟨token, connection, stored, connected,
      ⟨userKnown, idNamed, idConnected, connectionKnown, idLive⟩, rfl, rfl⟩
  · rintro ⟨token, connection, stored, connected, removable, rfl, rfl⟩
    exact ⟨token, stored, _, ⟨removable.user_known, rfl⟩, _, ⟨removable.id_named, rfl⟩, connection,
      connected, _, ⟨removable.connection_known, rfl⟩, _, ⟨removable.id_connected, rfl⟩, _,
      ⟨removable.id_live, rfl⟩, rfl, rfl⟩

/-- Entering the new token first and removing the old session afterwards
gives the same maps as the other order, since the two ids differ. -/
theorem forget_enter (different : clientId ≠ nextId login) :
    forget { login with
        userTokenMap := login.userTokenMap.insertIfNew (nextId login) (nextId login) }
        user clientId connection =
      { forget login user clientId connection with
        userTokenMap := (login.userTokenMap.erase clientId).insertIfNew (nextId login)
          (nextId login) } := by
  unfold forget
  rw [FiniteMap.erase_insertIfNew_of_ne login.userTokenMap different]

theorem acceptLogin_new_user (unknown : login.userToIdMap[user]? = none) :
    acceptLogin login c user = some (openSession login c user, []) := by
  simp only [acceptLogin, unknown]
  rfl

/-- A repeated login removes the user's old session, found through its id,
and opens the new one. -/
theorem acceptLogin_old_user_iff (known : login.userToIdMap[user]? = some clientId)
    (different : clientId ≠ nextId login) :
    acceptLogin login c user = some (next, sent) ↔
      ∃ token connection, login.userTokenMap[clientId]? = some token ∧
        login.idToConnectionMap[clientId]? = some connection ∧
        Removable login user clientId connection ∧
        next = openSession (forget login user clientId connection) c user ∧
        sent = login.sendControl (.clientDisconnectSend clientId token) := by
  have notNext : ¬ nextId login = clientId := fun same => different same.symm
  have stored : ∀ token,
      (login.userTokenMap.insertIfNew (nextId login) (nextId login))[clientId]? = some token ↔
        login.userTokenMap[clientId]? = some token := by
    intro token
    rw [Std.ExtTreeMap.getElem?_insertIfNew]
    simp only [Std.compare_eq_iff_eq, notNext, false_and, if_false]
  have live : clientId ∈ login.userTokenMap.insertIfNew (nextId login) (nextId login) ↔
      clientId ∈ login.userTokenMap := by
    rw [FiniteMap.mem_insertIfNew_iff]
    exact or_iff_right notNext
  simp only [acceptLogin, known]
  change ((retireOldSession { login with
      userTokenMap := login.userTokenMap.insertIfNew (nextId login) (nextId login) }
      user clientId).bind fun result =>
        some (registerSession result.1 c user (nextId login), result.2)) = some (next, sent) ↔ _
  simp only [Option.bind_eq_some_iff, Prod.exists, retireOldSession_eq_some_iff,
    Option.some.injEq, Prod.mk.injEq]
  constructor
  · rintro ⟨_, _, ⟨token, connection, tokenStored, connected, removable, rfl, rfl⟩, rfl, rfl⟩
    refine ⟨token, connection, (stored token).mp tokenStored, connected, ?_, ?_, rfl⟩
    · exact ⟨removable.user_known, removable.id_named, removable.id_connected,
        removable.connection_known, live.mp removable.id_live⟩
    · rw [forget_enter different]
      rfl
  · rintro ⟨token, connection, tokenStored, connected, removable, rfl, rfl⟩
    refine ⟨_, _, ⟨token, connection, (stored token).mpr tokenStored, connected, ?_, rfl, rfl⟩,
      ?_, rfl⟩
    · exact ⟨removable.user_known, removable.id_named, removable.id_connected,
        removable.connection_known, live.mpr removable.id_live⟩
    · rw [forget_enter different]
      rfl

/-! ## One handler execution -/

/-- The answer to an accepted login. -/
def acceptedAnswer (login : Login) (c : Connection) (unset : Uninitialised) : Sent :=
  ⟨c, loginRequestSend 0 (strcpy unset.routerIp ROUTER_IP) (strcpy unset.routerPort ROUTER_PORT)
    (nextId login) (nextId login) unset⟩

/-- The answer to a refused login. -/
def refusedAnswer (c : Connection) (unset : Uninitialised) : Sent :=
  ⟨c, loginRequestSend 1 unset.routerIp unset.routerPort unset.clientId unset.token unset⟩

/-- Everything one handler execution can do, with its guards and messages. -/
inductive Handled (login : Login) : Event → Login → List Sent → Prop where
  | refused (c : Connection) (user : String) (unset : Uninitialised) :
      Handled login (.loginRequest c user false unset) login
        (login.sendControl (.newClientSend unset.clientId unset.token) ++ [refusedAnswer c unset])
  | firstLogin (c : Connection) (user : String) (unset : Uninitialised)
      (unknown : login.userToIdMap[user]? = none) :
      Handled login (.loginRequest c user true unset) (openSession login c user)
        (login.sendControl (.newClientSend (nextId login) (nextId login)) ++
          [acceptedAnswer login c unset])
  | relogin (c : Connection) (user : String) (unset : Uninitialised) (oldClientId oldToken : Int)
      (oldConnection : Connection) (known : login.userToIdMap[user]? = some oldClientId)
      (stored : login.userTokenMap[oldClientId]? = some oldToken)
      (connected : login.idToConnectionMap[oldClientId]? = some oldConnection)
      (removable : Removable login user oldClientId oldConnection) :
      Handled login (.loginRequest c user true unset)
        (openSession (forget login user oldClientId oldConnection) c user)
        (login.sendControl (.clientDisconnectSend oldClientId oldToken) ++
          login.sendControl (.newClientSend (nextId login) (nextId login)) ++
          [acceptedAnswer login c unset])
  | logoutUnknown (c : Connection) (clientId token : Int)
      (unknown : login.userTokenMap[clientId]? = none) :
      Handled login (.logoutRequest c clientId token) login [⟨c, .logoutRequestSend 1⟩]
  | logoutWrongToken (c : Connection) (clientId token stored : Int)
      (found : login.userTokenMap[clientId]? = some stored) (wrong : stored ≠ token) :
      Handled login (.logoutRequest c clientId token) login [⟨c, .logoutRequestSend 2⟩]
  | logout (c : Connection) (clientId token : Int) (user : String)
      (stored : login.userTokenMap[clientId]? = some token)
      (named : login.idToUserMap[clientId]? = some user)
      (removable : Removable login user clientId c) :
      Handled login (.logoutRequest c clientId token) (forget login user clientId c)
        (login.sendControl (.clientDisconnectSend clientId token) ++ [⟨c, .logoutRequestSend 0⟩])
  | closedUnknown (c : Connection) (unknown : login.connectionToIdMap[c]? = none) :
      Handled login (.connectionClosed c) login []
  | closed (c : Connection) (clientId : Int) (user : String)
      (carried : login.connectionToIdMap[c]? = some clientId)
      (named : login.idToUserMap[clientId]? = some user)
      (removable : Removable login user clientId c) :
      Handled login (.connectionClosed c) (forget login user clientId c) []
  | control (c : Connection) :
      Handled login (.controlConnection c) { login with controlConnection := some c } []

private theorem loginRequest_iff {unset : Uninitialised} {valid : Bool}
    (unissued : ∀ clientId, login.userToIdMap[user]? = some clientId → clientId ≠ nextId login) :
    LoginRequestRcvd.exec login c user valid unset = some (next, sent) ↔
      Handled login (.loginRequest c user valid unset) next sent := by
  cases valid with
  | false =>
      simp only [LoginRequestRcvd.exec, Bool.false_eq_true, if_false, Option.some.injEq,
        Prod.mk.injEq]
      constructor
      · rintro ⟨rfl, rfl⟩
        exact .refused c user unset
      · intro handled
        cases handled
        exact ⟨rfl, rfl⟩
  | true =>
      have unfolded : LoginRequestRcvd.exec login c user true unset =
          (acceptLogin login c user).bind fun result =>
            some (result.1, result.2 ++
              result.1.sendControl (.newClientSend (nextId login) (nextId login)) ++
              [acceptedAnswer login c unset]) := rfl
      rw [unfolded]
      simp only [Option.bind_eq_some_iff, Prod.exists, Option.some.injEq, Prod.mk.injEq]
      cases found : login.userToIdMap[user]? with
      | none =>
          rw [acceptLogin_new_user found]
          simp only [Option.some.injEq, Prod.mk.injEq]
          constructor
          · rintro ⟨_, _, ⟨rfl, rfl⟩, rfl, rfl⟩
            exact .firstLogin c user unset found
          · intro handled
            cases handled with
            | firstLogin => exact ⟨_, _, ⟨rfl, rfl⟩, rfl, rfl⟩
            | relogin _ _ _ oldClientId oldToken oldConnection known =>
                rw [found] at known
                cases known
      | some clientId =>
          simp only [acceptLogin_old_user_iff found (unissued clientId found)]
          constructor
          · rintro ⟨_, _, ⟨token, connection, stored, connected, removable, rfl, rfl⟩, rfl, rfl⟩
            exact .relogin c user unset clientId token connection found stored connected removable
          · intro handled
            cases handled with
            | firstLogin _ _ _ unknown =>
                rw [found] at unknown
                cases unknown
            | relogin _ _ _ oldClientId oldToken oldConnection known stored connected removable =>
                have same : clientId = oldClientId := Option.mem_unique found known
                subst same
                exact ⟨_, _, ⟨oldToken, oldConnection, stored, connected, removable, rfl, rfl⟩,
                  rfl, rfl⟩

private theorem logoutRequest_iff :
    LogoutRequestRcvd.exec login c clientId token = some (next, sent) ↔
      Handled login (.logoutRequest c clientId token) next sent := by
  cases found : login.userTokenMap[clientId]? with
  | none =>
      simp only [LogoutRequestRcvd.exec, found, Option.some.injEq, Prod.mk.injEq]
      constructor
      · rintro ⟨rfl, rfl⟩
        exact .logoutUnknown c clientId token found
      · intro handled
        cases handled with
        | logoutUnknown => exact ⟨rfl, rfl⟩
        | logoutWrongToken _ _ _ other known => rw [found] at known; cases known
        | logout _ _ _ user stored => rw [found] at stored; cases stored
  | some stored =>
      by_cases wrong : stored ≠ token
      · simp only [LogoutRequestRcvd.exec, found, if_pos wrong, Option.some.injEq, Prod.mk.injEq]
        constructor
        · rintro ⟨rfl, rfl⟩
          exact .logoutWrongToken c clientId token stored found wrong
        · intro handled
          cases handled with
          | logoutUnknown _ _ _ unknown => rw [found] at unknown; cases unknown
          | logoutWrongToken => exact ⟨rfl, rfl⟩
          | logout _ _ _ user same => exact absurd (Option.mem_unique found same) wrong
      · simp only [LogoutRequestRcvd.exec, found, if_neg wrong, Option.bind_eq_bind,
          Option.bind_eq_some_iff, Option.pure_def, Option.some.injEq, Prod.mk.injEq,
          endSession_eq_some_iff]
        have same : stored = token := not_not.mp wrong
        subst same
        constructor
        · rintro ⟨_, ⟨user, named, removable, rfl⟩, rfl, rfl⟩
          exact .logout c clientId stored user found named removable
        · intro handled
          cases handled with
          | logoutUnknown _ _ _ unknown => rw [found] at unknown; cases unknown
          | logoutWrongToken _ _ _ other known different =>
              exact absurd (Option.mem_unique known found) different
          | logout _ _ _ user same named removable =>
              exact ⟨_, ⟨user, named, removable, rfl⟩, rfl, rfl⟩

private theorem connectionClosed_iff :
    ClientClosedConnection.callOnClose login c = some (next, sent) ↔
      Handled login (.connectionClosed c) next sent := by
  cases found : login.connectionToIdMap[c]? with
  | none =>
      simp only [ClientClosedConnection.callOnClose, found, Option.some.injEq, Prod.mk.injEq]
      constructor
      · rintro ⟨rfl, rfl⟩
        exact .closedUnknown c found
      · intro handled
        cases handled with
        | closedUnknown => exact ⟨rfl, rfl⟩
        | closed _ clientId user carried => rw [found] at carried; cases carried
  | some clientId =>
      simp only [ClientClosedConnection.callOnClose, found, Option.bind_eq_bind,
        Option.bind_eq_some_iff, Option.pure_def, Option.some.injEq, Prod.mk.injEq,
        dropSession_eq_some_iff]
      constructor
      · rintro ⟨_, ⟨user, named, removable, rfl⟩, rfl, rfl⟩
        exact .closed c clientId user found named removable
      · intro handled
        cases handled with
        | closedUnknown _ unknown => rw [found] at unknown; cases unknown
        | closed _ other user carried named removable =>
            have same : clientId = other := Option.mem_unique found carried
            subst same
            exact ⟨_, ⟨user, named, removable, rfl⟩, rfl, rfl⟩

/-- One handler execution does exactly one of the listed things, provided
that no known user holds the next id already. -/
theorem handle_iff {event : Event}
    (unissued : ∀ (user : String) (clientId : Int), login.userToIdMap[user]? = some clientId →
      clientId ≠ nextId login) :
    handle login event = some (next, sent) ↔ Handled login event next sent := by
  cases event with
  | loginRequest c user valid unset => exact loginRequest_iff (unissued user)
  | logoutRequest c clientId token => exact logoutRequest_iff
  | connectionClosed c => exact connectionClosed_iff
  | controlConnection c =>
      simp only [handle, ControlConnectionRcvd.exec, Option.some.injEq, Prod.mk.injEq]
      constructor
      · rintro ⟨rfl, rfl⟩
        exact .control c
      · intro handled
        cases handled
        exact ⟨rfl, rfl⟩

/-- The session data when an accepted login looks for the user's old session:
its own token is already entered. -/
def enterToken (login : Login) : Login :=
  { login with userTokenMap := login.userTokenMap.insertIfNew (nextId login) (nextId login) }

/-- The keys that a handler looks up are in the maps. -/
def FindsKeys (login : Login) : Event → Prop
  | .loginRequest _ user valid _ => valid = true →
      ∀ oldClientId : Int, login.userToIdMap[user]? = some oldClientId →
        ∃ oldConnection : Connection, login.idToConnectionMap[oldClientId]? = some oldConnection ∧
          Removable (enterToken login) user oldClientId oldConnection
  | .logoutRequest c clientId token => login.userTokenMap[clientId]? = some token →
      ∃ user, login.idToUserMap[clientId]? = some user ∧ Removable login user clientId c
  | .connectionClosed c => ∀ clientId : Int, login.connectionToIdMap[c]? = some clientId →
      ∃ user, login.idToUserMap[clientId]? = some user ∧ Removable login user clientId c
  | .controlConnection _ => True

/-- The connections that a handler answers on: the one its request came on,
and Control's when there is something to tell. -/
def Answers (login : Login) (c : Connection) : Event → Prop
  | .loginRequest own _ _ _ => c = own ∨ login.controlConnection = some c
  | .logoutRequest own clientId token =>
      c = own ∨ (login.userTokenMap[clientId]? = some token ∧ login.controlConnection = some c)
  | .connectionClosed _ => False
  | .controlConnection _ => False

theorem FindsKeys.withControl {event : Event} (finds : FindsKeys login event)
    (control : Option Connection) :
    FindsKeys { login with controlConnection := control } event := by
  have removable : ∀ {before after : Login} {user : String} {clientId : Int} {c : Connection},
      Removable before user clientId c → after = { before with controlConnection := control } →
        Removable after user clientId c := by
    rintro before _ user clientId c removable rfl
    exact ⟨removable.1, removable.2, removable.3, removable.4, removable.5⟩
  cases event with
  | loginRequest c user valid unset =>
      intro accepted oldClientId known
      rcases finds accepted oldClientId known with ⟨connection, connected, found⟩
      exact ⟨connection, connected, removable found rfl⟩
  | logoutRequest c clientId token =>
      intro stored
      rcases finds stored with ⟨user, named, found⟩
      exact ⟨user, named, removable found rfl⟩
  | connectionClosed c =>
      intro clientId carried
      rcases finds clientId carried with ⟨user, named, found⟩
      exact ⟨user, named, removable found rfl⟩
  | controlConnection c => trivial

/-- After Control's registration, a handler answers Control in addition. -/
theorem answers_withControl {event : Event} {control other : Connection}
    (answers : Answers { login with controlConnection := some control } other event) :
    other = control ∨ Answers login other event := by
  cases event with
  | loginRequest own user valid unset =>
      rcases answers with same | told
      · exact .inr (.inl same)
      · exact .inl (Option.some.inj told).symm
  | logoutRequest own clientId token =>
      rcases answers with same | ⟨_, told⟩
      · exact .inr (.inl same)
      · exact .inl (Option.some.inj told).symm
  | connectionClosed c => exact answers.elim
  | controlConnection c => exact answers.elim

theorem mem_sendControl_iff {message : Message} :
    c ∈ (login.sendControl message).map Sent.connection ↔ login.controlConnection = some c := by
  unfold Login.sendControl
  cases login.controlConnection with
  | none => simp only [List.map_nil, List.not_mem_nil, reduceCtorEq]
  | some control =>
      simp only [List.map_cons, List.map_nil, List.mem_singleton, Option.some.injEq, eq_comm]

/-- What a handler that is defined has found and whom it answers. -/
def Outcome (login : Login) (event : Event) (sent : List Sent) : Prop :=
  FindsKeys login event ∧ ∀ c, c ∈ sent.map Sent.connection ↔ Answers login c event

private theorem outcome_login {unset : Uninitialised} {valid : Bool}
    (handled : LoginRequestRcvd.exec login c user valid unset = some (next, sent)) :
    Outcome login (.loginRequest c user valid unset) sent := by
  cases valid with
  | false =>
      cases handled
      refine ⟨Bool.noConfusion, fun other => ?_⟩
      rw [List.map_append, List.mem_append, mem_sendControl_iff, List.map_cons, List.map_nil,
        List.mem_singleton]
      exact or_comm
  | true =>
      rcases Option.bind_eq_some_iff.mp handled with ⟨⟨accepted, notices⟩, accepts, done⟩
      cases done
      have told : next.controlConnection = login.controlConnection ∧
          (∀ other, other ∈ notices.map Sent.connection →
            login.controlConnection = some other) ∧
          ∀ oldClientId : Int, login.userToIdMap[user]? = some oldClientId →
            ∃ oldConnection : Connection,
              login.idToConnectionMap[oldClientId]? = some oldConnection ∧
                Removable (enterToken login) user oldClientId oldConnection := by
        cases found : login.userToIdMap[user]? with
        | none =>
            rw [acceptLogin_new_user found] at accepts
            cases accepts
            refine ⟨rfl, fun _ member => absurd member List.not_mem_nil,
              fun oldClientId known => ?_⟩
            cases known
        | some clientId =>
            simp only [acceptLogin, found] at accepts
            rcases Option.bind_eq_some_iff.mp accepts with ⟨⟨retired, left⟩, retires, same⟩
            cases same
            rcases retireOldSession_eq_some_iff.mp retires with
              ⟨_, connection, _, connected, removable, rfl, rfl⟩
            refine ⟨rfl, fun other member => mem_sendControl_iff.mp member, ?_⟩
            rintro _ ⟨⟩
            exact ⟨connection, connected, removable⟩
      refine ⟨fun _ => told.2.2, fun other => ?_⟩
      simp only [List.map_append, List.mem_append, mem_sendControl_iff, told.1, List.map_cons,
        List.map_nil, List.mem_singleton, Answers]
      constructor
      · rintro ((notice | control) | own)
        · exact .inr (told.2.1 other notice)
        · exact .inr control
        · exact .inl own
      · rintro (own | control)
        · exact .inr own
        · exact .inl (.inr control)

private theorem outcome_logout
    (handled : LogoutRequestRcvd.exec login c clientId token = some (next, sent)) :
    Outcome login (.logoutRequest c clientId token) sent := by
  have refusal : ∀ answer, login.userTokenMap[clientId]? ≠ some token →
      Outcome login (.logoutRequest c clientId token) [⟨c, answer⟩] := by
    intro answer other
    refine ⟨fun same => absurd same other, fun connection => ?_⟩
    simp only [List.map_cons, List.map_nil, List.mem_singleton, Answers, other, false_and, or_false]
  cases logoutRequest_iff.mp handled with
  | logoutUnknown _ _ _ unknown =>
      refine refusal _ ?_
      rw [unknown]
      exact Option.some_ne_none token |>.symm
  | logoutWrongToken _ _ _ stored found wrong =>
      refine refusal _ ?_
      rw [found]
      exact fun same => wrong (Option.some.inj same)
  | logout _ _ _ user stored named removable =>
      refine ⟨fun _ => ⟨user, named, removable⟩, fun connection => ?_⟩
      simp only [List.map_append, List.mem_append, mem_sendControl_iff, List.map_cons, List.map_nil,
        List.mem_singleton, Answers, stored, true_and]
      exact or_comm

theorem outcome_of_handle {event : Event} (handled : handle login event = some (next, sent)) :
    Outcome login event sent := by
  cases event with
  | loginRequest c user valid unset => exact outcome_login handled
  | logoutRequest c clientId token => exact outcome_logout handled
  | connectionClosed c =>
      cases connectionClosed_iff.mp handled with
      | closedUnknown _ unknown =>
          refine ⟨fun clientId carried => ?_, fun _ => iff_of_false List.not_mem_nil id⟩
          rw [unknown] at carried
          cases carried
      | closed _ clientId user carried named removable =>
          refine ⟨fun other found => ?_, fun _ => iff_of_false List.not_mem_nil id⟩
          cases Option.mem_unique carried found
          exact ⟨user, named, removable⟩
  | controlConnection c =>
      cases handled
      exact ⟨trivial, fun _ => iff_of_false List.not_mem_nil id⟩

/-- A handler that finds its keys is defined. -/
theorem FindsKeys.exists_handle {event : Event} (finds : FindsKeys login event) :
    ∃ next sent, handle login event = some (next, sent) := by
  cases event with
  | loginRequest c user valid unset =>
      cases valid with
      | false => exact ⟨_, _, rfl⟩
      | true =>
          have accepted : ∃ result, acceptLogin login c user = some result := by
            cases found : login.userToIdMap[user]? with
            | none => exact ⟨_, acceptLogin_new_user found⟩
            | some clientId =>
                rcases finds rfl clientId found with ⟨connection, connected, removable⟩
                rcases FiniteMap.exists_of_mem removable.id_live with ⟨token, stored⟩
                have retires := retireOldSession_eq_some_iff.mpr
                  ⟨token, connection, stored, connected, removable, rfl, rfl⟩
                simp only [acceptLogin, found]
                exact ⟨_, congrArg (Option.bind · _) retires⟩
          rcases accepted with ⟨result, accepts⟩
          exact ⟨_, _, congrArg (Option.bind · _) accepts⟩
  | logoutRequest c clientId token =>
      cases found : login.userTokenMap[clientId]? with
      | none => exact ⟨_, _, logoutRequest_iff.mpr (.logoutUnknown c clientId token found)⟩
      | some stored =>
          by_cases wrong : stored = token
          · subst wrong
            rcases finds found with ⟨user, named, removable⟩
            exact ⟨_, _, logoutRequest_iff.mpr
              (.logout c clientId stored user found named removable)⟩
          · exact ⟨_, _, logoutRequest_iff.mpr
              (.logoutWrongToken c clientId token stored found wrong)⟩
  | connectionClosed c =>
      cases found : login.connectionToIdMap[c]? with
      | none => exact ⟨_, _, connectionClosed_iff.mpr (.closedUnknown c found)⟩
      | some clientId =>
          rcases finds clientId found with ⟨user, named, removable⟩
          exact ⟨_, _, connectionClosed_iff.mpr (.closed c clientId user found named removable)⟩
  | controlConnection c => exact ⟨_, _, rfl⟩

end LoginServer
end Pxc
