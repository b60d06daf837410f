import Pxc.LoginServer.SessionTable

namespace Pxc
namespace LoginServer

open General

/-!
# What the login server tells Control

Control learns about clients from two messages: a new client with its token,
and a client that left.  The clients Control believes to be online are the
ones announced and not withdrawn since.  This belief is compared, as a map
from ids to tokens, with the login server's own token map.

The two agree along a run exactly when no login of the run is refused, no
closed connection has an id, and the lookups that a login and a logout use
find their keys.  A refused login is announced like an accepted one, with
whatever the two locals hold, and the close listener withdraws nothing.  A
handler that works on `end()` does so before its notice.
-/

variable {login : Login} {c : Connection} {clientId token : Int}

/-- The messages Control takes for a change of the clients online. -/
def Message.isNotice : Message → Bool
  | .newClientSend _ _ => true
  | .clientDisconnectSend _ _ => true
  | _ => false

/-- The effect of one message on the clients Control believes to be online. -/
def announce (online : FiniteMap Int Int) (sent : Sent) : FiniteMap Int Int :=
  match sent.message with
  | .newClientSend clientId token => online.insert clientId token
  | .clientDisconnectSend clientId _ => online.erase clientId
  | _ => online

/-- The clients announced and not withdrawn since, with their tokens. -/
def announced (sent : List Sent) : FiniteMap Int Int :=
  sent.foldl announce ∅

theorem announced_append (first second : List Sent) :
    announced (first ++ second) = second.foldl announce (announced first) :=
  List.foldl_append

/-- The login server after Control has announced itself, before any client. -/
def World.online (control : Connection) : World :=
  ⟨{ Login.initializeLogin with controlConnection := some control }, []⟩

def Event.refused : Event → Bool
  | .loginRequest _ _ valid _ => !valid
  | _ => false

/-- The event is handled without a failed lookup, Control's belief after it is
the token map, and a refused login has caused no notice. -/
def TellsControl (world : World) (event : Event) : Prop :=
  ∃ next sent, handle world.login event = some (next, sent) ∧
    announced (world.sent ++ sent) = next.userTokenMap ∧
      (event.refused = true → ∀ message ∈ sent, message.message.isNotice = false)

/-- No login is refused, and one of a user who is online finds a connection
for the old id that has an id itself.  A logout with the right token finds the
connection of its id, and its own connection has an id.  A connection that
closes has none. -/
def Announceable (login : Login) : Event → Prop
  | .loginRequest _ user valid _ => valid = true ∧
      ∀ oldClientId : Int, login.userToIdMap[user]? = some oldClientId →
        ∃ oldConnection : Connection, login.idToConnectionMap[oldClientId]? = some oldConnection ∧
          oldConnection ∈ login.connectionToIdMap
  | .logoutRequest c clientId token => login.userTokenMap[clientId]? = some token →
      clientId ∈ login.idToConnectionMap ∧ c ∈ login.connectionToIdMap
  | .connectionClosed c => c ∉ login.connectionToIdMap
  | .controlConnection _ => True

/-- Under the condition all lookups of the handler succeed. -/
theorem Announceable.exists_handled {event : Event} (announceable : Announceable login event)
    (table : SessionTable login) : ∃ next sent, Handled login event next sent := by
  cases event with
  | loginRequest c user valid unset =>
      rcases announceable with ⟨rfl, reachable⟩
      cases found : login.userToIdMap[user]? with
      | none => exact ⟨_, _, .firstLogin c user unset found⟩
      | some oldClientId =>
          have named := (table.users_inverse user oldClientId).mp found
          have live := table.live_of_known found
          rcases FiniteMap.exists_of_mem live with ⟨oldToken, stored⟩
          rcases reachable oldClientId found with ⟨oldConnection, connected, known⟩
          exact ⟨_, _, .relogin c user unset oldClientId oldToken oldConnection found stored
            connected
            { user_known := FiniteMap.mem_of_getElem? found
              id_named := FiniteMap.mem_of_getElem? named
              id_connected := FiniteMap.mem_of_getElem? connected
              connection_known := known
              id_live := live }⟩
  | logoutRequest c clientId token =>
      cases found : login.userTokenMap[clientId]? with
      | none => exact ⟨_, _, .logoutUnknown c clientId token found⟩
      | some stored =>
          by_cases wrong : stored = token
          · subst wrong
            have live := FiniteMap.mem_of_getElem? found
            rcases table.exists_user live with ⟨user, named, known⟩
            rcases announceable found with ⟨connected, own⟩
            exact ⟨_, _, .logout c clientId stored user found named
              { user_known := FiniteMap.mem_of_getElem? known
                id_named := FiniteMap.mem_of_getElem? named
                id_connected := connected
                connection_known := own
                id_live := live }⟩
          · exact ⟨_, _, .logoutWrongToken c clientId token stored found wrong⟩
  | connectionClosed c =>
      exact ⟨_, _, .closedUnknown c (FiniteMap.getElem?_eq_none_iff.mpr announceable)⟩
  | controlConnection c => exact ⟨_, _, .control c⟩

/-- The invariant of a run with Control connected. -/
structure ControlInformed (before : List Event) (world : World) : Prop where
  after : TableAfter before world.login
  believed : announced world.sent = world.login.userTokenMap
  connected : ∃ control, world.login.controlConnection = some control

namespace ControlInformed

variable {before : List Event} {event : Event} {world : World} {next : Login} {sent : List Sent}

theorem online (control : Connection) : ControlInformed [] (World.online control) where
  after := ⟨SessionTable.initial.withControl (some control), rfl, TableAfter.initial.bounded⟩
  believed := rfl
  connected := ⟨control, rfl⟩

/-- The belief after a handler that tells Control of one more client. -/
private theorem believed_openSession {believed : FiniteMap Int Int} {control : Connection}
    {user : String} {unset : Uninitialised} (table : SessionTable login)
    (few : login.nextFreeToken < 2 ^ 31) (same : believed = login.userTokenMap) :
    [⟨control, .newClientSend (nextId login) (nextId login)⟩,
        acceptedAnswer login c unset].foldl announce believed =
      (openSession login c user).userTokenMap := by
  change believed.insert (nextId login) (nextId login) =
    login.userTokenMap.insertIfNew (nextId login) (nextId login)
  rw [same, FiniteMap.insert_eq_insertIfNew (table.nextId_not_live few)]

/-- What one handler execution does to the belief, unless it is one of the
two that keep Control uninformed. -/
theorem believed_of_handled (informed : ControlInformed before world)
    (few : FewLogins (before ++ [event])) (announceable : Announceable world.login event)
    (handled : Handled world.login event next sent) :
    announced (world.sent ++ sent) = next.userTokenMap := by
  have table := informed.after.table
  have small := informed.after.few few
  rcases informed.connected with ⟨control, connected⟩
  have toControl : ∀ message, world.login.sendControl message = [⟨control, message⟩] := by
    intro message
    simp only [Login.sendControl, connected]
  rw [announced_append, informed.believed]
  cases handled with
  | refused => cases announceable.1
  | firstLogin c user unset unknown =>
      rw [toControl]
      exact believed_openSession table small rfl
  | relogin c user unset oldClientId oldToken oldConnection known stored connected removable =>
      rw [toControl, toControl]
      have named := (table.users_inverse user oldClientId).mp known
      have retired : SessionTable (forget world.login user oldClientId oldConnection) :=
        table.forget (informed.after.room few) named removable.id_live
      exact believed_openSession retired small rfl
  | logoutUnknown => rfl
  | logoutWrongToken => rfl
  | logout =>
      rw [toControl]
      rfl
  | closedUnknown => rfl
  | closed c clientId user carried named removable =>
      exact absurd removable.connection_known announceable
  | control => rfl

/-- Two handler executions leave Control uninformed: the refused login, which
is announced, and the removal by the close listener, which is not withdrawn. -/
theorem announceable_of_handled (informed : ControlInformed before world)
    (believed : announced (world.sent ++ sent) = next.userTokenMap)
    (silent : event.refused = true → ∀ message ∈ sent, message.message.isNotice = false)
    (handled : Handled world.login event next sent) : Announceable world.login event := by
  have table := informed.after.table
  rcases informed.connected with ⟨control, connected⟩
  cases handled with
  | refused c user unset =>
      have notice := silent rfl ⟨control, .newClientSend unset.clientId unset.token⟩ (by
        simp only [Login.sendControl, connected, List.cons_append, List.mem_cons, true_or])
      cases notice
  | firstLogin c user unset unknown =>
      refine ⟨rfl, fun oldClientId found => ?_⟩
      rw [unknown] at found
      cases found
  | relogin c user unset oldClientId oldToken oldConnection known stored connected removable =>
      refine ⟨rfl, fun clientId found => ?_⟩
      cases Option.mem_unique known found
      exact ⟨oldConnection, connected, removable.connection_known⟩
  | logoutUnknown c clientId token unknown =>
      intro found
      rw [unknown] at found
      cases found
  | logoutWrongToken c clientId token stored known wrong =>
      exact fun found => absurd (Option.mem_unique known found) wrong
  | logout c clientId token user stored named removable =>
      exact fun _ => ⟨removable.id_connected, removable.connection_known⟩
  | closedUnknown c unknown => exact FiniteMap.getElem?_eq_none_iff.mp unknown
  | closed c clientId user _ _ removable =>
      rw [List.append_nil, informed.believed] at believed
      have live := removable.id_live
      rw [believed] at live
      exact absurd rfl (FiniteMap.mem_erase_iff.mp live).1
  | control => trivial

theorem tells_iff (informed : ControlInformed before world) (few : FewLogins (before ++ [event])) :
    TellsControl world event ↔ Announceable world.login event := by
  have unissued := informed.after.table.unissued (informed.after.few few)
  constructor
  · rintro ⟨next, sent, done, believed, silent⟩
    exact informed.announceable_of_handled believed silent ((handle_iff unissued).mp done)
  · intro announceable
    rcases announceable.exists_handled informed.after.table with ⟨next, sent, handled⟩
    refine ⟨next, sent, (handle_iff unissued).mpr handled,
      informed.believed_of_handled few announceable handled, ?_⟩
    intro refused
    cases event with
    | loginRequest c user valid unset =>
        rw [announceable.1] at refused
        cases refused
    | logoutRequest => cases refused
    | connectionClosed => cases refused
    | controlConnection => cases refused

private theorem connected_after (informed : ControlInformed before world)
    (handled : Handled world.login event next sent) :
    ∃ control, next.controlConnection = some control := by
  cases handled with
  | control c => exact ⟨c, rfl⟩
  | _ => exact informed.connected

theorem step (informed : ControlInformed before world) (few : FewLogins (before ++ [event]))
    (announceable : Announceable world.login event) {following : World}
    (stepped : LoginServer.step world event = some following) :
    ControlInformed (before ++ [event]) following := by
  rcases handled_of_step informed.after few stepped with ⟨sent, handled, log⟩
  refine ⟨informed.after.step few handled, ?_, informed.connected_after handled⟩
  rw [log]
  exact informed.believed_of_handled few announceable handled

end ControlInformed

/-- Along every run with Control connected, every event is handled, Control's
belief is the token map after it, and no refused login is announced, if and
only if every event of the run meets the condition. -/
theorem control_told_iff_announceable {control : Connection} {events : List Event}
    (few : FewLogins events) :
    AtEach step (fun _ world event => TellsControl world event) (World.online control) events ↔
      AtEach step (fun _ world event => Announceable world.login event)
        (World.online control) events := by
  refine atEach_iff FewLogins ControlInformed fewLogins_prefixClosed
    (ControlInformed.online control) ?_ ?_ few
  · intro before world event within informed
    exact informed.tells_iff within
  · intro before world event next within informed announceable stepped
    exact informed.step within announceable stepped

/-- A login and its logout are told to Control. -/
theorem control_told_of_one_user :
    AtEach step (fun _ world event => TellsControl world event) (World.online 9)
      [.loginRequest 1 "ana" true default, .logoutRequest 1 0 0] := by
  apply (control_told_iff_announceable (by decide)).mpr
  refine atEach_cons.mpr ⟨⟨rfl, fun oldClientId known => ?_⟩, fun next stepped => ?_⟩
  · cases known
  · cases stepped
    refine atEach_cons.mpr ⟨fun _ => ⟨?_, ?_⟩, fun _ _ => atEach_nil⟩
    · decide
    · decide

/-- Control still counts a client whose connection was closed. -/
theorem control_not_told_of_closed_connection :
    FewLogins [.loginRequest 1 "ana" true default, .connectionClosed 1] ∧
      ¬ AtEach step (fun _ world event => TellsControl world event) (World.online 9)
        [.loginRequest 1 "ana" true default, .connectionClosed 1] := by
  refine ⟨by decide, fun held => ?_⟩
  rcases held [.loginRequest 1 "ana" true default] _ [] _ rfl rfl with
    ⟨next, sent, done, believed, _⟩
  cases done
  have absent : (announced [⟨9, .newClientSend 0 0⟩])[(0 : Int)]? = none :=
    congrArg (fun entries : FiniteMap Int Int => entries[(0 : Int)]?) believed
  cases absent

/-- A logout on another connection than the login's ends before Control is
told. -/
example : ¬ AtEach step (fun _ world event => TellsControl world event) (World.online 9)
    [.loginRequest 1 "ana" true default, .logoutRequest 2 0 0] := by
  intro held
  rcases held [.loginRequest 1 "ana" true default] _ [] _ rfl rfl with ⟨next, sent, done, _⟩
  cases done

end LoginServer
end Pxc
