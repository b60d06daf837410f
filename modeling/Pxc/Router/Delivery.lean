import Pxc.General.Enumerations
import Pxc.Router.Membership
import Pxc.Router.Tables

namespace Pxc
namespace Router

open General

/-!
# Who gets a message

A message is handed on to one user, to the users of a zone, or to the users of
the zones of a server.  Exact delivery means that the users are enumerated,
and that the message is sent to each of them that has a connection.

The users of a zone stand once in its table.  The tables of two zones have no
user in common while users and tables agree, so that the users of a server
are enumerated zone by zone.  Which server has a zone plays no part in it.

Sending to a zone compares the result of its search with `end()` the wrong way
round.  Nobody in a zone that is found gets the message, and for a zone that
is not found the operation goes through `end()`.
-/

variable {router next : Router} {idUser idZone idServer : Int} {t : Transferable}

/-- The connection of the user found under an id. -/
def connectionOf (router : Router) (idUser : Int) : Option Connection :=
  (router.findUser idUser).bind User.mConnection

/-- What the user gets, if it has a connection. -/
def sentTo (router : Router) (t : Transferable) (idUser : Int) : Option Output :=
  (router.connectionOf idUser).map fun c => .sent c t

/-- The message is sent once to each connected user that is to receive it, and
nothing else happens. -/
def Delivers (router : Router) (receives : Int → Prop) (t : Transferable)
    (result : Option (List Output)) : Prop :=
  ∃ receivers, Enumerates receivers receives ∧
    result = some (receivers.filterMap (router.sentTo t))

/-- The user is in a zone of the server's table. -/
def InServer (router : Router) (idUser idServer : Int) : Prop :=
  ∃ server, router.findServer idServer = some server ∧
    ∃ idZone, idZone ∈ server.mZones ∧ router.InTable idUser idZone

/-- The three ways of sending, each to those it names. -/
structure DeliversExactly (router : Router) (idUser idZone idServer : Int) (t : Transferable) :
    Prop where
  toUser : router.Delivers (fun receiver => receiver = idUser) t (router.sendToUser idUser t)
  toZone : router.Delivers (fun receiver => router.InTable receiver idZone) t
    (router.sendToZone idZone t)
  toServer : router.Delivers (fun receiver => router.InServer receiver idServer) t
    (router.sendToServerUsers idServer t)

theorem Delivers.exists_outputs {receives : Int → Prop} {result : Option (List Output)}
    (delivers : router.Delivers receives t result) : ∃ outputs, result = some outputs := by
  rcases delivers with ⟨receivers, _, sent⟩
  exact ⟨_, sent⟩

/-- The pointer under the id, if there is one, leads to a living user with a
living connection or none. -/
def CanSendToUser (router : Router) (idUser : Int) : Prop :=
  ∀ pointer, router.mUsers[idUser]? = some pointer →
    ∃ user, router.users.load pointer = some user ∧ router.CanSend user.mConnection

theorem sendOn_eq {mConnection : Option Connection} (usable : router.CanSend mConnection) :
    router.sendOn mConnection t = some (mConnection.map fun c => Output.sent c t).toList := by
  cases mConnection with
  | none => rfl
  | some c =>
      unfold sendOn
      exact if_neg (usable c rfl)

theorem connectionOf_eq {pointer : Address} {user : User}
    (entry : router.mUsers[idUser]? = some pointer)
    (loaded : router.users.load pointer = some user) :
    router.connectionOf idUser = user.mConnection := by
  rw [connectionOf, findUser, find_of_pointer entry, loaded, Option.bind_some]

theorem filterMap_singleton (send : Int → Option Output) (idUser : Int) :
    [idUser].filterMap send = (send idUser).toList := by
  rw [List.filterMap_cons]
  cases send idUser <;> rfl

/-- A message reaches its user exactly when nothing on the way was deleted. -/
theorem delivers_sendToUser_iff :
    router.Delivers (fun receiver => receiver = idUser) t (router.sendToUser idUser t) ↔
      router.CanSendToUser idUser := by
  constructor
  · intro delivers pointer entry
    rcases delivers.exists_outputs with ⟨outputs, sent⟩
    unfold sendToUser at sent
    simp only [entry, Option.bind_eq_bind, Option.bind_eq_some_iff] at sent
    rcases sent with ⟨user, loaded, sent⟩
    exact ⟨user, loaded, exists_sendOn_iff.mp ⟨outputs, sent⟩⟩
  · intro usable
    refine ⟨[idUser], Enumerates.singleton idUser, ?_⟩
    rw [filterMap_singleton]
    unfold sendToUser sentTo
    cases entry : router.mUsers[idUser]? with
    | none => rw [connectionOf, findUser, find_of_absent entry]; rfl
    | some pointer =>
        rcases usable pointer entry with ⟨user, loaded, canSend⟩
        rw [connectionOf_eq entry loaded, ← sendOn_eq canSend]
        simp only [loaded, Option.bind_eq_bind, Option.bind_some]

/-- The users in the table of a zone, in their order. -/
def tableOf (router : Router) (idZone : Int) : List Int :=
  ((router.findZone idZone).map fun zone => zone.mUsers.keys).getD []

theorem enumerates_tableOf (router : Router) (idZone : Int) :
    Enumerates (router.tableOf idZone) fun idUser => router.InTable idUser idZone := by
  unfold tableOf InTable
  cases found : router.findZone idZone with
  | none =>
      apply Enumerates.nil
      intro idUser inTable
      rcases inTable with ⟨zone, foundZone, _⟩
      cases foundZone
  | some zone =>
      apply (Enumerates.keys zone.mUsers).congr
      intro idUser
      simp only [Option.some.injEq, exists_eq_left']

theorem zoneSendToUsers_eq (linked : Linked router) {pointer : Address}
    (entry : router.mZones[idZone]? = some pointer) (usable : router.CanSendToZone pointer) :
    router.zoneSendToUsers pointer t =
      some ((router.tableOf idZone).filterMap (router.sentTo t)) := by
  rcases usable with ⟨zone, loaded, usable⟩
  have found : router.findZone idZone = some zone := (find_of_pointer entry).trans loaded
  have visited : ∀ (idUser : Int) (userPointer : Address),
      zone.mUsers[idUser]? = some userPointer →
        ((router.users.load userPointer).bind fun user => router.sendOn user.mConnection t) =
          some (router.sentTo t idUser).toList := by
    intro idUser userPointer userEntry
    rcases usable idUser userPointer userEntry with ⟨user, loadedUser, canSend⟩
    have owned := linked.zones idZone zone found idUser userPointer userEntry
    rw [loadedUser, Option.bind_some, sendOn_eq canSend, sentTo, connectionOf_eq owned loadedUser]
  unfold zoneSendToUsers tableOf
  rw [found, List.filterMap_eq_flatMap_toList]
  simp only [loaded, FiniteMap.mapM_toList_eq_some visited, Option.bind_eq_bind, Option.bind_some,
    Option.pure_def, Option.map_some, Option.getD_some, List.flatMap]

/-- The search is the wrong way round: nothing is sent, so the message is
delivered exactly when the zone is known and nobody in it is connected. -/
theorem delivers_sendToZone_iff :
    router.Delivers (fun receiver => router.InTable receiver idZone) t
        (router.sendToZone idZone t) ↔
      idZone ∈ router.mZones ∧
        ∀ receiver, router.InTable receiver idZone → router.connectionOf receiver = none := by
  by_cases known : idZone ∈ router.mZones
  · rw [Sound.sendToZone_known known]
    simp only [known, true_and]
    constructor
    · intro delivers receiver inTable
      rcases delivers with ⟨receivers, enumerates, sent⟩
      have nothing := List.filterMap_eq_nil_iff.mp (Option.some.inj sent).symm
      exact Option.map_eq_none_iff.mp (nothing receiver ((enumerates.mem_iff receiver).mpr inTable))
    · intro unconnected
      refine ⟨router.tableOf idZone, router.enumerates_tableOf idZone, ?_⟩
      apply congrArg some
      apply Eq.symm
      apply List.filterMap_eq_nil_iff.mpr
      intro receiver listed
      have inTable := ((router.enumerates_tableOf idZone).mem_iff receiver).mp listed
      exact Option.map_eq_none_iff.mpr (unconnected receiver inTable)
  · rw [Sound.sendToZone_unknown known]
    constructor
    · intro delivers
      rcases delivers.exists_outputs with ⟨outputs, sent⟩
      cases sent
    · intro condition
      exact absurd condition.1 known

theorem serverSendToUsers_eq (linked : Linked router) {pointer : Address} {server : Server}
    (found : router.findServer idServer = some server)
    (loaded : router.servers.load pointer = some server)
    (usable : router.CanSendToServer pointer) :
    router.serverSendToUsers pointer t =
      some ((server.mZones.keys.flatMap router.tableOf).filterMap (router.sentTo t)) := by
  rcases usable with ⟨server', loaded', usable⟩
  have same : server = server' := Option.mem_unique loaded loaded'
  subst same
  have visited : ∀ (idZone : Int) (zonePointer : Address),
      server.mZones[idZone]? = some zonePointer → router.zoneSendToUsers zonePointer t =
        some ((router.tableOf idZone).filterMap (router.sentTo t)) := by
    intro idZone zonePointer zoneEntry
    have owned := linked.servers idServer server found idZone zonePointer zoneEntry
    exact zoneSendToUsers_eq linked owned (usable idZone zonePointer zoneEntry)
  unfold serverSendToUsers
  rw [List.filterMap_flatMap]
  simp only [loaded, FiniteMap.mapM_toList_eq_some visited, Option.bind_eq_bind, Option.bind_some,
    Option.pure_def, List.flatMap]

/-- Zone by zone, no user comes twice: it would be in two tables. -/
theorem Membership.enumerates_server (membership : Membership router) {server : Server}
    (found : router.findServer idServer = some server) :
    Enumerates (server.mZones.keys.flatMap router.tableOf) fun idUser =>
      router.InServer idUser idServer := by
  have zones := Enumerates.keys server.mZones
  have users := Enumerates.flatMap zones.nodup
    (fun idZone _ => router.enumerates_tableOf idZone)
    (fun _ _ _ _ _ inFirst inSecond => membership.once inFirst inSecond)
  apply users.congr
  intro idUser
  simp only [InServer, found, Option.some.injEq, exists_eq_left', zones.mem_iff]

/-- A message reaches the users of a server exactly when nothing on the way to
them was deleted. -/
theorem delivers_sendToServerUsers_iff (linked : Linked router) (membership : Membership router) :
    router.Delivers (fun receiver => router.InServer receiver idServer) t
        (router.sendToServerUsers idServer t) ↔
      ∀ pointer, router.mServers[idServer]? = some pointer → router.CanSendToServer pointer := by
  constructor
  · intro delivers
    exact exists_sendToServerUsers_iff.mp delivers.exists_outputs
  · intro usable
    unfold sendToServerUsers
    cases entry : router.mServers[idServer]? with
    | none =>
        refine ⟨[], Enumerates.nil ?_, rfl⟩
        intro idUser inServer
        rcases inServer with ⟨server, found, _⟩
        rw [findServer, find_of_absent entry] at found
        cases found
    | some pointer =>
        have usable' := usable pointer entry
        rcases usable' with ⟨server, loaded, _⟩
        have found : router.findServer idServer = some server :=
          (find_of_pointer entry).trans loaded
        exact ⟨server.mZones.keys.flatMap router.tableOf, membership.enumerates_server found,
          serverSendToUsers_eq linked found loaded (usable pointer entry)⟩

/-- Nothing on the way to the user and to the users of the server was deleted,
and the zone is known and has no connected user. -/
structure Deliverable (router : Router) (idUser idZone idServer : Int) : Prop where
  user : router.CanSendToUser idUser
  zone : idZone ∈ router.mZones
  unconnected : ∀ receiver, router.InTable receiver idZone → router.connectionOf receiver = none
  server : ∀ pointer, router.mServers[idServer]? = some pointer → router.CanSendToServer pointer

/-- While everything is alive, only sending to a zone goes wrong. -/
theorem Sound.deliverable_iff (sound : Sound router) :
    router.Deliverable idUser idZone idServer ↔ idZone ∈ router.mZones ∧
      ∀ receiver, router.InTable receiver idZone → router.connectionOf receiver = none := by
  constructor
  · intro deliverable
    exact ⟨deliverable.zone, deliverable.unconnected⟩
  · intro condition
    refine ⟨?_, condition.1, condition.2, ?_⟩
    · intro pointer entry
      rcases sound.users.find_of_pointer entry with ⟨user, found, loaded, _⟩
      exact ⟨user, loaded, fun c => sound.userConnections idUser user c found⟩
    · exact exists_sendToServerUsers_iff.mp
        (sound.exists_sendToServerUsers idServer (.given 0))

/-- Attaching a connection leaves users and tables in agreement. -/
theorem Placed.connectUser (placed : Placed router) {user : User} {token : Int} {c : Connection}
    (found : router.findUser idUser = some user) (nonzero : token ≠ 0)
    (usable : c ∉ router.deletedConnections) (fresh : user.mConnection = none) :
    ∃ next, router.connectUser idUser token c = some next ∧ Placed next ∧
      next.connectionOf idUser = some c ∧
      ∀ other idZone, next.InTable other idZone ↔ router.InTable other idZone := by
  rcases connectUser_known placed.users found nonzero c (fun old => placed.userConnections idUser
    user old found) with ⟨users, connected, _, finds⟩
  rcases placed.toSound.connectUser_iff found nonzero with ⟨next, connected', _, keeps⟩
  have same := Option.mem_unique connected connected'
  subst same
  have sound := keeps ⟨usable, fun old replaced => by rw [fresh] at replaced; cases replaced⟩
  refine ⟨_, connected, ⟨sound, ?_⟩, ?_, fun _ _ => Iff.rfl⟩
  · intro other idZone
    refine Iff.trans (placed.membership other idZone) (and_congr_left fun _ => ?_)
    unfold Names
    simp only [findUser, finds]
    by_cases about : idUser = other
    · subst about
      simp only [if_true, Option.some.injEq, exists_eq_left', User.token]
      rw [← findUser, found]
      simp only [Option.some.injEq, exists_eq_left']
    · rw [if_neg about, ← findUser]
  · rw [connectionOf, findUser, finds, if_pos rfl, Option.bind_some]

/-- A user that nobody has connected yet is placed in zone 3. -/
private theorem placed_in_zone :
    ∃ router, run Router.step Router.empty
        [.addZone (-1), .addZone 3, .addUser 1 5, .setUserToZone 1 3] = some router ∧
      Placed router ∧ ∃ user, router.findUser 1 = some user ∧ user.mConnection = none ∧
        router.deletedConnections = [] ∧
        ∀ receiver, router.InTable receiver 3 ↔ receiver = 1 := by
  have nameless : ∀ {router : Router} (idZone : Int), router.mUsers = ∅ →
      WellPlaced [] router (.addZone idZone) := by
    intro router idZone none
    exact .inr fun idUser => not_names_of_empty none idUser idZone
  have first := Placed.empty.place (nameless (-1) rfl) rfl
  have second := first.place (nameless 3 rfl) rfl
  have third := second.place
    (show WellPlaced [] _ (.addUserRcvd 1 5 3) by rw [WellPlaced]; decide) rfl
  refine ⟨_, rfl, third, _, rfl, rfl, rfl, ?_⟩
  intro receiver
  constructor
  · intro inTable
    rcases inTable with ⟨zone, found, member⟩
    cases found
    have entered : receiver ∈ (∅ : FiniteMap Int Address).insertIfNew 1 0 := member
    rw [FiniteMap.mem_insertIfNew_iff] at entered
    rcases entered with same | impossible
    · exact same.symm
    · exact absurd impossible Std.ExtTreeMap.not_mem_empty
  · intro same
    subst same
    exact ⟨_, rfl, by decide⟩

/-- While the tables hold the router's own pointers and agree with the users,
messages are delivered exactly when they are deliverable. -/
theorem delivers_exactly_iff (linked : Linked router) (membership : Membership router)
    (idUser idZone idServer : Int) (t : Transferable) :
    router.DeliversExactly idUser idZone idServer t ↔
      router.Deliverable idUser idZone idServer := by
  constructor
  · intro exactly
    rcases delivers_sendToZone_iff.mp exactly.toZone with ⟨known, unconnected⟩
    exact ⟨delivers_sendToUser_iff.mp exactly.toUser, known, unconnected,
      (delivers_sendToServerUsers_iff linked membership).mp exactly.toServer⟩
  · intro deliverable
    exact ⟨delivers_sendToUser_iff.mpr deliverable.user,
      delivers_sendToZone_iff.mpr ⟨deliverable.zone, deliverable.unconnected⟩,
      (delivers_sendToServerUsers_iff linked membership).mpr deliverable.server⟩

/-- Nobody in the zone is connected, so that sending nothing is right. -/
theorem delivers_exactly_unconnected :
    ∃ router, run Router.step Router.empty
        [.addZone (-1), .addZone 3, .addUser 1 5, .setUserToZone 1 3] = some router ∧
      router.DeliversExactly 1 3 4 (.given 0) := by
  rcases placed_in_zone with ⟨router, reached, placed, user, found, unconnected, _, inZone⟩
  refine ⟨router, reached, ?_⟩
  apply (delivers_exactly_iff (linked_of_run reached) placed.membership 1 3 4 (.given 0)).mpr
  refine placed.toSound.deliverable_iff.mpr ⟨?_, ?_⟩
  · exact ((placed.membership 1 3).mp ((inZone 1).mpr rfl)).2
  · intro receiver inTable
    rw [(inZone receiver).mp inTable, connectionOf, found, Option.bind_some, unconnected]

/-- A user in the zone is connected, and gets nothing. -/
theorem connected_user_missed :
    ∃ router, run Router.step Router.empty [.addZone (-1), .addZone 3, .addUser 1 5,
        .setUserToZone 1 3, .connectUser 1 5 9] = some router ∧
      Membership router ∧ ServedOnce router ∧
        ¬ router.DeliversExactly 1 3 4 (.given 0) := by
  rcases placed_in_zone with ⟨router, reached, placed, user, found, fresh, undeleted, inZone⟩
  have usable : 9 ∉ router.deletedConnections := by
    rw [undeleted]
    exact List.not_mem_nil
  rcases placed.connectUser found (show (5 : Int) ≠ 0 by decide) usable fresh with
    ⟨next, connected, placedNext, connection, sameTables⟩
  refine ⟨next, ?_, placedNext.membership, placedNext.toSound.servedOnce, ?_⟩
  · have last : Router.step router (.connectUser 1 5 9) = some next := connected
    exact (run_concat_eq_some_iff Router.empty next _ _).mpr ⟨router, reached, last⟩
  · intro exactly
    have unconnected := (delivers_sendToZone_iff.mp exactly.toZone).2 1
      ((sameTables 1 3).mpr ((inZone 1).mpr rfl))
    rw [connection] at unconnected
    cases unconnected

end Router
end Pxc
