import Pxc.Router.Reachability
import Pxc.Router.UserRecords

namespace Pxc
namespace Router

open General

/-!
# The lifetime of the router's objects

Nothing the router can reach may have been deleted.  Five kinds of call break
this.  Removing a user leaves a pointer to the freed object.  Sending to a zone
goes through `end()` when there is no such zone, and so does moving a user
whose old zone is gone.  Connecting deletes the connection it replaces, also
when that is the new one or is attached to something else, and removing a
server deletes its connection in the same way.  The theorem at the end says
that these are all.
-/

variable {router next : Router}

/-- The users and the deleted connections are the same; zones have the tables
and servers the connections they had, or none. -/
structure KeepsUsers (router next : Router) : Prop where
  pointers : next.mUsers = router.mUsers
  users : next.users = router.users
  deleted : next.deletedConnections = router.deletedConnections
  tables : ∀ idZone zone, next.findZone idZone = some zone → zone.mUsers = ∅ ∨
    ∃ before, router.findZone idZone = some before ∧ zone.mUsers = before.mUsers
  connections : ∀ idServer server, next.findServer idServer = some server →
    server.mConnection = none ∨ ∃ before, router.findServer idServer = some before ∧
      server.mConnection = before.mConnection

theorem Sound.of_keepsUsers (sound : Sound router) (serves : ServesZones next)
    (keeps : KeepsUsers router next) : Sound next where
  toServesZones := serves
  users := by
    unfold OwnsUsers
    rw [keeps.pointers, keeps.users]
    exact sound.users
  members := by
    intro idZone zone found
    rw [keeps.pointers]
    rcases keeps.tables idZone zone found with empty | ⟨before, foundBefore, same⟩
    · exact empty ▸ Borrows.empty _
    · exact same ▸ sound.members idZone before foundBefore
  serverConnections := by
    intro idServer server c found connected
    rw [keeps.deleted]
    rcases keeps.connections idServer server found with none | ⟨before, foundBefore, same⟩
    · rw [none] at connected
      cases connected
    · exact sound.serverConnections idServer before c foundBefore (same.symm.trans connected)
  userConnections := by
    intro idUser user c found connected
    rw [findUser, keeps.pointers, keeps.users] at found
    rw [keeps.deleted]
    exact sound.userConnections idUser user c found connected

namespace Sound

variable {idServer idZone idUser : Int}

theorem addServer (sound : Sound router) (idServer : Int) :
    ∃ next, router.addServer idServer = some next ∧ Sound next := by
  cases pointer : router.mServers[idServer]? with
  | some address => exact ⟨router, addServer_known pointer, sound⟩
  | none =>
      rcases sound.addServer_new pointer with ⟨servers, added, _, finds⟩
      refine ⟨_, added, sound.of_keepsUsers
        (sound.toServesZones.addServer added) ⟨rfl, rfl, rfl, ?_, ?_⟩⟩
      · intro idZone zone found
        exact .inr ⟨zone, found, rfl⟩
      · intro other server found
        rw [findServer, finds] at found
        split at found
        · cases found
          exact .inl rfl
        · exact .inr ⟨server, found, rfl⟩

theorem addZone (sound : Sound router) (idZone : Int) :
    ∃ next, router.addZone idZone = some next ∧ Sound next := by
  cases pointer : router.mZones[idZone]? with
  | some address => exact ⟨router, addZone_known pointer, sound⟩
  | none =>
      rcases sound.addZone_new pointer with ⟨zones, added, _, finds⟩
      refine ⟨_, added, sound.of_keepsUsers
        (sound.toServesZones.addZone added) ⟨rfl, rfl, rfl, ?_, ?_⟩⟩
      · intro other zone found
        rw [findZone, finds] at found
        split at found
        · cases found
          exact .inl rfl
        · exact .inr ⟨zone, found, rfl⟩
      · intro idServer server found
        exact .inr ⟨server, found, rfl⟩

theorem delZone (sound : Sound router) (idZone : Int) :
    ∃ next, router.delZone idZone = some next ∧ Sound next := by
  cases found : router.findZone idZone with
  | none =>
      rw [findZone, sound.zones.find_eq_none_iff] at found
      exact ⟨router, delZone_unknown found, sound⟩
  | some zone =>
      rcases sound.delZone_known found with ⟨servers, zones, deleted, _, finds, findsZone⟩
      refine ⟨_, deleted, sound.of_keepsUsers
        (sound.toServesZones.delZone deleted) ⟨rfl, rfl, rfl, ?_, ?_⟩⟩
      · intro other zone found'
        rw [findZone, findsZone] at found'
        split at found'
        · cases found'
        · exact .inr ⟨zone, found', rfl⟩
      · intro other server found'
        rw [findServer, finds] at found'
        split at found'
        · next about =>
          rcases Option.map_eq_some_iff.mp found' with ⟨before, foundBefore, same⟩
          subst same
          exact .inr ⟨before, about ▸ foundBefore, rfl⟩
        · exact .inr ⟨server, found', rfl⟩

theorem startZoneToServerTransfer (sound : Sound router) (idZone newServer : Int) :
    ∃ next, router.startZoneToServerTransfer idZone newServer = some next ∧ Sound next := by
  cases pointer : router.mZones[idZone]? with
  | none => exact ⟨router, startZoneToServerTransfer_unknown (.inl pointer), sound⟩
  | some address =>
      cases serverPointer : router.mServers[newServer]? with
      | none => exact ⟨router, startZoneToServerTransfer_unknown (.inr serverPointer), sound⟩
      | some serverAddress =>
          rcases sound.zone_of_pointer pointer with ⟨zone, _, found, _⟩
          rcases sound.server_of_pointer serverPointer with ⟨server, _, foundServer, _⟩
          rcases sound.startZoneToServerTransfer_known found ⟨server, foundServer⟩ with
            ⟨zones, started, _, finds⟩
          refine ⟨_, started, sound.of_keepsUsers
            ((startZoneToServerTransfer_keepsService started).servesZones sound.toServesZones)
            ⟨rfl, rfl, rfl, ?_, ?_⟩⟩
          · intro other zone' found'
            rw [findZone, finds] at found'
            split at found'
            · next about =>
              cases found'
              exact .inr ⟨zone, about ▸ found, rfl⟩
            · exact .inr ⟨zone', found', rfl⟩
          · intro idServer server found'
            exact .inr ⟨server, found', rfl⟩

theorem endZoneToServerTransfer (sound : Sound router) (idZone : Int) :
    ∃ next, router.endZoneToServerTransfer idZone = some next ∧ Sound next := by
  rcases sound.endZoneToServerTransfer_cases idZone with unchanged |
    ⟨zone, source, target, foundZone, transferring, foundSource, foundTarget⟩
  · exact ⟨router, unchanged, sound⟩
  · rcases find_eq_some_iff.mp foundZone with ⟨address, pointer, loaded⟩
    rcases sound.endZoneToServerTransfer_known pointer loaded transferring
      ⟨source, foundSource⟩ foundTarget with ⟨servers, zones, ended, _, finds, findsZone⟩
    refine ⟨_, ended, sound.of_keepsUsers
      (sound.toServesZones.endZoneToServerTransfer ended) ⟨rfl, rfl, rfl, ?_, ?_⟩⟩
    · intro other zone' found
      rw [findZone, findsZone] at found
      split at found
      · next about =>
        have same := Option.some.inj found
        subst same
        refine .inr ⟨zone, about ▸ foundZone, ?_⟩
        rw [Zone.endTransfer, if_pos transferring]
      · exact .inr ⟨zone', found, rfl⟩
    · intro other server found
      rw [findServer, finds] at found
      split at found
      · next enters =>
        have same := Option.some.inj found
        subst same
        refine .inr ⟨target, enters ▸ foundTarget, ?_⟩
        split <;> rfl
      · split at found
        · next leaves =>
          rw [foundSource, Option.map_some, Option.some.injEq] at found
          subst found
          exact .inr ⟨source, leaves ▸ foundSource, rfl⟩
        · exact .inr ⟨server, found, rfl⟩

/-- New objects for the users, with connections that were not deleted. -/
theorem of_users (sound : Sound router) {users : Heap User}
    (owns : Owns User.mId router.mUsers users)
    (connections : ∀ idUser user c, find router.mUsers users idUser = some user →
      user.mConnection = some c → c ∉ router.deletedConnections) :
    Sound { router with users } where
  toServesZones := sound.toServesZones.of_users users router.mUsers router.deletedConnections
  users := owns
  members := sound.members
  serverConnections := sound.serverConnections
  userConnections := connections

/-- One user's object changed, with the connection it had. -/
theorem of_user (sound : Sound router) {users : Heap User} {user user' : User}
    (owns : Owns User.mId router.mUsers users)
    (found : router.findUser idUser = some user)
    (finds : ∀ other, find router.mUsers users other =
      if idUser = other then some user' else router.findUser other)
    (same : user'.mConnection = user.mConnection) :
    Sound { router with users } := by
  apply sound.of_users owns
  intro other object c found' connected
  rw [finds] at found'
  split at found'
  · have sameObject := Option.some.inj found'
    subst sameObject
    exact sound.userConnections idUser user c found (same.symm.trans connected)
  · exact sound.userConnections other object c found' connected

theorem findUser_of_pointer (sound : Sound router) {pointer : Address}
    (entry : router.mUsers[idUser]? = some pointer) :
    ∃ user, router.findUser idUser = some user := by
  rcases sound.users.find_of_pointer entry with ⟨user, found, _⟩
  exact ⟨user, found⟩

theorem addUser (sound : Sound router) (idUser token : Int) :
    ∃ next, router.addUser idUser token = some next ∧ Sound next := by
  cases entry : router.mUsers[idUser]? with
  | some pointer =>
      rcases sound.findUser_of_pointer entry with ⟨user, found⟩
      rcases addUser_known sound.users found token with ⟨users, added, owns, finds⟩
      exact ⟨_, added, sound.of_user owns found finds rfl⟩
  | none =>
      rcases addUser_new sound.users entry token with ⟨users, added, owns, finds⟩
      refine ⟨_, added, ⟨sound.toServesZones.of_users _ _ _, owns, ?_, sound.serverConnections,
        ?_⟩⟩
      · intro idZone zone found
        exact (sound.members idZone zone found).owner_insert entry router.users.next
      · intro other user c found connected
        rw [findUser, finds] at found
        split at found
        · cases found
          cases connected
        · exact sound.userConnections other user c found connected

theorem validateUser (sound : Sound router) (idUser token : Int) :
    ∃ next valid, router.validateUser idUser token = some (next, valid) ∧ Sound next := by
  cases entry : router.mUsers[idUser]? with
  | none => exact ⟨router, false, validateUser_unknown entry, sound⟩
  | some pointer =>
      rcases sound.findUser_of_pointer entry with ⟨user, found⟩
      rcases validateUser_known sound.users found token with
        ⟨address, users, entry', validated, owns, finds⟩
      refine ⟨_, decide (token ≠ 0), ?_, sound.of_user owns found finds rfl⟩
      unfold Router.validateUser
      rw [entry']
      exact validated

/-- Moving a user keeps the invariant when its old zone is found. -/
theorem setUserToZone (sound : Sound router) {user : User} {zone oldZone : Zone}
    (found : router.findUser idUser = some user) (foundZone : router.findZone idZone = some zone)
    (foundOld : router.findZone user.mZone = some oldZone) :
    ∃ next, router.setUserToZone idUser idZone = some next ∧ Sound next := by
  rcases setUserToZone_known sound.toOwned sound.users found foundZone foundOld with
    ⟨address, zones, users, entry, moved, _, owns, findsZone, finds⟩
  have withUsers : Sound { router with users } := sound.of_user owns found finds rfl
  have entered : Borrows (zone.addUser idUser address).mUsers router.mUsers :=
    (sound.members idZone zone foundZone).insertIfNew entry
  have serves := (setUserToZone_keepsService moved).servesZones sound.toServesZones
  refine ⟨_, moved, ⟨serves, withUsers.users, ?_, withUsers.serverConnections,
    withUsers.userConnections⟩⟩
  intro other zone' found'
  rw [findZone, findsZone] at found'
  split at found'
  · have same := Option.some.inj found'
    subst same
    apply Borrows.erase
    split
    · exact entered
    · exact sound.members user.mZone oldZone foundOld
  · split at found'
    · have same := Option.some.inj found'
      subst same
      exact entered
    · exact sound.members other zone' found'

end Sound

/-! ## Connections -/

/-- No other user, and no server, has the connection. -/
def OnlyUser (router : Router) (idUser : Int) (c : Connection) : Prop :=
  (∀ other user, router.findUser other = some user → user.mConnection = some c → other = idUser) ∧
    ∀ idServer server, router.findServer idServer = some server → server.mConnection ≠ some c

/-- No other server, and no user, has the connection. -/
def OnlyServer (router : Router) (idServer : Int) (c : Connection) : Prop :=
  (∀ other server, router.findServer other = some server → server.mConnection = some c →
    other = idServer) ∧
    ∀ idUser user, router.findUser idUser = some user → user.mConnection ≠ some c

theorem not_mem_released {old : Option Connection} {deleted : List Connection} {c : Connection} :
    c ∉ old.toList ++ deleted ↔ old ≠ some c ∧ c ∉ deleted := by
  rw [List.mem_append, not_or, Option.mem_toList]

/-- A deleted connection that nothing may have but one user. -/
theorem Alive.onlyUser {idUser : Int} {c : Connection} (alive : Alive next)
    (deleted : c ∈ next.deletedConnections)
    (users : ∀ other, other ≠ idUser → next.findUser other = router.findUser other)
    (servers : ∀ idServer, next.findServer idServer = router.findServer idServer) :
    router.OnlyUser idUser c := by
  constructor
  · intro other user found has
    apply Classical.byContradiction
    intro different
    exact alive.connections c (attached_of_findUser ((users other different).trans found) has)
      deleted
  · intro idServer server found has
    exact alive.connections c (attached_of_findServer ((servers idServer).trans found) has) deleted

/-- A deleted connection that nothing may have but one server. -/
theorem Alive.onlyServer {idServer : Int} {c : Connection} (alive : Alive next)
    (deleted : c ∈ next.deletedConnections)
    (servers : ∀ other, other ≠ idServer → next.findServer other = router.findServer other)
    (users : ∀ idUser, next.findUser idUser = router.findUser idUser) :
    router.OnlyServer idServer c := by
  constructor
  · intro other server found has
    apply Classical.byContradiction
    intro different
    exact alive.connections c (attached_of_findServer ((servers other different).trans found) has)
      deleted
  · intro idUser user found has
    exact alive.connections c (attached_of_findUser ((users idUser).trans found) has) deleted

namespace Sound

variable {idServer idUser token : Int} {c : Connection} {old : Option Connection}

/-- What only one user has may be deleted: the other users keep theirs. -/
theorem user_keeps (sound : Sound router) (only : ∀ c, old = some c → router.OnlyUser idUser c)
    {other : Int} {user : User} (different : ¬ idUser = other)
    (found : router.findUser other = some user) (has : user.mConnection = some c) :
    c ∉ old.toList ++ router.deletedConnections := by
  rw [not_mem_released]
  refine ⟨fun released => ?_, sound.userConnections other user c found has⟩
  exact different ((only c released).1 other user found has).symm

/-- And so do the servers. -/
theorem server_keeps_of_onlyUser (sound : Sound router)
    (only : ∀ c, old = some c → router.OnlyUser idUser c) {server : Server}
    (found : router.findServer idServer = some server) (has : server.mConnection = some c) :
    c ∉ old.toList ++ router.deletedConnections := by
  rw [not_mem_released]
  refine ⟨fun released => ?_, sound.serverConnections idServer server c found has⟩
  exact (only c released).2 idServer server found has

/-- What only one server has may be deleted: the other servers keep theirs. -/
theorem server_keeps (sound : Sound router)
    (only : ∀ c, old = some c → router.OnlyServer idServer c) {other : Int} {server : Server}
    (different : ¬ idServer = other) (found : router.findServer other = some server)
    (has : server.mConnection = some c) : c ∉ old.toList ++ router.deletedConnections := by
  rw [not_mem_released]
  refine ⟨fun released => ?_, sound.serverConnections other server c found has⟩
  exact different ((only c released).1 other server found has).symm

/-- And so do the users. -/
theorem user_keeps_of_onlyServer (sound : Sound router)
    (only : ∀ c, old = some c → router.OnlyServer idServer c) {user : User}
    (found : router.findUser idUser = some user) (has : user.mConnection = some c) :
    c ∉ old.toList ++ router.deletedConnections := by
  rw [not_mem_released]
  refine ⟨fun released => ?_, sound.userConnections idUser user c found has⟩
  exact (only c released).2 idUser user found has

/-- Attaching a connection to a user leaves everything alive exactly when the
connection is alive, is not the one it replaces, and nothing else has that. -/
theorem connectUser_iff (sound : Sound router) {user : User}
    (found : router.findUser idUser = some user) (nonzero : token ≠ 0) :
    ∃ next, router.connectUser idUser token c = some next ∧
      (Alive next → c ∉ router.deletedConnections ∧ ∀ old, user.mConnection = some old →
        old ≠ c ∧ router.OnlyUser idUser old) ∧
      ((c ∉ router.deletedConnections ∧ ∀ old, user.mConnection = some old →
        old ≠ c ∧ router.OnlyUser idUser old) → Sound next) := by
  rcases connectUser_known sound.users found nonzero c (fun old => sound.userConnections idUser
    user old found) with ⟨users, connected, owns, finds⟩
  refine ⟨_, connected, ?_, ?_⟩
  · intro alive
    have attached := alive.connections c (attached_of_findUser ((finds idUser).trans (if_pos rfl))
      rfl)
    rw [not_mem_released] at attached
    refine ⟨attached.2, fun old replaced => ⟨?_, ?_⟩⟩
    · intro same
      exact attached.1 (same ▸ replaced)
    · have released : old ∈ user.mConnection.toList ++ router.deletedConnections :=
        List.mem_append_left _ (Option.mem_toList.mpr replaced)
      exact alive.onlyUser released (fun other different =>
        (finds other).trans (if_neg (Ne.symm different))) fun _ => rfl
  · intro unshared
    have only := fun old replaced => (unshared.2 old replaced).2
    refine ⟨sound.toServesZones.of_users _ _ _, owns, sound.members, ?_, ?_⟩
    · intro idServer server c' foundServer has
      exact sound.server_keeps_of_onlyUser only foundServer has
    · intro other user' c' found' has
      rw [findUser, finds] at found'
      split at found'
      · have same := Option.some.inj found'
        subst same
        have sameConnection := Option.some.inj has
        subst sameConnection
        rw [not_mem_released]
        exact ⟨fun replaced => (unshared.2 c replaced).1 rfl, unshared.1⟩
      · next different => exact sound.user_keeps only different found' has

/-- The same for a server, on whose new connection the router also sends. -/
theorem connectServer_iff (sound : Sound router) {server : Server}
    (found : router.findServer idServer = some server) :
    ((∃ next outputs, router.connectServer idServer c = some (next, outputs) ∧ Alive next) →
        c ∉ router.deletedConnections ∧ ∀ old, server.mConnection = some old →
          old ≠ c ∧ router.OnlyServer idServer old) ∧
      ((c ∉ router.deletedConnections ∧ ∀ old, server.mConnection = some old →
          old ≠ c ∧ router.OnlyServer idServer old) →
        ∃ next outputs, router.connectServer idServer c = some (next, outputs) ∧ Sound next) := by
  rcases sound.connectServer_known found c (fun old => sound.serverConnections idServer server old
    found) with ⟨servers, connected, owns, finds⟩
  constructor
  · intro aliveAfter
    rcases aliveAfter with ⟨next, outputs, done, alive⟩
    rw [connected] at done
    split at done
    · cases done
    · next usable =>
      rw [not_mem_released] at usable
      cases done
      refine ⟨usable.2, fun old replaced => ⟨?_, ?_⟩⟩
      · intro same
        exact usable.1 (same ▸ replaced)
      · have released : old ∈ server.mConnection.toList ++ router.deletedConnections :=
          List.mem_append_left _ (Option.mem_toList.mpr replaced)
        exact alive.onlyServer released (fun other different =>
          (finds other).trans (if_neg (Ne.symm different))) fun _ => rfl
  · intro unshared
    have only := fun old replaced => (unshared.2 old replaced).2
    have usable : c ∉ server.mConnection.toList ++ router.deletedConnections := by
      rw [not_mem_released]
      exact ⟨fun replaced => (unshared.2 c replaced).1 rfl, unshared.1⟩
    rw [if_neg usable] at connected
    have serves := (connectServer_keepsService connected).servesZones sound.toServesZones
    refine ⟨_, _, connected, ⟨serves, sound.users, sound.members, ?_, ?_⟩⟩
    · intro other server' c' found' has
      rw [findServer, finds] at found'
      split at found'
      · have same := Option.some.inj found'
        subst same
        have sameConnection := Option.some.inj has
        exact sameConnection ▸ usable
      · next different => exact sound.server_keeps only different found' has
    · intro idUser user c' foundUser has
      exact sound.user_keeps_of_onlyServer only foundUser has

/-- Removing a server leaves everything alive exactly when nothing else has
its connection. -/
theorem delServer_iff (sound : Sound router) {server : Server}
    (found : router.findServer idServer = some server) :
    ∃ next outputs, router.delServer idServer = some (next, outputs) ∧
      (Alive next → ∀ old, server.mConnection = some old → router.OnlyServer idServer old) ∧
      ((∀ old, server.mConnection = some old → router.OnlyServer idServer old) → Sound next) := by
  rcases sound.delServer_known found (fun old => sound.serverConnections idServer server old
    found) with ⟨servers, outputs, deleted, owns, finds⟩
  refine ⟨_, outputs, deleted, ?_, ?_⟩
  · intro alive old replaced
    have released : old ∈ server.mConnection.toList ++ router.deletedConnections :=
      List.mem_append_left _ (Option.mem_toList.mpr replaced)
    exact alive.onlyServer released (fun other different =>
      (finds other).trans (if_neg (Ne.symm different))) fun _ => rfl
  · intro only
    refine ⟨sound.toServesZones.delServer deleted, sound.users, sound.members, ?_, ?_⟩
    · intro other server' c' found' has
      rw [findServer, finds] at found'
      split at found'
      · cases found'
      · next different => exact sound.server_keeps only different found' has
    · intro idUser user c' foundUser has
      exact sound.user_keeps_of_onlyServer only foundUser has

end Sound

/-- The user is in the router's map under no pointer, and in no table. -/
def Forgot (router : Router) (idUser : Int) : Prop :=
  idUser ∉ router.mUsers ∧ ∀ (pointer : Address) (zone : Zone), router.ReachesZone pointer →
    router.zones.load pointer = some zone → idUser ∉ zone.mUsers

/-- What every call should do: have a defined result, leave alive everything
that can be reached, and forget a user it removes. -/
def KeepsAlive (_before : List Event) (router : Router) (event : Event) : Prop :=
  ∃ next, Router.step router event = some next ∧ Alive next ∧
    ∀ idUser, event = .delUser idUser → next.Forgot idUser

/-- The calls that do so: none removes a user that is there, sends to a zone
that is not there, or moves a user whose old zone is not there; a connection
to be attached is alive and not the one it replaces; and nothing else has a
connection that is deleted. -/
def Harmless (_before : List Event) (router : Router) : Event → Prop
  | .delUser idUser => idUser ∉ router.mUsers
  | .sendToZone idZone _ => idZone ∈ router.mZones
  | .setUserToZone idUser idZone => ∀ user, router.findUser idUser = some user →
      idZone ∈ router.mZones → user.mZone ∈ router.mZones
  | .connectUser idUser token c => ∀ user, router.findUser idUser = some user → token ≠ 0 →
      c ∉ router.deletedConnections ∧ ∀ old, user.mConnection = some old →
        old ≠ c ∧ router.OnlyUser idUser old
  | .connectServer idServer c => ∀ server, router.findServer idServer = some server →
      c ∉ router.deletedConnections ∧ ∀ old, server.mConnection = some old →
        old ≠ c ∧ router.OnlyServer idServer old
  | .delServer idServer => ∀ server, router.findServer idServer = some server →
      ∀ old, server.mConnection = some old → router.OnlyServer idServer old
  | _ => True

namespace Sound

variable {before : List Event} {event : Event} {idUser idZone idServer token : Int}
  {c : Connection}

theorem forgot (sound : Sound router) (unknown : idUser ∉ router.mUsers) :
    router.Forgot idUser := by
  refine ⟨unknown, ?_⟩
  intro pointer zone reached loaded member
  rcases sound.zone_of_reached reached with ⟨idZone, zone', loaded', found⟩
  have same : zone = zone' := Option.mem_unique loaded loaded'
  subst same
  rcases FiniteMap.exists_of_mem member with ⟨userPointer, entry⟩
  exact unknown (FiniteMap.mem_of_getElem? (sound.members idZone zone found idUser userPointer
    entry))

/-- A removed user stays in the router's map. -/
theorem pointers_of_delUser {outputs : List Output}
    (done : router.delUser idUser = some (next, outputs)) : next.mUsers = router.mUsers :=
  (delUser_leavesOthers done).pointers

theorem delUser_unknown (unknown : idUser ∉ router.mUsers) :
    router.delUser idUser = some (router, []) := by
  unfold Router.delUser
  rw [FiniteMap.getElem?_eq_none_iff.mpr unknown]

theorem sendToZone_known {t : Transferable} (known : idZone ∈ router.mZones) :
    router.sendToZone idZone t = some [] := by
  rcases FiniteMap.exists_of_mem known with ⟨pointer, entry⟩
  unfold Router.sendToZone
  rw [entry]

theorem sendToZone_unknown {t : Transferable} (unknown : idZone ∉ router.mZones) :
    router.sendToZone idZone t = none := by
  unfold Router.sendToZone
  rw [FiniteMap.getElem?_eq_none_iff.mpr unknown]

/-- A harmless call is defined and keeps the invariant. -/
theorem step (sound : Sound router) (harmless : Harmless before router event) :
    ∃ next, Router.step router event = some next ∧ Sound next := by
  have paired : ∀ {Extra : Type} {call : Option (Router × Extra)} {next : Router} {extra : Extra},
      call = some (next, extra) → Sound next →
        ∃ after, call.map Prod.fst = some after ∧ Sound after := by
    intro Extra call next extra done after
    exact ⟨next, by rw [done, Option.map_some], after⟩
  have sent : ∀ {outputs : Option (List Output)}, (∃ sent, outputs = some sent) →
      ∃ after, (outputs.map fun _ => router) = some after ∧ Sound after := by
    intro outputs defined
    rcases defined with ⟨sent, defined⟩
    exact ⟨router, by rw [defined, Option.map_some], sound⟩
  cases event with
  | addServer idServer => exact sound.addServer idServer
  | connectServer idServer c =>
      cases found : router.findServer idServer with
      | none =>
          rw [findServer, sound.servers.find_eq_none_iff] at found
          have unknown : router.connectServer idServer c = some (router, []) := by
            unfold Router.connectServer
            rw [found]
          exact paired unknown sound
      | some server =>
          rcases (sound.connectServer_iff found).2 (harmless server found) with
            ⟨next, outputs, done, after⟩
          exact paired done after
  | delServer idServer =>
      cases found : router.findServer idServer with
      | none =>
          rw [findServer, sound.servers.find_eq_none_iff] at found
          exact paired (delServer_unknown found) sound
      | some server =>
          rcases sound.delServer_iff found with ⟨next, outputs, done, _, keeps⟩
          exact paired done (keeps (harmless server found))
  | addZone idZone => exact sound.addZone idZone
  | delZone idZone => exact sound.delZone idZone
  | startZoneToServerTransfer idZone newServer =>
      exact sound.startZoneToServerTransfer idZone newServer
  | endZoneToServerTransfer idZone => exact sound.endZoneToServerTransfer idZone
  | addUser idUser token => exact sound.addUser idUser token
  | delUser idUser => exact paired (delUser_unknown harmless) sound
  | validateUser idUser token =>
      rcases sound.validateUser idUser token with ⟨next, valid, done, after⟩
      exact paired done after
  | connectUser idUser token c =>
      cases found : router.findUser idUser with
      | none =>
          rw [findUser, sound.users.find_eq_none_iff] at found
          exact ⟨router, connectUser_unknown found, sound⟩
      | some user =>
          by_cases zero : token = 0
          · subst zero
            rcases connectUser_zero sound.users found c with ⟨users, done, owns, finds⟩
            exact ⟨_, done, sound.of_user owns found finds rfl⟩
          · rcases sound.connectUser_iff found zero with ⟨next, done, _, keeps⟩
            exact ⟨next, done, keeps (harmless user found zero)⟩
  | setUserToZone idUser idZone =>
      cases found : router.findUser idUser with
      | none =>
          rw [findUser, sound.users.find_eq_none_iff] at found
          exact ⟨router, setUserToZone_unknown (.inl found), sound⟩
      | some user =>
          cases entry : router.mZones[idZone]? with
          | none => exact ⟨router, setUserToZone_unknown (.inr entry), sound⟩
          | some pointer =>
              rcases sound.zone_of_pointer entry with ⟨zone, _, foundZone, _⟩
              rcases FiniteMap.exists_of_mem (harmless user found
                (FiniteMap.mem_of_getElem? entry)) with ⟨oldPointer, oldEntry⟩
              rcases sound.zone_of_pointer oldEntry with ⟨oldZone, _, foundOld, _⟩
              exact sound.setUserToZone found foundZone foundOld
  | sendToServer idServer t => exact sent (sound.exists_sendToServer idServer t)
  | sendToServerUsers idServer t => exact sent (sound.exists_sendToServerUsers idServer t)
  | sendToZone idZone t => exact sent ⟨[], sendToZone_known harmless⟩
  | sendToUser idUser t => exact sent (sound.exists_sendToUser idUser t)

/-- A call that does what it should is harmless. -/
theorem harmless_of_keepsAlive (sound : Sound router)
    (keeps : KeepsAlive before router event) : Harmless before router event := by
  rcases keeps with ⟨next, stepped, alive, forgets⟩
  cases event with
  | delUser idUser =>
      intro known
      rcases Option.map_eq_some_iff.mp stepped with ⟨⟨_, _⟩, done, same⟩
      subst same
      exact (forgets idUser rfl).1 (pointers_of_delUser done ▸ known)
  | sendToZone idZone t =>
      apply Classical.byContradiction
      intro unknown
      rcases Option.map_eq_some_iff.mp stepped with ⟨_, done, _⟩
      rw [sendToZone_unknown unknown] at done
      cases done
  | setUserToZone idUser idZone =>
      intro user found known
      apply Classical.byContradiction
      intro lost
      rcases FiniteMap.exists_of_mem known with ⟨pointer, entry⟩
      have undefined := setUserToZone_lost sound.toOwned found entry
        (FiniteMap.getElem?_eq_none_iff.mpr lost)
      exact absurd (undefined.symm.trans stepped) (Option.some_ne_none next).symm
  | connectUser idUser token c =>
      intro user found nonzero
      rcases sound.connectUser_iff found nonzero with ⟨after, done, unshared, _⟩
      have same : after = next := Option.mem_unique done stepped
      exact unshared (same ▸ alive)
  | connectServer idServer c =>
      intro server found
      rcases Option.map_eq_some_iff.mp stepped with ⟨⟨_, outputs⟩, done, same⟩
      subst same
      exact (sound.connectServer_iff found).1 ⟨_, outputs, done, alive⟩
  | delServer idServer =>
      intro server found
      rcases Option.map_eq_some_iff.mp stepped with ⟨⟨_, outputs⟩, done, same⟩
      rcases sound.delServer_iff found with ⟨after, outputs', done', unshared, _⟩
      have samePair := Option.mem_unique done' done
      cases samePair
      subst same
      exact unshared alive
  | _ => trivial

theorem keepsAlive_iff (sound : Sound router) :
    KeepsAlive before router event ↔ Harmless before router event := by
  constructor
  · exact sound.harmless_of_keepsAlive
  · intro harmless
    rcases sound.step harmless with ⟨next, stepped, after⟩
    refine ⟨next, stepped, after.alive, ?_⟩
    intro idUser removes
    subst removes
    rcases Option.map_eq_some_iff.mp stepped with ⟨⟨_, _⟩, done, same⟩
    subst same
    have pointers := pointers_of_delUser done
    exact after.forgot (pointers ▸ harmless)

end Sound

/-- Along every run, each call has a defined result, leaves alive everything
that can be reached and forgets the users it removes, if and only if each
call is harmless. -/
theorem objects_alive_iff (events : List Event) :
    AtEach Router.step KeepsAlive Router.empty events ↔
      AtEach Router.step Harmless Router.empty events := by
  refine atEach_iff (fun _ => True) (fun _ router => Sound router) (fun _ _ _ => trivial)
    Sound.empty ?_ ?_ trivial
  · intro before router event _ sound
    exact sound.keepsAlive_iff
  · intro before router event next _ sound harmless stepped
    rcases sound.step harmless with ⟨after, stepped', sound'⟩
    have same : after = next := Option.mem_unique stepped' stepped
    exact same ▸ sound'

/-- A removed user stays in the map, with a pointer to the freed object. -/
theorem removed_user_stays :
    ¬ AtEach Router.step KeepsAlive Router.empty [.addUser 1 5, .delUser 1] := by
  intro held
  rcases held [.addUser 1 5] (.delUser 1) [] _ rfl rfl with ⟨next, stepped, _, forgets⟩
  cases stepped
  exact (forgets 1 rfl).1 (FiniteMap.mem_of_getElem? (rfl : _ = some 0))

end Router
end Pxc
