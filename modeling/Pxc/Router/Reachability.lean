import Pxc.Router.UserOperations
import Pxc.Router.ZoneService

namespace Pxc
namespace Router

open General

/-!
# What the router can reach

The router reaches its servers, zones and users through its maps and through
the tables of servers and zones, and connections through the users and
servers they are attached to.  The invariant that keeps all of it alive says
who owns what.  The three maps own their objects, tables borrow from the maps,
and no attached connection was deleted.

Sending follows the same ways.  A message can be passed on to the users of a
server when nothing on the way to them was deleted.
-/

variable {router next : Router}

/-- The router's map of servers leads to the object. -/
def ReachesServer (router : Router) (pointer : Address) : Prop :=
  ∃ idServer : Int, router.mServers[idServer]? = some pointer

/-- The map of zones, or the table of a reachable server, leads to the object. -/
def ReachesZone (router : Router) (pointer : Address) : Prop :=
  (∃ idZone : Int, router.mZones[idZone]? = some pointer) ∨
    ∃ (serverPointer : Address) (server : Server) (idZone : Int),
      router.ReachesServer serverPointer ∧ router.servers.load serverPointer = some server ∧
        server.mZones[idZone]? = some pointer

/-- The map of users, or the table of a reachable zone, leads to the object. -/
def ReachesUser (router : Router) (pointer : Address) : Prop :=
  (∃ idUser : Int, router.mUsers[idUser]? = some pointer) ∨
    ∃ (zonePointer : Address) (zone : Zone) (idUser : Int),
      router.ReachesZone zonePointer ∧ router.zones.load zonePointer = some zone ∧
        zone.mUsers[idUser]? = some pointer

/-- The connection is attached to a user or server that can be reached. -/
def Attached (router : Router) (c : Connection) : Prop :=
  (∃ (pointer : Address) (server : Server), router.ReachesServer pointer ∧
      router.servers.load pointer = some server ∧ server.mConnection = some c) ∨
    ∃ (pointer : Address) (user : User), router.ReachesUser pointer ∧
      router.users.load pointer = some user ∧ user.mConnection = some c

/-- Everything that can be reached is alive. -/
structure Alive (router : Router) : Prop where
  servers : ∀ pointer, router.ReachesServer pointer →
    ∃ server, router.servers.load pointer = some server
  zones : ∀ pointer, router.ReachesZone pointer → ∃ zone, router.zones.load pointer = some zone
  users : ∀ pointer, router.ReachesUser pointer → ∃ user, router.users.load pointer = some user
  connections : ∀ c, router.Attached c → c ∉ router.deletedConnections

/-! ## The invariant -/

/-- Who owns and who borrows, and that no attached connection was deleted. -/
structure Sound (router : Router) : Prop extends ServesZones router where
  users : OwnsUsers router
  members : ∀ idZone zone, router.findZone idZone = some zone → Borrows zone.mUsers router.mUsers
  serverConnections : ∀ idServer server c, router.findServer idServer = some server →
    server.mConnection = some c → c ∉ router.deletedConnections
  userConnections : ∀ idUser user c, router.findUser idUser = some user →
    user.mConnection = some c → c ∉ router.deletedConnections

theorem Sound.empty : Sound Router.empty where
  toServesZones := ServesZones.empty
  users := Owns.empty
  members := by
    intro idZone zone found
    rw [findZone_empty] at found
    cases found
  serverConnections := by
    intro idServer server c found
    rw [findServer_empty] at found
    cases found
  userConnections := by
    intro idUser user c found
    cases found

namespace Sound

variable {pointer : Address}

theorem server_of_reached (sound : Sound router) (reached : router.ReachesServer pointer) :
    ∃ idServer server, router.servers.load pointer = some server ∧
      router.findServer idServer = some server := by
  rcases reached with ⟨idServer, entry⟩
  rcases sound.server_of_pointer entry with ⟨server, loaded, found, _⟩
  exact ⟨idServer, server, loaded, found⟩

theorem zone_of_reached (sound : Sound router) (reached : router.ReachesZone pointer) :
    ∃ idZone zone, router.zones.load pointer = some zone ∧ router.findZone idZone = some zone := by
  have owned : ∀ idZone : Int, router.mZones[idZone]? = some pointer →
      ∃ idZone zone, router.zones.load pointer = some zone ∧
        router.findZone idZone = some zone := by
    intro idZone entry
    rcases sound.zone_of_pointer entry with ⟨zone, loaded, found, _⟩
    exact ⟨idZone, zone, loaded, found⟩
  rcases reached with ⟨idZone, entry⟩ | ⟨serverPointer, server, idZone, reached, loaded, entry⟩
  · exact owned idZone entry
  · rcases sound.server_of_reached reached with ⟨idServer, server', loaded', found⟩
    have same : server = server' := Option.mem_unique loaded loaded'
    subst same
    exact owned idZone (sound.borrowed found idZone pointer entry)

theorem user_of_reached (sound : Sound router) (reached : router.ReachesUser pointer) :
    ∃ idUser user, router.users.load pointer = some user ∧
      router.findUser idUser = some user := by
  have owned : ∀ idUser : Int, router.mUsers[idUser]? = some pointer →
      ∃ idUser user, router.users.load pointer = some user ∧
        router.findUser idUser = some user := by
    intro idUser entry
    rcases sound.users.find_of_pointer entry with ⟨user, found, loaded, _⟩
    exact ⟨idUser, user, loaded, found⟩
  rcases reached with ⟨idUser, entry⟩ | ⟨zonePointer, zone, idUser, reached, loaded, entry⟩
  · exact owned idUser entry
  · rcases sound.zone_of_reached reached with ⟨idZone, zone', loaded', found⟩
    have same : zone = zone' := Option.mem_unique loaded loaded'
    subst same
    exact owned idUser (sound.members idZone zone found idUser pointer entry)

/-- Ownership and borrowing keep everything alive. -/
theorem alive (sound : Sound router) : Alive router where
  servers := by
    intro pointer reached
    rcases sound.server_of_reached reached with ⟨_, server, loaded, _⟩
    exact ⟨server, loaded⟩
  zones := by
    intro pointer reached
    rcases sound.zone_of_reached reached with ⟨_, zone, loaded, _⟩
    exact ⟨zone, loaded⟩
  users := by
    intro pointer reached
    rcases sound.user_of_reached reached with ⟨_, user, loaded, _⟩
    exact ⟨user, loaded⟩
  connections := by
    intro c attached
    rcases attached with ⟨pointer, server, reached, loaded, connected⟩ |
      ⟨pointer, user, reached, loaded, connected⟩
    · rcases sound.server_of_reached reached with ⟨idServer, server', loaded', found⟩
      have same : server = server' := Option.mem_unique loaded loaded'
      subst same
      exact sound.serverConnections idServer server c found connected
    · rcases sound.user_of_reached reached with ⟨idUser, user', loaded', found⟩
      have same : user = user' := Option.mem_unique loaded loaded'
      subst same
      exact sound.userConnections idUser user c found connected

end Sound

theorem attached_of_findServer {idServer : Int} {server : Server} {c : Connection}
    (found : router.findServer idServer = some server) (connected : server.mConnection = some c) :
    router.Attached c := by
  rcases find_eq_some_iff.mp found with ⟨pointer, entry, loaded⟩
  exact .inl ⟨pointer, server, ⟨idServer, entry⟩, loaded, connected⟩

theorem attached_of_findUser {idUser : Int} {user : User} {c : Connection}
    (found : router.findUser idUser = some user) (connected : user.mConnection = some c) :
    router.Attached c := by
  rcases find_eq_some_iff.mp found with ⟨pointer, entry, loaded⟩
  exact .inr ⟨pointer, user, .inl ⟨idUser, entry⟩, loaded, connected⟩

/-- A message can be sent on the connection, if there is one. -/
def CanSend (router : Router) (mConnection : Option Connection) : Prop :=
  ∀ c, mConnection = some c → c ∉ router.deletedConnections

theorem exists_sendOn_iff {mConnection : Option Connection} {t : Transferable} :
    (∃ outputs, router.sendOn mConnection t = some outputs) ↔ router.CanSend mConnection := by
  cases mConnection with
  | none =>
      refine ⟨fun _ c none => ?_, fun _ => ⟨[], rfl⟩⟩
      cases none
  | some c =>
      simp only [sendOn, CanSend, Option.some.injEq, forall_eq']
      by_cases deleted : c ∈ router.deletedConnections
      · simp only [deleted, if_true, reduceCtorEq, exists_false, not_true_eq_false]
      · simp only [deleted, if_false, Option.some.injEq, exists_eq', not_false_eq_true]

/-- A message can be sent to every user in the table of the zone. -/
def CanSendToZone (router : Router) (zonePointer : Address) : Prop :=
  ∃ zone, router.zones.load zonePointer = some zone ∧
    ∀ (idUser : Int) (pointer : Address), zone.mUsers[idUser]? = some pointer →
      ∃ user, router.users.load pointer = some user ∧ router.CanSend user.mConnection

/-- Joining the parts does not decide whether they are all defined. -/
private theorem exists_flatten_iff (parts : Option (List (List Output))) :
    (∃ outputs, (parts.bind fun parts => some parts.flatten) = some outputs) ↔
      ∃ outputs, parts = some outputs := by
  cases parts with
  | none => simp only [Option.bind_none, reduceCtorEq, exists_false]
  | some parts => exact ⟨fun _ => ⟨parts, rfl⟩, fun _ => ⟨parts.flatten, rfl⟩⟩

theorem exists_zoneSendToUsers_iff {zonePointer : Address} {t : Transferable} :
    (∃ outputs, router.zoneSendToUsers zonePointer t = some outputs) ↔
      router.CanSendToZone zonePointer := by
  unfold zoneSendToUsers CanSendToZone
  cases router.zones.load zonePointer with
  | none => simp only [Option.bind_eq_bind, Option.bind_none, reduceCtorEq, exists_false,
      false_and]
  | some zone =>
      simp only [Option.bind_eq_bind, Option.bind_some, Option.pure_def, Option.some.injEq,
        exists_eq_left']
      rw [exists_flatten_iff, FiniteMap.exists_mapM_toList_iff]
      simp only [Option.bind_eq_some_iff]
      refine forall_congr' fun idUser => forall_congr' fun pointer => imp_congr_right fun _ => ?_
      rw [exists_comm]
      simp only [exists_and_left, exists_sendOn_iff]

/-- A message can be sent to every user of every zone in the server's table. -/
def CanSendToServer (router : Router) (serverPointer : Address) : Prop :=
  ∃ server, router.servers.load serverPointer = some server ∧
    ∀ (idZone : Int) (pointer : Address), server.mZones[idZone]? = some pointer →
      router.CanSendToZone pointer

theorem exists_serverSendToUsers_iff {serverPointer : Address} {t : Transferable} :
    (∃ outputs, router.serverSendToUsers serverPointer t = some outputs) ↔
      router.CanSendToServer serverPointer := by
  unfold serverSendToUsers CanSendToServer
  cases router.servers.load serverPointer with
  | none => simp only [Option.bind_eq_bind, Option.bind_none, reduceCtorEq, exists_false,
      false_and]
  | some server =>
      simp only [Option.bind_eq_bind, Option.bind_some, Option.pure_def, Option.some.injEq,
        exists_eq_left']
      rw [exists_flatten_iff, FiniteMap.exists_mapM_toList_iff]
      simp only [exists_zoneSendToUsers_iff]

/-- Passing a message on to a server's users is defined when nothing on the
way to them was deleted. -/
theorem exists_sendToServerUsers_iff {idServer : Int} {t : Transferable} :
    (∃ outputs, router.sendToServerUsers idServer t = some outputs) ↔
      ∀ pointer, router.mServers[idServer]? = some pointer → router.CanSendToServer pointer := by
  unfold sendToServerUsers
  cases router.mServers[idServer]? with
  | none => simp only [Option.some.injEq, exists_eq', reduceCtorEq, false_implies, implies_true]
  | some pointer => simp only [exists_serverSendToUsers_iff, Option.some.injEq, forall_eq']

namespace Sound

variable {idServer idUser : Int} {t : Transferable}

theorem exists_sendToServerUsers (sound : Sound router) (idServer : Int) (t : Transferable) :
    ∃ outputs, router.sendToServerUsers idServer t = some outputs := by
  apply exists_sendToServerUsers_iff.mpr
  intro pointer entry
  rcases sound.server_of_pointer entry with ⟨server, loaded, found, _⟩
  refine ⟨server, loaded, ?_⟩
  intro idZone zonePointer zoneEntry
  rcases sound.zone_of_pointer (sound.borrowed found idZone zonePointer zoneEntry) with
    ⟨zone, loadedZone, foundZone, _⟩
  refine ⟨zone, loadedZone, ?_⟩
  intro idUser userPointer userEntry
  have owned := sound.members idZone zone foundZone idUser userPointer userEntry
  rcases sound.users.find_of_pointer owned with ⟨user, foundUser, loadedUser, _⟩
  exact ⟨user, loadedUser, fun c => sound.userConnections idUser user c foundUser⟩

theorem exists_sendToServer (sound : Sound router) (idServer : Int) (t : Transferable) :
    ∃ outputs, router.sendToServer idServer t = some outputs := by
  unfold sendToServer
  cases entry : router.mServers[idServer]? with
  | none => exact ⟨[], rfl⟩
  | some pointer =>
      rcases sound.server_of_pointer entry with ⟨server, loaded, found, _⟩
      simp only [loaded, Option.bind_eq_bind, Option.bind_some]
      exact exists_sendOn_iff.mpr fun c => sound.serverConnections idServer server c found

theorem exists_sendToUser (sound : Sound router) (idUser : Int) (t : Transferable) :
    ∃ outputs, router.sendToUser idUser t = some outputs := by
  unfold sendToUser
  cases entry : router.mUsers[idUser]? with
  | none => exact ⟨[], rfl⟩
  | some pointer =>
      rcases sound.users.find_of_pointer entry with ⟨user, found, loaded, _⟩
      simp only [loaded, Option.bind_eq_bind, Option.bind_some]
      exact exists_sendOn_iff.mpr fun c => sound.userConnections idUser user c found

end Sound

end Router
end Pxc
