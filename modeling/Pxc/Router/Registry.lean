import Mathlib.Order.BooleanAlgebra.Set
import Mathlib.Logic.Function.Basic
import Pxc.General.Refinements
import Pxc.Router.Delivery

namespace Pxc
namespace Router

open General

/-!
# What the router is for

Seen from outside, the router is a registry.  It knows users, zones and
servers by their ids, which zone a user is in, which server has a zone and to
which one it is being handed over, and the connections of users and servers.
Nothing in it is a pointer, a table kept twice, or an object that may be
freed.

The registry says what each call of the router should do and which calls it
permits.  A call about a user that was removed is not permitted, nor one
that moves a user out of a zone that is gone, sends to a zone that is not
there, or deletes a connection that is still in use.
-/

/-- What is known about a user. -/
structure Account where
  token : Int
  zone : Int
  connection : Option Connection

/-- What is known about a zone. -/
structure Area where
  server : Int
  target : Option Int
  users : Set Int

/-- What is known about a server. -/
structure Host where
  zones : Set Int
  connection : Option Connection

/-- The users, zones and servers by their ids, the users that were removed,
and the connections that were deleted. -/
@[ext] structure Registry where
  users : Int → Option Account
  zones : Int → Option Area
  servers : Int → Option Host
  removed : Set Int
  deleted : Set Connection

/-- What a call is answered with. -/
inductive Reply where
  | done
  | valid (result : Bool)
  | outputs (outputs : List Output)
  deriving DecidableEq, Repr

namespace Area

/-- The zone without one of its users. -/
def drop (area : Area) (idUser : Int) : Area :=
  { area with users := area.users \ {idUser} }

/-- The zone with one more user. -/
def enter (area : Area) (idUser : Int) : Area :=
  { area with users := insert idUser area.users }

/-- Without a user that it does not have, a zone is what it was. -/
theorem drop_of_not_mem {area : Area} {idUser : Int} (absent : idUser ∉ area.users) :
    area.drop idUser = area := by
  rw [drop, Set.sdiff_singleton_eq_self absent]

theorem drop_enter (area : Area) (idUser : Int) : (area.enter idUser).drop idUser =
    area.drop idUser := by
  unfold enter drop
  rw [Set.insert_sdiff_of_mem _ (Set.mem_singleton idUser)]

end Area

namespace Host

/-- The server without one of its zones. -/
def drop (host : Host) (idZone : Int) : Host :=
  { host with zones := host.zones \ {idZone} }

/-- The server with one more zone. -/
def enter (host : Host) (idZone : Int) : Host :=
  { host with zones := insert idZone host.zones }

/-- Without a zone that it does not have, a server is what it was. -/
theorem drop_of_not_mem {host : Host} {idZone : Int} (absent : idZone ∉ host.zones) :
    host.drop idZone = host := by
  rw [drop, Set.sdiff_singleton_eq_self absent]

theorem enter_drop (host : Host) (idZone : Int) : (host.drop idZone).enter idZone =
    host.enter idZone := by
  unfold enter drop
  rw [Set.insert_sdiff_singleton]

end Host

namespace Registry

/-- Nobody is known. -/
def empty : Registry where
  users := fun _ => none
  zones := fun _ => none
  servers := fun _ => none
  removed := ∅
  deleted := ∅

def setUser (registry : Registry) (idUser : Int) (account : Option Account) : Registry :=
  { registry with users := Function.update registry.users idUser account }

def setZone (registry : Registry) (idZone : Int) (area : Option Area) : Registry :=
  { registry with zones := Function.update registry.zones idZone area }

def setServer (registry : Registry) (idServer : Int) (host : Option Host) : Registry :=
  { registry with servers := Function.update registry.servers idServer host }

theorem users_setUser_self (registry : Registry) (idUser : Int) (account : Option Account) :
    (registry.setUser idUser account).users idUser = account := by
  simp only [setUser, Function.update_self]

theorem users_setUser_of_ne (registry : Registry) {idUser other : Int} (account : Option Account)
    (different : other ≠ idUser) :
    (registry.setUser idUser account).users other = registry.users other := by
  simp only [setUser, Function.update_of_ne different]

theorem servers_setServer_self (registry : Registry) (idServer : Int) (host : Option Host) :
    (registry.setServer idServer host).servers idServer = host := by
  simp only [setServer, Function.update_self]

theorem servers_setServer_of_ne (registry : Registry) {idServer other : Int} (host : Option Host)
    (different : other ≠ idServer) :
    (registry.setServer idServer host).servers other = registry.servers other := by
  simp only [setServer, Function.update_of_ne different]

theorem zones_setZone_self (registry : Registry) (idZone : Int) (area : Option Area) :
    (registry.setZone idZone area).zones idZone = area := by
  simp only [setZone, Function.update_self]

theorem zones_setZone_of_ne (registry : Registry) {idZone other : Int} (area : Option Area)
    (different : other ≠ idZone) :
    (registry.setZone idZone area).zones other = registry.zones other := by
  simp only [setZone, Function.update_of_ne different]

/-- The connection that something had is deleted. -/
def delete (registry : Registry) (old : Option Connection) : Registry :=
  { registry with deleted := {c | old = some c} ∪ registry.deleted }

/-- No server has the zone any more. -/
def unassign (registry : Registry) (idZone : Int) : Registry :=
  { registry with servers := fun idServer => (registry.servers idServer).map (Host.drop · idZone) }

theorem delete_none (registry : Registry) : registry.delete none = registry := by
  refine Registry.ext rfl rfl rfl rfl ?_
  ext c
  change none = some c ∨ c ∈ registry.deleted ↔ c ∈ registry.deleted
  simp only [reduceCtorEq, false_or]

/-- The zone becomes one of the new server's, if both servers are known. -/
def handOver (registry : Registry) (idZone : Int) (area : Area) (target : Int) : Registry :=
  match registry.servers area.server, registry.servers target with
  | some _, some host =>
      ((registry.unassign idZone).setServer target (some (host.enter idZone))).setZone idZone
        (some { area with server := target, target := none })
  | _, _ => registry

/-- The user is in the new zone only.  A user that names that zone already
is in none. -/
def move (registry : Registry) (idUser : Int) (account : Account) (idZone : Int) : Registry :=
  { registry.setUser idUser (some { account with zone := idZone }) with
    zones := fun other => (registry.zones other).map fun area =>
      if other = idZone ∧ account.zone ≠ idZone then area.enter idUser else area.drop idUser }

/-- The user is forgotten, apart from its id. -/
def remove (registry : Registry) (idUser : Int) : Registry :=
  { registry.setUser idUser none with
    zones := fun other => (registry.zones other).map (Area.drop · idUser)
    removed := insert idUser registry.removed }

/-- The state after a call. -/
def act (registry : Registry) : Event → Registry
  | .addServer idServer =>
      match registry.servers idServer with
      | some _ => registry
      | none => registry.setServer idServer (some ⟨∅, none⟩)
  | .connectServer idServer c =>
      match registry.servers idServer with
      | some host =>
          (registry.delete host.connection).setServer idServer
            (some { host with connection := some c })
      | none => registry
  | .delServer idServer =>
      match registry.servers idServer with
      | some host => (registry.delete host.connection).setServer idServer none
      | none => registry
  | .addZone idZone =>
      match registry.zones idZone with
      | some _ => registry
      | none => registry.setZone idZone (some ⟨-1, none, ∅⟩)
  | .delZone idZone =>
      match registry.zones idZone with
      | some _ => (registry.unassign idZone).setZone idZone none
      | none => registry
  | .startZoneToServerTransfer idZone newServer =>
      match registry.zones idZone, registry.servers newServer with
      | some area, some _ => registry.setZone idZone (some { area with target := some newServer })
      | _, _ => registry
  | .endZoneToServerTransfer idZone =>
      match registry.zones idZone with
      | some area =>
          match area.target with
          | some target => registry.handOver idZone area target
          | none => registry
      | none => registry
  | .addUser idUser token =>
      match registry.users idUser with
      | some account => registry.setUser idUser (some { account with token })
      | none => registry.setUser idUser (some ⟨token, -1, none⟩)
  | .delUser idUser =>
      match registry.users idUser with
      | some _ => registry.remove idUser
      | none => registry
  | .validateUser idUser token =>
      match registry.users idUser with
      | some account => registry.setUser idUser (some { account with token })
      | none => registry
  | .connectUser idUser token c =>
      match registry.users idUser with
      | some account =>
          if token = 0 then registry.setUser idUser (some { account with token })
          else (registry.delete account.connection).setUser idUser
            (some { account with token, connection := some c })
      | none => registry
  | .setUserToZone idUser idZone =>
      match registry.users idUser, registry.zones idZone with
      | some account, some _ => registry.move idUser account idZone
      | _, _ => registry
  | .sendToServer _ _ => registry
  | .sendToServerUsers _ _ => registry
  | .sendToZone _ _ => registry
  | .sendToUser _ _ => registry

/-! ## What is permitted -/

/-- No other user, and no server, has the connection. -/
def OnlyUser (registry : Registry) (idUser : Int) (c : Connection) : Prop :=
  (∀ other account, registry.users other = some account → account.connection = some c →
    other = idUser) ∧
    ∀ idServer host, registry.servers idServer = some host → host.connection ≠ some c

/-- No other server, and no user, has the connection. -/
def OnlyServer (registry : Registry) (idServer : Int) (c : Connection) : Prop :=
  (∀ other host, registry.servers other = some host → host.connection = some c →
    other = idServer) ∧
    ∀ idUser account, registry.users idUser = some account → account.connection ≠ some c

/-- The calls that the registry permits. -/
def Permitted (registry : Registry) : Event → Prop
  | .connectServer idServer c => ∀ host, registry.servers idServer = some host →
      c ∉ registry.deleted ∧ ∀ old, host.connection = some old →
        old ≠ c ∧ registry.OnlyServer idServer old
  | .delServer idServer => ∀ host, registry.servers idServer = some host →
      ∀ old, host.connection = some old → registry.OnlyServer idServer old
  | .addUser idUser _ => idUser ∉ registry.removed
  | .delUser idUser => idUser ∉ registry.removed
  | .validateUser idUser _ => idUser ∉ registry.removed
  | .connectUser idUser token c => idUser ∉ registry.removed ∧
      ∀ account, registry.users idUser = some account → token ≠ 0 →
        c ∉ registry.deleted ∧ ∀ old, account.connection = some old →
          old ≠ c ∧ registry.OnlyUser idUser old
  | .setUserToZone idUser idZone => ∀ area, registry.zones idZone = some area →
      idUser ∉ registry.removed ∧ ∀ account, registry.users idUser = some account →
        ∃ oldArea, registry.zones account.zone = some oldArea
  | .sendToZone idZone _ => ∃ area, registry.zones idZone = some area
  | .sendToUser idUser _ => idUser ∉ registry.removed
  | _ => True

/-- What a user gets of a message, if it has a connection. -/
def sentTo (registry : Registry) (t : Transferable) (idUser : Int) : Option Output :=
  ((registry.users idUser).bind Account.connection).map fun c => .sent c t

/-- The user is in a zone of the server. -/
def InServer (registry : Registry) (idUser idServer : Int) : Prop :=
  ∃ host, registry.servers idServer = some host ∧ ∃ idZone ∈ host.zones, ∃ area,
    registry.zones idZone = some area ∧ idUser ∈ area.users

/-- How a call may be answered.  Each user of a server is sent a message
once, in any order, and nobody in a zone is sent one. -/
def Answers (registry : Registry) : Event → Reply → Prop
  | .connectServer idServer c, reply => reply =
      .outputs ((registry.servers idServer).map fun _ => Output.sent c .addRouterSend).toList
  | .delServer idServer, reply => reply =
      .outputs (((registry.servers idServer).bind Host.connection).map Output.closed).toList
  | .delUser idUser, reply => reply =
      .outputs (((registry.users idUser).bind Account.connection).map Output.closed).toList
  | .validateUser idUser token, reply => reply =
      .valid ((registry.users idUser).isSome && token ≠ 0)
  | .sendToServer idServer t, reply => reply =
      .outputs (((registry.servers idServer).bind Host.connection).map (Output.sent · t)).toList
  | .sendToServerUsers idServer t, reply => ∃ receivers,
      Enumerates receivers (fun idUser => registry.InServer idUser idServer) ∧
        reply = .outputs (receivers.filterMap (registry.sentTo t))
  | .sendToZone _ _, reply => reply = .outputs []
  | .sendToUser idUser t, reply => reply = .outputs (registry.sentTo t idUser).toList
  | _, reply => reply = .done

/-! ## The invariant -/

/-- A user is in no zone but the one it names, and no connection in use was
deleted. -/
structure WellFormed (registry : Registry) : Prop where
  placed : ∀ {idZone area idUser}, registry.zones idZone = some area → idUser ∈ area.users →
    ∃ account, registry.users idUser = some account ∧ account.zone = idZone
  userConnections : ∀ {idUser account c}, registry.users idUser = some account →
    account.connection = some c → c ∉ registry.deleted
  serverConnections : ∀ {idServer host c}, registry.servers idServer = some host →
    host.connection = some c → c ∉ registry.deleted

theorem WellFormed.empty : WellFormed empty where
  placed := by
    intro idZone area idUser known
    cases known
  userConnections := by
    intro idUser account c known
    cases known
  serverConnections := by
    intro idServer host c known
    cases known

namespace WellFormed

variable {registry next : Registry} {idUser idZone idServer : Int} {event : Event}

/-- Zones that lose users, and servers that keep their connections or lose
them. -/
theorem of_users (formed : registry.WellFormed) (users : next.users = registry.users)
    (zones : ∀ {idZone area idUser}, next.zones idZone = some area → idUser ∈ area.users →
      ∃ before, registry.zones idZone = some before ∧ idUser ∈ before.users)
    (servers : ∀ {idServer host c}, next.servers idServer = some host → host.connection = some c →
      ∃ before, registry.servers idServer = some before ∧ before.connection = some c)
    (deleted : next.deleted = registry.deleted) : next.WellFormed where
  placed := by
    intro idZone area idUser known member
    rcases zones known member with ⟨before, knownBefore, memberBefore⟩
    rw [users]
    exact formed.placed knownBefore memberBefore
  userConnections := by
    intro idUser account c known
    rw [users] at known
    rw [deleted]
    exact formed.userConnections known
  serverConnections := by
    intro idServer host c known connected
    rcases servers known connected with ⟨before, knownBefore, connectedBefore⟩
    rw [deleted]
    exact formed.serverConnections knownBefore connectedBefore

/-- One user that keeps its zone, and has a connection that was not deleted.
Connections that were deleted are nobody's. -/
theorem setUser (formed : registry.WellFormed) {account : Account} (old : Option Connection)
    (zone : ∀ before, registry.users idUser = some before → account.zone = before.zone)
    (usable : ∀ c, account.connection = some c → c ∉ (registry.delete old).deleted)
    (unused : ∀ c, old = some c → registry.OnlyUser idUser c) :
    ((registry.delete old).setUser idUser (some account)).WellFormed where
  placed := by
    intro idZone area idOther known member
    rcases formed.placed known member with ⟨before, knownBefore, names⟩
    by_cases same : idOther = idUser
    · subst same
      exact ⟨account, users_setUser_self .., (zone before knownBefore).trans names⟩
    · exact ⟨before, (users_setUser_of_ne _ _ same).trans knownBefore, names⟩
  userConnections := by
    intro idOther other c known connected
    by_cases same : idOther = idUser
    · subst same
      rw [users_setUser_self, Option.some.injEq] at known
      subst known
      exact usable c connected
    · rw [users_setUser_of_ne _ _ same] at known
      intro deleted
      rcases deleted with released | deleted
      · exact same ((unused c released).1 idOther other known connected)
      · exact formed.userConnections known connected deleted
  serverConnections := by
    intro idServer host c known connected deleted
    rcases deleted with released | deleted
    · exact (unused c released).2 idServer host known connected
    · exact formed.serverConnections known connected deleted

/-- The same for a server, which may also be removed. -/
theorem setServer (formed : registry.WellFormed) {host : Option Host} (old : Option Connection)
    (usable : ∀ after c, host = some after → after.connection = some c →
      c ∉ (registry.delete old).deleted)
    (unused : ∀ c, old = some c → registry.OnlyServer idServer c) :
    ((registry.delete old).setServer idServer host).WellFormed where
  placed := formed.placed
  userConnections := by
    intro idUser account c known connected deleted
    rcases deleted with released | deleted
    · exact (unused c released).2 idUser account known connected
    · exact formed.userConnections known connected deleted
  serverConnections := by
    intro idOther other c known connected
    by_cases same : idOther = idServer
    · subst same
      rw [servers_setServer_self] at known
      exact usable other c known connected
    · rw [servers_setServer_of_ne _ _ same] at known
      intro deleted
      rcases deleted with released | deleted
      · exact same ((unused c released).1 idOther other known connected)
      · exact formed.serverConnections known connected deleted

/-- A user that keeps its zone and its connection, or a new one. -/
theorem setToken (formed : registry.WellFormed) {account : Account}
    (before : registry.users idUser = none ∧ account.connection = none ∨
      ∃ previous, registry.users idUser = some previous ∧ account.zone = previous.zone ∧
        account.connection = previous.connection) :
    (registry.setUser idUser (some account)).WellFormed := by
  rw [← registry.delete_none]
  apply formed.setUser none
  · intro previous known
    rcases before with ⟨unknown, _⟩ | ⟨previous', known', same, _⟩
    · cases unknown.symm.trans known
    · cases known.symm.trans known'
      exact same
  · intro c connected
    rw [delete_none]
    rcases before with ⟨_, unconnected⟩ | ⟨previous, known, _, same⟩
    · cases unconnected.symm.trans connected
    · exact formed.userConnections known (same.symm.trans connected)
  · intro c released
    cases released

theorem setZone (formed : registry.WellFormed) {area : Option Area}
    (users : ∀ after, area = some after → ∀ idUser ∈ after.users, ∃ before,
      registry.zones idZone = some before ∧ idUser ∈ before.users) :
    (registry.setZone idZone area).WellFormed := by
  refine formed.of_users rfl ?_ (fun known connected => ⟨_, known, connected⟩) rfl
  intro other after idUser known member
  by_cases same : other = idZone
  · subst same
    rw [zones_setZone_self] at known
    exact users after known idUser member
  · rw [zones_setZone_of_ne _ _ same] at known
    exact ⟨after, known, member⟩

theorem unassign (formed : registry.WellFormed) (idZone : Int) :
    (registry.unassign idZone).WellFormed := by
  refine formed.of_users rfl (fun known member => ⟨_, known, member⟩) ?_ rfl
  intro idServer host c known connected
  rcases Option.map_eq_some_iff.mp known with ⟨before, knownBefore, same⟩
  subst same
  exact ⟨before, knownBefore, connected⟩

theorem handOver (formed : registry.WellFormed) {area : Area}
    (known : registry.zones idZone = some area) (target : Int) :
    (registry.handOver idZone area target).WellFormed := by
  unfold Registry.handOver
  cases registry.servers area.server with
  | none => exact formed
  | some source =>
      cases knownNew : registry.servers target with
      | none => exact formed
      | some host =>
          have entered : ((registry.unassign idZone).setServer target
              (some (host.enter idZone))).WellFormed := by
            rw [← (registry.unassign idZone).delete_none]
            apply (formed.unassign idZone).setServer none
            · intro after c same connected
              cases same
              rw [delete_none]
              exact formed.serverConnections knownNew connected
            · intro c released
              cases released
          apply entered.setZone
          intro after same idUser member
          cases same
          exact ⟨area, known, member⟩

theorem remove (formed : registry.WellFormed) (idUser : Int) :
    (registry.remove idUser).WellFormed where
  placed := by
    intro idZone area other known member
    rcases Option.map_eq_some_iff.mp known with ⟨before, knownBefore, same⟩
    subst same
    rcases formed.placed knownBefore member.1 with ⟨account, knownUser, names⟩
    refine ⟨account, ?_, names⟩
    exact (users_setUser_of_ne registry none member.2).trans knownUser
  userConnections := by
    intro other account c known
    by_cases same : other = idUser
    · subst same
      rw [Registry.remove, users_setUser_self] at known
      cases known
    · rw [Registry.remove, users_setUser_of_ne _ _ same] at known
      exact formed.userConnections known
  serverConnections := formed.serverConnections

theorem move (formed : registry.WellFormed) {account : Account}
    (knownUser : registry.users idUser = some account) (idZone : Int) :
    (registry.move idUser account idZone).WellFormed where
  placed := by
    intro idOther area other known member
    rcases Option.map_eq_some_iff.mp known with ⟨before, knownBefore, same⟩
    subst same
    have elsewhere : other ≠ idUser → other ∈ before.users →
        ∃ account', (registry.move idUser account idZone).users other = some account' ∧
          account'.zone = idOther := by
      intro different memberBefore
      rcases formed.placed knownBefore memberBefore with ⟨account', known', names⟩
      exact ⟨account', (users_setUser_of_ne registry _ different).trans known', names⟩
    split at member
    · next enters =>
      rcases member with same | memberBefore
      · subst same
        exact ⟨{ account with zone := idZone }, users_setUser_self registry other _, enters.1.symm⟩
      · by_cases same : other = idUser
        · subst same
          exact ⟨{ account with zone := idZone }, users_setUser_self registry other _,
            enters.1.symm⟩
        · exact elsewhere same memberBefore
    · exact elsewhere member.2 member.1
  userConnections := by
    intro other account' c known connected
    by_cases same : other = idUser
    · subst same
      rw [Registry.move, users_setUser_self, Option.some.injEq] at known
      subst known
      exact formed.userConnections knownUser connected
    · rw [Registry.move, users_setUser_of_ne _ _ same] at known
      exact formed.userConnections known connected
  serverConnections := formed.serverConnections

/-- Every permitted call keeps the invariant. -/
theorem act (formed : registry.WellFormed) (permitted : registry.Permitted event) :
    (registry.act event).WellFormed := by
  cases event with
  | addServer idServer =>
      simp only [Registry.act]
      cases registry.servers idServer with
      | some host => exact formed
      | none =>
          rw [← registry.delete_none]
          apply formed.setServer none
          · intro after c same connected
            cases same
            cases connected
          · intro c released
            cases released
  | connectServer idServer c =>
      simp only [Registry.act]
      cases known : registry.servers idServer with
      | none => exact formed
      | some host =>
          rcases permitted host known with ⟨usable, unused⟩
          refine formed.setServer host.connection ?_ fun old replaced => (unused old replaced).2
          intro after c' same connected deleted
          cases same
          cases connected
          rcases deleted with released | deleted
          · exact (unused c released).1 rfl
          · exact usable deleted
  | delServer idServer =>
      simp only [Registry.act]
      cases known : registry.servers idServer with
      | none => exact formed
      | some host =>
          refine formed.setServer host.connection ?_ (permitted host known)
          intro after c same
          cases same
  | addZone idZone =>
      simp only [Registry.act]
      cases registry.zones idZone with
      | some area => exact formed
      | none =>
          apply formed.setZone
          intro after same idUser member
          cases same
          cases member
  | delZone idZone =>
      simp only [Registry.act]
      cases registry.zones idZone with
      | none => exact formed
      | some area =>
          apply (formed.unassign idZone).setZone
          intro after same
          cases same
  | startZoneToServerTransfer idZone newServer =>
      simp only [Registry.act]
      cases known : registry.zones idZone with
      | none => exact formed
      | some area =>
          cases registry.servers newServer with
          | none => exact formed
          | some host =>
              apply formed.setZone
              intro after same idUser member
              cases same
              exact ⟨area, known, member⟩
  | endZoneToServerTransfer idZone =>
      simp only [Registry.act]
      cases known : registry.zones idZone with
      | none => exact formed
      | some area =>
          cases targeted : area.target with
          | none =>
              simp only [targeted]
              exact formed
          | some target =>
              simp only [targeted]
              exact formed.handOver known target
  | addUser idUser token =>
      simp only [Registry.act]
      cases known : registry.users idUser with
      | none => exact formed.setToken (.inl ⟨known, rfl⟩)
      | some account => exact formed.setToken (.inr ⟨account, known, rfl, rfl⟩)
  | delUser idUser =>
      simp only [Registry.act]
      cases registry.users idUser with
      | none => exact formed
      | some account => exact formed.remove idUser
  | validateUser idUser token =>
      simp only [Registry.act]
      cases known : registry.users idUser with
      | none => exact formed
      | some account => exact formed.setToken (.inr ⟨account, known, rfl, rfl⟩)
  | connectUser idUser token c =>
      simp only [Registry.act]
      cases known : registry.users idUser with
      | none => exact formed
      | some account =>
          by_cases zero : token = 0
          · simp only [if_pos zero]
            exact formed.setToken (.inr ⟨account, known, rfl, rfl⟩)
          · simp only [if_neg zero]
            rcases permitted.2 account known zero with ⟨usable, unused⟩
            refine formed.setUser account.connection ?_ ?_ fun old replaced =>
              (unused old replaced).2
            · intro before known'
              cases known.symm.trans known'
              rfl
            · intro c' connected deleted
              cases connected
              rcases deleted with released | deleted
              · exact (unused c released).1 rfl
              · exact usable deleted
  | setUserToZone idUser idZone =>
      simp only [Registry.act]
      cases known : registry.users idUser with
      | none => exact formed
      | some account =>
          cases registry.zones idZone with
          | none => exact formed
          | some area => exact formed.move known idZone
  | sendToServer idServer t => exact formed
  | sendToServerUsers idServer t => exact formed
  | sendToZone idZone t => exact formed
  | sendToUser idUser t => exact formed

end WellFormed

/-- The registry as a specification of the router. -/
def specification : Specification Registry Event Reply where
  act := act
  Permitted := Permitted
  Answers := Answers

end Registry
end Router
end Pxc
