import Pxc.General.Ownership
import Pxc.Router.Inversions

namespace Pxc
namespace Router

open General

/-!
# What the operations do to servers and zones

The maps of servers and of zones own their objects, whatever the router does.
Under this invariant an operation on servers and zones is a change of what is
found under an id, and this module says which, operation by operation.  The
other operations leave the service of the zones alone: which zones a server
has in its table, and which server a zone names.
-/

variable {router next : Router}

/-- The server that the router finds under an id. -/
def findServer (router : Router) (idServer : Int) : Option Server :=
  find router.mServers router.servers idServer

/-- The zone that the router finds under an id. -/
def findZone (router : Router) (idZone : Int) : Option Zone :=
  find router.mZones router.zones idZone

/-- The maps of servers and of zones own their objects. -/
structure Owned (router : Router) : Prop where
  servers : Owns Server.mId router.mServers router.servers
  zones : Owns Zone.mId router.mZones router.zones

theorem Owned.empty : Owned Router.empty where
  servers := Owns.empty
  zones := Owns.empty

theorem findServer_empty (idServer : Int) : Router.empty.findServer idServer = none :=
  find_of_absent Std.ExtTreeMap.getElem?_empty

theorem findZone_empty (idZone : Int) : Router.empty.findZone idZone = none :=
  find_of_absent Std.ExtTreeMap.getElem?_empty

namespace Owned

theorem server_of_pointer (owned : Owned router) {idServer : Int} {address : Address}
    (pointer : router.mServers[idServer]? = some address) :
    ∃ server, router.servers.load address = some server ∧
      router.findServer idServer = some server ∧ server.mId = idServer := by
  rcases owned.servers.find_of_pointer pointer with ⟨server, found, loaded, carries⟩
  exact ⟨server, loaded, found, carries⟩

theorem zone_of_pointer (owned : Owned router) {idZone : Int} {address : Address}
    (pointer : router.mZones[idZone]? = some address) :
    ∃ zone, router.zones.load address = some zone ∧ router.findZone idZone = some zone ∧
      zone.mId = idZone := by
  rcases owned.zones.find_of_pointer pointer with ⟨zone, found, loaded, carries⟩
  exact ⟨zone, loaded, found, carries⟩

/-- The zone leaves the table of the server found under an id. -/
theorem serverDelZone_of_pointer (owned : Owned router) {idServer idZone : Int}
    {address : Address} (pointer : router.mServers[idServer]? = some address) :
    ∃ servers, router.serverDelZone address idZone = some { router with servers } ∧
      Owned { router with servers } ∧
      ∀ other, find router.mServers servers other =
        if idServer = other then
          (router.findServer idServer).map fun server => server.delZone idZone
        else router.findServer other := by
  rcases owned.server_of_pointer pointer with ⟨server, loaded, found, carries⟩
  rcases Heap.exists_store loaded (server.delZone idZone) with ⟨servers, stored⟩
  refine ⟨servers, ?_, ⟨owned.servers.store pointer stored carries, owned.zones⟩, ?_⟩
  · simp only [serverDelZone, loaded, stored, Option.bind_eq_bind, Option.bind_some,
      Option.pure_def]
  · intro other
    rw [found, Option.map_some]
    exact owned.servers.find_store pointer stored other

theorem foundServerDelZone_done (owned : Owned router) (idServer idZone : Int) :
    ∃ servers, router.foundServerDelZone idServer idZone = some { router with servers } ∧
      Owned { router with servers } ∧
      ∀ other, find router.mServers servers other =
        if idServer = other then
          (router.findServer idServer).map fun server => server.delZone idZone
        else router.findServer other := by
  unfold foundServerDelZone
  cases pointer : router.mServers[idServer]? with
  | none =>
      refine ⟨router.servers, rfl, owned, fun other => ?_⟩
      by_cases same : idServer = other
      · rw [if_pos same, ← same, findServer, find_of_absent pointer, Option.map_none]
      · rw [if_neg same, findServer]
  | some address => exact owned.serverDelZone_of_pointer pointer

theorem addServer_new (owned : Owned router) {idServer : Int}
    (absent : router.mServers[idServer]? = none) :
    ∃ servers, router.addServer idServer = some { router with
        servers, mServers := router.mServers.insert idServer router.servers.next } ∧
      Owned { router with
        servers, mServers := router.mServers.insert idServer router.servers.next } ∧
      ∀ other, find (router.mServers.insert idServer router.servers.next) servers other =
        if idServer = other then some (Server.create idServer) else router.findServer other := by
  refine ⟨router.servers.alloc (Server.create idServer), ?_,
    ⟨owned.servers.alloc rfl, owned.zones⟩, owned.servers.find_alloc (Server.create idServer)⟩
  unfold addServer
  rw [absent]

theorem addZone_new (owned : Owned router) {idZone : Int}
    (absent : router.mZones[idZone]? = none) :
    ∃ zones, router.addZone idZone = some { router with
        zones, mZones := router.mZones.insert idZone router.zones.next } ∧
      Owned { router with
        zones, mZones := router.mZones.insert idZone router.zones.next } ∧
      ∀ other, find (router.mZones.insert idZone router.zones.next) zones other =
        if idZone = other then some (Zone.create idZone) else router.findZone other := by
  refine ⟨router.zones.alloc (Zone.create idZone), ?_,
    ⟨owned.servers, owned.zones.alloc rfl⟩, owned.zones.find_alloc (Zone.create idZone)⟩
  unfold addZone
  rw [absent]

theorem delZone_known (owned : Owned router) {idZone : Int} {zone : Zone}
    (found : router.findZone idZone = some zone) :
    ∃ servers zones, router.delZone idZone = some { router with
        servers, zones, mZones := router.mZones.erase idZone } ∧
      Owned { router with servers, zones, mZones := router.mZones.erase idZone } ∧
      (∀ other, find router.mServers servers other =
        if zone.mServer = other then
          (router.findServer zone.mServer).map fun server => server.delZone idZone
        else router.findServer other) ∧
      ∀ other, find (router.mZones.erase idZone) zones other =
        if idZone = other then none else router.findZone other := by
  rcases find_eq_some_iff.mp found with ⟨address, pointer, loaded⟩
  rcases owned.foundServerDelZone_done zone.mServer idZone with ⟨servers, left, owned', servers'⟩
  rcases Heap.exists_free loaded with ⟨zones, freed⟩
  refine ⟨servers, zones, ?_, ⟨owned'.servers, owned.zones.free pointer freed⟩, servers',
    owned.zones.find_free pointer freed⟩
  unfold delZone
  simp only [pointer, loaded, left, freed, Option.bind_eq_bind, Option.bind_some, Option.pure_def]

theorem startZoneToServerTransfer_known (owned : Owned router) {idZone newServer : Int}
    {zone : Zone} (found : router.findZone idZone = some zone)
    (known : ∃ server, router.findServer newServer = some server) :
    ∃ zones, router.startZoneToServerTransfer idZone newServer = some { router with zones } ∧
      Owned { router with zones } ∧
      ∀ other, find router.mZones zones other =
        if idZone = other then some (zone.newServer newServer) else router.findZone other := by
  rcases find_eq_some_iff.mp found with ⟨address, pointer, loaded⟩
  rcases known with ⟨server, foundServer⟩
  rcases find_eq_some_iff.mp foundServer with ⟨serverAddress, serverPointer, _⟩
  rcases Heap.exists_store loaded (zone.newServer newServer) with ⟨zones, stored⟩
  have carries : zone.mId = idZone := owned.zones.key_of_find found
  refine ⟨zones, ?_, ⟨owned.servers, owned.zones.store pointer stored carries⟩,
    owned.zones.find_store pointer stored⟩
  unfold startZoneToServerTransfer
  simp only [pointer, serverPointer, loaded, stored, Option.bind_eq_bind, Option.bind_some,
    Option.pure_def]

/-- A transfer that ends: the zone leaves the table of its old server, then
enters the table of the new one, which may be the same. -/
theorem endZoneToServerTransfer_known (owned : Owned router) {idZone : Int} {zone : Zone}
    {address : Address} {target : Server} (pointer : router.mZones[idZone]? = some address)
    (loaded : router.zones.load address = some zone) (transferring : zone.mInTransfer = true)
    (oldKnown : ∃ source, router.findServer zone.mServer = some source)
    (newKnown : router.findServer zone.mNewServer = some target) :
    ∃ servers zones, router.endZoneToServerTransfer idZone = some { router with servers, zones } ∧
      Owned { router with servers, zones } ∧
      (∀ other, find router.mServers servers other =
        if zone.mNewServer = other then
          some ((if zone.mServer = zone.mNewServer then target.delZone idZone else target).addZone
            idZone address)
        else if zone.mServer = other then
          (router.findServer zone.mServer).map fun server => server.delZone idZone
        else router.findServer other) ∧
      ∀ other, find router.mZones zones other =
        if idZone = other then some zone.endTransfer else router.findZone other := by
  rcases oldKnown with ⟨source, foundSource⟩
  rcases find_eq_some_iff.mp foundSource with ⟨sourceAddress, sourcePointer, _⟩
  rcases find_eq_some_iff.mp newKnown with ⟨targetAddress, targetPointer, _⟩
  rcases owned.serverDelZone_of_pointer sourcePointer with ⟨middle, left, owned', middle'⟩
  -- the new server is looked at after the old one, which may be the same server
  have entered : middle.load targetAddress =
      some (if zone.mServer = zone.mNewServer then target.delZone idZone else target) := by
    rw [← find_of_pointer targetPointer, middle']
    by_cases same : zone.mServer = zone.mNewServer
    · rw [if_pos same, if_pos same, same, newKnown, Option.map_some]
    · rw [if_neg same, if_neg same, newKnown]
  have targetId : target.mId = zone.mNewServer := owned.servers.key_of_find newKnown
  rcases Heap.exists_store entered ((if zone.mServer = zone.mNewServer then
    target.delZone idZone else target).addZone idZone address) with ⟨servers, storedServer⟩
  rcases Heap.exists_store loaded zone.endTransfer with ⟨zones, storedZone⟩
  have carriesZone : zone.mId = idZone := owned.zones.key_of_find
    ((find_of_pointer pointer).trans loaded)
  have carriesServer : ((if zone.mServer = zone.mNewServer then target.delZone idZone
      else target).addZone idZone address).mId = zone.mNewServer := by
    split <;> exact targetId
  have carriesEnded : zone.endTransfer.mId = idZone := by
    rw [Zone.endTransfer, if_pos transferring]
    exact carriesZone
  refine ⟨servers, zones, ?_, ⟨owned'.servers.store targetPointer storedServer carriesServer,
    owned.zones.store pointer storedZone carriesEnded⟩, ?_,
    owned.zones.find_store pointer storedZone⟩
  · unfold endZoneToServerTransfer
    simp only [pointer, loaded, transferring, sourcePointer, targetPointer, left, entered,
      carriesZone, storedServer, storedZone, if_true, Option.bind_eq_bind, Option.bind_some,
      Option.pure_def]
  · intro other
    exact (owned'.servers.find_store targetPointer storedServer other).trans
      (by rw [← middle' other])

/-- A transfer does not end while one of its two servers is unknown. -/
theorem endZoneToServerTransfer_unknown (owned : Owned router) {idZone : Int}
    (unknown : ∀ zone, router.findZone idZone = some zone → zone.mInTransfer = true →
      router.findServer zone.mServer = none ∨ router.findServer zone.mNewServer = none) :
    router.endZoneToServerTransfer idZone = some router := by
  unfold endZoneToServerTransfer
  cases pointer : router.mZones[idZone]? with
  | none => rfl
  | some address =>
      rcases owned.zone_of_pointer pointer with ⟨zone, loaded, found, _⟩
      simp only [loaded, Option.bind_eq_bind, Option.bind_some]
      by_cases transferring : zone.mInTransfer = true
      · rw [if_pos transferring]
        rcases unknown zone found transferring with missing | missing
        · rw [findServer, owned.servers.find_eq_none_iff] at missing
          simp only [missing]
        · rw [findServer, owned.servers.find_eq_none_iff] at missing
          simp only [missing]
          cases router.mServers[zone.mServer]? <;> rfl
      · rw [if_neg transferring]

/-- Connecting a server deletes the connection it had, and then sends on the
new one, which must not be the one just deleted. -/
theorem connectServer_known (owned : Owned router) {idServer : Int} {server : Server}
    (found : router.findServer idServer = some server) (c : Connection)
    (alive : ∀ old, server.mConnection = some old → old ∉ router.deletedConnections) :
    ∃ servers, router.connectServer idServer c =
        (if c ∈ server.mConnection.toList ++ router.deletedConnections then none
          else some ({ router with
            servers
            deletedConnections := server.mConnection.toList ++ router.deletedConnections },
            [.sent c .addRouterSend])) ∧
      Owns Server.mId router.mServers servers ∧
      ∀ other, find router.mServers servers other =
        if idServer = other then some { server with mConnection := some c }
        else router.findServer other := by
  rcases find_eq_some_iff.mp found with ⟨address, pointer, loaded⟩
  rcases Heap.exists_store loaded { server with mConnection := some c } with ⟨servers, stored⟩
  have carries : server.mId = idServer := owned.servers.key_of_find found
  have released : router.deleteOld server.mConnection = some { router with
      deletedConnections := server.mConnection.toList ++ router.deletedConnections } :=
    deleteOld_eq_some_iff.mpr ⟨alive, rfl⟩
  refine ⟨servers, ?_, owned.servers.store pointer stored carries,
    owned.servers.find_store pointer stored⟩
  unfold connectServer
  simp only [pointer, loaded, released, stored, sendOn, Option.bind_eq_bind, Option.bind_some,
    Option.pure_def]
  split
  · rfl
  · rfl

/-- Removing a server closes and deletes its connection. -/
theorem delServer_known (owned : Owned router) {idServer : Int} {server : Server}
    (found : router.findServer idServer = some server)
    (alive : ∀ old, server.mConnection = some old → old ∉ router.deletedConnections) :
    ∃ servers outputs, router.delServer idServer = some ({ router with
        servers, mServers := router.mServers.erase idServer
        deletedConnections := server.mConnection.toList ++ router.deletedConnections },
        outputs) ∧
      Owns Server.mId (router.mServers.erase idServer) servers ∧
      ∀ other, find (router.mServers.erase idServer) servers other =
        if idServer = other then none else router.findServer other := by
  rcases find_eq_some_iff.mp found with ⟨address, pointer, loaded⟩
  rcases Heap.exists_free loaded with ⟨servers, freed⟩
  have released : router.deleteOld server.mConnection = some { router with
      deletedConnections := server.mConnection.toList ++ router.deletedConnections } :=
    deleteOld_eq_some_iff.mpr ⟨alive, rfl⟩
  have closed : ∃ outputs, router.closeOn server.mConnection = some outputs := by
    cases connected : server.mConnection with
    | none => exact ⟨[], rfl⟩
    | some old =>
        refine ⟨[.closed old], ?_⟩
        rw [closeOn, if_neg (alive old connected)]
  rcases closed with ⟨outputs, closed⟩
  refine ⟨servers, outputs, ?_, owned.servers.free pointer freed,
    owned.servers.find_free pointer freed⟩
  unfold delServer
  simp only [pointer, loaded, closed, released, freed, Option.bind_eq_bind, Option.bind_some,
    Option.pure_def]

/-- The transfer of a zone ends, or nothing happens. -/
theorem endZoneToServerTransfer_cases (owned : Owned router) (idZone : Int) :
    router.endZoneToServerTransfer idZone = some router ∨
      ∃ zone source target, router.findZone idZone = some zone ∧ zone.mInTransfer = true ∧
        router.findServer zone.mServer = some source ∧
        router.findServer zone.mNewServer = some target := by
  by_cases ends : ∃ zone source target, router.findZone idZone = some zone ∧
      zone.mInTransfer = true ∧ router.findServer zone.mServer = some source ∧
      router.findServer zone.mNewServer = some target
  · exact .inr ends
  · apply Or.inl
    apply owned.endZoneToServerTransfer_unknown
    intro zone foundZone transferring
    cases foundSource : router.findServer zone.mServer with
    | none => exact .inl rfl
    | some source =>
        cases foundTarget : router.findServer zone.mNewServer with
        | none => exact .inr rfl
        | some target =>
            exact absurd ⟨zone, source, target, foundZone, transferring, foundSource,
              foundTarget⟩ ends

end Owned

theorem addServer_known {idServer : Int} {address : Address}
    (pointer : router.mServers[idServer]? = some address) :
    router.addServer idServer = some router := by
  unfold addServer
  rw [pointer]

theorem delServer_unknown {idServer : Int} (absent : router.mServers[idServer]? = none) :
    router.delServer idServer = some (router, []) := by
  unfold delServer
  rw [absent]

theorem addZone_known {idZone : Int} {address : Address}
    (pointer : router.mZones[idZone]? = some address) :
    router.addZone idZone = some router := by
  unfold addZone
  rw [pointer]

theorem delZone_unknown {idZone : Int} (absent : router.mZones[idZone]? = none) :
    router.delZone idZone = some router := by
  unfold delZone
  rw [absent]

theorem startZoneToServerTransfer_unknown {idZone newServer : Int}
    (unknown : router.mZones[idZone]? = none ∨ router.mServers[newServer]? = none) :
    router.startZoneToServerTransfer idZone newServer = some router := by
  unfold startZoneToServerTransfer
  rcases unknown with absent | absent
  · rw [absent]
  · rw [absent]
    cases router.mZones[idZone]? <;> rfl

/-! ## What the other operations leave -/

/-- What a server has to do with the service of zones. -/
def Server.service (server : Server) : Int × FiniteMap Int Address :=
  (server.mId, server.mZones)

/-- What a zone has to do with its service. -/
def Zone.service (zone : Zone) : Int × Int :=
  (zone.mId, zone.mServer)

/-- The pointers to servers and zones are the same, and so are the tables of
the servers and the servers of the zones. -/
structure KeepsService (router next : Router) : Prop where
  serverPointers : next.mServers = router.mServers
  zonePointers : next.mZones = router.mZones
  servers : ∀ address, (next.servers.load address).map Server.service =
    (router.servers.load address).map Server.service
  zones : ∀ address, (next.zones.load address).map Zone.service =
    (router.zones.load address).map Zone.service

theorem KeepsService.refl (router : Router) : KeepsService router router :=
  ⟨rfl, rfl, fun _ => rfl, fun _ => rfl⟩

theorem KeepsService.trans {middle : Router} (first : KeepsService router middle)
    (second : KeepsService middle next) : KeepsService router next where
  serverPointers := second.serverPointers.trans first.serverPointers
  zonePointers := second.zonePointers.trans first.zonePointers
  servers := fun address => (second.servers address).trans (first.servers address)
  zones := fun address => (second.zones address).trans (first.zones address)

theorem KeepsService.of_storedZone {address : Address} {zone zone' : Zone} {zones : Heap Zone}
    (loaded : router.zones.load address = some zone)
    (stored : router.zones.store address zone' = some zones)
    (same : zone'.service = zone.service) : KeepsService router { router with zones } :=
  ⟨rfl, rfl, fun _ => rfl, Heap.map_load_store loaded stored same⟩

theorem connectServer_keepsService {idServer : Int} {c : Connection} {outputs : List Output}
    (done : router.connectServer idServer c = some (next, outputs)) :
    KeepsService router next := by
  rcases connectServer_cases done with same | ⟨_, _, _, _, _, loaded, stored, same⟩
  · exact same ▸ KeepsService.refl router
  · subst same
    exact ⟨rfl, rfl, Heap.map_load_store loaded stored rfl, fun _ => rfl⟩

theorem startZoneToServerTransfer_keepsService {idZone newServer : Int}
    (done : router.startZoneToServerTransfer idZone newServer = some next) :
    KeepsService router next := by
  rcases startZoneToServerTransfer_cases done with same | ⟨_, _, _, loaded, stored, same⟩
  · exact same ▸ KeepsService.refl router
  · subst same
    exact .of_storedZone loaded stored rfl

theorem setUserToZone_keepsService {idUser idZone : Int}
    (done : router.setUserToZone idUser idZone = some next) : KeepsService router next := by
  rcases setUserToZone_cases done with same | ⟨_, _, _, _, middle, _, _, zones, users, _, _,
    loaded, stored, loadedOld, storedOld, _, same⟩
  · exact same ▸ KeepsService.refl router
  · subst same
    have first : KeepsService router { router with zones := middle } :=
      .of_storedZone loaded stored rfl
    exact first.trans ⟨rfl, rfl, fun _ => rfl, Heap.map_load_store loadedOld storedOld rfl⟩

theorem delUser_keepsService {idUser : Int} {outputs : List Output}
    (done : router.delUser idUser = some (next, outputs)) : KeepsService router next := by
  rcases delUser_cases done with same | ⟨_, zones, _, _, left, _, same⟩
  · exact same ▸ KeepsService.refl router
  · subst same
    rcases left with sameZones | ⟨_, _, loaded, stored⟩
    · subst sameZones
      exact ⟨rfl, rfl, fun _ => rfl, fun _ => rfl⟩
    · exact ⟨rfl, rfl, fun _ => rfl, Heap.map_load_store loaded stored rfl⟩

theorem addUser_keepsService {idUser token : Int} (done : router.addUser idUser token = some next) :
    KeepsService router next := by
  rcases addUser_cases done with ⟨_, same⟩ | ⟨_, _, _, _, _, _, same⟩
  · exact same ▸ ⟨rfl, rfl, fun _ => rfl, fun _ => rfl⟩
  · exact same ▸ ⟨rfl, rfl, fun _ => rfl, fun _ => rfl⟩

theorem userValidate_keepsService {user : Address} {token : Int} {valid : Bool}
    (done : router.userValidate user token = some (next, valid)) : KeepsService router next := by
  rcases userValidate_eq_some_iff.mp done with ⟨_, _, _, _, same, _⟩
  exact same ▸ ⟨rfl, rfl, fun _ => rfl, fun _ => rfl⟩

theorem userConnection_keepsService {user : Address} {c : Connection}
    (done : router.userConnection user c = some next) : KeepsService router next := by
  rcases userConnection_eq_some_iff.mp done with ⟨_, _, _, _, _, same⟩
  exact same ▸ ⟨rfl, rfl, fun _ => rfl, fun _ => rfl⟩

theorem validateUser_keepsService {idUser token : Int} {valid : Bool}
    (done : router.validateUser idUser token = some (next, valid)) : KeepsService router next := by
  rcases validateUser_cases done with ⟨_, same⟩ | ⟨_, _, validated⟩
  · exact same ▸ KeepsService.refl router
  · exact userValidate_keepsService validated

theorem connectUser_keepsService {idUser token : Int} {c : Connection}
    (done : router.connectUser idUser token c = some next) : KeepsService router next := by
  rcases connectUser_cases done with ⟨_, same⟩ | ⟨_, _, _, _, validated, done⟩
  · exact same ▸ KeepsService.refl router
  · have first := userValidate_keepsService validated
    rcases done with same | attached
    · exact same ▸ first
    · exact first.trans (userConnection_keepsService attached)

namespace KeepsService

variable {idServer idZone : Int} {server : Server} {zone : Zone}

theorem server_before (keeps : KeepsService router next)
    (found : next.findServer idServer = some server) :
    ∃ before, router.findServer idServer = some before ∧ before.service = server.service := by
  rcases find_eq_some_iff.mp found with ⟨address, pointer, loaded⟩
  have same := keeps.servers address
  rw [loaded, Option.map_some, eq_comm, Option.map_eq_some_iff] at same
  rcases same with ⟨before, loadedBefore, service⟩
  rw [keeps.serverPointers] at pointer
  exact ⟨before, (find_of_pointer pointer).trans loadedBefore, service⟩

theorem zone_before (keeps : KeepsService router next)
    (found : next.findZone idZone = some zone) :
    ∃ before, router.findZone idZone = some before ∧ before.service = zone.service := by
  rcases find_eq_some_iff.mp found with ⟨address, pointer, loaded⟩
  have same := keeps.zones address
  rw [loaded, Option.map_some, eq_comm, Option.map_eq_some_iff] at same
  rcases same with ⟨before, loadedBefore, service⟩
  rw [keeps.zonePointers] at pointer
  exact ⟨before, (find_of_pointer pointer).trans loadedBefore, service⟩

theorem owned (keeps : KeepsService router next) (owned : Owned router) : Owned next where
  servers := by
    rw [keeps.serverPointers]
    apply owned.servers.of_same_keys
    intro address
    have same := congrArg (Option.map Prod.fst) (keeps.servers address)
    rwa [Option.map_map, Option.map_map] at same
  zones := by
    rw [keeps.zonePointers]
    apply owned.zones.of_same_keys
    intro address
    have same := congrArg (Option.map Prod.fst) (keeps.zones address)
    rwa [Option.map_map, Option.map_map] at same

end KeepsService

end Router
end Pxc
