import Pxc.Router.Registry

namespace Pxc
namespace Router

open General

/-!
# The router is a registry

What the router has under its ids, objects that were freed left out, is a
registry.  Every call that the registry permits has a defined result in the
router, changes what is under the ids as the registry says, and is answered
as the registry admits.

Two invariants carry this.  The first is about the pointers and holds in every
run.  The maps of servers and zones own their objects, a table has the
pointers of the router's maps, and no zone is in the table of a server that it
does not name.  The second is about the registry, and permitted calls keep it:
a user is in no zone but the one it names, and no connection in use was
deleted.
-/

variable {router next : Router} {idServer idZone idUser token : Int} {c : Connection}
  {user : User} {zone : Zone}

/-- A call with its answer. -/
def call (router : Router) : Event → Option (Router × Reply)
  | .addServer idServer => (router.addServer idServer).map (·, .done)
  | .connectServer idServer c => (router.connectServer idServer c).map (Prod.map id .outputs)
  | .delServer idServer => (router.delServer idServer).map (Prod.map id .outputs)
  | .addZone idZone => (router.addZone idZone).map (·, .done)
  | .delZone idZone => (router.delZone idZone).map (·, .done)
  | .startZoneToServerTransfer idZone newServer =>
      (router.startZoneToServerTransfer idZone newServer).map (·, .done)
  | .endZoneToServerTransfer idZone => (router.endZoneToServerTransfer idZone).map (·, .done)
  | .addUser idUser token => (router.addUser idUser token).map (·, .done)
  | .delUser idUser => (router.delUser idUser).map (Prod.map id .outputs)
  | .validateUser idUser token => (router.validateUser idUser token).map (Prod.map id .valid)
  | .connectUser idUser token c => (router.connectUser idUser token c).map (·, .done)
  | .setUserToZone idUser idZone => (router.setUserToZone idUser idZone).map (·, .done)
  | .sendToServer idServer t => (router.sendToServer idServer t).map (router, .outputs ·)
  | .sendToServerUsers idServer t => (router.sendToServerUsers idServer t).map (router, .outputs ·)
  | .sendToZone idZone t => (router.sendToZone idZone t).map (router, .outputs ·)
  | .sendToUser idUser t => (router.sendToUser idUser t).map (router, .outputs ·)

theorem step_eq_call (router : Router) (event : Event) :
    router.step event = (router.call event).map Prod.fst := by
  cases event <;>
    simp only [step, call, Option.map_map, Function.comp_def, Prod.map_fst, id, Option.map_id']

def User.account (user : User) : Account :=
  ⟨user.mToken, user.mZone, user.mConnection⟩

def Zone.area (zone : Zone) : Area :=
  ⟨zone.mServer, if zone.mInTransfer then some zone.mNewServer else none,
    {idUser | idUser ∈ zone.mUsers}⟩

def Server.host (server : Server) : Host :=
  ⟨{idZone | idZone ∈ server.mZones}, server.mConnection⟩

/-- The registry that the router stands for.  A user was removed when its
pointer is still there and its object is not. -/
def registry (router : Router) : Registry where
  users := fun idUser => (router.findUser idUser).map User.account
  zones := fun idZone => (router.findZone idZone).map Zone.area
  servers := fun idServer => (router.findServer idServer).map Server.host
  removed := {idUser | idUser ∈ router.mUsers ∧ router.findUser idUser = none}
  deleted := {c | c ∈ router.deletedConnections}

theorem zones_registry {result : Option Zone} (found : router.findZone idZone = result) :
    router.registry.zones idZone = result.map Zone.area :=
  congrArg (Option.map Zone.area) found

theorem servers_registry {result : Option Server} (found : router.findServer idServer = result) :
    router.registry.servers idServer = result.map Server.host :=
  congrArg (Option.map Server.host) found

theorem users_registry {result : Option User} (found : router.findUser idUser = result) :
    router.registry.users idUser = result.map User.account :=
  congrArg (Option.map User.account) found

/-- One change under an id, seen in a registry. -/
theorem map_eq_update {Object View : Type} {found found' : Int → Option Object} {key : Int}
    {value : Option Object} (view : Object → View)
    (finds : ∀ other, found' other = if key = other then value else found other) :
    (fun other => (found' other).map view) =
      Function.update (fun other => (found other).map view) key (value.map view) := by
  funext other
  rw [Function.update_apply, finds]
  by_cases same : key = other
  · rw [if_pos same, if_pos same.symm]
  · rw [if_neg same, if_neg (Ne.symm same)]

theorem Server.host_create (idServer : Int) : (Server.create idServer).host = ⟨∅, none⟩ := by
  unfold host
  congr
  exact Set.eq_empty_of_forall_notMem fun _ => Std.ExtTreeMap.not_mem_empty

theorem Server.host_addZone (server : Server) (idZone : Int) (pointer : Address) :
    (server.addZone idZone pointer).host = server.host.enter idZone := by
  unfold host Host.enter addZone
  congr
  ext other
  change other ∈ server.mZones.insert idZone pointer ↔ other = idZone ∨ other ∈ server.mZones
  rw [Std.ExtTreeMap.mem_insert, Std.compare_eq_iff_eq, eq_comm]

theorem Server.host_delZone (server : Server) (idZone : Int) :
    (server.delZone idZone).host = server.host.drop idZone := by
  unfold host Host.drop delZone
  congr
  ext other
  change other ∈ server.mZones.erase idZone ↔ other ∈ server.mZones ∧ other ≠ idZone
  rw [FiniteMap.mem_erase_iff, and_comm, ne_comm]

theorem Zone.area_create (idZone : Int) : (Zone.create idZone).area = ⟨-1, none, ∅⟩ := by
  unfold area
  congr
  exact Set.eq_empty_of_forall_notMem fun _ => Std.ExtTreeMap.not_mem_empty

theorem Zone.area_addUser (zone : Zone) (idUser : Int) (pointer : Address) :
    (zone.addUser idUser pointer).area = zone.area.enter idUser := by
  unfold area Area.enter addUser
  congr
  ext other
  change other ∈ zone.mUsers.insertIfNew idUser pointer ↔ other = idUser ∨ other ∈ zone.mUsers
  rw [FiniteMap.mem_insertIfNew_iff, eq_comm]

theorem Zone.area_delUser (zone : Zone) (idUser : Int) :
    (zone.delUser idUser).area = zone.area.drop idUser := by
  unfold area Area.drop delUser
  congr
  ext other
  change other ∈ zone.mUsers.erase idUser ↔ other ∈ zone.mUsers ∧ other ≠ idUser
  rw [FiniteMap.mem_erase_iff, and_comm, ne_comm]

theorem Zone.area_newServer (zone : Zone) (newServer : Int) :
    (zone.newServer newServer).area = { zone.area with target := some newServer } :=
  rfl

theorem Zone.area_endTransfer (zone : Zone) (transferring : zone.mInTransfer = true) :
    zone.endTransfer.area = { zone.area with server := zone.mNewServer, target := none } := by
  rw [endTransfer, if_pos transferring]
  rfl

theorem deleted_append (old : Option Connection) (deleted : List Connection) :
    {c | c ∈ old.toList ++ deleted} = {c | old = some c} ∪ {c | c ∈ deleted} := by
  ext c
  change c ∈ old.toList ++ deleted ↔ old = some c ∨ c ∈ deleted
  rw [List.mem_append, Option.mem_toList]

theorem closeOn_eq {mConnection : Option Connection} (usable : router.CanSend mConnection) :
    router.closeOn mConnection = some (mConnection.map Output.closed).toList := by
  cases mConnection with
  | none => rfl
  | some c =>
      unfold closeOn
      exact if_neg (usable c rfl)

/-! ## Servers and zones -/

section Service

variable (serves : ServesZones router)

include serves

theorem addServer_registry (idServer : Int) :
    ∃ next, router.addServer idServer = some next ∧
      next.registry = router.registry.act (.addServer idServer) := by
  cases pointer : router.mServers[idServer]? with
  | some address =>
      rcases serves.server_of_pointer pointer with ⟨server, _, found, _⟩
      refine ⟨router, addServer_known pointer, ?_⟩
      simp only [Registry.act, registry, found, Option.map_some]
  | none =>
      rcases serves.addServer_new pointer with ⟨servers, added, _, finds⟩
      have unknown := serves.servers.find_eq_none_iff.mpr pointer
      refine ⟨_, added, ?_⟩
      have entered := map_eq_update Server.host finds
      rw [Option.map_some, Server.host_create] at entered
      simp only [Registry.act, registry, findServer, unknown, Option.map_none]
      exact Registry.ext rfl rfl entered rfl rfl

theorem addZone_registry (idZone : Int) :
    ∃ next, router.addZone idZone = some next ∧
      next.registry = router.registry.act (.addZone idZone) := by
  cases pointer : router.mZones[idZone]? with
  | some address =>
      rcases serves.zone_of_pointer pointer with ⟨zone, _, found, _⟩
      refine ⟨router, addZone_known pointer, ?_⟩
      simp only [Registry.act, registry, found, Option.map_some]
  | none =>
      rcases serves.addZone_new pointer with ⟨zones, added, _, finds⟩
      have unknown := serves.zones.find_eq_none_iff.mpr pointer
      refine ⟨_, added, ?_⟩
      have entered := map_eq_update Zone.area finds
      rw [Option.map_some, Zone.area_create] at entered
      simp only [Registry.act, registry, findZone, unknown, Option.map_none]
      exact Registry.ext rfl entered rfl rfl rfl

/-- Only the server that a zone names can have it. -/
theorem unassign_of_found (found : router.findZone idZone = some zone) (other : Int) :
    (if zone.mServer = other then (router.findServer zone.mServer).map (Server.delZone · idZone)
      else router.findServer other).map Server.host =
        (router.registry.unassign idZone).servers other := by
  change _ = ((router.findServer other).map Server.host).map (Host.drop · idZone)
  by_cases names : zone.mServer = other
  · rw [if_pos names, names, Option.map_map, Option.map_map]
    exact congrArg (Option.map · _) (funext fun server => server.host_delZone idZone)
  · rw [if_neg names]
    cases foundServer : router.findServer other with
    | none => rfl
    | some server =>
        have absent : idZone ∉ server.host.zones := by
          intro member
          exact names (serves.assigned foundServer member found)
        rw [Option.map_some, Option.map_some, Host.drop_of_not_mem absent]

theorem delZone_registry (idZone : Int) :
    ∃ next, router.delZone idZone = some next ∧
      next.registry = router.registry.act (.delZone idZone) := by
  cases found : router.findZone idZone with
  | none =>
      have absent := serves.zones.find_eq_none_iff.mp found
      refine ⟨router, delZone_unknown absent, ?_⟩
      simp only [Registry.act, registry, found, Option.map_none]
  | some zone =>
      rcases serves.delZone_known found with ⟨servers, zones, deleted, _, finds, findsZone⟩
      refine ⟨_, deleted, ?_⟩
      have left : ∀ other, (find router.mServers servers other).map Server.host =
          (router.registry.unassign idZone).servers other := by
        intro other
        rw [finds]
        exact unassign_of_found serves found other
      have removed := map_eq_update Zone.area findsZone
      have known : router.registry.zones idZone = some zone.area := zones_registry found
      simp only [Registry.act, known]
      exact Registry.ext rfl removed (funext left) rfl rfl

theorem startZoneToServerTransfer_registry (idZone newServer : Int) :
    ∃ next, router.startZoneToServerTransfer idZone newServer = some next ∧
      next.registry = router.registry.act (.startZoneToServerTransfer idZone newServer) := by
  cases found : router.findZone idZone with
  | none =>
      have absent := serves.zones.find_eq_none_iff.mp found
      refine ⟨router, startZoneToServerTransfer_unknown (.inl absent), ?_⟩
      simp only [Registry.act, registry, found, Option.map_none]
  | some zone =>
      have known : router.registry.zones idZone = some zone.area := zones_registry found
      cases foundServer : router.findServer newServer with
      | none =>
          have absent := serves.servers.find_eq_none_iff.mp foundServer
          have unknown : router.registry.servers newServer = none := servers_registry foundServer
          refine ⟨router, startZoneToServerTransfer_unknown (.inr absent), ?_⟩
          simp only [Registry.act, known, unknown]
      | some server =>
          rcases serves.startZoneToServerTransfer_known found ⟨server, foundServer⟩ with
            ⟨zones, started, _, finds⟩
          have knownServer : router.registry.servers newServer = some server.host :=
            servers_registry foundServer
          refine ⟨_, started, ?_⟩
          simp only [Registry.act, known, knownServer]
          exact Registry.ext rfl (map_eq_update Zone.area finds) rfl rfl rfl

/-- A transfer ends when both servers are known. -/
theorem endZoneToServerTransfer_registry (idZone : Int) :
    ∃ next, router.endZoneToServerTransfer idZone = some next ∧
      next.registry = router.registry.act (.endZoneToServerTransfer idZone) := by
  cases found : router.findZone idZone with
  | none =>
      refine ⟨router, serves.endZoneToServerTransfer_unknown ?_, ?_⟩
      · intro zone found'
        rw [found] at found'
        cases found'
      · simp only [Registry.act, registry, found, Option.map_none]
  | some zone =>
      have known : router.registry.zones idZone = some zone.area := zones_registry found
      by_cases transferring : zone.mInTransfer = true
      · have target : zone.area.target = some zone.mNewServer := if_pos transferring
        cases foundOld : router.findServer zone.mServer with
        | none =>
            have unknown : router.registry.servers zone.area.server = none :=
              servers_registry foundOld
            refine ⟨router, serves.endZoneToServerTransfer_unknown ?_, ?_⟩
            · intro zone' found' _
              cases found.symm.trans found'
              exact .inl foundOld
            · simp only [Registry.act, known, target, Registry.handOver, unknown]
        | some source =>
            have knownOld : router.registry.servers zone.area.server = some source.host :=
              servers_registry foundOld
            cases foundNew : router.findServer zone.mNewServer with
            | none =>
                have unknown : router.registry.servers zone.mNewServer = none :=
                  servers_registry foundNew
                refine ⟨router, serves.endZoneToServerTransfer_unknown ?_, ?_⟩
                · intro zone' found' _
                  cases found.symm.trans found'
                  exact .inr foundNew
                · simp only [Registry.act, known, target, Registry.handOver, knownOld, unknown]
            | some entered =>
                have knownNew : router.registry.servers zone.mNewServer = some entered.host :=
                  servers_registry foundNew
                rcases find_eq_some_iff.mp found with ⟨address, pointer, loaded⟩
                rcases serves.endZoneToServerTransfer_known pointer loaded transferring
                  ⟨source, foundOld⟩ foundNew with ⟨servers, zones, ended, _, finds, findsZone⟩
                refine ⟨_, ended, ?_⟩
                simp only [Registry.act, known, target, Registry.handOver, knownOld, knownNew]
                have moved := map_eq_update Zone.area findsZone
                rw [Option.map_some, zone.area_endTransfer transferring] at moved
                refine Registry.ext rfl moved (funext fun other => ?_) rfl rfl
                change (find router.mServers servers other).map Server.host =
                  Function.update (router.registry.unassign idZone).servers zone.mNewServer _ other
                rw [Function.update_apply, finds]
                by_cases enters : zone.mNewServer = other
                · rw [if_pos enters, if_pos enters.symm, Option.map_some, Server.host_addZone]
                  split
                  · rw [Server.host_delZone, Host.enter_drop]
                  · rfl
                · rw [if_neg enters, if_neg (Ne.symm enters)]
                  exact unassign_of_found serves found other
      · have target : zone.area.target = none := if_neg transferring
        refine ⟨router, serves.endZoneToServerTransfer_unknown ?_, ?_⟩
        · intro zone' found' transferring'
          cases found.symm.trans found'
          exact absurd transferring' transferring
        · simp only [Registry.act, known, target]

/-- A server gets its connection, and hears from the router on it. -/
theorem connectServer_registry
    (permitted : router.registry.Permitted (.connectServer idServer c))
    (formed : router.registry.WellFormed) :
    ∃ next outputs, router.connectServer idServer c = some (next, outputs) ∧
      next.registry = router.registry.act (.connectServer idServer c) ∧
      router.registry.Answers (.connectServer idServer c) (.outputs outputs) := by
  cases found : router.findServer idServer with
  | none =>
      have absent := serves.servers.find_eq_none_iff.mp found
      have unknown : router.registry.servers idServer = none := servers_registry found
      refine ⟨router, [], ?_, ?_, ?_⟩
      · unfold connectServer
        rw [absent]
      · simp only [Registry.act, unknown]
      · simp only [Registry.Answers, unknown, Option.map_none, Option.toList_none]
  | some server =>
      have known : router.registry.servers idServer = some server.host := servers_registry found
      rcases serves.connectServer_known found c (fun _ => formed.serverConnections known) with
        ⟨servers, connected, _, finds⟩
      rcases permitted server.host known with ⟨usable, unused⟩
      have fresh : c ∉ server.mConnection.toList ++ router.deletedConnections := by
        rw [not_mem_released]
        exact ⟨fun old => (unused c old).1 rfl, usable⟩
      rw [if_neg fresh] at connected
      refine ⟨_, _, connected, ?_, ?_⟩
      · simp only [Registry.act, known]
        exact Registry.ext rfl rfl (map_eq_update Server.host finds) rfl (deleted_append _ _)
      · simp only [Registry.Answers, known, Option.map_some, Option.toList_some]

omit serves in
/-- What the destructor of a server sends. -/
theorem delServer_outputs {pointer : Address} {server : Server} {outputs : List Output}
    (entry : router.mServers[idServer]? = some pointer)
    (loaded : router.servers.load pointer = some server)
    (usable : router.CanSend server.mConnection)
    (done : router.delServer idServer = some (next, outputs)) :
    outputs = (server.mConnection.map Output.closed).toList := by
  unfold delServer at done
  simp only [entry, loaded, closeOn_eq usable, Option.bind_eq_bind, Option.bind_some,
    Option.bind_eq_some_iff, Option.pure_def, Option.some.injEq, Prod.mk.injEq] at done
  rcases done with ⟨_, _, _, _, _, same⟩
  exact same.symm

/-- A server that is removed has its connection closed. -/
theorem delServer_registry (formed : router.registry.WellFormed) :
    ∃ next outputs, router.delServer idServer = some (next, outputs) ∧
      next.registry = router.registry.act (.delServer idServer) ∧
      router.registry.Answers (.delServer idServer) (.outputs outputs) := by
  cases found : router.findServer idServer with
  | none =>
      have absent := serves.servers.find_eq_none_iff.mp found
      have unknown : router.registry.servers idServer = none := servers_registry found
      refine ⟨router, [], delServer_unknown absent, ?_, ?_⟩
      · simp only [Registry.act, unknown]
      · simp only [Registry.Answers, unknown, Option.bind_none, Option.map_none,
          Option.toList_none]
  | some server =>
      have known : router.registry.servers idServer = some server.host := servers_registry found
      have usable : router.CanSend server.mConnection := fun _ => formed.serverConnections known
      rcases serves.delServer_known found usable with ⟨servers, outputs, deleted, _, finds⟩
      rcases find_eq_some_iff.mp found with ⟨pointer, entry, loaded⟩
      refine ⟨_, outputs, deleted, ?_, ?_⟩
      · simp only [Registry.act, known]
        exact Registry.ext rfl rfl (map_eq_update Server.host finds) rfl (deleted_append _ _)
      · simp only [Registry.Answers, known, Option.bind_some,
          delServer_outputs entry loaded usable deleted]
        rfl

end Service

/-! ## Users -/

theorem absent_of_unknown (unknown : router.findUser idUser = none)
    (kept : idUser ∉ router.registry.removed) : router.mUsers[idUser]? = none := by
  apply FiniteMap.getElem?_eq_none_iff.mpr
  intro member
  exact kept ⟨member, unknown⟩

/-- One user's object changed, seen in the registry. -/
theorem registry_of_user {user' : User} {users : Heap User}
    (found : router.findUser idUser = some user)
    (finds : ∀ other, find router.mUsers users other =
      if idUser = other then some user' else router.findUser other) :
    registry { router with users } = router.registry.setUser idUser (some user'.account) := by
  refine Registry.ext (map_eq_update User.account finds) rfl rfl ?_ rfl
  ext other
  change other ∈ router.mUsers ∧ find router.mUsers users other = none ↔
    other ∈ router.mUsers ∧ router.findUser other = none
  rw [finds]
  by_cases same : idUser = other
  · subst same
    rw [if_pos rfl, found]
    simp only [reduceCtorEq]
  · rw [if_neg same]

section Users

variable (borrowing : Borrowing router)

include borrowing

theorem addUser_registry (token : Int) (kept : idUser ∉ router.registry.removed) :
    ∃ next, router.addUser idUser token = some next ∧
      next.registry = router.registry.act (.addUser idUser token) := by
  cases found : router.findUser idUser with
  | some user =>
      rcases addUser_found borrowing.labels found token with ⟨users, added, finds⟩
      refine ⟨_, added, ?_⟩
      simp only [Registry.act, users_registry found, Option.map_some]
      exact registry_of_user found finds
  | none =>
      have absent := absent_of_unknown found kept
      have added : router.addUser idUser token = some { router with
          users := router.users.alloc (User.create idUser token)
          mUsers := router.mUsers.insert idUser router.users.next } := by
        unfold addUser
        rw [absent]
      have finds : ∀ other, find (router.mUsers.insert idUser router.users.next)
          (router.users.alloc (User.create idUser token)) other =
            if idUser = other then some (User.create idUser token) else router.findUser other :=
        borrowing.labels.find_alloc (User.create idUser token)
      refine ⟨_, added, ?_⟩
      simp only [Registry.act, users_registry found, Option.map_none]
      refine Registry.ext (map_eq_update User.account finds) rfl rfl ?_ rfl
      ext other
      change other ∈ router.mUsers.insert idUser _ ∧ find _ _ other = none ↔
        other ∈ router.mUsers ∧ router.findUser other = none
      rw [finds, Std.ExtTreeMap.mem_insert, Std.compare_eq_iff_eq]
      by_cases same : idUser = other
      · subst same
        have unknown := FiniteMap.getElem?_eq_none_iff.mp absent
        simp only [if_true, reduceCtorEq, and_false, unknown, false_and]
      · simp only [same, if_false, false_or]

/-- A token is stored, and refused when it is 0. -/
theorem validateUser_registry (token : Int) (kept : idUser ∉ router.registry.removed) :
    ∃ next valid, router.validateUser idUser token = some (next, valid) ∧
      next.registry = router.registry.act (.validateUser idUser token) ∧
      router.registry.Answers (.validateUser idUser token) (.valid valid) := by
  cases found : router.findUser idUser with
  | none =>
      refine ⟨router, false, validateUser_unknown (absent_of_unknown found kept), ?_, ?_⟩
      · simp only [Registry.act, users_registry found, Option.map_none]
      · simp only [Registry.Answers, users_registry found, Option.map_none, Option.isSome_none,
          Bool.false_and]
  | some user =>
      rcases userValidate_found borrowing.labels found token with
        ⟨address, users, pointer, validated, finds⟩
      refine ⟨{ router with users }, decide (token ≠ 0), ?_, ?_, ?_⟩
      · unfold validateUser
        rw [pointer]
        exact validated
      · simp only [Registry.act, users_registry found, Option.map_some]
        exact registry_of_user found finds
      · simp only [Registry.Answers, users_registry found, Option.map_some, Option.isSome_some,
          Bool.true_and]

theorem connectUser_registry
    (permitted : router.registry.Permitted (.connectUser idUser token c))
    (formed : router.registry.WellFormed) :
    ∃ next, router.connectUser idUser token c = some next ∧
      next.registry = router.registry.act (.connectUser idUser token c) := by
  cases found : router.findUser idUser with
  | none =>
      refine ⟨router, connectUser_unknown (absent_of_unknown found permitted.1), ?_⟩
      simp only [Registry.act, users_registry found, Option.map_none]
  | some user =>
      by_cases zero : token = 0
      · subst zero
        rcases connectUser_refused borrowing.labels found c with ⟨users, refused, finds⟩
        refine ⟨_, refused, ?_⟩
        simp only [Registry.act, users_registry found, Option.map_some, if_true]
        exact registry_of_user found finds
      · have usable : ∀ old, user.mConnection = some old → old ∉ router.deletedConnections :=
          fun _ => formed.userConnections (users_registry found)
        rcases connectUser_accepted borrowing.labels found zero c usable with
          ⟨users, accepted, finds⟩
        refine ⟨_, accepted, ?_⟩
        simp only [Registry.act, users_registry found, Option.map_some, if_neg zero]
        have same := registry_of_user found finds
        have sameUsers := congrArg Registry.users same
        have sameRemoved := congrArg Registry.removed same
        exact Registry.ext sameUsers rfl rfl sameRemoved (deleted_append _ _)

/-- A user that is removed is closed its connection, and leaves the zone it
names. -/
theorem delUser_registry (serves : ServesZones router) (kept : idUser ∉ router.registry.removed)
    (formed : router.registry.WellFormed) :
    ∃ next outputs, router.delUser idUser = some (next, outputs) ∧
      next.registry = router.registry.act (.delUser idUser) ∧
      router.registry.Answers (.delUser idUser) (.outputs outputs) := by
  cases found : router.findUser idUser with
  | none =>
      have unknown := FiniteMap.getElem?_eq_none_iff.mp (absent_of_unknown found kept)
      refine ⟨router, [], Sound.delUser_unknown unknown, ?_, ?_⟩
      · simp only [Registry.act, users_registry found, Option.map_none]
      · simp only [Registry.Answers, users_registry found, Option.map_none, Option.bind_none,
          Option.toList_none]
  | some user =>
      have known := users_registry found
      rcases find_eq_some_iff.mp found with ⟨address, pointer, loaded⟩
      rcases Heap.exists_free loaded with ⟨users, freed⟩
      have finds : ∀ other, find router.mUsers users other =
          if idUser = other then none else router.findUser other :=
        borrowing.labels.find_free pointer freed
      have usable : router.CanSend user.mConnection := fun _ => formed.userConnections known
      -- the user is in the table of the zone it names, or in none
      have left : ∃ zones, router.foundZoneDelUser user.mZone idUser = some zones ∧
          ∀ other, (find router.mZones zones other).map Zone.area =
            (router.registry.zones other).map (Area.drop · idUser) := by
        have elsewhere : ∀ other zone, router.findZone other = some zone → user.mZone ≠ other →
            zone.area.drop idUser = zone.area := by
          intro other zone foundZone different
          apply Area.drop_of_not_mem
          intro member
          rcases formed.placed (zones_registry foundZone) member with ⟨account, known', names⟩
          cases known.symm.trans known'
          exact different names
        cases foundZone : router.findZone user.mZone with
        | none =>
            have noZone := serves.zones.find_eq_none_iff.mp foundZone
            refine ⟨router.zones, ?_, ?_⟩
            · unfold foundZoneDelUser
              rw [noZone]
            · intro other
              change (router.findZone other).map Zone.area =
                ((router.findZone other).map Zone.area).map (Area.drop · idUser)
              cases foundOther : router.findZone other with
              | none => rfl
              | some zone =>
                  have different : user.mZone ≠ other := by
                    intro same
                    rw [same, foundOther] at foundZone
                    cases foundZone
                  rw [Option.map_some, Option.map_some, elsewhere other zone foundOther different]
        | some zone =>
            rcases find_eq_some_iff.mp foundZone with ⟨zoneAddress, zonePointer, loadedZone⟩
            rcases Heap.exists_store loadedZone (zone.delUser idUser) with ⟨zones, stored⟩
            refine ⟨zones, ?_, ?_⟩
            · unfold foundZoneDelUser
              simp only [zonePointer, loadedZone, stored, Option.bind_eq_bind, Option.bind_some]
            · intro other
              rw [serves.zones.find_store zonePointer stored]
              change _ = ((router.findZone other).map Zone.area).map (Area.drop · idUser)
              by_cases same : user.mZone = other
              · subst same
                rw [if_pos rfl, foundZone, Option.map_some, Option.map_some, Option.map_some,
                  zone.area_delUser]
              · rw [if_neg same]
                change (router.findZone other).map Zone.area = _
                cases foundOther : router.findZone other with
                | none => rfl
                | some zone' =>
                    rw [Option.map_some, Option.map_some, elsewhere other zone' foundOther same]
      rcases left with ⟨zones, left, leaves⟩
      refine ⟨{ router with zones, users }, (user.mConnection.map Output.closed).toList, ?_, ?_, ?_⟩
      · unfold delUser
        simp only [pointer, loaded, left, closeOn_eq usable, freed, Option.bind_eq_bind,
          Option.bind_some, Option.pure_def]
      · simp only [Registry.act, known, Option.map_some]
        refine Registry.ext (map_eq_update User.account finds) (funext leaves) rfl ?_ rfl
        ext other
        change other ∈ router.mUsers ∧ find router.mUsers users other = none ↔
          other = idUser ∨ other ∈ router.mUsers ∧ router.findUser other = none
        rw [finds]
        by_cases same : idUser = other
        · subst same
          have member := FiniteMap.mem_of_getElem? pointer
          simp only [if_true, member, true_or, and_self]
        · simp only [if_neg same, Ne.symm same, false_or]
      · simp only [Registry.Answers, known, Option.map_some, Option.bind_some]
        rfl

/-- A user that moves is in the zone it moves to, unless it names that zone
already. -/
theorem setUserToZone_registry (serves : ServesZones router)
    (permitted : router.registry.Permitted (.setUserToZone idUser idZone))
    (formed : router.registry.WellFormed) :
    ∃ next, router.setUserToZone idUser idZone = some next ∧
      next.registry = router.registry.act (.setUserToZone idUser idZone) := by
  cases foundZone : router.findZone idZone with
  | none =>
      have absent := serves.zones.find_eq_none_iff.mp foundZone
      refine ⟨router, setUserToZone_unknown (.inr absent), ?_⟩
      simp only [Registry.act, zones_registry foundZone, Option.map_none]
      cases router.registry.users idUser <;> rfl
  | some zone =>
      have knownZone := zones_registry foundZone
      rcases permitted zone.area knownZone with ⟨kept, oldKnown⟩
      cases found : router.findUser idUser with
      | none =>
          refine ⟨router, setUserToZone_unknown (.inl (absent_of_unknown found kept)), ?_⟩
          simp only [Registry.act, users_registry found, Option.map_none]
      | some user =>
          have known := users_registry found
          rcases oldKnown user.account known with ⟨oldArea, oldKnown⟩
          have foundOld : ∃ oldZone, router.findZone user.mZone = some oldZone := by
            rcases Option.map_eq_some_iff.mp oldKnown with ⟨oldZone, foundOld, _⟩
            exact ⟨oldZone, foundOld⟩
          rcases foundOld with ⟨oldZone, foundOld⟩
          rcases setUserToZone_found serves.toOwned borrowing.labels found foundZone foundOld with
            ⟨address, zones, users, _, moved, _, findsZone, finds⟩
          refine ⟨_, moved, ?_⟩
          simp only [Registry.act, known, knownZone, Option.map_some]
          have stored := registry_of_user found finds
          have sameUsers := congrArg Registry.users stored
          have sameRemoved := congrArg Registry.removed stored
          refine Registry.ext sameUsers (funext fun other => ?_) rfl sameRemoved rfl
          change (find router.mZones zones other).map Zone.area =
            ((router.findZone other).map Zone.area).map _
          rw [findsZone]
          by_cases leaves : user.mZone = other
          · subst leaves
            have stays : ¬ (user.mZone = idZone ∧ user.account.zone ≠ idZone) :=
              fun both => both.2 both.1
            rw [if_pos rfl, foundOld, Option.map_some, Option.map_some, Option.map_some,
              Zone.area_delUser, if_neg stays]
            by_cases same : idZone = user.mZone
            · subst same
              cases foundZone.symm.trans foundOld
              rw [if_pos rfl, Zone.area_addUser, Area.drop_enter]
            · rw [if_neg same]
          · rw [if_neg leaves]
            by_cases enters : idZone = other
            · subst enters
              have moves : idZone = idZone ∧ user.account.zone ≠ idZone := ⟨rfl, leaves⟩
              rw [if_pos rfl, foundZone, Option.map_some, Option.map_some, Option.map_some,
                Zone.area_addUser, if_pos moves]
            · rw [if_neg enters]
              cases foundOther : router.findZone other with
              | none => rfl
              | some area =>
                  have stays : ¬ (other = idZone ∧ user.account.zone ≠ idZone) :=
                    fun both => enters both.1.symm
                  have absent : idUser ∉ area.area.users := by
                    intro member
                    rcases formed.placed (zones_registry foundOther) member with
                      ⟨account, known', names⟩
                    cases known.symm.trans known'
                    exact leaves names
                  rw [Option.map_some, Option.map_some, if_neg stays, Area.drop_of_not_mem absent]

end Users

/-! ## Sending -/

theorem sentTo_registry (router : Router) (t : Transferable) :
    router.registry.sentTo t = router.sentTo t := by
  funext idUser
  unfold Registry.sentTo sentTo connectionOf
  change (((router.findUser idUser).map User.account).bind Account.connection).map _ = _
  rw [Option.bind_map]
  rfl

section Sending

variable {t : Transferable} (serves : ServesZones router) (formed : router.registry.WellFormed)

include serves formed

theorem sendToServer_registry :
    ∃ outputs, router.sendToServer idServer t = some outputs ∧
      router.registry.Answers (.sendToServer idServer t) (.outputs outputs) := by
  cases found : router.findServer idServer with
  | none =>
      have absent := serves.servers.find_eq_none_iff.mp found
      refine ⟨[], ?_, ?_⟩
      · unfold sendToServer
        rw [absent]
      · simp only [Registry.Answers, servers_registry found, Option.map_none, Option.bind_none,
          Option.toList_none]
  | some server =>
      have known := servers_registry found
      have usable : router.CanSend server.mConnection := fun _ => formed.serverConnections known
      rcases find_eq_some_iff.mp found with ⟨pointer, entry, loaded⟩
      refine ⟨(server.mConnection.map fun c => Output.sent c t).toList, ?_, ?_⟩
      · unfold sendToServer
        simp only [entry, loaded, Option.bind_eq_bind, Option.bind_some]
        exact sendOn_eq usable
      · simp only [Registry.Answers, known, Option.map_some, Option.bind_some]
        rfl

omit serves in
theorem sendToUser_registry (kept : idUser ∉ router.registry.removed) :
    ∃ outputs, router.sendToUser idUser t = some outputs ∧
      router.registry.Answers (.sendToUser idUser t) (.outputs outputs) := by
  simp only [Registry.Answers, sentTo_registry]
  cases found : router.findUser idUser with
  | none =>
      refine ⟨[], ?_, ?_⟩
      · unfold sendToUser
        rw [absent_of_unknown found kept]
      · rw [sentTo, connectionOf, found]
        rfl
  | some user =>
      have usable : router.CanSend user.mConnection :=
        fun _ => formed.userConnections (users_registry found)
      rcases find_eq_some_iff.mp found with ⟨pointer, entry, loaded⟩
      refine ⟨_, ?_, rfl⟩
      unfold sendToUser
      simp only [entry, loaded, Option.bind_eq_bind, Option.bind_some]
      rw [sendOn_eq usable, sentTo, connectionOf_eq entry loaded]

/-- The users of a server are those in the tables of its zones, each of which
is in one of them only. -/
theorem sendToServerUsers_registry (borrowing : Borrowing router) :
    ∃ outputs, router.sendToServerUsers idServer t = some outputs ∧
      router.registry.Answers (.sendToServerUsers idServer t) (.outputs outputs) := by
  have linked : Linked router := by
    refine ⟨fun _ _ found => serves.borrowed found, ?_⟩
    intro idZone zone found
    rcases find_eq_some_iff.mp found with ⟨address, _, loaded⟩
    exact borrowing.tables address zone loaded
  simp only [Registry.Answers, sentTo_registry]
  cases found : router.findServer idServer with
  | none =>
      have absent := serves.servers.find_eq_none_iff.mp found
      refine ⟨[], ?_, [], Enumerates.nil ?_, rfl⟩
      · unfold sendToServerUsers
        rw [absent]
      · intro idUser inServer
        rcases inServer with ⟨host, known, _⟩
        cases (servers_registry found).symm.trans known
  | some server =>
      rcases find_eq_some_iff.mp found with ⟨pointer, entry, loaded⟩
      have usable : router.CanSendToServer pointer := by
        refine ⟨server, loaded, ?_⟩
        intro idZone zonePointer zoneEntry
        rcases serves.zone_of_pointer (serves.borrowed found idZone zonePointer zoneEntry) with
          ⟨zone, loadedZone, foundZone, _⟩
        refine ⟨zone, loadedZone, ?_⟩
        intro idUser userPointer userEntry
        have member : idUser ∈ zone.area.users := FiniteMap.mem_of_getElem? userEntry
        rcases formed.placed (zones_registry foundZone) member with ⟨account, known, _⟩
        rcases Option.map_eq_some_iff.mp known with ⟨user, foundUser, same⟩
        have owned := linked.zones idZone zone foundZone idUser userPointer userEntry
        refine ⟨user, (find_of_pointer owned).symm.trans foundUser, ?_⟩
        intro c connected
        exact formed.userConnections known (same ▸ connected)
      have zones := Enumerates.keys server.mZones
      have users := Enumerates.flatMap zones.nodup
        (fun idZone _ => router.enumerates_tableOf idZone) <| by
          intro first _ second _ idUser inFirst inSecond
          rcases inFirst with ⟨zone, foundFirst, member⟩
          rcases inSecond with ⟨zone', foundSecond, member'⟩
          rcases formed.placed (zones_registry foundFirst) member with ⟨account, known, names⟩
          rcases formed.placed (zones_registry foundSecond) member' with ⟨account', known', names'⟩
          cases known.symm.trans known'
          exact names.symm.trans names'
      refine ⟨_, ?_, server.mZones.keys.flatMap router.tableOf, users.congr ?_, rfl⟩
      · unfold sendToServerUsers
        rw [entry]
        exact serverSendToUsers_eq linked found loaded usable
      · intro idUser
        simp only [Registry.InServer, servers_registry found, Option.map_some, Option.some.injEq,
          exists_eq_left', zones.mem_iff]
        refine exists_congr fun idZone => and_congr_right fun _ => ?_
        constructor
        · intro inTable
          rcases inTable with ⟨zone, foundZone, member⟩
          exact ⟨zone.area, zones_registry foundZone, member⟩
        · intro inArea
          rcases inArea with ⟨area, known, member⟩
          rcases Option.map_eq_some_iff.mp known with ⟨zone, foundZone, same⟩
          subst same
          exact ⟨zone, foundZone, member⟩

end Sending

/-- What holds of the router along every conversation that the registry
permits. -/
structure Consistent (router : Router) : Prop extends ServesZones router where
  borrowing : Borrowing router
  formed : router.registry.WellFormed

theorem registry_empty : Router.empty.registry = Registry.empty := by
  refine Registry.ext rfl rfl rfl ?_ ?_
  · ext idUser
    change idUser ∈ (∅ : FiniteMap Int Address) ∧ _ ↔ False
    simp only [Std.ExtTreeMap.not_mem_empty, false_and]
  · ext c
    change c ∈ ([] : List Connection) ↔ False
    simp only [List.not_mem_nil]

theorem Consistent.empty : Consistent Router.empty where
  toServesZones := ServesZones.empty
  borrowing := Borrowing.empty
  formed := registry_empty ▸ Registry.WellFormed.empty

/-- A permitted call of the router does what the registry says. -/
theorem Consistent.call_registry (consistent : Consistent router) {event : Event}
    (permitted : router.registry.Permitted event) :
    ∃ next reply, router.call event = some (next, reply) ∧
      next.registry = router.registry.act event ∧ router.registry.Answers event reply := by
  have serves := consistent.toServesZones
  have borrowing := consistent.borrowing
  have formed := consistent.formed
  have silent : ∀ {result : Option Router},
      (∃ next, result = some next ∧ next.registry = router.registry.act event) →
        ∃ next reply, result.map (·, Reply.done) = some (next, reply) ∧
          next.registry = router.registry.act event ∧ reply = Reply.done := by
    intro result done
    rcases done with ⟨next, done, same⟩
    exact ⟨next, .done, by rw [done, Option.map_some], same, rfl⟩
  have outspoken : ∀ {Extra : Type} {result : Option (Router × Extra)} (kind : Extra → Reply),
      (∃ next extra, result = some (next, extra) ∧ next.registry = router.registry.act event ∧
        router.registry.Answers event (kind extra)) →
        ∃ next reply, result.map (Prod.map id kind) = some (next, reply) ∧
          next.registry = router.registry.act event ∧ router.registry.Answers event reply := by
    intro Extra result kind done
    rcases done with ⟨next, extra, done, same, answers⟩
    exact ⟨next, kind extra, by rw [done, Option.map_some]; rfl, same, answers⟩
  have unchanged : ∀ {result : Option (List Output)}, router.registry.act event = router.registry →
      (∃ outputs, result = some outputs ∧ router.registry.Answers event (.outputs outputs)) →
        ∃ next reply, result.map (router, Reply.outputs ·) = some (next, reply) ∧
          next.registry = router.registry.act event ∧ router.registry.Answers event reply := by
    intro result same done
    rcases done with ⟨outputs, done, answers⟩
    exact ⟨router, .outputs outputs, by rw [done, Option.map_some], same.symm, answers⟩
  cases event with
  | addServer idServer => exact silent (addServer_registry serves idServer)
  | connectServer idServer c =>
      exact outspoken .outputs (connectServer_registry serves permitted formed)
  | delServer idServer => exact outspoken .outputs (delServer_registry serves formed)
  | addZone idZone => exact silent (addZone_registry serves idZone)
  | delZone idZone => exact silent (delZone_registry serves idZone)
  | startZoneToServerTransfer idZone newServer =>
      exact silent (startZoneToServerTransfer_registry serves idZone newServer)
  | endZoneToServerTransfer idZone => exact silent (endZoneToServerTransfer_registry serves idZone)
  | addUser idUser token => exact silent (addUser_registry borrowing token permitted)
  | delUser idUser => exact outspoken .outputs (delUser_registry borrowing serves permitted formed)
  | validateUser idUser token =>
      exact outspoken .valid (validateUser_registry borrowing token permitted)
  | connectUser idUser token c => exact silent (connectUser_registry borrowing permitted formed)
  | setUserToZone idUser idZone =>
      exact silent (setUserToZone_registry borrowing serves permitted formed)
  | sendToServer idServer t => exact unchanged rfl (sendToServer_registry serves formed)
  | sendToServerUsers idServer t =>
      exact unchanged rfl (sendToServerUsers_registry serves formed borrowing)
  | sendToZone idZone t =>
      rcases permitted with ⟨area, known⟩
      rcases Option.map_eq_some_iff.mp known with ⟨zone, found, _⟩
      have member : idZone ∈ router.mZones := serves.zones.mem_iff.mpr ⟨zone, found⟩
      exact unchanged rfl ⟨[], Sound.sendToZone_known member, rfl⟩
  | sendToUser idUser t => exact unchanged rfl (sendToUser_registry formed permitted)

theorem specification_metBy :
    Registry.specification.MetBy call Consistent registry := by
  intro router event consistent permitted
  rcases consistent.call_registry permitted with ⟨next, reply, done, same, answers⟩
  have stepped : router.step event = some next := by
    rw [step_eq_call, done, Option.map_some]
  refine ⟨next, reply, done, ⟨consistent.toServesZones.step stepped,
    consistent.borrowing.step stepped, ?_⟩, same, answers⟩
  rw [same]
  exact consistent.formed.act permitted

/-- The router is a registry.  Calls that the registry permits, one after the
other, are all defined, are answered as the registry admits, and leave under
the ids of the router what the registry then has. -/
theorem conversation_of_registry {events : List Event}
    (allowed : Registry.specification.Allows Registry.empty events) :
    ∃ router replies, converse call Router.empty events = some (router, replies) ∧
      run Router.step Router.empty events = some router ∧
      Registry.specification.Admits Registry.empty events replies router.registry := by
  rw [← registry_empty] at allowed
  rcases specification_metBy.exists_converse Consistent.empty allowed with
    ⟨router, replies, conversed, _, admits⟩
  refine ⟨router, replies, conversed, ?_, registry_empty ▸ admits⟩
  have sameStep : Router.step = fun router event => (call router event).map Prod.fst :=
    funext fun router => funext fun event => step_eq_call router event
  rw [sameStep, run_eq_converse, conversed, Option.map_some]

/-- A user enters, moves to a zone that a server has, is sent a message, and
is removed. -/
def shortVisit : List Event :=
  [.addServer (-1), .addServer 1, .addZone (-1), .addZone 3, .startZoneToServerTransfer 3 1,
    .endZoneToServerTransfer 3, .addUser 7 9, .connectUser 7 9 20, .setUserToZone 7 3,
    .sendToServerUsers 1 (.given 4), .delUser 7]

theorem shortVisit_conversation :
    ∃ router replies, converse call Router.empty shortVisit = some (router, replies) ∧
      run Router.step Router.empty shortVisit = some router ∧
      Registry.specification.Admits Registry.empty shortVisit replies router.registry := by
  apply conversation_of_registry
  refine ⟨trivial, trivial, trivial, trivial, trivial, trivial, Set.notMem_empty 7, ?_, ?_, trivial,
    Set.notMem_empty 7, trivial⟩
  · refine ⟨Set.notMem_empty 7, fun account known _ => ⟨Set.notMem_empty 20, ?_⟩⟩
    intro old connected
    cases known
    cases connected
  · intro area _
    refine ⟨Set.notMem_empty 7, fun account known => ?_⟩
    cases known
    exact ⟨_, rfl⟩

end Router
end Pxc
