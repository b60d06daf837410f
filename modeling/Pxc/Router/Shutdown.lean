import Pxc.General.Disposal
import Pxc.Router.Tables

namespace Pxc
namespace Router

open General

/-!
# The end of a router

`Router::clear`, which the destructor calls, deletes the users, then the zones
and the servers.  A user that goes closes its connection, a server closes and
deletes it.

Nothing the router has allocated is ever out of its maps, so that clearing
leaves no object.  But clearing meets every pointer of the three maps, also
that of a user removed before, which leads to an object freed before.  It is
defined exactly when no user was ever removed, and no connection it closes was
deleted.
-/

/-! ## The destructors -/

/-- `User::~User`, which does not delete the connection. -/
def User.destroy (deleted : List Connection) (user : User) :
    Option (List Connection × List Output) :=
  match user.mConnection with
  | none => some (deleted, [])
  | some c => if c ∈ deleted then none else some (deleted, [.closed c])

/-- A zone has no destructor of its own. -/
def Zone.destroy (deleted : List Connection) (_zone : Zone) :
    Option (List Connection × List Output) :=
  some (deleted, [])

/-- `Server::~Server`. -/
def Server.destroy (deleted : List Connection) (server : Server) :
    Option (List Connection × List Output) :=
  match server.mConnection with
  | none => some (deleted, [])
  | some c => if c ∈ deleted then none else some (c :: deleted, [.closed c])

/-- `Router::clear`. -/
def clear (router : Router) : Option (Router × List Output) := do
  let (users, deleted, closedUsers) ←
    deleteEach User.destroy router.mUsers.toList router.users router.deletedConnections
  let (zones, deleted, closedZones) ←
    deleteEach Zone.destroy router.mZones.toList router.zones deleted
  let (servers, deleted, closedServers) ←
    deleteEach Server.destroy router.mServers.toList router.servers deleted
  return ({
      users, zones, servers
      mUsers := ∅
      mZones := ∅
      mServers := ∅
      deletedConnections := deleted },
    closedUsers ++ closedZones ++ closedServers)

variable {router next : Router} {deleted after : List Connection} {outputs : List Output}

theorem destroyEach_user_eq_some_iff {users : List User} :
    destroyEach User.destroy users deleted = some (after, outputs) ↔
      (∀ c ∈ users.filterMap User.mConnection, c ∉ deleted) ∧ after = deleted ∧
        outputs = (users.filterMap User.mConnection).map .closed := by
  induction users generalizing outputs with
  | nil =>
      simp only [destroyEach, Option.some.injEq, Prod.mk.injEq, List.filterMap_nil,
        List.not_mem_nil, false_implies, implies_true, true_and, List.map_nil]
      exact and_congr eq_comm eq_comm
  | cons user users inductionHypothesis =>
      rw [destroyEach_cons_eq_some_iff, List.filterMap_cons]
      cases connected : user.mConnection with
      | none =>
          simp only [User.destroy, connected, Option.some.injEq, Prod.mk.injEq]
          constructor
          · rintro ⟨_, _, more, ⟨rfl, rfl⟩, onwards, rfl⟩
            exact inductionHypothesis.mp onwards
          · intro all
            exact ⟨deleted, [], outputs, ⟨rfl, rfl⟩, inductionHypothesis.mpr all, rfl⟩
      | some c =>
          simp only [User.destroy, connected, List.forall_mem_cons, List.map_cons]
          constructor
          · rintro ⟨_, _, more, destroyed, onwards, rfl⟩
            split at destroyed
            · cases destroyed
            · next alive =>
              cases destroyed
              rcases inductionHypothesis.mp onwards with ⟨others, same, rfl⟩
              exact ⟨⟨alive, others⟩, same, rfl⟩
          · rintro ⟨⟨alive, others⟩, same, rfl⟩
            exact ⟨deleted, [.closed c], _, if_neg alive,
              inductionHypothesis.mpr ⟨others, same, rfl⟩, rfl⟩

theorem destroyEach_zone (zones : List Zone) (deleted : List Connection) :
    destroyEach Zone.destroy zones deleted = some (deleted, []) := by
  induction zones with
  | nil => rfl
  | cons zone zones inductionHypothesis =>
      exact destroyEach_cons_eq_some_iff.mpr ⟨deleted, [], [], rfl, inductionHypothesis, rfl⟩

theorem destroyEach_server_eq_some_iff {servers : List Server} :
    destroyEach Server.destroy servers deleted = some (after, outputs) ↔
      (servers.filterMap Server.mConnection).Nodup ∧
        (∀ c ∈ servers.filterMap Server.mConnection, c ∉ deleted) ∧
        after = (servers.filterMap Server.mConnection).reverse ++ deleted ∧
        outputs = (servers.filterMap Server.mConnection).map .closed := by
  induction servers generalizing deleted outputs with
  | nil =>
      simp only [destroyEach, Option.some.injEq, Prod.mk.injEq, List.filterMap_nil,
        List.not_mem_nil, List.nodup_nil, false_implies, implies_true, true_and, List.map_nil,
        List.reverse_nil, List.nil_append]
      exact and_congr eq_comm eq_comm
  | cons server servers inductionHypothesis =>
      rw [destroyEach_cons_eq_some_iff, List.filterMap_cons]
      cases connected : server.mConnection with
      | none =>
          simp only [Server.destroy, connected, Option.some.injEq, Prod.mk.injEq]
          constructor
          · rintro ⟨_, _, more, ⟨rfl, rfl⟩, onwards, rfl⟩
            exact inductionHypothesis.mp onwards
          · intro all
            exact ⟨deleted, [], outputs, ⟨rfl, rfl⟩, inductionHypothesis.mpr all, rfl⟩
      | some c =>
          simp only [Server.destroy, connected, List.forall_mem_cons, List.map_cons,
            List.nodup_cons, List.reverse_cons, List.append_assoc, List.singleton_append]
          constructor
          · rintro ⟨_, _, more, destroyed, onwards, rfl⟩
            split at destroyed
            · cases destroyed
            · next alive =>
              cases destroyed
              rcases inductionHypothesis.mp onwards with ⟨distinct, others, same, rfl⟩
              refine ⟨⟨fun member => others c member List.mem_cons_self, distinct⟩,
                ⟨alive, fun other member => ?_⟩, same, rfl⟩
              exact fun gone => others other member (List.mem_cons_of_mem c gone)
          · rintro ⟨⟨elsewhere, distinct⟩, ⟨alive, others⟩, same, rfl⟩
            refine ⟨c :: deleted, [.closed c], _, if_neg alive,
              inductionHypothesis.mpr ⟨distinct, fun other member gone => ?_, same, rfl⟩, rfl⟩
            rcases List.mem_cons.mp gone with equal | earlier
            · exact elsewhere (equal ▸ member)
            · exact others other member earlier

/-- The connections of the users, in the order of the ids. -/
def userConnections (router : Router) : List Connection :=
  (objectsOf router.users router.mUsers.toList).filterMap User.mConnection

/-- The connections of the servers, in the order of the ids. -/
def serverConnections (router : Router) : List Connection :=
  (objectsOf router.servers router.mServers.toList).filterMap Server.mConnection

/-- No connection that is closed was deleted, and none is deleted twice. -/
structure Closable (router : Router) : Prop where
  users : ∀ c ∈ router.userConnections, c ∉ router.deletedConnections
  servers : ∀ c ∈ router.serverConnections, c ∉ router.deletedConnections
  distinct : router.serverConnections.Nodup

theorem clear_eq_some_iff :
    router.clear = some (next, outputs) ↔ ∃ users zones servers,
      deleteEach User.destroy router.mUsers.toList router.users router.deletedConnections =
        some (users, router.deletedConnections, router.userConnections.map .closed) ∧
      deleteEach Zone.destroy router.mZones.toList router.zones router.deletedConnections =
        some (zones, router.deletedConnections, []) ∧
      deleteEach Server.destroy router.mServers.toList router.servers router.deletedConnections =
        some (servers, router.serverConnections.reverse ++ router.deletedConnections,
          router.serverConnections.map .closed) ∧
      next = {
        users, zones, servers
        mUsers := ∅
        mZones := ∅
        mServers := ∅
        deletedConnections := router.serverConnections.reverse ++ router.deletedConnections } ∧
      outputs = router.userConnections.map .closed ++ router.serverConnections.map .closed := by
  simp only [clear, Option.bind_eq_bind, Option.bind_eq_some_iff, Prod.exists, Option.pure_def,
    Option.some.injEq, Prod.mk.injEq]
  constructor
  · rintro ⟨users, _, _, deletedUsers, zones, _, _, deletedZones, servers, _, _, deletedServers,
      rfl, rfl⟩
    rcases destroyEach_user_eq_some_iff.mp (deleteEach_eq_some_iff.mp deletedUsers).2.2.1 with
      ⟨_, rfl, rfl⟩
    have destroyedZones := (deleteEach_eq_some_iff.mp deletedZones).2.2.1
    rw [destroyEach_zone] at destroyedZones
    cases destroyedZones
    rcases destroyEach_server_eq_some_iff.mp (deleteEach_eq_some_iff.mp deletedServers).2.2.1 with
      ⟨_, _, rfl, rfl⟩
    refine ⟨users, zones, servers, deletedUsers, deletedZones, deletedServers, rfl, ?_⟩
    rw [List.append_nil]
    rfl
  · rintro ⟨users, zones, servers, deletedUsers, deletedZones, deletedServers, rfl, rfl⟩
    refine ⟨users, _, _, deletedUsers, zones, _, _, deletedZones, servers, _, _, deletedServers,
      rfl, ?_⟩
    rw [List.append_nil]

/-- Clearing is defined when the maps hold their objects and the connections
can be closed. -/
theorem exists_clear_iff :
    (∃ next outputs, router.clear = some (next, outputs)) ↔
      Holds router.mUsers router.users ∧ Holds router.mZones router.zones ∧
        Holds router.mServers router.servers ∧ router.Closable := by
  constructor
  · rintro ⟨next, outputs, cleared⟩
    rcases clear_eq_some_iff.mp cleared with ⟨users, zones, servers, deletedUsers, deletedZones,
      deletedServers, _⟩
    rcases deleteEach_toList_eq_some_iff.mp deletedUsers with ⟨holdsUsers, destroyedUsers, _⟩
    rcases deleteEach_toList_eq_some_iff.mp deletedZones with ⟨holdsZones, _⟩
    rcases deleteEach_toList_eq_some_iff.mp deletedServers with ⟨holdsServers, destroyedServers, _⟩
    rcases destroyEach_server_eq_some_iff.mp destroyedServers with ⟨distinct, aliveServers, _⟩
    exact ⟨holdsUsers, holdsZones, holdsServers,
      (destroyEach_user_eq_some_iff.mp destroyedUsers).1, aliveServers, distinct⟩
  · rintro ⟨holdsUsers, holdsZones, holdsServers, closable⟩
    rcases holdsUsers.exists_deleteEach
      (destroyEach_user_eq_some_iff.mpr ⟨closable.users, rfl, rfl⟩) with ⟨users, deletedUsers⟩
    rcases holdsZones.exists_deleteEach (destroyEach_zone _ router.deletedConnections) with
      ⟨zones, deletedZones⟩
    rcases holdsServers.exists_deleteEach (destroyEach_server_eq_some_iff.mpr
      ⟨closable.distinct, closable.servers, rfl, rfl⟩) with ⟨servers, deletedServers⟩
    exact ⟨_, _, clear_eq_some_iff.mpr
      ⟨users, zones, servers, deletedUsers, deletedZones, deletedServers, rfl, rfl⟩⟩

/-! ## What the operations allocate and free -/

section Operations

variable {idServer idZone idUser token : Int} {c : Connection}

/-- Every object of the router stands in one of its maps. -/
structure Listed (router : Router) : Prop where
  users : StoresAll router.mUsers router.users
  zones : StoresAll router.mZones router.zones
  servers : StoresAll router.mServers router.servers

theorem Listed.empty : Listed Router.empty :=
  ⟨StoresAll.empty, StoresAll.empty, StoresAll.empty⟩

/-- What an operation does to the three maps and their objects.  Only users
are dropped, in the circumstances `dropping`. -/
structure Evolution (dropping : Prop) (router next : Router) : Prop where
  kept : ¬ dropping → Maintains router.mUsers router.users next.mUsers next.users
  dropped : dropping → Drops router.mUsers router.users next.mUsers next.users
  zones : Maintains router.mZones router.zones next.mZones next.zones
  servers : Maintains router.mServers router.servers next.mServers next.servers

theorem Listed.of_evolution {dropping : Prop} (listed : Listed router)
    (evolution : Evolution dropping router next) : Listed next where
  users := by
    by_cases drops : dropping
    · exact listed.users.of_drops (evolution.dropped drops)
    · exact listed.users.of_maintains (evolution.kept drops)
  zones := listed.zones.of_maintains evolution.zones
  servers := listed.servers.of_maintains evolution.servers

theorem Evolution.of_uses (users : Uses router.users next.users)
    (zones : Uses router.zones next.zones) (servers : Uses router.servers next.servers)
    (samePointers : next.mUsers = router.mUsers ∧ next.mZones = router.mZones ∧
      next.mServers = router.mServers) : Evolution False router next := by
  rcases samePointers with ⟨sameUsers, sameZones, sameServers⟩
  refine ⟨fun _ => ?_, False.elim, ?_, ?_⟩
  · exact sameUsers ▸ .used _ users
  · exact sameZones ▸ .used _ zones
  · exact sameServers ▸ .used _ servers

theorem Evolution.refl (router : Router) : Evolution False router router :=
  .of_uses (.refl _) (.refl _) (.refl _) ⟨rfl, rfl, rfl⟩

theorem addServer_evolution (done : router.addServer idServer = some next) :
    Evolution False router next := by
  rcases addServer_cases done with same | ⟨absent, same⟩
  · exact same ▸ .refl router
  · exact same ▸ ⟨fun _ => .used _ (.refl _), False.elim, .used _ (.refl _),
      .added idServer _ absent⟩

theorem connectServer_evolution (done : router.connectServer idServer c = some (next, outputs)) :
    Evolution False router next := by
  rcases connectServer_cases done with same | ⟨_, _, _, _, _, _, stored, same⟩
  · exact same ▸ .refl router
  · exact same ▸ .of_uses (.refl _) (.refl _) (.store stored) ⟨rfl, rfl, rfl⟩

theorem delServer_evolution (done : router.delServer idServer = some (next, outputs)) :
    Evolution False router next := by
  rcases delServer_cases done with same | ⟨_, _, _, pointer, gone, same⟩
  · exact same ▸ .refl router
  · exact same ▸ ⟨fun _ => .used _ (.refl _), False.elim, .used _ (.refl _),
      .removed idServer _ _ pointer gone⟩

theorem addZone_evolution (done : router.addZone idZone = some next) :
    Evolution False router next := by
  rcases addZone_cases done with same | ⟨absent, same⟩
  · exact same ▸ .refl router
  · exact same ▸ ⟨fun _ => .used _ (.refl _), False.elim, .added idZone _ absent, .used _ (.refl _)⟩

theorem serverDelZone_uses {server : Address}
    (done : router.serverDelZone server idZone = some next) :
    Uses router.servers next.servers := by
  simp only [serverDelZone, Option.bind_eq_bind, Option.bind_eq_some_iff, Option.pure_def,
    Option.some.injEq] at done
  rcases done with ⟨_, _, _, stored, rfl⟩
  exact .store stored

theorem foundServerDelZone_uses (done : router.foundServerDelZone idServer idZone = some next) :
    Uses router.servers next.servers := by
  unfold foundServerDelZone at done
  split at done
  · exact serverDelZone_uses done
  · cases done
    exact .refl _

theorem delZone_evolution (done : router.delZone idZone = some next) :
    Evolution False router next := by
  unfold delZone at done
  split at done
  · cases done
    exact .refl router
  · next address pointer =>
    simp only [Option.bind_eq_bind, Option.bind_eq_some_iff, Option.pure_def,
      Option.some.injEq] at done
    rcases done with ⟨zone, _, between, left, zones, gone, rfl⟩
    have uses := foundServerDelZone_uses left
    rcases foundServerDelZone_cases left with ⟨servers, rfl⟩
    exact ⟨fun _ => .used _ (.refl _), False.elim, .removed idZone address zones pointer gone,
      .used _ uses⟩

theorem startZoneToServerTransfer_evolution {newServer : Int}
    (done : router.startZoneToServerTransfer idZone newServer = some next) :
    Evolution False router next := by
  rcases startZoneToServerTransfer_cases done with same | ⟨_, _, _, _, stored, same⟩
  · exact same ▸ .refl router
  · exact same ▸ .of_uses (.refl _) (.store stored) (.refl _) ⟨rfl, rfl, rfl⟩

theorem endZoneToServerTransfer_evolution
    (done : router.endZoneToServerTransfer idZone = some next) : Evolution False router next := by
  unfold endZoneToServerTransfer at done
  split at done
  · cases done
    exact .refl router
  · simp only [Option.bind_eq_bind, Option.bind_eq_some_iff] at done
    rcases done with ⟨zone, _, done⟩
    split at done
    · split at done
      · simp only [Option.bind_eq_some_iff, Option.pure_def, Option.some.injEq] at done
        rcases done with ⟨emptied, left, _, _, servers, entered, zones, stored, rfl⟩
        have uses := serverDelZone_uses left
        rcases serverDelZone_cases left with ⟨between, rfl⟩
        exact .of_uses (.refl _) (.store stored) (uses.trans (.store entered)) ⟨rfl, rfl, rfl⟩
      · cases done
        exact .refl router
    · cases done
      exact .refl router

theorem addUser_evolution (done : router.addUser idUser token = some next) :
    Evolution False router next := by
  rcases addUser_cases done with ⟨absent, same⟩ | ⟨_, _, _, _, _, stored, same⟩
  · exact same ▸ ⟨fun _ => .added idUser _ absent, False.elim, .used _ (.refl _), .used _ (.refl _)⟩
  · exact same ▸ .of_uses (.store stored) (.refl _) (.refl _) ⟨rfl, rfl, rfl⟩

theorem validateUser_evolution {valid : Bool}
    (done : router.validateUser idUser token = some (next, valid)) :
    Evolution False router next := by
  rcases validateUser_cases done with ⟨_, same⟩ | ⟨_, _, validated⟩
  · exact same ▸ .refl router
  · rcases userValidate_eq_some_iff.mp validated with ⟨_, _, _, stored, same, _⟩
    exact same ▸ .of_uses (.store stored) (.refl _) (.refl _) ⟨rfl, rfl, rfl⟩

theorem connectUser_evolution (done : router.connectUser idUser token c = some next) :
    Evolution False router next := by
  rcases connectUser_cases done with ⟨_, same⟩ | ⟨_, _, _, _, validated, done⟩
  · exact same ▸ .refl router
  · rcases userValidate_eq_some_iff.mp validated with ⟨_, _, _, stored, sameMiddle, _⟩
    subst sameMiddle
    rcases done with same | connected
    · exact same ▸ .of_uses (.store stored) (.refl _) (.refl _) ⟨rfl, rfl, rfl⟩
    · rcases userConnection_eq_some_iff.mp connected with ⟨_, _, _, _, storedAgain, same⟩
      exact same ▸ .of_uses (Uses.trans (.store stored) (.store storedAgain)) (.refl _) (.refl _)
        ⟨rfl, rfl, rfl⟩

theorem delUser_gone (done : router.delUser idUser = some (next, outputs))
    (known : idUser ∈ router.mUsers) :
    ∃ address, router.mUsers[idUser]? = some address ∧
      router.users.free address = some next.users := by
  rcases FiniteMap.exists_of_mem known with ⟨address, pointer⟩
  unfold delUser at done
  rw [pointer] at done
  simp only [Option.bind_eq_bind, Option.bind_eq_some_iff, Option.pure_def, Option.some.injEq,
    Prod.mk.injEq] at done
  rcases done with ⟨_, _, _, _, _, _, users, gone, rfl, _⟩
  exact ⟨address, pointer, gone⟩

/-- Removing a user that is known drops it. -/
theorem delUser_evolution (done : router.delUser idUser = some (next, outputs)) :
    Evolution (idUser ∈ router.mUsers) router next := by
  by_cases known : idUser ∈ router.mUsers
  · refine ⟨fun unknown => absurd known unknown, fun _ => ?_, ?_, ?_⟩
    · rcases delUser_gone done known with ⟨address, pointer, gone⟩
      exact ⟨(delUser_leavesOthers done).pointers, idUser, address, pointer, gone⟩
    · rcases delUser_cases done with same | ⟨_, _, _, _, left, _, same⟩
      · exact same ▸ .used _ (.refl _)
      · subst same
        rcases left with sameZones | ⟨_, _, _, stored⟩
        · exact sameZones ▸ .used _ (.refl _)
        · exact .used _ (.store stored)
    · rcases delUser_cases done with same | ⟨_, _, _, _, _, _, same⟩
      · exact same ▸ .used _ (.refl _)
      · exact same ▸ .used _ (.refl _)
  · unfold delUser at done
    rw [FiniteMap.getElem?_eq_none_iff.mpr known] at done
    cases done
    exact ⟨fun _ => .used _ (.refl _), fun present => absurd present known, .used _ (.refl _),
      .used _ (.refl _)⟩

theorem setUserToZone_evolution (done : router.setUserToZone idUser idZone = some next) :
    Evolution False router next := by
  rcases setUserToZone_cases done with
    same | ⟨_, _, _, _, _, _, _, _, _, _, _, _, entered, _, left, stored, same⟩
  · exact same ▸ .refl router
  · exact same ▸ .of_uses (.store stored) (Uses.trans (.store entered) (.store left)) (.refl _)
      ⟨rfl, rfl, rfl⟩

/-- The call removes a user that is known. -/
def RemovesUser (router : Router) (event : Event) : Prop :=
  ∃ idUser, event = .delUser idUser ∧ idUser ∈ router.mUsers

/-- Every operation but one keeps the pointers good. -/
theorem step_evolution_of_other {event : Event} (other : ∀ idUser, event ≠ .delUser idUser)
    (stepped : Router.step router event = some next) : Evolution False router next := by
  have sent : ∀ {outputs : Option (List Output)},
      (outputs.map fun _ => router) = some next → Evolution False router next := by
    intro outputs done
    rcases Option.map_eq_some_iff.mp done with ⟨_, _, same⟩
    exact same ▸ .refl router
  cases event with
  | addServer => exact addServer_evolution stepped
  | connectServer =>
      rcases Option.map_eq_some_iff.mp stepped with ⟨⟨_, _⟩, done, rfl⟩
      exact connectServer_evolution done
  | delServer =>
      rcases Option.map_eq_some_iff.mp stepped with ⟨⟨_, _⟩, done, rfl⟩
      exact delServer_evolution done
  | addZone => exact addZone_evolution stepped
  | delZone => exact delZone_evolution stepped
  | startZoneToServerTransfer => exact startZoneToServerTransfer_evolution stepped
  | endZoneToServerTransfer => exact endZoneToServerTransfer_evolution stepped
  | addUser => exact addUser_evolution stepped
  | delUser idUser => exact absurd rfl (other idUser)
  | validateUser =>
      rcases Option.map_eq_some_iff.mp stepped with ⟨⟨_, _⟩, done, rfl⟩
      exact validateUser_evolution done
  | connectUser => exact connectUser_evolution stepped
  | setUserToZone => exact setUserToZone_evolution stepped
  | sendToServer => exact sent stepped
  | sendToServerUsers => exact sent stepped
  | sendToZone => exact sent stepped
  | sendToUser => exact sent stepped

/-- Every operation keeps the pointers good, but for the removal of a user. -/
theorem step_evolution {event : Event} (stepped : Router.step router event = some next) :
    Evolution (RemovesUser router event) router next := by
  by_cases removal : ∃ idUser, event = .delUser idUser
  · rcases removal with ⟨idUser, rfl⟩
    rcases Option.map_eq_some_iff.mp stepped with ⟨⟨_, _⟩, done, rfl⟩
    have removes : RemovesUser router (.delUser idUser) ↔ idUser ∈ router.mUsers := by
      constructor
      · rintro ⟨_, same, known⟩
        cases same
        exact known
      · exact fun known => ⟨idUser, rfl, known⟩
    rw [removes]
    exact delUser_evolution done
  · rcases step_evolution_of_other (not_exists.mp removal) stepped with ⟨kept, _, zones, servers⟩
    refine ⟨fun _ => kept id, ?_, zones, servers⟩
    rintro ⟨idUser, same, _⟩
    exact absurd ⟨idUser, same⟩ removal

end Operations

variable {events : List Event}

theorem listed_of_run (reached : run Router.step Router.empty events = some router) :
    Listed router :=
  run_invariant_of_step (fun _ => True) (fun _ router => Listed router) (fun _ _ _ => trivial)
    Listed.empty (fun _ _ _ _ _ listed stepped => listed.of_evolution (step_evolution stepped))
    trivial reached

/-- A pointer that is left behind is still there at the end. -/
theorem dangling_of_run {start : Router} (dangling : Dangling start.mUsers start.users)
    (reached : run Router.step start events = some router) :
    Dangling router.mUsers router.users := by
  refine run_invariant_of_step (fun _ => True)
    (fun _ router => Dangling router.mUsers router.users) (fun _ _ _ => trivial) dangling ?_
    trivial reached
  intro _ state event next _ dangling stepped
  have evolution := step_evolution stepped
  by_cases drops : RemovesUser state event
  · exact dangling.of_drops (evolution.dropped drops)
  · exact dangling.of_maintains (evolution.kept drops)

/-- The map of users is good at the end of a run that removed none, and of no
other. -/
theorem holds_users_iff_of_run (reached : run Router.step Router.empty events = some router) :
    Holds router.mUsers router.users ↔
      AtEach Router.step (fun _ router event => ¬ RemovesUser router event) Router.empty
        events := by
  constructor
  · rintro holds before event after state rfl reachedBefore removes
    rcases exists_states_of_split reached with ⟨state', next, reachedBefore', stepped, onwards⟩
    have same : state = state' := Option.mem_unique reachedBefore reachedBefore'
    subst same
    have dangling := ((step_evolution stepped).dropped removes).dangling
    exact holds.not_dangling (dangling_of_run dangling onwards)
  · intro keeps
    refine run_invariant (fun _ => True) (fun _ router => Holds router.mUsers router.users)
      (fun _ _ _ => trivial) Holds.empty ?_ trivial keeps reached
    intro _ state event next _ holds stays stepped
    exact holds.of_maintains ((step_evolution stepped).kept stays)

/-- After any run, clearing the router is defined exactly when the run removed
no user that was known, and no connection is closed or deleted that was deleted
before. -/
theorem clear_defined_iff_of_run
    (reached : run Router.step Router.empty events = some router) :
    (∃ next outputs, router.clear = some (next, outputs)) ↔
      AtEach Router.step (fun _ router event => ¬ RemovesUser router event) Router.empty events ∧
        router.Closable := by
  have serves := servesZones_of_run reached
  rw [exists_clear_iff, holds_users_iff_of_run reached]
  constructor
  · rintro ⟨keeps, _, _, closable⟩
    exact ⟨keeps, closable⟩
  · rintro ⟨keeps, closable⟩
    exact ⟨keeps, serves.zones.holds, serves.servers.holds, closable⟩

/-- A router with a server, a zone, and a user in it with a connection. -/
def smallRouter : List Event :=
  [.addServer 3, .addZone (-1), .addUser 1 5, .setUserToZone 1 (-1), .connectUser 1 5 7,
    .connectServer 3 8]

theorem smallRouter_clear_defined :
    ∃ router, run Router.step Router.empty smallRouter = some router ∧
      ((∃ next outputs, router.clear = some (next, outputs)) ↔
        AtEach Router.step (fun _ router event => ¬ RemovesUser router event) Router.empty
          smallRouter ∧ router.Closable) := by
  have reached : run Router.step Router.empty smallRouter = some _ := rfl
  exact ⟨_, reached, clear_defined_iff_of_run reached⟩

/-- Clearing the router after a run leaves no object and no pointer.  It
closes the connection of every user and of every server, once for each. -/
theorem clear_frees_of_run (reached : run Router.step Router.empty events = some router)
    (cleared : router.clear = some (next, outputs)) :
    (∀ address, next.users.load address = none ∧ next.zones.load address = none ∧
      next.servers.load address = none) ∧
      next.mUsers = ∅ ∧ next.mZones = ∅ ∧ next.mServers = ∅ ∧
      outputs = (router.userConnections ++ router.serverConnections).map .closed ∧
      next.deletedConnections = router.serverConnections.reverse ++ router.deletedConnections := by
  have listed := listed_of_run reached
  rcases clear_eq_some_iff.mp cleared with ⟨users, zones, servers, deletedUsers, deletedZones,
    deletedServers, rfl, rfl⟩
  refine ⟨fun address => ⟨?_, ?_, ?_⟩, rfl, rfl, rfl, List.map_append.symm, rfl⟩
  · exact listed.users.load_deleted deletedUsers address
  · exact listed.zones.load_deleted deletedZones address
  · exact listed.servers.load_deleted deletedServers address

theorem smallRouter_clear_frees :
    ∃ router next outputs, run Router.step Router.empty smallRouter = some router ∧
      router.clear = some (next, outputs) ∧ ∀ address, next.users.load address = none := by
  have done : ∃ router next outputs, run Router.step Router.empty smallRouter = some router ∧
      router.clear = some (next, outputs) := ⟨_, _, _, rfl, rfl⟩
  rcases done with ⟨router, next, outputs, reached, cleared⟩
  exact ⟨router, next, outputs, reached, cleared,
    fun address => ((clear_frees_of_run reached cleared).1 address).1⟩

end Router
end Pxc
