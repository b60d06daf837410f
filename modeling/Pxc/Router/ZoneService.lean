import Pxc.General.Runs
import Pxc.Router.ServiceOperations

namespace Pxc
namespace Router

open General

/-!
# A zone is served by at most one server

Which server serves a zone is kept twice: the zone names its server, and the
server has the zone in its table.  A transfer changes both, in two calls with
anything in between, and a deleted server leaves its name in the zones it
served.

The invariant says what survives all of this.  The router's maps own their
objects, a server's table borrows its pointers from the router's table of
zones, and every zone in a server's table names that server.  The converse is
not part of it: a zone may name a server that is gone, or that came back with
an empty table.
-/

variable {router next : Router}

/-- The invariant of the zones' service. -/
structure ServesZones (router : Router) : Prop extends Owned router where
  borrowed : ∀ {idServer server}, router.findServer idServer = some server →
    Borrows server.mZones router.mZones
  assigned : ∀ {idServer server idZone zone}, router.findServer idServer = some server →
    idZone ∈ server.mZones → router.findZone idZone = some zone → zone.mServer = idServer

theorem ServesZones.empty : ServesZones Router.empty where
  toOwned := Owned.empty
  borrowed := by
    intro idServer server found
    rw [findServer_empty] at found
    cases found
  assigned := by
    intro idServer server idZone zone found
    rw [findServer_empty] at found
    cases found

theorem KeepsService.servesZones (keeps : KeepsService router next) (serves : ServesZones router) :
    ServesZones next where
  toOwned := keeps.owned serves.toOwned
  borrowed := by
    intro idServer server found
    rcases keeps.server_before found with ⟨before, foundBefore, service⟩
    have sameTable : before.mZones = server.mZones := congrArg Prod.snd service
    rw [keeps.zonePointers, ← sameTable]
    exact serves.borrowed foundBefore
  assigned := by
    intro idServer server idZone zone found member foundZone
    rcases keeps.server_before found with ⟨before, foundBefore, service⟩
    rcases keeps.zone_before foundZone with ⟨zoneBefore, foundZoneBefore, zoneService⟩
    have sameTable : before.mZones = server.mZones := congrArg Prod.snd service
    have sameServer : zoneBefore.mServer = zone.mServer := congrArg Prod.snd zoneService
    rw [← sameServer]
    exact serves.assigned foundBefore (sameTable ▸ member) foundZoneBefore

/-- Users and deleted connections have no part in the service of zones. -/
theorem ServesZones.of_users (serves : ServesZones router) (users : Heap User)
    (mUsers : FiniteMap Int Address) (deletedConnections : List Connection) :
    ServesZones { router with users, mUsers, deletedConnections } := by
  have keeps : KeepsService router { router with users, mUsers, deletedConnections } :=
    ⟨rfl, rfl, fun _ => rfl, fun _ => rfl⟩
  exact keeps.servesZones serves

/-! ## The invariant, operation by operation -/

namespace ServesZones

variable {idServer idZone : Int}

theorem zone_of_member (serves : ServesZones router) {server : Server}
    (found : router.findServer idServer = some server) (member : idZone ∈ server.mZones) :
    ∃ address, server.mZones[idZone]? = some address ∧ router.mZones[idZone]? = some address := by
  rcases FiniteMap.exists_of_mem member with ⟨address, entry⟩
  exact ⟨address, entry, serves.borrowed found idZone address entry⟩

theorem addServer (serves : ServesZones router) (done : router.addServer idServer = some next) :
    ServesZones next := by
  cases absent : router.mServers[idServer]? with
  | some address =>
      rw [addServer_known absent] at done
      cases done
      exact serves
  | none =>
      rcases serves.addServer_new absent with ⟨servers, added, owned, finds⟩
      have same := Option.mem_unique added done
      subst same
      refine ⟨owned, ?_, ?_⟩
      · intro other server found
        rw [findServer, finds] at found
        split at found
        · cases found
          exact Borrows.empty _
        · exact serves.borrowed found
      · intro other server idZone zone found member foundZone
        rw [findServer, finds] at found
        split at found
        · cases found
          exact absurd member Std.ExtTreeMap.not_mem_empty
        · exact serves.assigned found member foundZone

theorem delServer (serves : ServesZones router) {outputs : List Output}
    (done : router.delServer idServer = some (next, outputs)) : ServesZones next := by
  rcases delServer_cases done with same | ⟨address, servers, deleted, pointer, freed, same⟩
  · exact same ▸ serves
  · subst same
    have remaining : ∀ other server,
        find (router.mServers.erase idServer) servers other = some server →
          router.findServer other = some server := by
      intro other server found
      rw [serves.servers.find_free pointer freed] at found
      split at found
      · cases found
      · exact found
    refine ⟨⟨serves.servers.free pointer freed, serves.zones⟩, ?_, ?_⟩
    · intro other server found
      exact serves.borrowed (remaining other server found)
    · intro other server idZone zone found member foundZone
      exact serves.assigned (remaining other server found) member foundZone

theorem addZone (serves : ServesZones router) (done : router.addZone idZone = some next) :
    ServesZones next := by
  cases absent : router.mZones[idZone]? with
  | some address =>
      rw [addZone_known absent] at done
      cases done
      exact serves
  | none =>
      rcases serves.addZone_new absent with ⟨zones, added, owned, finds⟩
      have same := Option.mem_unique added done
      subst same
      refine ⟨owned, ?_, ?_⟩
      · intro other server found
        exact (serves.borrowed found).owner_insert absent router.zones.next
      · intro other server idZone' zone found member foundZone
        rcases serves.zone_of_member found member with ⟨address, _, pointer⟩
        have different : idZone ≠ idZone' := by
          intro equal
          rw [← equal, absent] at pointer
          cases pointer
        rw [findZone, finds, if_neg different] at foundZone
        exact serves.assigned found member foundZone

/-- The deleted zone leaves the table of its server, which is the only one
that may have it. -/
theorem delZone (serves : ServesZones router) (done : router.delZone idZone = some next) :
    ServesZones next := by
  cases found : router.findZone idZone with
  | none =>
      rw [findZone, serves.zones.find_eq_none_iff] at found
      rw [delZone_unknown found] at done
      cases done
      exact serves
  | some zone =>
      rcases serves.delZone_known found with ⟨servers, zones, deleted, owned, finds, findsZone⟩
      have same := Option.mem_unique deleted done
      subst same
      -- a server after the deletion is one from before, without the zone
      have remaining : ∀ other server, find router.mServers servers other = some server →
          ∃ before, router.findServer other = some before ∧ idZone ∉ server.mZones ∧
            (server.mZones = before.mZones ∨ server.mZones = before.mZones.erase idZone) := by
        intro other server found'
        rw [finds] at found'
        by_cases about : zone.mServer = other
        · rw [if_pos about, Option.map_eq_some_iff] at found'
          rcases found' with ⟨before, foundBefore, left⟩
          subst left
          refine ⟨before, about ▸ foundBefore, ?_, .inr rfl⟩
          intro member
          exact (FiniteMap.mem_erase_iff.mp member).1 rfl
        · rw [if_neg about] at found'
          refine ⟨server, found', ?_, .inl rfl⟩
          intro member
          exact about (serves.assigned found' member found)
      refine ⟨owned, ?_, ?_⟩
      · intro other server found'
        rcases remaining other server found' with ⟨before, foundBefore, absent, table⟩
        have borrows := serves.borrowed foundBefore
        have kept : Borrows server.mZones router.mZones := by
          rcases table with table | table
          · exact table ▸ borrows
          · exact table ▸ borrows.erase idZone
        exact kept.owner_erase (FiniteMap.getElem?_eq_none_iff.mpr absent)
      · intro other server idZone' zone' found' member foundZone
        rcases remaining other server found' with ⟨before, foundBefore, _, table⟩
        have memberBefore : idZone' ∈ before.mZones := by
          rcases table with table | table
          · exact table ▸ member
          · rw [table] at member
            exact (FiniteMap.mem_erase_iff.mp member).2
        rw [findZone, findsZone] at foundZone
        split at foundZone
        · cases foundZone
        · exact serves.assigned foundBefore memberBefore foundZone

/-- The zone moves from the table of its old server to that of its new one,
and names the new one from then on. -/
theorem endZoneToServerTransfer (serves : ServesZones router)
    (done : router.endZoneToServerTransfer idZone = some next) : ServesZones next := by
  rcases serves.endZoneToServerTransfer_cases idZone with unchanged |
    ⟨zone, source, target, foundZone, transferring, foundSource, foundTarget⟩
  · have same := Option.mem_unique unchanged done
    exact same ▸ serves
  · rcases find_eq_some_iff.mp foundZone with ⟨address, pointer, loaded⟩
    rcases serves.endZoneToServerTransfer_known pointer loaded transferring
      ⟨source, foundSource⟩ foundTarget with ⟨servers, zones, ended, owned, finds, findsZone⟩
    have same := Option.mem_unique ended done
    subst same
    have newServer : zone.endTransfer.mServer = zone.mNewServer := by
      rw [Zone.endTransfer, if_pos transferring]
    -- without the moved zone, every table is part of what it was
    have tables : ∀ other server, find router.mServers servers other = some server →
        ∃ before, router.findServer other = some before ∧
          (idZone ∈ server.mZones → zone.mNewServer = other) ∧
          Borrows server.mZones router.mZones ∧
          ∀ idZone', idZone ≠ idZone' → idZone' ∈ server.mZones → idZone' ∈ before.mZones := by
      intro other server found
      rw [finds] at found
      by_cases enters : zone.mNewServer = other
      · rw [if_pos enters, Option.some.injEq] at found
        subst found enters
        have borrows := serves.borrowed foundTarget
        refine ⟨target, foundTarget, fun _ => rfl, ?_, ?_⟩
        · apply Borrows.insert _ pointer
          split
          · exact borrows.erase idZone
          · exact borrows
        · intro idZone' different member
          rcases Std.ExtTreeMap.mem_insert.mp member with equal | member
          · exact absurd (Std.compare_eq_iff_eq.mp equal) different
          · split at member
            · exact (FiniteMap.mem_erase_iff.mp member).2
            · exact member
      · rw [if_neg enters] at found
        by_cases leaves : zone.mServer = other
        · rw [if_pos leaves, foundSource, Option.map_some, Option.some.injEq] at found
          subst found leaves
          refine ⟨source, foundSource, ?_, (serves.borrowed foundSource).erase idZone, ?_⟩
          · intro member
            exact absurd rfl (FiniteMap.mem_erase_iff.mp member).1
          · intro idZone' _ member
            exact (FiniteMap.mem_erase_iff.mp member).2
        · rw [if_neg leaves] at found
          refine ⟨server, found, ?_, serves.borrowed found, fun _ _ member => member⟩
          intro member
          exact absurd (serves.assigned found member foundZone) leaves
    refine ⟨owned, ?_, ?_⟩
    · intro other server found
      rcases tables other server found with ⟨_, _, _, borrows, _⟩
      exact borrows
    · intro other server idZone' zone' found member foundZone'
      rcases tables other server found with ⟨before, foundBefore, moved, _, kept⟩
      rw [findZone, findsZone] at foundZone'
      by_cases about : idZone = idZone'
      · rw [if_pos about, Option.some.injEq] at foundZone'
        rw [← foundZone', newServer]
        exact moved (about ▸ member)
      · rw [if_neg about] at foundZone'
        exact serves.assigned foundBefore (kept idZone' about member) foundZone'

/-- Every operation of the router keeps the service of the zones. -/
theorem step (serves : ServesZones router) {event : Event}
    (stepped : Router.step router event = some next) : ServesZones next := by
  have sent : ∀ {outputs : Option (List Output)},
      (outputs.map fun _ => router) = some next → ServesZones next := by
    intro outputs done
    rcases Option.map_eq_some_iff.mp done with ⟨_, _, same⟩
    exact same ▸ serves
  cases event with
  | addServer => exact serves.addServer stepped
  | connectServer =>
      rcases Option.map_eq_some_iff.mp stepped with ⟨⟨_, _⟩, done, same⟩
      exact same ▸ (connectServer_keepsService done).servesZones serves
  | delServer =>
      rcases Option.map_eq_some_iff.mp stepped with ⟨⟨_, _⟩, done, same⟩
      exact same ▸ serves.delServer done
  | addZone => exact serves.addZone stepped
  | delZone => exact serves.delZone stepped
  | startZoneToServerTransfer =>
      exact (startZoneToServerTransfer_keepsService stepped).servesZones serves
  | endZoneToServerTransfer => exact serves.endZoneToServerTransfer stepped
  | addUser => exact (addUser_keepsService stepped).servesZones serves
  | delUser =>
      rcases Option.map_eq_some_iff.mp stepped with ⟨⟨_, _⟩, done, same⟩
      exact same ▸ (delUser_keepsService done).servesZones serves
  | validateUser =>
      rcases Option.map_eq_some_iff.mp stepped with ⟨⟨_, _⟩, done, same⟩
      exact same ▸ (validateUser_keepsService done).servesZones serves
  | connectUser => exact (connectUser_keepsService stepped).servesZones serves
  | setUserToZone => exact (setUserToZone_keepsService stepped).servesZones serves
  | sendToServer => exact sent stepped
  | sendToServerUsers => exact sent stepped
  | sendToZone => exact sent stepped
  | sendToUser => exact sent stepped

end ServesZones

/-- Whatever the router was told to do, the service of the zones is in order. -/
theorem servesZones_of_run {events : List Event}
    (reached : run Router.step Router.empty events = some router) : ServesZones router :=
  run_invariant_of_step (fun _ => True) (fun _ router => ServesZones router)
    (fun _ _ _ => trivial) ServesZones.empty
    (fun _ _ _ _ _ serves stepped => serves.step stepped) trivial reached

/-- The operations that create, delete and transfer. -/
def Event.ChangesService : Event → Prop
  | .addServer _ => True
  | .delServer _ => True
  | .addZone _ => True
  | .delZone _ => True
  | .startZoneToServerTransfer _ _ => True
  | .endZoneToServerTransfer _ => True
  | _ => False

/-- No server has a connection. -/
def Unconnected (router : Router) : Prop :=
  ∀ idServer server, router.findServer idServer = some server → server.mConnection = none

theorem Unconnected.empty : Unconnected Router.empty := by
  intro idServer server found
  rw [findServer_empty] at found
  cases found

namespace ServesZones

variable {idServer idZone : Int}

theorem delServer_unconnected (serves : ServesZones router) (unconnected : Unconnected router)
    (idServer : Int) :
    ∃ next, router.delServer idServer = some (next, []) ∧ Unconnected next := by
  cases pointer : router.mServers[idServer]? with
  | none => exact ⟨router, delServer_unknown pointer, unconnected⟩
  | some address =>
      rcases serves.server_of_pointer pointer with ⟨server, loaded, found, _⟩
      rcases Heap.exists_free loaded with ⟨servers, freed⟩
      refine ⟨{ router with servers, mServers := router.mServers.erase idServer }, ?_, ?_⟩
      · unfold Router.delServer
        simp only [pointer, loaded, unconnected idServer server found, closeOn, deleteOld, freed,
          Option.bind_eq_bind, Option.bind_some, Option.pure_def]
      · intro other server' found'
        rw [findServer, serves.servers.find_free pointer freed] at found'
        split at found'
        · cases found'
        · exact unconnected other server' found'

theorem delZone_unconnected (serves : ServesZones router) (unconnected : Unconnected router)
    (idZone : Int) : ∃ next, router.delZone idZone = some next ∧ Unconnected next := by
  cases found : router.findZone idZone with
  | none =>
      rw [findZone, serves.zones.find_eq_none_iff] at found
      exact ⟨router, delZone_unknown found, unconnected⟩
  | some zone =>
      rcases serves.delZone_known found with ⟨servers, zones, deleted, _, finds, _⟩
      refine ⟨_, deleted, ?_⟩
      intro other server found'
      rw [findServer, finds] at found'
      split at found'
      · rcases Option.map_eq_some_iff.mp found' with ⟨before, foundBefore, same⟩
        have kept : server.mConnection = before.mConnection := by rw [← same, Server.delZone]
        exact kept.trans (unconnected _ before foundBefore)
      · exact unconnected other server found'

theorem startZoneToServerTransfer_unconnected (serves : ServesZones router)
    (unconnected : Unconnected router) (idZone newServer : Int) :
    ∃ next, router.startZoneToServerTransfer idZone newServer = some next ∧ Unconnected next := by
  cases pointer : router.mZones[idZone]? with
  | none => exact ⟨router, startZoneToServerTransfer_unknown (.inl pointer), unconnected⟩
  | some address =>
      cases serverPointer : router.mServers[newServer]? with
      | none => exact ⟨router, startZoneToServerTransfer_unknown (.inr serverPointer), unconnected⟩
      | some serverAddress =>
          rcases serves.zone_of_pointer pointer with ⟨zone, _, found, _⟩
          rcases serves.server_of_pointer serverPointer with ⟨server, _, foundServer, _⟩
          rcases serves.startZoneToServerTransfer_known found ⟨server, foundServer⟩ with
            ⟨zones, started, _, _⟩
          exact ⟨_, started, unconnected⟩

theorem endZoneToServerTransfer_unconnected (serves : ServesZones router)
    (unconnected : Unconnected router) (idZone : Int) :
    ∃ next, router.endZoneToServerTransfer idZone = some next ∧ Unconnected next := by
  rcases serves.endZoneToServerTransfer_cases idZone with unchanged |
    ⟨zone, source, target, foundZone, transferring, foundSource, foundTarget⟩
  · exact ⟨router, unchanged, unconnected⟩
  · rcases find_eq_some_iff.mp foundZone with ⟨address, pointer, loaded⟩
    rcases serves.endZoneToServerTransfer_known pointer loaded transferring
      ⟨source, foundSource⟩ foundTarget with ⟨servers, zones, ended, _, finds, _⟩
    refine ⟨_, ended, ?_⟩
    intro other server found
    rw [findServer, finds] at found
    split at found
    · have entered := unconnected _ target foundTarget
      rw [Option.some.injEq] at found
      subst found
      split <;> exact entered
    · split at found
      · rw [foundSource, Option.map_some, Option.some.injEq] at found
        subst found
        exact unconnected _ source foundSource
      · exact unconnected other server found

/-- Without connections, no operation on servers and zones goes wrong. -/
theorem step_unconnected (serves : ServesZones router) (unconnected : Unconnected router)
    {event : Event} (changes : event.ChangesService) :
    ∃ next, Router.step router event = some next ∧ Unconnected next := by
  cases event with
  | addServer idServer =>
      cases pointer : router.mServers[idServer]? with
      | some address => exact ⟨router, addServer_known pointer, unconnected⟩
      | none =>
          rcases serves.addServer_new pointer with ⟨servers, added, _, finds⟩
          refine ⟨_, added, ?_⟩
          intro other server found
          rw [findServer, finds] at found
          split at found
          · cases found
            rfl
          · exact unconnected other server found
  | delServer idServer =>
      rcases serves.delServer_unconnected unconnected idServer with ⟨next, deleted, after⟩
      exact ⟨next, Option.map_eq_some_iff.mpr ⟨_, deleted, rfl⟩, after⟩
  | addZone idZone =>
      cases pointer : router.mZones[idZone]? with
      | some address => exact ⟨router, addZone_known pointer, unconnected⟩
      | none =>
          rcases serves.addZone_new pointer with ⟨zones, added, _, _⟩
          exact ⟨_, added, unconnected⟩
  | delZone idZone => exact serves.delZone_unconnected unconnected idZone
  | startZoneToServerTransfer idZone newServer =>
      exact serves.startZoneToServerTransfer_unconnected unconnected idZone newServer
  | endZoneToServerTransfer idZone =>
      exact serves.endZoneToServerTransfer_unconnected unconnected idZone
  | _ => cases changes

/-- A run of operations on servers and zones comes to its end. -/
theorem exists_run {events : List Event} (serves : ServesZones router)
    (unconnected : Unconnected router) (listed : ∀ event ∈ events, event.ChangesService) :
    ∃ final, run Router.step router events = some final := by
  induction events generalizing router with
  | nil => exact ⟨router, run_nil router⟩
  | cons event rest inductionHypothesis =>
      rcases serves.step_unconnected unconnected (listed event List.mem_cons_self) with
        ⟨next, stepped, after⟩
      rcases inductionHypothesis (serves.step stepped) after
        (fun event member => listed event (List.mem_cons_of_mem _ member)) with ⟨final, reached⟩
      refine ⟨final, ?_⟩
      rw [run_cons, stepped]
      exact reached

end ServesZones

/-- Each server is an object of its own, a zone in its table is the router's
zone under that id and names the server, and no other server has it. -/
structure ServedOnce (router : Router) : Prop where
  alive : ∀ (idServer : Int) (pointer : Address), router.mServers[idServer]? = some pointer →
    ∃ server, router.servers.load pointer = some server ∧ server.mId = idServer
  served : ∀ (idServer idZone : Int) (server : Server) (pointer : Address),
    router.findServer idServer = some server → server.mZones[idZone]? = some pointer →
      router.mZones[idZone]? = some pointer ∧
        ∃ zone, router.zones.load pointer = some zone ∧ zone.mServer = idServer
  once : ∀ (first second idZone : Int) (firstServer secondServer : Server),
    router.findServer first = some firstServer → router.findServer second = some secondServer →
      idZone ∈ firstServer.mZones → idZone ∈ secondServer.mZones → first = second

theorem ServesZones.servedOnce (serves : ServesZones router) : ServedOnce router where
  alive := serves.servers
  served := by
    intro idServer idZone server pointer found entry
    have pointerZone := serves.borrowed found idZone pointer entry
    rcases serves.zone_of_pointer pointerZone with ⟨zone, loaded, foundZone, _⟩
    have member := FiniteMap.mem_of_getElem? entry
    exact ⟨pointerZone, zone, loaded, serves.assigned found member foundZone⟩
  once := by
    intro first second idZone firstServer secondServer foundFirst foundSecond inFirst inSecond
    rcases serves.zone_of_member foundFirst inFirst with ⟨address, _, pointer⟩
    rcases serves.zone_of_pointer pointer with ⟨zone, _, foundZone, _⟩
    exact (serves.assigned foundFirst inFirst foundZone).symm.trans
      (serves.assigned foundSecond inSecond foundZone)

/-- Every sequence of creations, deletions and transfers runs to its end, and
leaves each zone with at most one server. -/
theorem zones_served_once {events : List Event}
    (listed : ∀ event ∈ events, event.ChangesService) :
    ∃ router, run Router.step Router.empty events = some router ∧ ServedOnce router := by
  rcases ServesZones.empty.exists_run Unconnected.empty listed with ⟨router, reached⟩
  exact ⟨router, reached, (servesZones_of_run reached).servedOnce⟩

/-- The target of a transfer is deleted and comes back in the middle of it. -/
theorem zones_served_once_after_deletion :
    ∃ router, run Router.step Router.empty
        [.addServer (-1), .addServer 4, .addZone 7, .startZoneToServerTransfer 7 4, .delServer 4,
          .endZoneToServerTransfer 7, .addServer 4, .endZoneToServerTransfer 7] = some router ∧
      ServedOnce router :=
  zones_served_once (by simp [Event.ChangesService])

end Router
end Pxc
