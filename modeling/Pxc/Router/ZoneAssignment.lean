import Pxc.Router.Instructions
import Pxc.Router.ZoneService

namespace Pxc
namespace Router

open General

/-!
# Assigning a zone to a server

Control assigns a zone with one message, which creates the server and the zone
when they are new and then transfers the zone to the server.  Ending a
transfer looks up the server the zone comes from.  A zone that was never
assigned comes from server -1, which nothing creates on its behalf, so the
first assignment of a zone is left open and the zone stays unserved.
-/

variable {router next : Router} {idServer idZone : Int} {c : Connection}

/-- The server a zone names, which is -1 for a zone to be created. -/
def servedBy (router : Router) (idZone : Int) : Int :=
  ((router.findZone idZone).map Zone.mServer).getD (-1)

/-- The zone is served by the server, by no other, and not in transfer. -/
structure Assigned (idServer idZone : Int) (router : Router) : Prop where
  zone : ∃ (pointer : Address) (zone : Zone) (server : Server),
    router.mZones[idZone]? = some pointer ∧ router.zones.load pointer = some zone ∧
      zone.mServer = idServer ∧ zone.mInTransfer = false ∧
      router.findServer idServer = some server ∧ server.mZones[idZone]? = some pointer
  only : ∀ (other : Int) (server : Server), router.findServer other = some server →
    idZone ∈ server.mZones → other = idServer

/-- After `addServer` the server is there, and the others are what they were. -/
theorem Owned.addServer_done (owned : Owned router) (idServer : Int) :
    ∃ next, router.addServer idServer = some next ∧ Owned next ∧ next.mZones = router.mZones ∧
      next.zones = router.zones ∧ next.deletedConnections = router.deletedConnections ∧
      (∃ server, next.findServer idServer = some server) ∧
      ∀ other, idServer ≠ other → next.findServer other = router.findServer other := by
  cases pointer : router.mServers[idServer]? with
  | some address =>
      rcases owned.server_of_pointer pointer with ⟨server, _, found, _⟩
      exact ⟨router, addServer_known pointer, owned, rfl, rfl, rfl, ⟨server, found⟩,
        fun _ _ => rfl⟩
  | none =>
      rcases owned.addServer_new pointer with ⟨servers, added, owned', finds⟩
      refine ⟨_, added, owned', rfl, rfl, rfl, ⟨Server.create idServer, ?_⟩, ?_⟩
      · rw [findServer, finds, if_pos rfl]
      · intro other different
        rw [findServer, finds, if_neg different]

/-- After `addZone` the zone is there, served as it was. -/
theorem Owned.addZone_done (owned : Owned router) (idZone : Int) :
    ∃ next, router.addZone idZone = some next ∧ Owned next ∧ next.mServers = router.mServers ∧
      next.servers = router.servers ∧
      ∃ zone, next.findZone idZone = some zone ∧ zone.mServer = router.servedBy idZone := by
  cases pointer : router.mZones[idZone]? with
  | some address =>
      rcases owned.zone_of_pointer pointer with ⟨zone, _, found, _⟩
      refine ⟨router, addZone_known pointer, owned, rfl, rfl, zone, found, ?_⟩
      rw [servedBy, found, Option.map_some, Option.getD_some]
  | none =>
      rcases owned.addZone_new pointer with ⟨zones, added, owned', finds⟩
      refine ⟨_, added, owned', rfl, rfl, Zone.create idZone, ?_, ?_⟩
      · rw [findZone, finds, if_pos rfl]
      · rw [servedBy, findZone, find_of_absent pointer]
        rfl

/-- The transfer of a zone to a server takes effect when the server it comes
from is there. -/
theorem ServesZones.transfer_known (serves : ServesZones router) {zone : Zone}
    (found : router.findZone idZone = some zone)
    (target : ∃ server, router.findServer idServer = some server)
    (source : ∃ server, router.findServer zone.mServer = some server) :
    ∃ middle next, router.startZoneToServerTransfer idZone idServer = some middle ∧
      middle.endZoneToServerTransfer idZone = some next ∧ Assigned idServer idZone next := by
  rcases serves.startZoneToServerTransfer_known found target with
    ⟨started, start, owned, finds⟩
  have serves' : ServesZones { router with zones := started } :=
    (startZoneToServerTransfer_keepsService start).servesZones serves
  have foundStarted : findZone { router with zones := started } idZone =
      some (zone.newServer idServer) := by
    rw [findZone, finds, if_pos rfl]
  rcases find_eq_some_iff.mp foundStarted with ⟨pointer, pointed, loaded⟩
  rcases target with ⟨server, foundServer⟩
  rcases owned.endZoneToServerTransfer_known pointed loaded rfl source foundServer with
    ⟨servers, zones, ended, owned', findsServer, findsZone⟩
  have final := serves'.endZoneToServerTransfer ended
  refine ⟨_, _, start, ended, ⟨pointer, (zone.newServer idServer).endTransfer, _, pointed, ?_, ?_,
    ?_, (findsServer idServer).trans (if_pos rfl), ?_⟩, ?_⟩
  · rw [← find_of_pointer pointed, findsZone, if_pos rfl]
  · rfl
  · rfl
  · exact Std.ExtTreeMap.getElem?_insert_self
  · intro other server' found' member
    exact (final.assigned found' member ((findsZone idZone).trans (if_pos rfl))).symm

/-- A transfer from a server that is not there stays open. -/
theorem Owned.transfer_unknown (owned : Owned router) {zone : Zone}
    (found : router.findZone idZone = some zone)
    (target : ∃ server, router.findServer idServer = some server)
    (missing : router.findServer zone.mServer = none) :
    ∃ middle, router.startZoneToServerTransfer idZone idServer = some middle ∧
      middle.endZoneToServerTransfer idZone = some middle ∧
      middle.findZone idZone = some (zone.newServer idServer) := by
  rcases owned.startZoneToServerTransfer_known found target with ⟨started, start, owned', finds⟩
  have foundStarted : findZone { router with zones := started } idZone =
      some (zone.newServer idServer) := by
    rw [findZone, finds, if_pos rfl]
  refine ⟨_, start, ?_, foundStarted⟩
  apply owned'.endZoneToServerTransfer_unknown
  intro zone' found' _
  have same := Option.mem_unique foundStarted found'
  subst same
  exact .inl missing

/-- The state in which the message transfers the zone: the server and the
zone are there, and the zone is served as before. -/
theorem setZoneToServerRcvd_exec (serves : ServesZones router) (validServer : idServer ≠ -1)
    (validZone : idZone ≠ -1) (alive : c ∉ router.deletedConnections) :
    ∃ prepared zone, ServesZones prepared ∧
      (∃ server, prepared.findServer idServer = some server) ∧
      (∀ other, idServer ≠ other → prepared.findServer other = router.findServer other) ∧
      prepared.findZone idZone = some zone ∧ zone.mServer = router.servedBy idZone ∧
      SetZoneToServerRcvd.exec idServer idZone router c =
        (prepared.startZoneToServerTransfer idZone idServer).bind fun middle =>
          (middle.endZoneToServerTransfer idZone).bind fun next =>
            some (next, [.getServerIpSend c idServer]) := by
  rcases serves.addServer_done idServer with
    ⟨withServer, addedServer, owned, sameZones, sameHeap, sameDeleted, known, others⟩
  rcases owned.addZone_done idZone with
    ⟨prepared, addedZone, _, sameServers, sameServerHeap, zone, found, served⟩
  have sameFind : ∀ other, prepared.findServer other = withServer.findServer other := by
    intro other
    rw [findServer, findServer, sameServers, sameServerHeap]
  have servedSame : withServer.servedBy idZone = router.servedBy idZone := by
    rw [servedBy, servedBy, findZone, findZone, sameZones, sameHeap]
  refine ⟨prepared, zone, (serves.addServer addedServer).addZone addedZone, ?_, ?_, found,
    served.trans servedSame, ?_⟩
  · rcases known with ⟨server, foundServer⟩
    exact ⟨server, (sameFind idServer).trans foundServer⟩
  · intro other different
    exact (sameFind other).trans (others other different)
  · have answered : withServer.answer c (.getServerIpSend c idServer) =
        some [.getServerIpSend c idServer] := by
      rw [answer, sameDeleted, if_neg alive]
    have asked : SetZoneToServerRcvd.addAndAsk idServer router c =
        some (withServer, [.getServerIpSend c idServer]) := by
      rw [SetZoneToServerRcvd.addAndAsk, if_pos validServer]
      simp only [addedServer, answered, Option.bind_eq_bind, Option.bind_some, Option.pure_def]
    have added : SetZoneToServerRcvd.addValidZone idZone withServer = some prepared := by
      rw [SetZoneToServerRcvd.addValidZone, if_pos validZone, addedZone]
    simp only [SetZoneToServerRcvd.exec, asked, added, Option.bind_eq_bind, Option.bind_some,
      Option.pure_def]

/-- In every state the router reaches, a message that assigns a zone which is
unserved, or served by a server the router still has, takes effect if and only
if the router has the server that the zone names. -/
theorem zone_assignment_iff {events : List Event}
    (reached : General.run Router.step Router.empty events = some router)
    (validServer : idServer ≠ -1) (validZone : idZone ≠ -1)
    (alive : c ∉ router.deletedConnections)
    (served : ∀ zone, router.findZone idZone = some zone →
      zone.mServer = -1 ∨ ∃ server, router.findServer zone.mServer = some server) :
    (∃ next sendings,
        (Instruction.setZoneToServerRcvd idServer idZone).exec router c = some (next, sendings) ∧
          Assigned idServer idZone next) ↔
      ∃ server, router.findServer (router.servedBy idZone) = some server := by
  rcases setZoneToServerRcvd_exec (servesZones_of_run reached) validServer validZone alive with
    ⟨prepared, zone, serves, target, others, found, servedSame, executed⟩
  constructor
  · intro takesEffect
    apply Classical.byContradiction
    intro unknown
    -- a source that is missing now is -1, which the message does not create
    have unserved : router.servedBy idZone = -1 := by
      cases zoneBefore : router.findZone idZone with
      | none => rw [servedBy, zoneBefore, Option.map_none, Option.getD_none]
      | some before =>
          rw [servedBy, zoneBefore, Option.map_some, Option.getD_some] at unknown ⊢
          rcases served before zoneBefore with unserved | known
          · exact unserved
          · exact absurd known unknown
    have missing : prepared.findServer zone.mServer = none := by
      rw [servedSame, others _ (unserved.symm ▸ validServer)]
      cases source : router.findServer (router.servedBy idZone) with
      | none => rfl
      | some server => exact absurd ⟨server, source⟩ unknown
    rcases serves.transfer_unknown found target missing with ⟨middle, started, stays, inTransfer⟩
    rcases takesEffect with ⟨next, sendings, done, assigned⟩
    change SetZoneToServerRcvd.exec idServer idZone router c = some (next, sendings) at done
    rw [executed, started, Option.bind_some, stays, Option.bind_some] at done
    cases done
    rcases assigned.zone with ⟨pointer, zone', _, pointed, loaded, _, ended, _⟩
    have same := Option.some.inj
      (inTransfer.symm.trans ((find_of_pointer pointed).trans loaded))
    subst same
    cases ended
  · intro known
    have source : ∃ server, prepared.findServer zone.mServer = some server := by
      by_cases same : idServer = zone.mServer
      · exact same ▸ target
      · rw [others _ same, servedSame]
        exact known
    rcases serves.transfer_known found target source with ⟨middle, next, started, ended, assigned⟩
    refine ⟨next, [.getServerIpSend c idServer], ?_, assigned⟩
    change SetZoneToServerRcvd.exec idServer idZone router c = _
    rw [executed, started, Option.bind_some, ended, Option.bind_some]

/-- With a server -1, the first assignment of a zone takes effect. -/
theorem first_assignment_takes_effect :
    ∃ router, General.run Router.step Router.empty [.addServer (-1)] = some router ∧
      ∃ next sendings,
        (Instruction.setZoneToServerRcvd 4 7).exec router 0 = some (next, sendings) ∧
          Assigned 4 7 next := by
  have reached : General.run Router.step Router.empty [.addServer (-1)] = some _ := rfl
  refine ⟨_, reached, (zone_assignment_iff reached (by decide) (by decide) List.not_mem_nil
    ?_).mpr ⟨Server.create (-1), rfl⟩⟩
  intro zone found
  cases found

/-- On a new router, the first assignment of a zone is lost. -/
theorem first_assignment_lost :
    General.run Router.step Router.empty [] = some Router.empty ∧
      Router.empty.findZone 7 = none ∧
      ¬ ∃ next sendings,
        (Instruction.setZoneToServerRcvd 4 7).exec Router.empty 0 = some (next, sendings) ∧
          Assigned 4 7 next := by
  refine ⟨rfl, rfl, ?_⟩
  intro takesEffect
  rcases takesEffect with ⟨next, sendings, done, assigned⟩
  cases done
  rcases assigned.zone with ⟨pointer, zone, server, pointed, loaded, named, _⟩
  cases pointed
  cases loaded
  cases named

end Router
end Pxc
