import Mathlib.Data.Finset.Basic
import Mathlib.Data.Int.Order.Basic
import Pxc.General.FiniteMaps

namespace Pxc
namespace GameServer

open General

/-!
# The game server

A game server keeps the zones it hosts, each with a handler that runs it in a
thread of its own, and the zone of every client.  A handler owns the zone's
game object, and that object has a set of users of its own.  Where a client is
can thus be said in two places.

The operations below follow `GameServer.cpp`, `ZoneHandler.cpp` and
`PXCZone.cpp`.  A lookup that is used without a test is undefined when it
fails.  The values that a zone keeps about its users, such as their positions,
decide nothing here, and only the users that it has such values for are kept.
What a handler's thread does is the subject of another module, and it does not
change the set of users.
-/

/-- A `Connection*`, known by its address. -/
abbrev Connection := Nat

/-- `PXCZone`.  Of the table `mUserData` only the keys are kept. -/
structure Zone where
  mZoneId : Int
  mUsers : Finset Int
  mUserData : Finset Int
  deriving DecidableEq

/-- `PXCZone::addUser`. -/
def Zone.addUser (zone : Zone) (idUser : Int) : Zone :=
  if idUser ∈ zone.mUsers then zone
  else
    { zone with
      mUsers := insert idUser zone.mUsers
      mUserData := insert idUser zone.mUserData }

/-- `PXCZone::delUser`, undefined for a user without data. -/
def Zone.delUser (zone : Zone) (idUser : Int) : Option Zone :=
  if idUser ∈ zone.mUsers then
    if idUser ∈ zone.mUserData then
      some { zone with
        mUsers := zone.mUsers.erase idUser
        mUserData := zone.mUserData.erase idUser }
    else none
  else some zone

/-- `ZoneHandler`, with the zone of its game object.  `mRunThread` says that a
thread has been started. -/
structure ZoneHandler (D : Type) where
  zone : Zone
  mDetachableZone : Int
  mRunThread : Bool
  mLoad : D
  deriving DecidableEq

variable {D : Type} [Zero D]

/-- The constructor `ZoneHandler(zoneId)`, whose game object is a new one. -/
def ZoneHandler.create (zoneId : Int) : ZoneHandler D where
  zone := ⟨zoneId, ∅, ∅⟩
  mDetachableZone := -1
  mRunThread := false
  mLoad := 0

/-- `ZoneHandler::start`. -/
def ZoneHandler.start (handler : ZoneHandler D) : ZoneHandler D :=
  if handler.mRunThread then handler else { handler with mRunThread := true }

/-- `ZoneHandler::maskAsDetachable`. -/
def ZoneHandler.maskAsDetachable (handler : ZoneHandler D) (newServer : Int) : ZoneHandler D :=
  { handler with mDetachableZone := newServer }

end GameServer

/-- The data of the singleton `GameServer`. -/
structure GameServer (D : Type) where
  mServerId : Int
  mZones : General.FiniteMap Int (GameServer.ZoneHandler D)
  mClients : General.FiniteMap Int Int
  mRouters : List GameServer.Connection

namespace GameServer

variable {D : Type} [Zero D]

/-- The constructor. -/
def fresh : GameServer D :=
  ⟨-1, ∅, ∅, []⟩

/-- `GameServer::serverId(id)`, which keeps an id that has been set. -/
def setServerId (gameServer : GameServer D) (id : Int) : GameServer D :=
  { gameServer with mServerId := if gameServer.mServerId = -1 then id else gameServer.mServerId }

/-- `GameServer::addClient`. -/
def addClient (gameServer : GameServer D) (clientId clientZone : Int) : GameServer D :=
  { gameServer with mClients := gameServer.mClients.insert clientId clientZone }

/-- `GameServer::delClient`. -/
def delClient (gameServer : GameServer D) (clientId : Int) : Option (GameServer D) :=
  match gameServer.mClients[clientId]? with
  | none => some gameServer
  | some clientZone =>
      let mClients := gameServer.mClients.erase clientId
      match gameServer.mZones[clientZone]? with
      | none => some { gameServer with mClients }
      | some handler =>
          (handler.zone.delUser clientId).map fun zone =>
            { gameServer with
              mClients
              mZones := gameServer.mZones.insert clientZone { handler with zone } }

/-- `GameServer::startZone`. -/
def startZone (gameServer : GameServer D) (zoneId : Int) : GameServer D :=
  if zoneId ∈ gameServer.mZones then gameServer
  else
    { gameServer with
      mZones := gameServer.mZones.insert zoneId (ZoneHandler.create zoneId).start }

/-- `GameServer::stopZone`.  The two other branches of the source do nothing. -/
def stopZone (gameServer : GameServer D) (zoneId : Int) (force : Bool) : GameServer D :=
  match gameServer.mZones[zoneId]? with
  | none => gameServer
  | some handler =>
      if force = true ∨ handler.mDetachableZone ≠ -1 then
        { gameServer with mZones := gameServer.mZones.erase zoneId }
      else gameServer

/-- `GameServer::markForDetach`. -/
def markForDetach (gameServer : GameServer D) (zoneId idServer : Int) : GameServer D :=
  match gameServer.mZones[zoneId]? with
  | none => gameServer
  | some handler =>
      { gameServer with
        mZones := gameServer.mZones.insert zoneId (handler.maskAsDetachable idServer) }

/-- `GameServer::addRouter`, for a connection that is not null. -/
def addRouter (gameServer : GameServer D) (connection : Connection) : GameServer D :=
  { gameServer with mRouters := gameServer.mRouters ++ [connection] }

/-- The zone is hosted. -/
def Hosts (gameServer : GameServer D) (zoneId : Int) : Prop :=
  zoneId ∈ gameServer.mZones

instance (gameServer : GameServer D) (zoneId : Int) : Decidable (gameServer.Hosts zoneId) :=
  inferInstanceAs (Decidable (zoneId ∈ gameServer.mZones))

/-- `SetZoneToServerRcvd::exec`. -/
def execSetZoneToServer (gameServer : GameServer D) (mIdZone mIdServer : Int) : GameServer D :=
  let named :=
    if gameServer.mServerId = -1 then gameServer.setServerId mIdServer else gameServer
  if named.mServerId = mIdServer then named.startZone mIdZone else named

theorem hosts_startZone {gameServer : GameServer D} {zoneId other : Int} :
    (gameServer.startZone zoneId).Hosts other ↔ zoneId = other ∨ gameServer.Hosts other := by
  unfold startZone
  by_cases hosted : zoneId ∈ gameServer.mZones
  · rw [if_pos hosted]
    constructor
    · exact Or.inr
    · rintro (rfl | already)
      · exact hosted
      · exact already
  · rw [if_neg hosted]
    change other ∈ gameServer.mZones.insert zoneId _ ↔ _
    rw [Std.ExtTreeMap.mem_insert, Std.compare_eq_iff_eq]
    rfl

theorem startZone_mServerId (gameServer : GameServer D) (zoneId : Int) :
    (gameServer.startZone zoneId).mServerId = gameServer.mServerId := by
  unfold startZone
  split <;> rfl

/-- What one message from Control does to a server that has no id yet, or the
id of the message. -/
theorem execSetZoneToServer_own {gameServer : GameServer D} {mIdServer : Int}
    (own : gameServer.mServerId = -1 ∨ gameServer.mServerId = mIdServer) (mIdZone : Int) :
    (gameServer.execSetZoneToServer mIdZone mIdServer).mServerId = mIdServer ∧
      ∀ other, (gameServer.execSetZoneToServer mIdZone mIdServer).Hosts other ↔
        mIdZone = other ∨ gameServer.Hosts other := by
  have named : ∃ renamed : GameServer D, renamed.mServerId = mIdServer ∧
      renamed.mZones = gameServer.mZones ∧
      gameServer.execSetZoneToServer mIdZone mIdServer = renamed.startZone mIdZone := by
    by_cases unset : gameServer.mServerId = -1
    · refine ⟨gameServer.setServerId mIdServer, if_pos unset, rfl, ?_⟩
      simp only [execSetZoneToServer, if_pos unset, setServerId, if_true]
    · have same := own.resolve_left unset
      refine ⟨gameServer, same, rfl, ?_⟩
      simp only [execSetZoneToServer, if_neg unset, if_pos same]
  rcases named with ⟨renamed, id, zones, executed⟩
  rw [executed, startZone_mServerId]
  refine ⟨id, ?_⟩
  intro other
  rw [hosts_startZone, Hosts, Hosts, zones]

end GameServer
end Pxc
