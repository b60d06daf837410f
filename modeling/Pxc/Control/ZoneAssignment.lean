import Pxc.Control.Servers
import Pxc.General.Loops

namespace Pxc
namespace Control

open General

/-!
# The initial zones

When Control starts it gives every zone to a game server.  The zones that do
not divide evenly among the servers go to the first server of the list, and
the others go round the servers that are online, one zone each, until the
last zone has been given.

The number of zones is a parameter here.  A zone given to a server is sent to
it, written into the zone table, and put in the server's distribution with
load 0, so that one list of the messages sent says all that a call has done.
The order of that list, zone by zone, is the invariant of both loops.

`online` says of a server that it has a connection and that the connection's
link is online, which stays as it is during a call.  The links of the servers
may fail between two calls.
-/

/-- `SetZoneToServerSend`. -/
structure SetZoneToServer where
  idZone : Int
  idServer : Int
  deriving DecidableEq, Repr

/-- The fields of the singleton `Control` that `zoneAssignment` uses. -/
structure Fleet (D : Type) (nzones : Nat) where
  servers : List (Server D)
  numberServers : Int
  zoneServer : Fin nzones → Option Address

/-- A call of `zoneAssignment`: what it has changed, the messages it has sent
with the servers they went to, its two counters, and whether it has returned
from within its second loop. -/
structure Assignment (D : Type) (nzones : Nat) extends Fleet D nzones where
  sent : List (Address × SetZoneToServer)
  zonesRestants : Int
  zoneIndex : Nat
  returned : Bool

variable {D : Type} [Zero D] {nzones : Nat}

/-- A new entry of the distribution, with the load 0. -/
def Server.pushZone (server : Server D) (zone : Int) : Server D :=
  { server with distribution := server.distribution ++ [⟨zone, 0⟩], totalLoad := 0 }

/-- The statements both loops share: a zone is sent to a server, and recorded
in the table and in the server.  Writing outside of the table is undefined. -/
def Assignment.give (s : Assignment D nzones) (zone : Nat) (server : Server D) :
    Option (Assignment D nzones) :=
  if inside : zone < nzones then
    some { s with
      sent := s.sent ++ [(server.address, ⟨zone, server.id⟩)]
      zoneServer := Function.update s.zoneServer ⟨zone, inside⟩ (some server.address)
      servers := s.servers.map fun other =>
        if other.address = server.address then other.pushZone zone else other }
  else none

/-- One iteration of the first loop, which always works on the same server. -/
def giveRemainder (server : Server D) (s : Assignment D nzones) (i : Nat) :
    Option (Assignment D nzones) :=
  if server.online then
    (s.give i server).map fun s => { s with zonesRestants := s.zonesRestants - 1 }
  else some s

/-- One iteration of the round over the servers.  After the return it has no
effect. -/
def visit (s : Assignment D nzones) (server : Server D) : Option (Assignment D nzones) :=
  if s.returned then some s
  else if server.online then
    (s.give s.zoneIndex server).map fun s =>
      let zoneIndex := s.zoneIndex + 1
      if zoneIndex = nzones then { s with zoneIndex, returned := true }
      else { s with zoneIndex, zonesRestants := s.zonesRestants - 1 }
  else some s

/-- One round over the servers. -/
def goRound (s : Assignment D nzones) : Option (Assignment D nzones) :=
  s.servers.foldlM visit s

/-- The condition of the second loop. -/
def Remaining (s : Assignment D nzones) : Prop :=
  0 < s.zonesRestants ∧ s.returned = false

instance : DecidablePred (@Remaining D nzones) :=
  fun s => inferInstanceAs (Decidable (0 < s.zonesRestants ∧ s.returned = false))

/-- `modZonesPerServer`. -/
def Fleet.modZonesPerServer (fleet : Fleet D nzones) : Nat :=
  ((nzones : Int).tmod fleet.numberServers).toNat

/-- The variables of a call before its first loop. -/
def Fleet.begin (fleet : Fleet D nzones) : Assignment D nzones :=
  { fleet with
    sent := []
    zonesRestants := nzones
    zoneIndex := fleet.modZonesPerServer
    returned := false }

/-- `Control::zoneAssignment`, with at most `bound` rounds.  The remainder by
zero and the first server of an empty list are undefined. -/
def zoneAssignment (bound : Nat) (fleet : Fleet D nzones) : Option (Assignment D nzones) :=
  match fleet.servers.head? with
  | none => none
  | some server =>
      if fleet.numberServers = 0 then none
      else
        ((List.range fleet.modZonesPerServer).foldlM (giveRemainder server) fleet.begin).bind
          (loop Remaining goRound bound)

/-- A call of `zoneAssignment` returns, and leaves this behind. -/
def Assigns (fleet : Fleet D nzones) (final : Assignment D nzones) : Prop :=
  ∃ bound, zoneAssignment bound fleet = some final

/-- Control as `main` has filled it when it assigns the zones: every server
that was connected is a new object without zones, and there is one. -/
structure StartUp (fleet : Fleet D nzones) : Prop where
  zones : 0 < nzones
  nonempty : fleet.servers ≠ []
  counted : fleet.numberServers = fleet.servers.length
  distinct : (fleet.servers.map Server.address).Nodup
  fresh : ∀ server ∈ fleet.servers, server.distribution = []

end Control
end Pxc
