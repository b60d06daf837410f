import Mathlib.Algebra.Field.Rat
import Mathlib.Algebra.Order.Ring.Rat
import Mathlib.Data.List.Sort

namespace Pxc
namespace Control

/-!
# Control's servers and zones

Control keeps the game servers in a list of pointers, each server with the
zones it is responsible for and their loads, and a table that leads from a
zone to its server.  Who owns a zone is thus written in two places: in the
distribution of one server, and in the table.

A load is a `double`.  The arithmetic is a parameter, since its results are
rounded by the machine and nothing proved about zones depends on them.  The
pointer of a server is its address, by which `servers.sort()` orders the list.
-/

/-- `NZONES`. -/
def NZONES : Nat := 4

/-- The address of a `Server`. -/
abbrev Address := Nat

/-- The operations on `double` values, other than addition and comparison,
that Control uses. -/
class Arithmetic (D : Type) extends One D, Sub D, Div D where
  ofInt : Int → D
  square : D → D
  sqrt : D → D

/-- Rational arithmetic, with the root rounded down to a quotient of roots.
It is exact on the squares of rational numbers. -/
instance : Arithmetic ℚ where
  ofInt value := value
  square value := value * value
  sqrt value := (Nat.sqrt value.num.toNat : ℚ) / Nat.sqrt value.den

/-- `ZoneLoad`. -/
structure ZoneLoad (D : Type) where
  zone : Int
  load : D
  deriving DecidableEq, Repr

/-- `Server`.  The connection's `isLinkOnline` is `online`. -/
structure Server (D : Type) where
  address : Address
  id : Int
  distribution : List (ZoneLoad D)
  totalLoad : D
  online : Bool
  deriving DecidableEq, Repr

/-- The zones that are in a server's distribution. -/
def Server.Holds {D : Type} (server : Server D) (zone : Int) : Prop :=
  ∃ entry ∈ server.distribution, entry.zone = zone

end Control

/-- The part of the singleton `Control` that a balancing reads and writes. -/
structure Control (D : Type) where
  servers : List (Control.Server D)
  numberServers : Int
  zoneServer : Fin Control.NZONES → Option Control.Address

namespace Control

variable {D : Type} [Zero D] [Add D] [Arithmetic D]

/-- `Control::getAverage`. -/
def getAverage (control : Control D) : D :=
  let incr := control.servers.foldl (fun incr server => incr + server.totalLoad) 0
  incr / Arithmetic.ofInt control.numberServers

/-- `Control::getStDev`. -/
def getStDev (control : Control D) : D :=
  let avg := control.getAverage
  let incr := control.servers.foldl
    (fun incr server => incr + Arithmetic.square (server.totalLoad - avg)) 0
  if control.numberServers < 2 then
    Arithmetic.sqrt (incr / Arithmetic.ofInt control.numberServers)
  else
    Arithmetic.sqrt (incr / Arithmetic.ofInt (control.numberServers - 1))

section Sorting

omit [Zero D] [Add D] [Arithmetic D]

/-- `servers.sort()`: the elements are pointers, and are put in the order of
their addresses. -/
def sort (servers : List (Server D)) : List (Server D) :=
  servers.insertionSort fun first second => first.address ≤ second.address

/-- `servers.sort(compareServersLoad)`, which keeps the order of servers
neither of which is less loaded. -/
def sortByLoad [LT D] [DecidableLT D] (servers : List (Server D)) : List (Server D) :=
  servers.insertionSort fun first second => ¬ second.totalLoad < first.totalLoad

theorem mem_sort {servers : List (Server D)} {server : Server D} :
    server ∈ sort servers ↔ server ∈ servers :=
  List.mem_insertionSort _

theorem mem_sortByLoad [LT D] [DecidableLT D] {servers : List (Server D)} {server : Server D} :
    server ∈ sortByLoad servers ↔ server ∈ servers :=
  List.mem_insertionSort _

theorem sort_perm (servers : List (Server D)) : (sort servers).Perm servers :=
  List.perm_insertionSort _ servers

theorem length_sort (servers : List (Server D)) : (sort servers).length = servers.length :=
  List.length_insertionSort _ servers

theorem sort_sort (servers : List (Server D)) : sort (sort servers) = sort servers :=
  (List.pairwise_insertionSort _ servers).insertionSort_eq

end Sorting

/-- `zoneServer[position] = server`, undefined outside the array. -/
def writeZone (zoneServer : Fin NZONES → Option Address) (position : Int) (server : Address) :
    Option (Fin NZONES → Option Address) :=
  if inside : 0 ≤ position ∧ position.toNat < NZONES then
    some (Function.update zoneServer ⟨position.toNat, inside.2⟩ (some server))
  else none

theorem writeZone_natCast (zoneServer : Fin NZONES → Option Address) (zone : Fin NZONES)
    (server : Address) :
    writeZone zoneServer zone server = some (Function.update zoneServer zone (some server)) := by
  have inside : 0 ≤ ((zone : Nat) : Int) ∧ ((zone : Nat) : Int).toNat < NZONES :=
    ⟨Int.natCast_nonneg _, zone.isLt⟩
  rw [writeZone, dif_pos inside]
  rfl

theorem exists_of_writeZone {zoneServer written : Fin NZONES → Option Address} {position : Int}
    {server : Address} (done : writeZone zoneServer position server = some written) :
    ∃ zone : Fin NZONES, position = (zone : Nat) ∧
      written = Function.update zoneServer zone (some server) := by
  unfold writeZone at done
  split at done
  · next inside =>
    cases done
    exact ⟨⟨position.toNat, inside.2⟩, (Int.toNat_of_nonneg inside.1).symm, rfl⟩
  · cases done

/-! ## Balancing -/

/-- One call of `Control::zoneChange`. -/
structure Order (D : Type) where
  sourceServer : Server D
  changedZonePosition : Int
  destinationServer : Server D

/-- The variables of the balancing loop, besides its counter. -/
structure Balancing (D : Type) where
  control : Control D
  standardDev : D
  maxLoadServer : Server D
  minLoadServer : Server D

variable [LT D] [DecidableLT D]

/-- The selection loop from position `i` on. -/
def selectFrom (i : Nat) (minLoadZone : D) (posMinLoadZone : Int) : List (ZoneLoad D) → Int
  | [] => posMinLoadZone
  | zone :: rest =>
      if zone.load < minLoadZone then selectFrom (i + 1) zone.load i rest
      else selectFrom (i + 1) minLoadZone posMinLoadZone rest

/-- The value of `posMinLoadZone` after the selection loop, which starts from
the load 1.0 and the position -1. -/
def posMinLoadZone (distribution : List (ZoneLoad D)) : Int :=
  selectFrom 0 1 (-1) distribution

/-- The conditions of the balancing loop, besides the one on its counter. -/
def Continues (s : Balancing D) : Prop :=
  1 < s.standardDev ∧ s.maxLoadServer.distribution.length ≠ 1 ∧
    s.maxLoadServer.address ≠ s.minLoadServer.address

instance (s : Balancing D) : Decidable (Continues s) :=
  inferInstanceAs (Decidable (_ ∧ _ ∧ _))

/-- The call of `zoneChange` in one iteration. -/
def Balancing.order (s : Balancing D) : Order D where
  sourceServer := s.maxLoadServer
  changedZonePosition := posMinLoadZone s.maxLoadServer.distribution
  destinationServer := s.minLoadServer

/-- The balancing loop with `remaining` iterations left by its counter, that
is `servers.size() - numIterations`.  It returns the calls of `zoneChange`
and the state it leaves, which is undefined after a write outside of the
table. -/
def balanceLoop : Nat → Balancing D → List (Order D) × Option (Control D)
  | 0, s => ([], some s.control)
  | remaining + 1, s =>
      if Continues s then
        match writeZone s.control.zoneServer s.order.changedZonePosition
          s.minLoadServer.address with
        | none => ([s.order], none)
        | some zoneServer =>
            let control := { s.control with servers := sort s.control.servers, zoneServer }
            match control.servers.getLast?, control.servers.head? with
            | some maxLoadServer, some minLoadServer =>
                let rest := balanceLoop remaining
                  { control, standardDev := control.getStDev, maxLoadServer, minLoadServer }
                (s.order :: rest.1, rest.2)
            | _, _ => ([s.order], none)
      else ([], some s.control)

/-- `Control::balance`, undefined on an empty list.  The deviation is set to 2
before the loop. -/
def balance (control : Control D) : List (Order D) × Option (Control D) :=
  match control.servers.getLast?, control.servers.head? with
  | some maxLoadServer, some minLoadServer =>
      balanceLoop control.servers.length
        { control, standardDev := Arithmetic.ofInt 2, maxLoadServer, minLoadServer }
  | _, _ => ([], none)

end Control
end Pxc
