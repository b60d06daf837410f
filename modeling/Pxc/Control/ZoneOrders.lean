import Mathlib.Order.Defs.LinearOrder
import Pxc.Control.Balance

namespace Pxc
namespace Control

/-!
# The zones that a balancing orders to move

A balancing should move the least loaded zone of its source.  The selection
loop does find the first position of the least load, if that load is below
1.0, and -1 otherwise.  The position is then used as if it were the zone's
id, in the order and as an index of the zone table.

The theorem at the end says for which servers this comes out right.
-/

variable {D : Type} [Zero D] [Add D] [Arithmetic D] [LinearOrder D]

/-- The entry at the position has the least load, which is below the bound,
and no entry before it has the same load. -/
def LeastBelow (bound : D) (distribution : List (ZoneLoad D)) (position : Nat) : Prop :=
  ∃ entry, distribution[position]? = some entry ∧ entry.load < bound ∧
    (∀ other ∈ distribution, entry.load ≤ other.load) ∧
    ∀ earlier < position, ∀ other, distribution[earlier]? = some other → entry.load < other.load

section Selection

omit [Zero D] [Add D] [Arithmetic D]

theorem LeastBelow.le {bound : D} {distribution : List (ZoneLoad D)} {first second : Nat}
    (atFirst : LeastBelow bound distribution first)
    (atSecond : LeastBelow bound distribution second) : first ≤ second := by
  rcases atFirst with ⟨entry, found, _, _, before⟩
  rcases atSecond with ⟨other, foundOther, _, least, _⟩
  by_contra later
  have smaller := before second (Nat.lt_of_not_le later) other foundOther
  exact absurd (least entry (List.mem_of_getElem? found)) (not_le_of_gt smaller)

theorem LeastBelow.unique {bound : D} {distribution : List (ZoneLoad D)} {first second : Nat}
    (atFirst : LeastBelow bound distribution first)
    (atSecond : LeastBelow bound distribution second) : first = second :=
  Nat.le_antisymm (atFirst.le atSecond) (atSecond.le atFirst)

/-- An entry in front that has no less than the bound of the rest. -/
theorem LeastBelow.cons {bound lower : D} {zone : ZoneLoad D} {rest : List (ZoneLoad D)}
    {position : Nat} (found : LeastBelow lower rest position) (below : lower ≤ bound)
    (above : lower ≤ zone.load) : LeastBelow bound (zone :: rest) (position + 1) := by
  rcases found with ⟨entry, atPosition, smaller, least, before⟩
  have smallest : entry.load < zone.load := smaller.trans_le above
  refine ⟨entry, atPosition, smaller.trans_le below, ?_, ?_⟩
  · intro other member
    rcases List.mem_cons.mp member with rfl | later
    · exact le_of_lt smallest
    · exact least other later
  · intro earlier earlierThan other foundOther
    cases earlier with
    | zero => exact Option.some.inj foundOther ▸ smallest
    | succ earlier => exact before earlier (Nat.lt_of_succ_lt_succ earlierThan) other foundOther

/-- The selection loop either finds nothing below its bound, or stops with
the first position of the least load. -/
theorem selectFrom_cases (i : Nat) (bound : D) (position : Int)
    (distribution : List (ZoneLoad D)) :
    (selectFrom i bound position distribution = position ∧
      ∀ entry ∈ distribution, bound ≤ entry.load) ∨
    ∃ least, LeastBelow bound distribution least ∧
      selectFrom i bound position distribution = ((i + least : Nat) : Int) := by
  induction distribution generalizing i bound position with
  | nil => exact Or.inl ⟨rfl, fun entry member => absurd member List.not_mem_nil⟩
  | cons zone rest inductionHypothesis =>
      by_cases below : zone.load < bound
      · rw [selectFrom, if_pos below]
        rcases inductionHypothesis (i + 1) zone.load i with ⟨same, above⟩ | ⟨least, found, same⟩
        · refine Or.inr ⟨0, ⟨zone, rfl, below, ?_, ?_⟩, same⟩
          · intro other member
            rcases List.mem_cons.mp member with rfl | later
            · exact le_refl _
            · exact above other later
          · intro earlier before
            exact absurd before (Nat.not_lt_zero earlier)
        · refine Or.inr ⟨least + 1, found.cons (le_of_lt below) (le_refl _), ?_⟩
          rw [same, Nat.add_right_comm, Nat.add_assoc]
      · rw [selectFrom, if_neg below]
        have above : bound ≤ zone.load := le_of_not_gt below
        rcases inductionHypothesis (i + 1) bound position with ⟨same, others⟩ | ⟨least, found, same⟩
        · refine Or.inl ⟨same, fun entry member => ?_⟩
          rcases List.mem_cons.mp member with rfl | later
          · exact above
          · exact others entry later
        · refine Or.inr ⟨least + 1, found.cons (le_refl _) above, ?_⟩
          rw [same, Nat.add_right_comm, Nat.add_assoc]

end Selection

section Position

omit [Zero D] [Add D]

/-- The selected position is a position exactly when it is the first one of
the least load. -/
theorem posMinLoadZone_eq_natCast_iff {distribution : List (ZoneLoad D)} {position : Nat} :
    posMinLoadZone distribution = position ↔ LeastBelow 1 distribution position := by
  unfold posMinLoadZone
  rcases selectFrom_cases 0 (1 : D) (-1) distribution with ⟨same, above⟩ | ⟨least, found, same⟩
  · rw [same]
    refine ⟨fun negative => by omega, ?_⟩
    rintro ⟨entry, atPosition, below, _⟩
    exact absurd (above entry (List.mem_of_getElem? atPosition)) (not_le_of_gt below)
  · rw [same, Nat.zero_add, Int.natCast_inj]
    exact ⟨fun equal => equal ▸ found, fun other => found.unique other⟩

theorem Continues.two_le_length {s : Balancing D} (continues : Continues s) {position : Nat}
    (selected : posMinLoadZone s.maxLoadServer.distribution = position) :
    2 ≤ s.maxLoadServer.distribution.length := by
  rcases posMinLoadZone_eq_natCast_iff.mp selected with ⟨entry, found, _⟩
  have inside := (List.getElem?_eq_some_iff.mp found).1
  have several := continues.2.1
  omega

end Position

/-- The order moves a zone of its source with the least load there, and the
zone is an index of the zone table. -/
def RealZone (order : Order D) : Prop :=
  (∃ entry ∈ order.sourceServer.distribution, entry.zone = order.changedZonePosition ∧
    ∀ other ∈ order.sourceServer.distribution, entry.load ≤ other.load) ∧
  0 ≤ order.changedZonePosition ∧ order.changedZonePosition < (NZONES : Int)

/-- The first position of the least load, which is below 1.0, is the id of a
zone with the least load, and an index of the zone table. -/
def NumberedByPosition (distribution : List (ZoneLoad D)) : Prop :=
  ∃ position, LeastBelow 1 distribution position ∧ position < NZONES ∧
    ∃ entry ∈ distribution, entry.zone = (position : Int) ∧
      ∀ other ∈ distribution, entry.load ≤ other.load

section OneOrder

omit [Zero D] [Add D]

theorem realZone_order_iff (s : Balancing D) :
    RealZone s.order ↔ NumberedByPosition s.maxLoadServer.distribution := by
  constructor
  · rintro ⟨⟨entry, member, zone, least⟩, nonnegative, inside⟩
    rcases Int.eq_ofNat_of_zero_le nonnegative with ⟨position, same⟩
    refine ⟨position, posMinLoadZone_eq_natCast_iff.mp same, ?_, entry, member, ?_, least⟩
    · rw [same] at inside
      exact Int.ofNat_lt.mp inside
    · rw [zone, same]
  · rintro ⟨position, selected, inside, entry, member, zone, least⟩
    have same : s.order.changedZonePosition = (position : Int) :=
      posMinLoadZone_eq_natCast_iff.mpr selected
    refine ⟨⟨entry, member, zone.trans same.symm, least⟩, ?_, ?_⟩
    · rw [same]
      exact Int.natCast_nonneg position
    · rw [same]
      exact Int.ofNat_lt.mpr inside

omit [Arithmetic D] in
theorem RealZone.inside {order : Order D} (real : RealZone order)
    (zoneServer : Fin NZONES → Option Address) (server : Address) :
    writeZone zoneServer order.changedZonePosition server ≠ none := by
  have inside := real.2
  rw [writeZone, dif_pos ⟨inside.1, by omega⟩]
  exact Option.some_ne_none _

end OneOrder

/-- All orders of a balancing are about real zones of their source if and
only if the servers it takes zones from have them numbered by position: the
last server of the list when the loop is entered, and the server with the
highest address when it is entered again. -/
theorem orders_real_iff (control : Control D) :
    (∀ order ∈ (balance control).1, RealZone order) ↔
      ∀ s, Enters control s → NumberedByPosition s.maxLoadServer.distribution ∧
        ∀ t, EntersAgain control t → NumberedByPosition t.maxLoadServer.distribution := by
  constructor
  · intro real s enters
    have first := real s.order (mem_orders_iff.mpr ⟨s, enters, Or.inl rfl⟩)
    refine ⟨(realZone_order_iff s).mp first, fun t again => (realZone_order_iff t).mp ?_⟩
    have follows : Follows control s t := ⟨first.inside _ _, again⟩
    exact real t.order (mem_orders_iff.mpr ⟨s, enters, Or.inr ⟨t, follows, rfl⟩⟩)
  · intro numbered order member
    rcases mem_orders_iff.mp member with ⟨s, enters, rfl | ⟨t, follows, rfl⟩⟩
    · exact (realZone_order_iff s).mpr (numbered s enters).1
    · exact (realZone_order_iff t).mpr ((numbered s enters).2 t follows.2)

/-- Two servers with two zones each, all of the load 1/2. -/
def twoServers : Control ℚ where
  servers :=
    [{ address := 1, id := 0, distribution := [⟨0, 1 / 2⟩, ⟨1, 1 / 2⟩], totalLoad := 1,
        online := true },
      { address := 2, id := 1, distribution := [⟨2, 1 / 2⟩, ⟨3, 1 / 2⟩], totalLoad := 1,
        online := true }]
  numberServers := 2
  zoneServer zone := some (if zone.val < 2 then 1 else 2)

/-- The server of the zones 2 and 3 is ordered to give up zone 0. -/
theorem orders_zone_of_other_server :
    (∀ server ∈ twoServers.servers, ∀ entry ∈ server.distribution,
      0 ≤ entry.load ∧ entry.load ≤ 1) ∧
      ¬ ∀ order ∈ (balance twoServers).1, RealZone order := by
  refine ⟨by decide +kernel, fun real => ?_⟩
  have orders : (balance twoServers).1.map (fun order =>
      (order.sourceServer.distribution.map ZoneLoad.zone, order.changedZonePosition)) =
      [([2, 3], 0)] := by decide +kernel
  rcases List.map_eq_singleton_iff.mp orders with ⟨order, only, fields⟩
  rcases Prod.mk.inj fields with ⟨zones, position⟩
  rcases (real order (only ▸ List.mem_singleton_self order)).1 with ⟨entry, member, zone, _⟩
  have listed : entry.zone ∈ order.sourceServer.distribution.map ZoneLoad.zone :=
    List.mem_map_of_mem member
  rw [zones, zone, position] at listed
  exact absurd listed (by decide)

end Control
end Pxc
