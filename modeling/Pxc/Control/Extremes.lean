import Mathlib.Data.List.Permutation
import Pxc.General.Arrangements
import Pxc.Control.Balance

namespace Pxc
namespace Control

open General

/-!
# The servers that a balancing works on

`servers` is a list of pointers.  It is sorted by load before a balancing, so
that the first iteration takes a zone from a server with the highest load and
gives it to one with the lowest.  The loop itself calls `servers.sort()`,
which compares the pointers and not the servers: a second iteration works on
the servers with the highest and the lowest address.

To say what depends on the addresses, the same servers are considered at
other places in memory.
-/

section Places

variable {D : Type}

/-- The same server at another place. -/
def Server.moveTo (place : Address → Address) (server : Server D) : Server D :=
  { server with address := place server.address }

/-- The same servers at other places. -/
def reallocate (place : Address → Address) (control : Control D) : Control D :=
  { control with
    servers := control.servers.map (Server.moveTo place)
    zoneServer := fun zone => (control.zoneServer zone).map place }

/-- The same loop variables, with the servers at other places. -/
def Balancing.reallocate (place : Address → Address) (s : Balancing D) : Balancing D where
  control := Control.reallocate place s.control
  standardDev := s.standardDev
  maxLoadServer := s.maxLoadServer.moveTo place
  minLoadServer := s.minLoadServer.moveTo place

/-- Different servers are at different places. -/
def Separates (place : Address → Address) (servers : List (Server D)) : Prop :=
  ∀ first ∈ servers, ∀ second ∈ servers, place first.address = place second.address →
    first.address = second.address

/-- What an order moves from where to where, by the ids of the servers. -/
def Order.move (order : Order D) : Int × Int × Int :=
  (order.sourceServer.id, order.changedZonePosition, order.destinationServer.id)

/-- The list that a balancing starts from: it is in the order of the loads,
and the servers are different objects with different ids. -/
structure SortedByLoad [LT D] (control : Control D) : Prop where
  loads : control.servers.Pairwise fun first second => ¬ second.totalLoad < first.totalLoad
  addresses : (control.servers.map Server.address).Nodup
  ids : (control.servers.map Server.id).Nodup

/-- No server has a higher load than the source of the order, or a lower one
than its destination. -/
def OnExtremes [LT D] (control : Control D) (order : Order D) : Prop :=
  ∀ server ∈ control.servers, ¬ order.sourceServer.totalLoad < server.totalLoad ∧
    ¬ server.totalLoad < order.destinationServer.totalLoad

theorem loopVariables_reallocate (place : Address → Address) (control : Control D)
    (standardDev : D) :
    loopVariables (reallocate place control) standardDev =
      (loopVariables control standardDev).map (Balancing.reallocate place) := by
  cases last : control.servers.getLast? with
  | none => simp only [loopVariables, reallocate, List.getLast?_map, last, Option.map_none]
  | some maxLoadServer =>
      cases first : control.servers.head? with
      | none =>
          simp only [loopVariables, reallocate, List.getLast?_map, List.head?_map, last, first,
            Option.map_some, Option.map_none]
      | some minLoadServer =>
          simp only [loopVariables, reallocate, List.getLast?_map, List.head?_map, last, first,
            Option.map_some, Balancing.reallocate]

theorem reallocate_id (control : Control D) : reallocate id control = control := by
  have servers : control.servers.map (Server.moveTo id) = control.servers := List.map_id _
  simp only [reallocate, servers, Option.map_id_fun, id]

theorem writeZone_eq_none_iff {zoneServer other : Fin NZONES → Option Address} {position : Int}
    {server place : Address} :
    writeZone zoneServer position server = none ↔ writeZone other position place = none := by
  unfold writeZone
  by_cases inside : 0 ≤ position ∧ position.toNat < NZONES
  · rw [dif_pos inside, dif_pos inside]
    constructor
    · intro undefined
      cases undefined
    · intro undefined
      cases undefined
  · rw [dif_neg inside, dif_neg inside]

end Places

variable {D : Type} [Zero D] [Add D] [Arithmetic D]

/-- The deviation does not depend on the places. -/
theorem getStDev_reallocate (place : Address → Address) (control : Control D) :
    (reallocate place control).getStDev = control.getStDev := by
  have average : (reallocate place control).getAverage = control.getAverage := by
    simp only [getAverage, reallocate, List.foldl_map, Server.moveTo]
  simp only [getStDev, average]
  simp only [reallocate, List.foldl_map, Server.moveTo]

omit [Zero D] [Add D] [Arithmetic D] in
/-- For any arrangement of the servers there are places at which the sort puts
them in this order. -/
theorem exists_places {control : Control D} (distinct : (control.servers.map Server.address).Nodup)
    {servers : List (Server D)} (perm : servers.Perm control.servers) :
    ∃ place, Separates place control.servers ∧
      sorted (reallocate place control) = reallocate place { control with servers } := by
  let addresses := servers.map Server.address
  have listed : addresses.Nodup := (perm.map Server.address).nodup_iff.mpr distinct
  refine ⟨fun address => addresses.idxOf address, ?_, ?_⟩
  · intro first member second _ same
    have isListed : first.address ∈ addresses :=
      List.mem_map_of_mem (perm.symm.subset member)
    exact (List.idxOf_inj isListed).mp same
  · have increasing : (servers.map (Server.moveTo fun address => addresses.idxOf address)).Pairwise
        fun first second => first.address < second.address := by
      have positions := List.pairwise_map.mp (pairwise_idxOf_lt listed)
      exact List.pairwise_map.mpr positions
    have inOrder := insertionSort_eq_of_perm (perm.map _) increasing
    simp only [sorted, reallocate, sort, inOrder]

variable [LT D] [DecidableLT D]

/-- There are servers for a second iteration: the first one writes inside of
the zone table, and in some order of the servers the deviation is above 1.0
and the last server does not have exactly one zone. -/
def IteratesSomewhere (control : Control D) : Prop :=
  ∃ s, Enters control s ∧
    writeZone control.zoneServer s.order.changedZonePosition s.minLoadServer.address ≠ none ∧
    ∃ servers, servers.Perm control.servers ∧
      1 < ({ control with servers } : Control D).getStDev ∧
      ∃ last, servers.getLast? = some last ∧ last.distribution.length ≠ 1

/-- Wherever the servers are in memory, all iterations are on the extremes,
and the same zones are moved between the same servers. -/
def FreeOfPlaces (control : Control D) : Prop :=
  ∀ place, Separates place control.servers →
    (∀ order ∈ (balance (reallocate place control)).1,
      OnExtremes (reallocate place control) order) ∧
    (balance (reallocate place control)).1.map Order.move = (balance control).1.map Order.move

section OtherPlaces

omit [Zero D] [Add D] [DecidableLT D]

theorem continues_reallocate {place : Address → Address} {servers : List (Server D)}
    (separates : Separates place servers) {s : Balancing D} (source : s.maxLoadServer ∈ servers)
    (destination : s.minLoadServer ∈ servers) :
    Continues (s.reallocate place) ↔ Continues s := by
  have different : place s.maxLoadServer.address ≠ place s.minLoadServer.address ↔
      s.maxLoadServer.address ≠ s.minLoadServer.address :=
    not_congr ⟨separates _ source _ destination, fun same => congrArg place same⟩
  exact and_congr_right fun _ => and_congr_right fun _ => different

omit [Arithmetic D] [LT D] in
theorem members_of_loopVariables {control : Control D} {standardDev : D} {s : Balancing D}
    (found : loopVariables control standardDev = some s) :
    s.maxLoadServer ∈ control.servers ∧ s.minLoadServer ∈ control.servers := by
  rcases loopVariables_eq_some_iff.mp found with ⟨_, _, last, first⟩
  exact ⟨List.mem_of_getLast? last, List.mem_of_head? first⟩

/-- The first iteration takes place wherever the servers are. -/
theorem enters_reallocate_iff {place : Address → Address} {control : Control D}
    (separates : Separates place control.servers) {moved : Balancing D} :
    Enters (reallocate place control) moved ↔
      ∃ s, Enters control s ∧ moved = s.reallocate place := by
  have opens : opening (reallocate place control) =
      (opening control).map (Balancing.reallocate place) := loopVariables_reallocate place control _
  constructor
  · rintro ⟨opened, continues⟩
    rw [opens] at opened
    rcases Option.map_eq_some_iff.mp opened with ⟨s, found, rfl⟩
    have members := members_of_loopVariables found
    exact ⟨s, ⟨found, (continues_reallocate separates members.1 members.2).mp continues⟩, rfl⟩
  · rintro ⟨s, ⟨found, continues⟩, rfl⟩
    have members := members_of_loopVariables found
    refine ⟨?_, (continues_reallocate separates members.1 members.2).mpr continues⟩
    rw [opens, found]
    rfl

end OtherPlaces

/-- The second order of a balancing is the one of its second iteration. -/
theorem second_order_iff {control : Control D} {order : Order D} :
    (balance control).1[1]? = some order ↔
      ∃ s, Enters control s ∧ ∃ t, Follows control s t ∧ t.order = order := by
  rcases orders_cases control with ⟨never, orders⟩ | ⟨s, enters, last, orders⟩ |
    ⟨s, enters, t, follows, more, orders⟩
  · rw [orders]
    constructor
    · intro found
      cases found
    · rintro ⟨s, enters, _⟩
      exact absurd enters (never s)
  · rw [orders]
    constructor
    · intro found
      cases found
    · rintro ⟨other, entersOther, t, follows, _⟩
      rw [← enters.unique entersOther] at follows
      exact absurd follows (last t)
  · rw [orders, List.replicate_succ]
    constructor
    · intro found
      exact ⟨s, enters, t, follows, Option.some.inj found⟩
    · rintro ⟨_, _, u, followsToo, rfl⟩
      rw [follows.2.unique followsToo.2]
      rfl

/-- A balancing without a second order makes one order, or none. -/
theorem orders_of_no_second {control : Control D} (once : (balance control).1[1]? = none) :
    (∃ s, Enters control s ∧ (balance control).1 = [s.order]) ∨
      (∀ s, ¬ Enters control s) ∧ (balance control).1 = [] := by
  rcases orders_cases control with quiet | ⟨s, enters, _, orders⟩ |
    ⟨s, enters, t, follows, more, orders⟩
  · exact Or.inr quiet
  · exact Or.inl ⟨s, enters, orders⟩
  · rw [orders, List.replicate_succ] at once
    cases once

/-- A second order at some places is one that the servers allow. -/
theorem iterates_of_second_order {place : Address → Address} {control : Control D}
    (separates : Separates place control.servers) {order : Order D}
    (found : (balance (reallocate place control)).1[1]? = some order) :
    IteratesSomewhere control := by
  rcases second_order_iff.mp found with ⟨moved, entersMoved, t, ⟨inside, again⟩, _⟩
  rcases (enters_reallocate_iff separates).mp entersMoved with ⟨s, enters, rfl⟩
  rcases loopVariables_eq_some_iff.mp again.2.1 with ⟨_, deviation, last, _⟩
  rcases exists_perm_of_perm_map (sort_perm (reallocate place control).servers) with
    ⟨servers, perm, arranged⟩
  have listed : sorted (reallocate place control) =
      reallocate place { control with servers } := by
    simp only [sorted, arranged]
    rfl
  rw [listed] at deviation last
  simp only [reallocate, List.getLast?_map] at last
  rcases Option.map_eq_some_iff.mp last with ⟨server, atEnd, same⟩
  refine ⟨s, enters, mt writeZone_eq_none_iff.mp inside, servers, perm, ?_, server, atEnd, ?_⟩
  · rw [← getStDev_reallocate place, ← deviation]
    exact again.2.2.1
  · have several := again.2.2.2.1
    rw [← same] at several
    exact several

omit [Zero D] [Add D] [DecidableLT D] in
theorem Enters.several {control : Control D} {s : Balancing D} (enters : Enters control s) :
    1 < control.servers.length := by
  rcases loopVariables_eq_some_iff.mp enters.1 with ⟨_, _, last, first⟩
  have different : s.maxLoadServer ≠ s.minLoadServer :=
    fun same => enters.2.2.2 (congrArg Server.address same)
  exact one_lt_length_of_ends last first different

section Arranged

variable {place : Address → Address} {control : Control D} {servers : List (Server D)}
  {last : Server D}

/-- The second order takes a zone from the server that the sort puts last. -/
theorem source_of_second_order
    (listed : sorted (reallocate place control) = reallocate place { control with servers })
    (atEnd : servers.getLast? = some last) {order : Order D}
    (found : (balance (reallocate place control)).1[1]? = some order) :
    order.sourceServer.id = last.id := by
  rcases second_order_iff.mp found with ⟨_, _, t, ⟨_, again⟩, rfl⟩
  have atEndMoved := (loopVariables_eq_some_iff.mp again.2.1).2.2.1
  rw [listed] at atEndMoved
  simp only [reallocate, List.getLast?_map, atEnd, Option.map_some] at atEndMoved
  have moved : last.moveTo place = t.maxLoadServer := Option.some.inj atEndMoved
  exact (congrArg Server.id moved).symm

/-- Servers that allow a second iteration have one wherever the sort puts
them in a suitable order. -/
theorem exists_second_order (separates : Separates place control.servers)
    (distinct : (control.servers.map Server.address).Nodup) {s : Balancing D}
    (enters : Enters control s)
    (inside : writeZone control.zoneServer s.order.changedZonePosition
      s.minLoadServer.address ≠ none)
    (perm : servers.Perm control.servers)
    (listed : sorted (reallocate place control) = reallocate place { control with servers })
    (deviates : 1 < ({ control with servers } : Control D).getStDev)
    (atEnd : servers.getLast? = some last) (zones : last.distribution.length ≠ 1) :
    ∃ order, (balance (reallocate place control)).1[1]? = some order := by
  have entersMoved := (enters_reallocate_iff separates).mpr ⟨s, enters, rfl⟩
  have nonempty : servers ≠ [] := List.ne_nil_of_mem (List.mem_of_getLast? atEnd)
  have atFront := List.head?_eq_some_head nonempty
  let t : Balancing D :=
    { control := { control with servers }
      standardDev := ({ control with servers } : Control D).getStDev
      maxLoadServer := last
      minLoadServer := servers.head nonempty }
  have found : loopVariables { control with servers } t.standardDev = some t :=
    loopVariables_eq_some_iff.mpr ⟨rfl, rfl, atEnd, atFront⟩
  have apart : t.maxLoadServer.address ≠ t.minLoadServer.address := by
    have separated : (servers.map Server.address).Nodup :=
      (perm.map Server.address).nodup_iff.mpr distinct
    have several : 1 < servers.length := perm.length_eq ▸ enters.several
    exact ends_ne_of_nodup_map separated several atEnd atFront
  have members := members_of_loopVariables found
  have continues : Continues (t.reallocate place) :=
    (continues_reallocate separates (perm.subset members.1) (perm.subset members.2)).mpr
      ⟨deviates, zones, apart⟩
  have again : EntersAgain (reallocate place control) (t.reallocate place) := by
    refine ⟨?_, ?_, continues⟩
    · simp only [reallocate, List.length_map]
      exact enters.several
    · rw [settled, listed, getStDev_reallocate, loopVariables_reallocate]
      exact congrArg (Option.map (Balancing.reallocate place)) found
  have follows : Follows (reallocate place control) (s.reallocate place) (t.reallocate place) :=
    ⟨mt writeZone_eq_none_iff.mp inside, again⟩
  exact ⟨_, second_order_iff.mpr ⟨_, entersMoved, _, follows, rfl⟩⟩

end Arranged

omit [Zero D] [Add D] in
/-- The first iteration works on the extremes, since the list is in the order
of the loads. -/
theorem onExtremes_of_enters (irreflexive : ∀ load : D, ¬ load < load) {control : Control D}
    (loads : control.servers.Pairwise fun first second => ¬ second.totalLoad < first.totalLoad)
    {s : Balancing D} (enters : Enters control s) : OnExtremes control s.order := by
  rcases loopVariables_eq_some_iff.mp enters.1 with ⟨_, _, last, first⟩
  intro server member
  have reflexive : ∀ server : Server D, ¬ server.totalLoad < server.totalLoad :=
    fun server => irreflexive server.totalLoad
  exact ⟨rel_of_getLast loads reflexive last server member,
    rel_of_head loads reflexive first server member⟩

/-- Servers that allow a second iteration are at places where it takes a zone
from one server, and at places where it takes one from another. -/
theorem not_free_of_iterates {control : Control D} (start : SortedByLoad control)
    (iterates : IteratesSomewhere control) : ¬ FreeOfPlaces control := by
  rcases iterates with ⟨s, enters, inside, servers, perm, deviates, last, atEnd, zones⟩
  intro free
  have nonempty : servers ≠ [] := List.ne_nil_of_mem (List.mem_of_getLast? atEnd)
  have atFront := List.head?_eq_some_head nonempty
  have turned : servers.reverse.getLast? = some (servers.head nonempty) := by
    rw [List.getLast?_reverse]
    exact atFront
  rcases exists_places start.addresses perm with ⟨place, separates, listed⟩
  rcases exists_places start.addresses (servers.reverse_perm.trans perm) with
    ⟨turnedPlace, turnedSeparates, turnedListed⟩
  rcases exists_second_order separates start.addresses enters inside perm listed deviates atEnd
    zones with ⟨order, found⟩
  have source := source_of_second_order listed atEnd found
  have moves : (balance (reallocate turnedPlace control)).1.map Order.move =
      (balance (reallocate place control)).1.map Order.move :=
    (free turnedPlace turnedSeparates).2.trans (free place separates).2.symm
  have sameSecond : (balance (reallocate turnedPlace control)).1[1]?.map Order.move =
      some order.move := by
    rw [← List.getElem?_map, moves, List.getElem?_map, found]
    rfl
  rcases Option.map_eq_some_iff.mp sameSecond with ⟨turnedOrder, turnedFound, same⟩
  have turnedSource := source_of_second_order turnedListed turned turnedFound
  have ids : (servers.map Server.id).Nodup := (perm.map Server.id).nodup_iff.mpr start.ids
  have sameId : last.id = (servers.head nonempty).id := by
    rw [← source, ← turnedSource]
    exact (congrArg Prod.fst same).symm
  have several : 1 < servers.length := perm.length_eq ▸ enters.several
  exact ends_ne_of_nodup_map ids several atEnd atFront sameId

/-- All iterations are on the extremes wherever the servers are, with the same
moves, if and only if the servers do not allow a second iteration. -/
theorem extremes_iff (irreflexive : ∀ load : D, ¬ load < load) {control : Control D}
    (start : SortedByLoad control) : FreeOfPlaces control ↔ ¬ IteratesSomewhere control := by
  constructor
  · intro free iterates
    exact not_free_of_iterates start iterates free
  · intro once
    have oneOrder (place : Address → Address) (separates : Separates place control.servers) :
        (balance (reallocate place control)).1[1]? = none := by
      cases found : (balance (reallocate place control)).1[1]? with
      | none => rfl
      | some order => exact absurd (iterates_of_second_order separates found) once
    have oneOrderHere : (balance control).1[1]? = none := by
      rw [← reallocate_id control]
      exact oneOrder id fun _ _ _ _ same => same
    intro place separates
    rcases orders_of_no_second (oneOrder place separates) with ⟨moved, entersMoved, orders⟩ |
      ⟨idle, orders⟩
    · rcases (enters_reallocate_iff separates).mp entersMoved with ⟨s, enters, rfl⟩
      rcases orders_of_no_second oneOrderHere with ⟨other, entersOther, ordersHere⟩ | ⟨idle, _⟩
      · rw [orders, ordersHere, enters.unique entersOther]
        refine ⟨fun order member => ?_, rfl⟩
        rw [List.mem_singleton.mp member, ← enters.unique entersOther]
        apply onExtremes_of_enters irreflexive _ entersMoved
        exact List.pairwise_map.mpr start.loads
      · exact absurd enters (idle s)
    · rw [orders]
      refine ⟨fun order member => absurd member List.not_mem_nil, ?_⟩
      rcases orders_of_no_second oneOrderHere with ⟨s, enters, _⟩ | ⟨_, ordersHere⟩
      · exact absurd ((enters_reallocate_iff separates).mpr ⟨s, enters, rfl⟩) (idle _)
      · rw [ordersHere]

/-- An idle server at the higher address, and a server with two zones. -/
def idleAbove (first second : ℚ) : Control ℚ where
  servers :=
    [{ address := 2, id := 0, distribution := [⟨0, 0⟩, ⟨1, 0⟩], totalLoad := 0, online := true },
      { address := 1, id := 1, distribution := [⟨2, first⟩, ⟨3, second⟩],
        totalLoad := first + second, online := true }]
  numberServers := 2
  zoneServer zone := some (if zone.val < 2 then 2 else 1)

theorem idleAbove_sorted {first second : ℚ} (load : 0 ≤ first + second) :
    SortedByLoad (idleAbove first second) where
  loads := List.pairwise_pair.mpr (not_lt_of_ge load)
  addresses := (by decide : ([2, 1] : List Address).Nodup)
  ids := (by decide : ([0, 1] : List Int).Nodup)

/-- Two servers whose loads differ by 1/5 do not allow a second iteration. -/
theorem idleAbove_free : FreeOfPlaces (idleAbove (1 / 10) (1 / 10)) := by
  apply (extremes_iff lt_irrefl (idleAbove_sorted (by decide +kernel))).mpr
  rintro ⟨_, _, _, servers, perm, deviates, _⟩
  have close : ∀ servers ∈ (idleAbove (1 / 10) (1 / 10)).servers.permutations',
      ¬ 1 < ({ idleAbove (1 / 10) (1 / 10) with servers } : Control ℚ).getStDev := by
    decide +kernel
  exact close servers (List.mem_permutations'.mpr perm) deviates

/-- The second iteration takes a zone from the idle server. -/
theorem balance_leaves_extremes :
    SortedByLoad (idleAbove (9 / 10) 1) ∧ ¬ FreeOfPlaces (idleAbove (9 / 10) 1) := by
  refine ⟨idleAbove_sorted (by decide +kernel), fun free => ?_⟩
  have fromIdle : ∃ order ∈ (balance (reallocate id (idleAbove (9 / 10) 1))).1,
      ∃ server ∈ (reallocate id (idleAbove (9 / 10) 1)).servers,
        order.sourceServer.totalLoad < server.totalLoad := by
    decide +kernel
  rcases fromIdle with ⟨order, made, server, member, higher⟩
  have extremes := (free id fun _ _ _ _ same => same).1 order made
  exact (extremes server member).1 higher

end Control
end Pxc
