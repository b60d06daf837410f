import Pxc.General.Shares
import Pxc.Control.LoadAccounting
import Pxc.Control.ZoneOrders
import Pxc.Control.ZoneOwnership

namespace Pxc
namespace Control

open General

/-!
# Whether a balancing makes the balance worse

A server's load is the load of the zones that the zone table gives it.  A
balancing writes one entry of the table, and another one when the loop goes
on.  The deviation is set to 2 before the loop, so that the first entry is
written however close the loads are, and the zone in it is the position of a
zone in a list.  When both entries move a zone, the two servers that give one
have two zones each, which is all there are.

Loads are exact here: the sums and differences are those of an ordered field.
What `getStDev` computes only decides whether the loop goes on, so that its
root can be any function.
-/

section Loads

variable {D : Type} [Field D] [LinearOrder D]

/-- The zones are divided among the servers, the table agrees, and the servers
are in the order of their totals, which are the sums of their loads. -/
structure Measured (control : Control D) (zoneLoad : Fin NZONES → D) : Prop where
  sorted : control.servers.Pairwise fun first second => first.totalLoad ≤ second.totalLoad
  addresses : (control.servers.map Server.address).Nodup
  zones : ∀ server ∈ control.servers, ∃ zones : List (Fin NZONES), zones.Nodup ∧
    server.distribution = zones.map fun zone => ⟨(zone : Nat), zoneLoad zone⟩
  owned : Owned control
  unit : ∀ zone, 0 ≤ zoneLoad zone ∧ zoneLoad zone ≤ 1
  total : ∀ server ∈ control.servers,
    server.totalLoad = LoadCollection.sumLoads server.distribution

/-- The load of the zones that the table gives to a server. -/
def loadOf (zoneServer : Fin NZONES → Option Address) (zoneLoad : Fin NZONES → D)
    (server : Server D) : D :=
  share zoneServer zoneLoad (some server.address)

/-- The difference between the largest and the smallest load of a server. -/
def loadSpread (control : Control D) (zoneLoad : Fin NZONES → D) : D :=
  spread (control.servers.map (loadOf control.zoneServer zoneLoad))

/-- An address of one of the servers, as the zone table has it. -/
def Listed (control : Control D) (name : Option Address) : Prop :=
  ∃ server ∈ control.servers, some server.address = name

/-- The zone is with `minLoadServer` already, or that server can take it and
its own server can do without it. -/
def FitsOnce (control : Control D) (zoneLoad : Fin NZONES → D) (zone : Fin NZONES)
    (maxLoadServer minLoadServer : Server D) : Prop :=
  FitsMove (share control.zoneServer zoneLoad) (some minLoadServer.address)
    (some maxLoadServer.address) (zoneLoad zone) (control.zoneServer zone)
    (some minLoadServer.address)

/-- The same for a zone that goes to `minLoadServer` and a later one that goes
to the server with the lowest address.  Only one of them moves when they are
the same, or when one is with its new server already.  Otherwise the two
servers that give a zone have everything. -/
def FitsTwice (control : Control D) (zoneLoad : Fin NZONES → D) (zone later : Fin NZONES)
    (maxLoadServer minLoadServer lowest : Server D) : Prop :=
  if zone = later ∨ control.zoneServer zone = some minLoadServer.address then
    FitsMove (share control.zoneServer zoneLoad) (some minLoadServer.address)
      (some maxLoadServer.address) (zoneLoad later) (control.zoneServer later)
      (some lowest.address)
  else if control.zoneServer later = some lowest.address then
    FitsOnce control zoneLoad zone maxLoadServer minLoadServer
  else
    FitsMoves (Listed control) (share control.zoneServer zoneLoad) (some minLoadServer.address)
      (some maxLoadServer.address) (zoneLoad zone) (zoneLoad later) (control.zoneServer zone)
      (control.zoneServer later) (some lowest.address)

omit [LinearOrder D] in
theorem sumLoads_map (zoneLoad : Fin NZONES → D) (zones : List (Fin NZONES)) :
    LoadCollection.sumLoads
        (zones.map fun zone : Fin NZONES => (⟨(zone : Nat), zoneLoad zone⟩ : ZoneLoad D)) =
      (zones.map zoneLoad).sum := by
  induction zones using List.reverseRecOn with
  | nil => rfl
  | append_singleton zones zone inductionHypothesis =>
      rw [List.map_append, List.map_append, List.map_singleton, List.map_singleton,
        LoadCollection.sumLoads_concat, inductionHypothesis, List.sum_append, List.sum_singleton]

namespace Measured

variable {control : Control D} {zoneLoad : Fin NZONES → D}

theorem eq_of_address (measured : Measured control zoneLoad) {first second : Server D}
    (firstIn : first ∈ control.servers) (secondIn : second ∈ control.servers)
    (same : first.address = second.address) : first = second :=
  List.inj_on_of_nodup_map measured.addresses firstIn secondIn same

theorem holds_iff (measured : Measured control zoneLoad) {server : Server D}
    (member : server ∈ control.servers) (zone : Fin NZONES) :
    server.Holds (zone : Nat) ↔ control.zoneServer zone = some server.address := by
  rcases measured.owned zone with ⟨owner, ownerIn, holds, only, entry⟩
  constructor
  · intro holdsToo
    rw [only server member holdsToo]
    exact entry
  · intro entryToo
    have same : owner.address = server.address := Option.mem_unique entry entryToo
    rw [← measured.eq_of_address ownerIn member same]
    exact holds

/-- The total of a server is the load of its zones. -/
theorem loadOf_eq (measured : Measured control zoneLoad) {server : Server D}
    (member : server ∈ control.servers) :
    loadOf control.zoneServer zoneLoad server = server.totalLoad := by
  rcases measured.zones server member with ⟨zones, distinct, distribution⟩
  rw [measured.total server member, distribution, sumLoads_map]
  refine share_eq_sum distinct (fun zone => ?_) zoneLoad
  rw [← measured.holds_iff member, Server.Holds, distribution]
  simp only [List.mem_map]
  constructor
  · intro listed
    exact ⟨_, ⟨zone, listed, rfl⟩, rfl⟩
  · rintro ⟨_, ⟨other, listed, rfl⟩, same⟩
    have equal : other = zone := Fin.ext (Int.ofNat.inj same)
    exact equal ▸ listed

theorem servers_ne_nil (measured : Measured control zoneLoad) : control.servers ≠ [] :=
  measured.owned.servers_ne_nil

/-- The first and the last server of the list have the extreme totals. -/
theorem bounds (measured : Measured control zoneLoad) {last first : Server D}
    (isLast : control.servers.getLast? = some last)
    (isFirst : control.servers.head? = some first) :
    ∀ server ∈ control.servers,
      first.totalLoad ≤ server.totalLoad ∧ server.totalLoad ≤ last.totalLoad := by
  intro server member
  constructor
  · rcases List.head?_eq_some_iff.mp isFirst with ⟨rest, split⟩
    have sorted := measured.sorted
    rw [split] at member sorted
    rcases List.mem_cons.mp member with rfl | later
    · exact le_refl _
    · exact (List.pairwise_cons.mp sorted).1 server later
  · rcases List.getLast?_eq_some_iff.mp isLast with ⟨front, split⟩
    have sorted := measured.sorted
    rw [split] at member sorted
    rcases List.mem_append.mp member with earlier | only
    · exact (List.pairwise_append.mp sorted).2.2 server earlier last (List.mem_singleton_self last)
    · rw [List.mem_singleton.mp only]

theorem loadSpread_eq (measured : Measured control zoneLoad) {last first : Server D}
    (isLast : control.servers.getLast? = some last)
    (isFirst : control.servers.head? = some first) :
    loadSpread control zoneLoad = last.totalLoad - first.totalLoad := by
  have lastIn := List.mem_of_getLast? isLast
  have firstIn := List.mem_of_head? isFirst
  rw [loadSpread, ← measured.loadOf_eq lastIn, ← measured.loadOf_eq firstIn]
  apply spread_eq (List.mem_map_of_mem lastIn) (List.mem_map_of_mem firstIn)
  intro load listed
  rcases List.mem_map.mp listed with ⟨server, member, rfl⟩
  rw [measured.loadOf_eq lastIn, measured.loadOf_eq firstIn, measured.loadOf_eq member]
  exact measured.bounds isLast isFirst server member

theorem extremes (measured : Measured control zoneLoad) {last first : Server D}
    (isLast : control.servers.getLast? = some last)
    (isFirst : control.servers.head? = some first) :
    Extremes (Listed control) (share control.zoneServer zoneLoad) (some first.address)
      (some last.address) := by
  have lastIn := List.mem_of_getLast? isLast
  have firstIn := List.mem_of_head? isFirst
  refine ⟨⟨first, firstIn, rfl⟩, ⟨last, lastIn, rfl⟩, ?_⟩
  rintro _ ⟨server, member, rfl⟩
  have bounds := measured.bounds isLast isFirst server member
  rw [← measured.loadOf_eq member, ← measured.loadOf_eq firstIn,
    ← measured.loadOf_eq lastIn] at bounds
  exact bounds

/-- The spread after a change of the table. -/
theorem loadSpread_le_iff [IsStrictOrderedRing D] (measured : Measured control zoneLoad)
    {last first : Server D} (isLast : control.servers.getLast? = some last)
    (isFirst : control.servers.head? = some first) {next : Control D}
    (servers : next.servers.Perm control.servers) :
    loadSpread next zoneLoad ≤ loadSpread control zoneLoad ↔
      NoFurther (Listed control) (share next.zoneServer zoneLoad)
        (share control.zoneServer zoneLoad (some last.address) -
          share control.zoneServer zoneLoad (some first.address)) := by
  have lastIn := List.mem_of_getLast? isLast
  have firstIn := List.mem_of_head? isFirst
  have somebody : next.servers.map (loadOf next.zoneServer zoneLoad) ≠ [] := by
    intro nobody
    rw [List.map_eq_nil_iff] at nobody
    rw [nobody] at servers
    exact measured.servers_ne_nil servers.nil_eq.symm
  rw [measured.loadSpread_eq isLast isFirst, ← measured.loadOf_eq lastIn,
    ← measured.loadOf_eq firstIn, loadSpread, spread_le_iff somebody]
  simp only [List.forall_mem_map, servers.mem_iff]
  constructor
  · rintro apart _ ⟨one, oneIn, rfl⟩ _ ⟨two, twoIn, rfl⟩
    exact apart one oneIn two twoIn
  · intro apart one oneIn two twoIn
    exact apart _ ⟨one, oneIn, rfl⟩ _ ⟨two, twoIn, rfl⟩

theorem listed_entry (measured : Measured control zoneLoad) (zone : Fin NZONES) :
    Listed control (control.zoneServer zone) := by
  rcases measured.owned zone with ⟨owner, ownerIn, _, _, entry⟩
  exact ⟨owner, ownerIn, entry.symm⟩

/-- The table gives a server as many zones as are in its distribution. -/
theorem card_zones (measured : Measured control zoneLoad) {server : Server D}
    (member : server ∈ control.servers) :
    (Finset.univ.filter fun zone => control.zoneServer zone = some server.address).card =
      server.distribution.length := by
  rcases measured.zones server member with ⟨zones, distinct, distribution⟩
  have same : (Finset.univ.filter fun zone => control.zoneServer zone = some server.address) =
      zones.toFinset := by
    ext zone
    rw [Finset.mem_filter, List.mem_toFinset, ← measured.holds_iff member, Server.Holds,
      distribution, and_iff_right (Finset.mem_univ zone)]
    simp only [List.mem_map]
    constructor
    · rintro ⟨_, ⟨other, listed, rfl⟩, same⟩
      have equal : other = zone := Fin.ext (Int.ofNat.inj same)
      exact equal ▸ listed
    · intro listed
      exact ⟨_, ⟨zone, listed, rfl⟩, rfl⟩
  rw [same, List.toFinset_card_of_nodup distinct, distribution, List.length_map]

variable [IsStrictOrderedRing D]

/-- One write that gives a zone to a server. -/
theorem once_iff (measured : Measured control zoneLoad) {last first : Server D}
    (isLast : control.servers.getLast? = some last)
    (isFirst : control.servers.head? = some first) {next : Control D}
    (servers : next.servers.Perm control.servers) {zone : Fin NZONES} {server : Server D}
    (member : server ∈ control.servers)
    (table : next.zoneServer = Function.update control.zoneServer zone (some server.address)) :
    loadSpread next zoneLoad ≤ loadSpread control zoneLoad ↔
      FitsMove (share control.zoneServer zoneLoad) (some first.address) (some last.address)
        (zoneLoad zone) (control.zoneServer zone) (some server.address) := by
  rw [measured.loadSpread_le_iff isLast isFirst servers]
  refine gain_iff (measured.extremes isLast isFirst) (measured.unit zone).1
    (measured.listed_entry zone) ⟨server, member, rfl⟩ fun name => ?_
  rw [table, share_update]

/-- Two writes that both move a zone, from two servers that have several. -/
theorem twoMoves (measured : Measured control zoneLoad) {last first high low : Server D}
    (isLast : control.servers.getLast? = some last)
    (isFirst : control.servers.head? = some first) (highIn : high ∈ control.servers)
    (lowIn : low ∈ control.servers) (several : 2 ≤ last.distribution.length)
    (severalToo : 2 ≤ high.distribution.length) (other : high.address ≠ last.address)
    (notFirst : last.address ≠ first.address) (notLow : high.address ≠ low.address)
    {zone later : Fin NZONES} (distinct : zone ≠ later)
    (moves : control.zoneServer zone ≠ some first.address)
    (movesToo : control.zoneServer later ≠ some low.address) :
    TwoMoves (Listed control) (share control.zoneServer zoneLoad)
      (share (Function.update (Function.update control.zoneServer zone (some first.address)) later
        (some low.address)) zoneLoad)
      (some first.address) (some last.address) (some high.address) (zoneLoad zone)
      (zoneLoad later) (control.zoneServer zone) (control.zoneServer later)
      (some low.address) := by
  have lastIn := List.mem_of_getLast? isLast
  have nonnegative := fun zone => (measured.unit zone).1
  have different : some last.address ≠ some high.address :=
    fun same => other (Option.some.inj same).symm
  rw [← measured.card_zones lastIn] at several
  rw [← measured.card_zones highIn] at severalToo
  rcases halves_of_four (Fintype.card_fin NZONES) different several severalToo with
    ⟨everything, half, halfToo⟩
  exact {
    extremes := measured.extremes isLast isFirst
    distinct := fun same => notFirst (Option.some.inj same).symm
    other_in := ⟨high, highIn, rfl⟩
    other_ne := Ne.symm different
    other_nonneg := share_nonneg nonnegative control.zoneServer _
    nothing := by
      intro name _ notHighest notOther
      refine share_eq_zero (fun thing same => ?_) zoneLoad
      rcases everything thing with atLast | atHigh
      · exact notHighest (same.symm.trans atLast)
      · exact notOther (same.symm.trans atHigh)
    owner_is := everything zone
    giver_is := everything later
    first_between := ⟨nonnegative zone, le_share nonnegative rfl⟩
    second_between := ⟨nonnegative later, le_share nonnegative rfl⟩
    everything := by
      intro same
      refine (share_pair distinct rfl same.symm ?_ zoneLoad).symm
      rcases everything zone with atLast | atHigh
      · rw [atLast]
        exact half
      · rw [atHigh]
        exact halfToo
    owner_ne := moves
    giver_ne := movesToo
    destination_in := ⟨low, lowIn, rfl⟩
    destination_ne := fun same => notLow (Option.some.inj same).symm
    moved := by
      intro name
      rw [share_update, share_update, Function.update_of_ne (Ne.symm distinct)] }

/-- Two writes, the second of which may give the same zone again. -/
theorem twice_iff (measured : Measured control zoneLoad) {last first high low : Server D}
    (isLast : control.servers.getLast? = some last)
    (isFirst : control.servers.head? = some first) (highIn : high ∈ control.servers)
    (lowIn : low ∈ control.servers) (several : 2 ≤ last.distribution.length)
    (severalToo : 2 ≤ high.distribution.length) (notFirst : last.address ≠ first.address)
    (notLow : high.address ≠ low.address) {next : Control D}
    (servers : next.servers.Perm control.servers) {zone later : Fin NZONES}
    (sameServer : high = last → zone = later)
    (table : next.zoneServer = Function.update
      (Function.update control.zoneServer zone (some first.address)) later
      (some low.address)) :
    loadSpread next zoneLoad ≤ loadSpread control zoneLoad ↔
      FitsTwice control zoneLoad zone later last first low := by
  have lastIn := List.mem_of_getLast? isLast
  have firstIn := List.mem_of_head? isFirst
  unfold FitsTwice
  split
  · next single =>
      apply measured.once_iff isLast isFirst servers lowIn
      rw [table]
      rcases single with rfl | there
      · rw [Function.update_idem]
      · rw [← there, Function.update_eq_self]
  · next bothMove =>
      rcases not_or.mp bothMove with ⟨distinct, moves⟩
      split
      · next there =>
          apply measured.once_iff isLast isFirst servers firstIn
          rw [table, ← there]
          refine (Function.update_eq_iff).mpr ⟨?_, fun _ _ => rfl⟩
          rw [Function.update_of_ne (Ne.symm distinct)]
      · next movesToo =>
          have other : high.address ≠ last.address := fun same =>
            distinct (sameServer (measured.eq_of_address highIn lastIn same))
          rw [measured.loadSpread_le_iff isLast isFirst servers, table]
          exact (measured.twoMoves isLast isFirst highIn lowIn several severalToo other notFirst
            notLow distinct moves movesToo).noFurther_iff

end Measured

end Loads

section Balance

variable {D : Type} [Field D] [LinearOrder D]

/-- The arithmetic of the field, with some root. -/
@[reducible]
def exactArithmetic (root : D → D) : Arithmetic D where
  ofInt value := value
  square value := value * value
  sqrt := root

/-- `Control::balance` in exact arithmetic. -/
def balanceExactly (root : D → D) (control : Control D) : List (Order D) × Option (Control D) :=
  letI := exactArithmetic root
  balance control

/-- The zones that are written fit the loads.  When the loop has one iteration,
its zone fits the server it goes to; when it has more, the two zones that are
written fit together. -/
def Fits (root : D → D) (control : Control D) (zoneLoad : Fin NZONES → D) : Prop :=
  letI := exactArithmetic root
  ∀ s, Enters control s → ∀ zone : Fin NZONES,
    posMinLoadZone s.maxLoadServer.distribution = (zone : Nat) →
      ((∀ t, ¬ EntersAgain control t) →
          FitsOnce control zoneLoad zone s.maxLoadServer s.minLoadServer) ∧
        ∀ t, EntersAgain control t → ∀ later : Fin NZONES,
          posMinLoadZone t.maxLoadServer.distribution = (later : Nat) →
            FitsTwice control zoneLoad zone later s.maxLoadServer s.minLoadServer t.minLoadServer

/-- The loads are no further apart after a balancing exactly when the zones that
it writes fit. -/
theorem loadSpread_balance_le_iff [IsStrictOrderedRing D] (root : D → D)
    (control next : Control D) (zoneLoad : Fin NZONES → D) (measured : Measured control zoneLoad)
    (done : (balanceExactly root control).2 = some next) :
    loadSpread next zoneLoad ≤ loadSpread control zoneLoad ↔ Fits root control zoneLoad := by
  let arithmetic : Arithmetic D := exactArithmetic root
  change (balance control).2 = some next at done
  have servers := balance_perm done
  have outcome := balance_outcome control
  rw [done] at outcome
  generalize (balance control).1 = orders at outcome
  cases outcome with
  | idle s opened stops =>
      refine iff_of_true (le_refl _) fun t enters => ?_
      exact absurd enters (not_enters_of_idle opened stops t)
  | once s enters zoneServer written ends =>
      rcases exists_of_writeZone written with ⟨zone, position, rfl⟩
      rcases loopVariables_eq_some_iff.mp enters.1 with ⟨_, _, last, first⟩
      rw [measured.once_iff last first servers (List.mem_of_head? first) rfl]
      constructor
      · intro fits t entersToo other positionToo
        rw [entersToo.unique enters] at positionToo ⊢
        rw [zone_unique positionToo position]
        exact ⟨fun _ => fits, fun t again => absurd again (ends t)⟩
      · intro fits
        exact (fits s enters zone position).1 ends
  | repeated s enters zoneServer written t again final rewritten =>
      rcases exists_of_writeZone written with ⟨zone, position, rfl⟩
      rcases exists_of_writeZone rewritten with ⟨later, positionAgain, rfl⟩
      rcases loopVariables_eq_some_iff.mp enters.1 with ⟨_, _, last, first⟩
      rcases loopVariables_eq_some_iff.mp again.2.1 with ⟨_, _, high, low⟩
      have sameServer : t.maxLoadServer = s.maxLoadServer → zone = later := by
        intro same
        rw [Balancing.order, same] at positionAgain
        exact zone_unique position positionAgain
      rw [measured.twice_iff last first (mem_sort.mp (List.mem_of_getLast? high))
        (mem_sort.mp (List.mem_of_head? low)) (enters.2.two_le_length position)
        (again.2.2.two_le_length positionAgain) enters.2.2.2 again.2.2.2.2 servers sameServer rfl]
      constructor
      · intro fits u entersToo other positionToo
        rw [entersToo.unique enters] at positionToo ⊢
        rw [zone_unique positionToo position]
        refine ⟨fun never => absurd again (never t), fun v againToo othersLater positionLater => ?_⟩
        rw [againToo.unique again] at positionLater ⊢
        rw [zone_unique positionLater positionAgain]
        exact fits
      · intro fits
        exact (fits s enters zone position).2 t again later positionAgain

end Balance

/-- The zones 0 and 1 have one load, and the zones 2 and 3 another. -/
def twoLoads (high low : ℚ) (zone : Fin NZONES) : ℚ :=
  if zone.val < 2 then high else low

/-- Two servers with two zones each, the last one with the zones 0 and 1. -/
def fourZones (high low : ℚ) : Control ℚ where
  servers :=
    [{ address := 1, id := 0, distribution := [⟨2, low⟩, ⟨3, low⟩], totalLoad := low + low,
       online := true },
      { address := 2, id := 1, distribution := [⟨0, high⟩, ⟨1, high⟩], totalLoad := high + high,
        online := true }]
  numberServers := 2
  zoneServer zone := some (if zone.val < 2 then 2 else 1)

theorem fourZones_measured {high low : ℚ} (nonnegative : 0 ≤ low) (ascending : low ≤ high)
    (unit : high ≤ 1) (owned : Owned (fourZones high low)) :
    Measured (fourZones high low) (twoLoads high low) where
  sorted := by
    refine List.pairwise_cons.mpr ⟨?_, List.pairwise_singleton _ _⟩
    intro other member
    rw [List.mem_singleton.mp member]
    exact add_le_add ascending ascending
  addresses := by
    change [1, 2].Nodup
    decide
  zones := by
    intro server member
    simp only [fourZones, List.mem_cons, List.not_mem_nil, or_false] at member
    rcases member with rfl | rfl
    · exact ⟨[⟨2, by decide⟩, ⟨3, by decide⟩], by decide, rfl⟩
    · exact ⟨[⟨0, by decide⟩, ⟨1, by decide⟩], by decide, rfl⟩
  owned := owned
  unit := by
    intro zone
    unfold twoLoads
    split
    · exact ⟨nonnegative.trans ascending, unit⟩
    · exact ⟨nonnegative, ascending.trans unit⟩
  total := by
    intro server member
    simp only [fourZones, List.mem_cons, List.not_mem_nil, or_false] at member
    rcases member with rfl | rfl
    · exact congrArg (· + low) (zero_add low).symm
    · exact congrArg (· + high) (zero_add high).symm

/-- A light zone goes to a server with room for it. -/
theorem loadSpread_balance_fourZones :
    ∃ next, (balanceExactly Arithmetic.sqrt (fourZones (1 / 2) (1 / 10))).2 = some next ∧
      loadSpread next (twoLoads (1 / 2) (1 / 10)) ≤
        loadSpread (fourZones (1 / 2) (1 / 10)) (twoLoads (1 / 2) (1 / 10)) := by
  let arithmetic : Arithmetic ℚ := exactArithmetic Arithmetic.sqrt
  have measured : Measured (fourZones (1 / 2) (1 / 10)) (twoLoads (1 / 2) (1 / 10)) :=
    fourZones_measured (by decide +kernel) (by decide +kernel) (by decide +kernel)
      (by decide +kernel)
  have defined : (balanceExactly Arithmetic.sqrt (fourZones (1 / 2) (1 / 10))).2.isSome = true := by
    decide +kernel
  rcases Option.isSome_iff_exists.mp defined with ⟨next, done⟩
  refine ⟨next, done, (loadSpread_balance_le_iff _ _ next _ measured done).mpr ?_⟩
  intro s enters zone position
  rcases loopVariables_eq_some_iff.mp enters.1 with ⟨_, _, last, first⟩
  rw [← Option.some.inj last] at position ⊢
  rw [← Option.some.inj first]
  have zero : posMinLoadZone [⟨0, 1 / 2⟩, ⟨1, (1 / 2 : ℚ)⟩] =
      ((⟨0, by decide⟩ : Fin NZONES) : Nat) := by decide +kernel
  rw [zone_unique position zero]
  constructor
  · intro ends
    exact Or.inr ⟨by decide +kernel, by decide +kernel⟩
  · intro t again
    have close : ¬ 1 < (sorted (fourZones (1 / 2) (1 / 10))).getStDev := by decide +kernel
    rcases loopVariables_eq_some_iff.mp again.2.1 with ⟨_, deviation, _, _⟩
    rw [← deviation] at close
    exact absurd again.2.2.1 close

/-- The loads are 1.8 and 1.6, and a zone with the load 0.9 goes to the second
server. -/
theorem loadSpread_balance_grows :
    Measured (fourZones (9 / 10) (4 / 5)) (twoLoads (9 / 10) (4 / 5)) ∧
      ∃ next, (balanceExactly Arithmetic.sqrt (fourZones (9 / 10) (4 / 5))).2 = some next ∧
        ¬ loadSpread next (twoLoads (9 / 10) (4 / 5)) ≤
          loadSpread (fourZones (9 / 10) (4 / 5)) (twoLoads (9 / 10) (4 / 5)) := by
  have computed : (balanceExactly Arithmetic.sqrt (fourZones (9 / 10) (4 / 5))).2.any
      (fun next => ¬ loadSpread next (twoLoads (9 / 10) (4 / 5)) ≤
        loadSpread (fourZones (9 / 10) (4 / 5)) (twoLoads (9 / 10) (4 / 5))) = true := by
    decide +kernel
  rcases (Option.any_eq_true _ _).mp computed with ⟨next, done, grows⟩
  exact ⟨fourZones_measured (by decide +kernel) (by decide +kernel) (by decide +kernel)
    (by decide +kernel), next, done, of_decide_eq_true grows⟩

end Control
end Pxc
