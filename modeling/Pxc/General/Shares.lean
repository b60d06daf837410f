import Mathlib.Algebra.BigOperators.Group.Finset.Basic
import Mathlib.Algebra.Order.BigOperators.Group.Finset
import Mathlib.Algebra.Order.Field.Basic
import Mathlib.Data.Fintype.BigOperators
import Mathlib.Tactic.Abel
import Mathlib.Tactic.Linarith

namespace Pxc
namespace General

/-!
# Weights shared among holders

Each of finitely many things has a weight and is with one holder.  The share
of a holder is the weight of all it has.  A thing that goes to another holder
changes two shares, which `gain` says for every holder.

The spread of some values is the difference between the largest and the
smallest.  A thing may go to another holder without making the spread larger
exactly when the two shares that change stay between the extremes.  Two things
may also make up for each other.  When two holders have everything, what the
two weights must meet for this is `FitsMoves`.
-/

section Shares

variable {ι κ D : Type} [DecidableEq κ] [AddCommGroup D]

/-- The weight of all things that a holder has. -/
def share [Fintype ι] (holder : ι → κ) (weight : ι → D) (name : κ) : D :=
  ∑ thing, if holder thing = name then weight thing else 0

/-- What a holder gains when some weight goes from one holder to another. -/
def gain (weight : D) (source destination name : κ) : D :=
  (if destination = name then weight else 0) - (if source = name then weight else 0)

theorem gain_self (weight : D) (source name : κ) : gain weight source source name = 0 :=
  sub_self _

theorem gain_source {source destination : κ} (moves : source ≠ destination) (weight : D) :
    gain weight source destination source = -weight := by
  rw [gain, if_neg (Ne.symm moves), if_pos rfl, zero_sub]

theorem gain_destination {source destination : κ} (moves : source ≠ destination) (weight : D) :
    gain weight source destination destination = weight := by
  rw [gain, if_pos rfl, if_neg moves, sub_zero]

theorem gain_other {source destination name : κ} (notSource : source ≠ name)
    (notDestination : destination ≠ name) (weight : D) :
    gain weight source destination name = 0 := by
  rw [gain, if_neg notDestination, if_neg notSource, sub_zero]

/-- A thing that goes to another holder. -/
theorem share_update [Fintype ι] [DecidableEq ι] (holder : ι → κ) (weight : ι → D) (thing : ι)
    (destination name : κ) :
    share (Function.update holder thing destination) weight name =
      share holder weight name + gain (weight thing) (holder thing) destination name := by
  have others : ∀ other ∈ Finset.univ.erase thing,
      (if Function.update holder thing destination other = name then weight other else 0) =
        if holder other = name then weight other else 0 := by
    intro other member
    rw [Function.update_of_ne (Finset.ne_of_mem_erase member)]
  unfold share gain
  rw [← Finset.add_sum_erase _ _ (Finset.mem_univ thing), Finset.sum_congr rfl others,
    ← Finset.add_sum_erase Finset.univ
      (fun other => if holder other = name then weight other else 0) (Finset.mem_univ thing),
    Function.update_self]
  abel

theorem share_eq_sum [Fintype ι] [DecidableEq ι] {holder : ι → κ} {name : κ} {things : List ι}
    (distinct : things.Nodup) (listed : ∀ thing, thing ∈ things ↔ holder thing = name)
    (weight : ι → D) : share holder weight name = (things.map weight).sum := by
  rw [share, ← Finset.sum_filter, ← List.sum_toFinset weight distinct]
  refine Finset.sum_congr ?_ fun _ _ => rfl
  ext thing
  rw [Finset.mem_filter, List.mem_toFinset, listed]
  exact and_iff_right (Finset.mem_univ thing)

theorem share_eq_zero [Fintype ι] {holder : ι → κ} {name : κ}
    (nothing : ∀ thing, holder thing ≠ name) (weight : ι → D) : share holder weight name = 0 :=
  Finset.sum_eq_zero fun thing _ => if_neg (nothing thing)

/-- The share of a holder that has two things. -/
theorem share_pair [Fintype ι] [DecidableEq ι] {holder : ι → κ} {name : κ} {one two : ι}
    (distinct : one ≠ two) (hasOne : holder one = name) (hasTwo : holder two = name)
    (few : (Finset.univ.filter fun thing => holder thing = name).card = 2) (weight : ι → D) :
    share holder weight name = weight one + weight two := by
  have included : {one, two} ⊆ Finset.univ.filter fun thing => holder thing = name := by
    intro thing listed
    rw [Finset.mem_insert, Finset.mem_singleton] at listed
    rcases listed with rfl | rfl
    · exact Finset.mem_filter.mpr ⟨Finset.mem_univ _, hasOne⟩
    · exact Finset.mem_filter.mpr ⟨Finset.mem_univ _, hasTwo⟩
  have pair : ({one, two} : Finset ι).card = 2 := Finset.card_pair distinct
  rw [share, ← Finset.sum_filter,
    ← Finset.eq_of_subset_of_card_le included (few.le.trans pair.ge), Finset.sum_pair distinct]

section Order

variable [LinearOrder D] [IsOrderedAddMonoid D] [Fintype ι]

theorem share_nonneg {weight : ι → D} (nonnegative : ∀ thing, 0 ≤ weight thing) (holder : ι → κ)
    (name : κ) : 0 ≤ share holder weight name := by
  rw [share, ← Finset.sum_filter]
  exact Finset.sum_nonneg fun thing _ => nonnegative thing

theorem le_share {weight : ι → D} (nonnegative : ∀ thing, 0 ≤ weight thing) {holder : ι → κ}
    {name : κ} {thing : ι} (has : holder thing = name) :
    weight thing ≤ share holder weight name := by
  rw [share, ← Finset.sum_filter]
  exact Finset.single_le_sum (fun other _ => nonnegative other)
    (Finset.mem_filter.mpr ⟨Finset.mem_univ thing, has⟩)

end Order

end Shares

section Halves

variable {ι κ : Type} [Fintype ι] [DecidableEq ι] [DecidableEq κ]

/-- Of four things, two holders with at least two each have everything. -/
theorem halves_of_four {holder : ι → κ} {one two : κ} (four : Fintype.card ι = 4)
    (distinct : one ≠ two)
    (several : 2 ≤ (Finset.univ.filter fun thing => holder thing = one).card)
    (severalToo : 2 ≤ (Finset.univ.filter fun thing => holder thing = two).card) :
    (∀ thing, holder thing = one ∨ holder thing = two) ∧
      (Finset.univ.filter fun thing => holder thing = one).card = 2 ∧
      (Finset.univ.filter fun thing => holder thing = two).card = 2 := by
  have apart : Disjoint (Finset.univ.filter fun thing => holder thing = one)
      (Finset.univ.filter fun thing => holder thing = two) := by
    rw [Finset.disjoint_filter]
    intro thing _ first second
    exact distinct (first.symm.trans second)
  have together := Finset.card_union_of_disjoint apart
  have fits := Finset.card_le_univ
    ((Finset.univ.filter fun thing => holder thing = one) ∪
      Finset.univ.filter fun thing => holder thing = two)
  rw [four] at fits
  refine ⟨fun thing => ?_, by omega, by omega⟩
  have everything : ((Finset.univ.filter fun thing => holder thing = one) ∪
      Finset.univ.filter fun thing => holder thing = two) = Finset.univ :=
    (Finset.card_eq_iff_eq_univ _).mp (by omega)
  have listed : thing ∈ _ := everything.symm ▸ Finset.mem_univ thing
  rcases Finset.mem_union.mp listed with first | second
  · exact .inl (Finset.mem_filter.mp first).2
  · exact .inr (Finset.mem_filter.mp second).2

end Halves

section Spread

variable {D : Type} [Field D] [LinearOrder D] [IsStrictOrderedRing D]

/-- The difference between the largest and the smallest of some values. -/
def spread (values : List D) : D :=
  match values.max?, values.min? with
  | some largest, some smallest => largest - smallest
  | _, _ => 0

omit [IsStrictOrderedRing D] in
theorem spread_eq {values : List D} {largest smallest : D} (largestIn : largest ∈ values)
    (smallestIn : smallest ∈ values)
    (bounds : ∀ value ∈ values, smallest ≤ value ∧ value ≤ largest) :
    spread values = largest - smallest := by
  have top : values.max? = some largest :=
    List.max?_eq_some_iff.mpr ⟨largestIn, fun value member => (bounds value member).2⟩
  have bottom : values.min? = some smallest :=
    List.min?_eq_some_iff.mpr ⟨smallestIn, fun value member => (bounds value member).1⟩
  rw [spread, top, bottom]

omit [IsStrictOrderedRing D] in
theorem exists_spread {values : List D} (nonempty : values ≠ []) :
    ∃ largest ∈ values, ∃ smallest ∈ values, spread values = largest - smallest ∧
      ∀ value ∈ values, smallest ≤ value ∧ value ≤ largest := by
  have largestIn := List.max_mem nonempty
  have smallestIn := List.min_mem nonempty
  have bounds : ∀ value ∈ values, values.min nonempty ≤ value ∧ value ≤ values.max nonempty :=
    fun value member => ⟨List.min_le_of_mem member, List.le_max_of_mem member⟩
  exact ⟨_, largestIn, _, smallestIn, spread_eq largestIn smallestIn bounds, bounds⟩

theorem spread_le_iff {values : List D} (nonempty : values ≠ []) (bound : D) :
    spread values ≤ bound ↔ ∀ first ∈ values, ∀ second ∈ values, first - second ≤ bound := by
  rcases exists_spread nonempty with ⟨largest, largestIn, smallest, smallestIn, same, bounds⟩
  rw [same]
  constructor
  · intro below first firstIn second secondIn
    have above := (bounds first firstIn).2
    have under := (bounds second secondIn).1
    linarith
  · intro below
    exact below largest largestIn smallest smallestIn

end Spread

section Gains

variable {κ D : Type} [DecidableEq κ] [Field D] [LinearOrder D]

/-- Two of some holders have the smallest and the largest share. -/
structure Extremes (Among : κ → Prop) (load : κ → D) (lowest highest : κ) : Prop where
  lowest_in : Among lowest
  highest_in : Among highest
  between : ∀ name, Among name → load lowest ≤ load name ∧ load name ≤ load highest

/-- The shares of no two holders are further apart than this. -/
def NoFurther (Among : κ → Prop) (load : κ → D) (difference : D) : Prop :=
  ∀ first, Among first → ∀ second, Among second → load first - load second ≤ difference

/-- A weight is with its new holder already, or that holder can take it and
the old one can do without it. -/
def FitsMove (load : κ → D) (lowest highest : κ) (weight : D) (source destination : κ) : Prop :=
  source = destination ∨
    (load destination + weight ≤ load highest ∧ load lowest ≤ load source - weight)

/-- Two weights that go to new holders, the first of them to the one with the
smallest share, when two holders have everything. -/
def FitsMoves (Among : κ → Prop) (load : κ → D) (lowest highest : κ) (first second : D)
    (owner giver destination : κ) : Prop :=
  if destination = highest then
    if owner ≠ highest then second ≤ 0
    else if giver = lowest then
      second ≤ first ∧ first ≤ second + (load highest - load lowest)
    else second ≤ first ∨
      (∀ name, Among name → name = owner ∨ name = giver ∨ name = lowest) ∧
        second ≤ 2 * first ∧ 2 * second ≤ first + load giver
  else if destination = lowest then
    owner = giver ∨ first + second ≤ load highest ∨
      (∀ name, Among name → name = owner ∨ name = giver ∨ name = lowest) ∧
        2 * first + second ≤ load highest + load owner ∧
        first + 2 * second ≤ load highest + load giver
  else True

variable {Among : κ → Prop} {load after : κ → D} {source destination lowest highest : κ}
  [IsStrictOrderedRing D]

omit [DecidableEq κ] in
theorem NoFurther.of_between {low high : D}
    (between : ∀ name, Among name → low ≤ after name ∧ after name ≤ high) :
    NoFurther Among after (high - low) := by
  intro first firstIn second secondIn
  have above := (between first firstIn).2
  have below := (between second secondIn).1
  linarith

/-- A weight goes to another holder.  No two shares are further apart
afterwards than the largest and the smallest were exactly when the two shares
that change stay between those. -/
theorem gain_iff (extremes : Extremes Among load lowest highest) {weight : D}
    (nonnegative : 0 ≤ weight) (sourceIn : Among source) (destinationIn : Among destination)
    (moved : ∀ name, after name = load name + gain weight source destination name) :
    NoFurther Among after (load highest - load lowest) ↔
      FitsMove load lowest highest weight source destination := by
  by_cases same : source = destination
  · subst same
    refine iff_of_true (.of_between fun name nameIn => ?_) (.inl rfl)
    rw [moved, gain_self, add_zero]
    exact extremes.between name nameIn
  · rw [FitsMove, or_iff_right same]
    have atSource : after source = load source - weight := by
      rw [moved, gain_source same, sub_eq_add_neg]
    have atDestination : after destination = load destination + weight := by
      rw [moved, gain_destination same]
    have elsewhere : ∀ name, source ≠ name → destination ≠ name → after name = load name := by
      intro name notSource notDestination
      rw [moved, gain_other notSource notDestination, add_zero]
    constructor
    · intro apart
      -- The holder with an extreme share may be one of the two that change.
      have ends := apart destination destinationIn source sourceIn
      constructor
      · by_cases unchanged : source ≠ lowest ∧ destination ≠ lowest
        · have bottom := apart destination destinationIn lowest extremes.lowest_in
          rw [elsewhere lowest unchanged.1 unchanged.2] at bottom
          linarith
        · rcases not_and_or.mp unchanged with isLowest | isLowest
          · rw [not_not.mp isLowest] at ends atSource
            linarith
          · rw [not_not.mp isLowest] at ends atDestination ⊢
            have above := (extremes.between source sourceIn).2
            linarith
      · by_cases unchanged : source ≠ highest ∧ destination ≠ highest
        · have top := apart highest extremes.highest_in source sourceIn
          rw [elsewhere highest unchanged.1 unchanged.2] at top
          linarith
        · rcases not_and_or.mp unchanged with isHighest | isHighest
          · rw [not_not.mp isHighest] at ends atSource ⊢
            have below := (extremes.between destination destinationIn).1
            linarith
          · rw [not_not.mp isHighest] at ends atDestination
            linarith
    · rintro ⟨taken, left⟩
      refine .of_between fun name nameIn => ?_
      have bounds := extremes.between name nameIn
      by_cases isSource : source = name
      · subst isSource
        constructor <;> linarith
      · by_cases isDestination : destination = name
        · subst isDestination
          constructor <;> linarith
        · rw [elsewhere name isSource isDestination]
          exact bounds

/-- Two holders have everything, and two weights go from these to others, the
first of them to the holder with the smallest share. -/
structure TwoMoves (Among : κ → Prop) (load after : κ → D) (lowest highest other : κ)
    (first second : D) (owner giver destination : κ) : Prop where
  extremes : Extremes Among load lowest highest
  distinct : lowest ≠ highest
  other_in : Among other
  other_ne : other ≠ highest
  other_nonneg : 0 ≤ load other
  nothing : ∀ name, Among name → name ≠ highest → name ≠ other → load name = 0
  owner_is : owner = highest ∨ owner = other
  giver_is : giver = highest ∨ giver = other
  first_between : 0 ≤ first ∧ first ≤ load owner
  second_between : 0 ≤ second ∧ second ≤ load giver
  everything : owner = giver → first + second = load owner
  owner_ne : owner ≠ lowest
  giver_ne : giver ≠ destination
  destination_in : Among destination
  destination_ne : destination ≠ other
  moved : ∀ name, after name =
    load name + gain first owner lowest name + gain second giver destination name

namespace TwoMoves

variable {first second : D} {other owner giver : κ}

omit [IsStrictOrderedRing D] in
/-- A holder that neither has anything nor gets anything. -/
theorem after_rest
    (moves : TwoMoves Among load after lowest highest other first second owner giver destination)
    {name : κ} (nameIn : Among name) (notHighest : name ≠ highest) (notOther : name ≠ other)
    (notLowest : name ≠ lowest) (notDestination : name ≠ destination) : after name = 0 := by
  have notOwner : owner ≠ name := by
    rcases moves.owner_is with same | same
    · exact same ▸ notHighest.symm
    · exact same ▸ notOther.symm
  have notGiver : giver ≠ name := by
    rcases moves.giver_is with same | same
    · exact same ▸ notHighest.symm
    · exact same ▸ notOther.symm
  rw [moves.moved, moves.nothing name nameIn notHighest notOther,
    gain_other notOwner notLowest.symm, gain_other notGiver notDestination.symm, add_zero, add_zero]

omit [IsStrictOrderedRing D] in
theorem highest_nonneg
    (moves : TwoMoves Among load after lowest highest other first second owner giver destination) :
    0 ≤ load highest :=
  moves.other_nonneg.trans (moves.extremes.between other moves.other_in).2

/-- Where the smallest share is nothing, only the holders that give or get
something can be too far apart. -/
theorem of_bounds
    (moves : TwoMoves Among load after lowest highest other first second owner giver destination)
    (zero : load lowest = 0)
    (atHighest : 0 ≤ after highest ∧ after highest ≤ load highest)
    (atOther : 0 ≤ after other ∧ after other ≤ load highest)
    (atLowest : 0 ≤ after lowest ∧ after lowest ≤ load highest)
    (atDestination : 0 ≤ after destination ∧ after destination ≤ load highest) :
    NoFurther Among after (load highest - load lowest) := by
  rw [zero]
  refine .of_between fun name nameIn => ?_
  by_cases isHighest : name = highest
  · exact isHighest ▸ atHighest
  · by_cases isOther : name = other
    · exact isOther ▸ atOther
    · by_cases isLowest : name = lowest
      · exact isLowest ▸ atLowest
      · by_cases isDestination : name = destination
        · exact isDestination ▸ atDestination
        · rw [moves.after_rest nameIn isHighest isOther isLowest isDestination]
          exact ⟨le_refl 0, moves.highest_nonneg⟩

/-- Both weights were with one holder, and the second goes to the one with the
largest share. -/
theorem to_highest_iff
    (moves : TwoMoves Among load after lowest highest other first second other giver highest) :
    NoFurther Among after (load highest - load lowest) ↔ second ≤ 0 := by
  have sameGiver : giver = other := moves.giver_is.resolve_left moves.giver_ne
  subst sameGiver
  have zero := moves.nothing lowest moves.extremes.lowest_in moves.distinct moves.owner_ne.symm
  have whole := moves.everything rfl
  have atHighest : after highest = load highest + second := by
    rw [moves.moved, gain_other moves.other_ne moves.distinct, gain_destination moves.giver_ne,
      add_zero]
  have atOther : after giver = 0 := by
    rw [moves.moved, gain_source moves.owner_ne, gain_source moves.giver_ne, ← whole]
    abel
  have atLowest : after lowest = first := by
    rw [moves.moved, gain_destination moves.owner_ne, zero,
      gain_other moves.owner_ne moves.distinct.symm, zero_add, add_zero]
  have below := (moves.extremes.between giver moves.other_in).2
  have firstBetween := moves.first_between
  have secondBetween := moves.second_between
  have nonnegative := moves.highest_nonneg
  constructor
  · intro apart
    have ends := apart highest moves.extremes.highest_in giver moves.other_in
    linarith
  · intro nothing
    refine moves.of_bounds zero ⟨?_, ?_⟩ ⟨?_, ?_⟩ ⟨?_, ?_⟩ ⟨?_, ?_⟩ <;> linarith

/-- The two holders that have everything exchange a weight, and one of them has
the smallest share. -/
theorem exchange_iff
    (moves : TwoMoves Among load after other highest other first second highest other highest) :
    NoFurther Among after (load highest - load other) ↔
      second ≤ first ∧ first ≤ second + (load highest - load other) := by
  have atHighest : after highest = load highest - first + second := by
    rw [moves.moved, gain_source moves.owner_ne, gain_destination moves.giver_ne, sub_eq_add_neg]
  have atOther : after other = load other + first - second := by
    rw [moves.moved, gain_destination moves.owner_ne, gain_source moves.giver_ne, sub_eq_add_neg]
  constructor
  · intro apart
    have down := apart highest moves.extremes.highest_in other moves.other_in
    have up := apart other moves.other_in highest moves.extremes.highest_in
    constructor <;> linarith
  · rintro ⟨lighter, near⟩
    refine .of_between fun name nameIn => ?_
    have bounds := moves.extremes.between name nameIn
    by_cases isHighest : name = highest
    · subst isHighest
      constructor <;> linarith
    · by_cases isOther : name = other
      · subst isOther
        constructor <;> linarith
      · rw [moves.after_rest nameIn isHighest isOther isOther isHighest]
        rw [moves.nothing name nameIn isHighest isOther] at bounds
        exact bounds

/-- The holder with the largest share gives the first weight to one that has
nothing, and gets the second one from the other that has something. -/
theorem exchange_apart_iff
    (moves : TwoMoves Among load after lowest highest other first second highest other highest)
    (apartFrom : other ≠ lowest) :
    NoFurther Among after (load highest - load lowest) ↔ second ≤ first ∨
      (∀ name, Among name → name = highest ∨ name = other ∨ name = lowest) ∧
        second ≤ 2 * first ∧ 2 * second ≤ first + load other := by
  have zero := moves.nothing lowest moves.extremes.lowest_in moves.distinct apartFrom.symm
  have atHighest : after highest = load highest - first + second := by
    rw [moves.moved, gain_source moves.owner_ne, gain_destination moves.giver_ne, sub_eq_add_neg]
  have atOther : after other = load other - second := by
    rw [moves.moved, gain_source moves.giver_ne,
      gain_other moves.other_ne.symm apartFrom.symm, add_zero, sub_eq_add_neg]
  have atLowest : after lowest = first := by
    rw [moves.moved, gain_destination moves.owner_ne, zero,
      gain_other apartFrom moves.distinct.symm, zero_add, add_zero]
  have below := (moves.extremes.between other moves.other_in).2
  have firstBetween := moves.first_between
  have secondBetween := moves.second_between
  constructor
  · intro apart
    by_cases nobody : ∀ name, Among name → name = highest ∨ name = other ∨ name = lowest
    · refine .inr ⟨nobody, ?_, ?_⟩
      · have ends := apart highest moves.extremes.highest_in lowest moves.extremes.lowest_in
        linarith
      · have ends := apart highest moves.extremes.highest_in other moves.other_in
        linarith
    · simp only [not_forall, not_or] at nobody
      rcases nobody with ⟨name, nameIn, notHighest, notOther, notLowest⟩
      have ends := apart highest moves.extremes.highest_in name nameIn
      rw [moves.after_rest nameIn notHighest notOther notLowest notHighest] at ends
      exact .inl (by linarith)
  · rintro (lighter | ⟨nobody, light, lightToo⟩)
    · refine moves.of_bounds zero ⟨?_, ?_⟩ ⟨?_, ?_⟩ ⟨?_, ?_⟩ ⟨?_, ?_⟩ <;> linarith
    · intro one oneIn two twoIn
      rcases nobody one oneIn with rfl | rfl | rfl <;>
        rcases nobody two twoIn with rfl | rfl | rfl <;> linarith

/-- The holder with the smallest share, which is nothing, gets both weights. -/
theorem to_lowest_iff
    (moves : TwoMoves Among load after lowest highest other first second owner giver lowest) :
    NoFurther Among after (load highest - load lowest) ↔
      owner = giver ∨ first + second ≤ load highest ∨
        (∀ name, Among name → name = owner ∨ name = giver ∨ name = lowest) ∧
          2 * first + second ≤ load highest + load owner ∧
          first + 2 * second ≤ load highest + load giver := by
  have zero := moves.nothing lowest moves.extremes.lowest_in moves.distinct moves.destination_ne
  have atLowest : after lowest = first + second := by
    rw [moves.moved, gain_destination moves.owner_ne, gain_destination moves.giver_ne, zero,
      zero_add]
  have firstBetween := moves.first_between
  have secondBetween := moves.second_between
  have below := (moves.extremes.between other moves.other_in).2
  have nonnegative := moves.other_nonneg
  by_cases same : owner = giver
  · subst same
    have whole := moves.everything rfl
    have atOwner : after owner = 0 := by
      rw [moves.moved, gain_source moves.owner_ne, gain_source moves.giver_ne, ← whole]
      abel
    refine iff_of_true ?_ (.inl rfl)
    rcases moves.owner_is with rfl | rfl
    · have atOther : after other = load other := by
        rw [moves.moved, gain_other moves.other_ne.symm moves.destination_ne,
          gain_other moves.other_ne.symm moves.destination_ne, add_zero, add_zero]
      refine moves.of_bounds zero ⟨?_, ?_⟩ ⟨?_, ?_⟩ ⟨?_, ?_⟩ ⟨?_, ?_⟩ <;> linarith
    · have atHighest : after highest = load highest := by
        rw [moves.moved, gain_other moves.other_ne moves.distinct,
          gain_other moves.other_ne moves.distinct, add_zero, add_zero]
      refine moves.of_bounds zero ⟨?_, ?_⟩ ⟨?_, ?_⟩ ⟨?_, ?_⟩ ⟨?_, ?_⟩ <;> linarith
  · have atOwner : after owner = load owner - first := by
      rw [moves.moved, gain_source moves.owner_ne, gain_other (Ne.symm same) moves.owner_ne.symm,
        add_zero, sub_eq_add_neg]
    have atGiver : after giver = load giver - second := by
      rw [moves.moved, gain_source moves.giver_ne, gain_other same moves.giver_ne.symm,
        add_zero, sub_eq_add_neg]
    have ownerIn : Among owner := by
      rcases moves.owner_is with rfl | rfl
      · exact moves.extremes.highest_in
      · exact moves.other_in
    have giverIn : Among giver := by
      rcases moves.giver_is with rfl | rfl
      · exact moves.extremes.highest_in
      · exact moves.other_in
    have aboveOwner := (moves.extremes.between owner ownerIn).2
    have aboveGiver := (moves.extremes.between giver giverIn).2
    rw [or_iff_right same]
    constructor
    · intro apart
      by_cases nobody : ∀ name, Among name → name = owner ∨ name = giver ∨ name = lowest
      · refine .inr ⟨nobody, ?_, ?_⟩
        · have ends := apart lowest moves.extremes.lowest_in owner ownerIn
          linarith
        · have ends := apart lowest moves.extremes.lowest_in giver giverIn
          linarith
      · simp only [not_forall, not_or] at nobody
        rcases nobody with ⟨name, nameIn, notOwner, notGiver, notLowest⟩
        have notEither : name ≠ highest ∧ name ≠ other := by
          rcases moves.owner_is with rfl | rfl <;> rcases moves.giver_is with rfl | rfl
          · exact absurd rfl same
          · exact ⟨notOwner, notGiver⟩
          · exact ⟨notGiver, notOwner⟩
          · exact absurd rfl same
        have ends := apart lowest moves.extremes.lowest_in name nameIn
        rw [moves.after_rest nameIn notEither.1 notEither.2 notLowest notLowest] at ends
        exact .inl (by linarith)
    · rintro (light | ⟨nobody, light, lightToo⟩)
      · have within : (0 ≤ after highest ∧ after highest ≤ load highest) ∧
            (0 ≤ after other ∧ after other ≤ load highest) := by
          rcases moves.owner_is with rfl | rfl <;> rcases moves.giver_is with rfl | rfl
          · exact absurd rfl same
          · constructor <;> constructor <;> linarith
          · constructor <;> constructor <;> linarith
          · exact absurd rfl same
        refine moves.of_bounds zero within.1 within.2 ⟨?_, ?_⟩ ⟨?_, ?_⟩ <;> linarith
      · intro one oneIn two twoIn
        rcases nobody one oneIn with rfl | rfl | rfl <;>
          rcases nobody two twoIn with rfl | rfl | rfl <;> linarith

/-- The second weight goes to a holder that has nothing and gets nothing else. -/
theorem noFurther_elsewhere
    (moves : TwoMoves Among load after lowest highest other first second owner giver destination)
    (notHighest : destination ≠ highest) (notLowest : destination ≠ lowest) :
    NoFurther Among after (load highest - load lowest) := by
  have notOther := moves.destination_ne
  have nothing := moves.nothing destination moves.destination_in notHighest notOther
  have firstBetween := moves.first_between
  have secondBetween := moves.second_between
  have below := (moves.extremes.between other moves.other_in).2
  have nonnegative := moves.other_nonneg
  have atDestination : after destination = second := by
    have notOwner : owner ≠ destination := by
      rcases moves.owner_is with same | same
      · exact same ▸ notHighest.symm
      · exact same ▸ notOther.symm
    rw [moves.moved, gain_other notOwner notLowest.symm, gain_destination moves.giver_ne, nothing,
      zero_add, zero_add]
  by_cases isLowest : lowest = other
  · subst isLowest
    have least := (moves.extremes.between destination moves.destination_in).1
    have zero : load lowest = 0 := by linarith
    have sameOwner := moves.owner_is.resolve_right moves.owner_ne
    subst sameOwner
    rcases moves.giver_is with rfl | rfl
    · have whole := moves.everything rfl
      have atHighest : after giver = 0 := by
        rw [moves.moved, gain_source moves.owner_ne, gain_source moves.giver_ne, ← whole]
        abel
      have atLowest : after lowest = first := by
        rw [moves.moved, gain_destination moves.owner_ne, gain_other moves.owner_ne notLowest, zero,
          zero_add, add_zero]
      refine moves.of_bounds zero ⟨?_, ?_⟩ ⟨?_, ?_⟩ ⟨?_, ?_⟩ ⟨?_, ?_⟩ <;> linarith
    · have atHighest : after owner = load owner - first := by
        rw [moves.moved, gain_source moves.owner_ne, gain_other moves.distinct notHighest, add_zero,
          sub_eq_add_neg]
      have atLowest : after giver = first - second := by
        rw [moves.moved, gain_destination moves.owner_ne, gain_source moves.giver_ne, zero,
          zero_add, sub_eq_add_neg]
      refine moves.of_bounds zero ⟨?_, ?_⟩ ⟨?_, ?_⟩ ⟨?_, ?_⟩ ⟨?_, ?_⟩ <;> linarith
  · have zero := moves.nothing lowest moves.extremes.lowest_in moves.distinct isLowest
    have notGiver : giver ≠ lowest := by
      rcases moves.giver_is with same | same
      · exact same ▸ moves.distinct.symm
      · exact same ▸ Ne.symm isLowest
    have atLowest : after lowest = first := by
      rw [moves.moved, gain_destination moves.owner_ne, gain_other notGiver notLowest, zero,
        zero_add, add_zero]
    rcases moves.owner_is with rfl | rfl <;> rcases moves.giver_is with rfl | rfl
    · have whole := moves.everything rfl
      have atHighest : after giver = 0 := by
        rw [moves.moved, gain_source moves.owner_ne, gain_source moves.giver_ne, ← whole]
        abel
      have atOther : after other = load other := by
        rw [moves.moved, gain_other moves.other_ne.symm isLowest,
          gain_other moves.other_ne.symm notOther, add_zero, add_zero]
      refine moves.of_bounds zero ⟨?_, ?_⟩ ⟨?_, ?_⟩ ⟨?_, ?_⟩ ⟨?_, ?_⟩ <;> linarith
    · have atHighest : after owner = load owner - first := by
        rw [moves.moved, gain_source moves.owner_ne, gain_other moves.other_ne notHighest, add_zero,
          sub_eq_add_neg]
      have atOther : after giver = load giver - second := by
        rw [moves.moved, gain_other moves.other_ne.symm isLowest, gain_source moves.giver_ne,
          add_zero, sub_eq_add_neg]
      refine moves.of_bounds zero ⟨?_, ?_⟩ ⟨?_, ?_⟩ ⟨?_, ?_⟩ ⟨?_, ?_⟩ <;> linarith
    · have atHighest : after giver = load giver - second := by
        rw [moves.moved, gain_other moves.other_ne moves.distinct, gain_source moves.giver_ne,
          add_zero, sub_eq_add_neg]
      have atOther : after owner = load owner - first := by
        rw [moves.moved, gain_source moves.owner_ne, gain_other moves.other_ne.symm notOther,
          add_zero, sub_eq_add_neg]
      refine moves.of_bounds zero ⟨?_, ?_⟩ ⟨?_, ?_⟩ ⟨?_, ?_⟩ ⟨?_, ?_⟩ <;> linarith
    · have whole := moves.everything rfl
      have atHighest : after highest = load highest := by
        rw [moves.moved, gain_other moves.other_ne moves.distinct,
          gain_other moves.other_ne notHighest, add_zero, add_zero]
      have atOther : after giver = 0 := by
        rw [moves.moved, gain_source moves.owner_ne, gain_source moves.giver_ne, ← whole]
        abel
      refine moves.of_bounds zero ⟨?_, ?_⟩ ⟨?_, ?_⟩ ⟨?_, ?_⟩ ⟨?_, ?_⟩ <;> linarith

/-- No two shares are further apart after the two moves than the largest and
the smallest were exactly when the weights fit. -/
theorem noFurther_iff
    (moves : TwoMoves Among load after lowest highest other first second owner giver destination) :
    NoFurther Among after (load highest - load lowest) ↔
      FitsMoves Among load lowest highest first second owner giver destination := by
  unfold FitsMoves
  split
  · next toHighest =>
      subst toHighest
      split
      · next fromOther =>
          have sameOwner := moves.owner_is.resolve_left fromOther
          subst sameOwner
          exact moves.to_highest_iff
      · next fromHighest =>
          have sameOwner := not_not.mp fromHighest
          subst sameOwner
          have sameGiver := moves.giver_is.resolve_left moves.giver_ne
          subst sameGiver
          split
          · next toGiver =>
              subst toGiver
              exact moves.exchange_iff
          · next apartFrom => exact moves.exchange_apart_iff apartFrom
  · next notHighest =>
      split
      · next toLowest =>
          subst toLowest
          exact moves.to_lowest_iff
      · next notLowest => exact iff_of_true (moves.noFurther_elsewhere notHighest notLowest) trivial

end TwoMoves

end Gains

end General
end Pxc
