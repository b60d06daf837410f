import Mathlib.Tactic.Common

namespace Pxc
namespace General

/-!
# Ordered finite maps with checked erasure

The library map is extensional, so two maps with the same entries are equal.
An ordered container of a program has three ways of changing it: an insertion
that keeps an entry already present (`insertIfNew`), an assignment (`insert`),
and the erasure of an entry that was looked up before.  Erasing or reading
through a failed lookup has no defined result, which `eraseFound` and a plain
lookup make visible.

Two relations between maps are developed: being each other's inverse, and
having the same keys.  Both are kept when an entry is added to, or removed
from, the two maps together.
-/

universe u v w

/-- A finite map ordered by its keys' own comparison. -/
abbrev FiniteMap (Key : Type u) (Value : Type v) [Ord Key] :=
  Std.ExtTreeMap Key Value compare

namespace FiniteMap

variable {Key : Type u} {Value : Type v} [Ord Key] [Std.TransOrd Key]

section Lookup

variable [Std.LawfulEqOrd Key] [DecidableEq Key]

theorem getElem?_insertIfNew_of_not_mem {entries : FiniteMap Key Value} {key : Key}
    (absent : key ∉ entries) (value : Value) (other : Key) :
    (entries.insertIfNew key value)[other]? =
      if key = other then some value else entries[other]? := by
  rw [Std.ExtTreeMap.getElem?_insertIfNew]
  simp only [Std.compare_eq_iff_eq, absent, not_false_eq_true, and_true]

theorem getElem?_erase_eq (entries : FiniteMap Key Value) (key other : Key) :
    (entries.erase key)[other]? = if key = other then none else entries[other]? := by
  rw [Std.ExtTreeMap.getElem?_erase]
  simp only [Std.compare_eq_iff_eq]

omit [DecidableEq Key] in
theorem mem_erase_iff {entries : FiniteMap Key Value} {key other : Key} :
    other ∈ entries.erase key ↔ key ≠ other ∧ other ∈ entries := by
  rw [Std.ExtTreeMap.mem_erase, ne_eq, Std.compare_eq_iff_eq]

omit [DecidableEq Key] in
theorem mem_insertIfNew_iff {entries : FiniteMap Key Value} {key other : Key} {value : Value} :
    other ∈ entries.insertIfNew key value ↔ key = other ∨ other ∈ entries := by
  rw [Std.ExtTreeMap.mem_insertIfNew, Std.compare_eq_iff_eq]

/-- Changes at two different keys commute. -/
theorem erase_insertIfNew_of_ne (entries : FiniteMap Key Value) {removed key : Key}
    (different : removed ≠ key) (value : Value) :
    (entries.insertIfNew key value).erase removed =
      (entries.erase removed).insertIfNew key value := by
  apply Std.ExtTreeMap.ext_getElem?
  intro other
  rw [getElem?_erase_eq, Std.ExtTreeMap.getElem?_insertIfNew, Std.ExtTreeMap.getElem?_insertIfNew,
    getElem?_erase_eq]
  simp only [mem_erase_iff, Std.compare_eq_iff_eq]
  by_cases erased : removed = other
  · subst erased
    simp only [if_true, Ne.symm different, false_and, if_false]
  · simp only [if_neg erased, ne_eq, different, not_false_eq_true, true_and]

omit [DecidableEq Key] in
/-- On a fresh key, assignment and insertion are the same. -/
theorem insert_eq_insertIfNew {entries : FiniteMap Key Value} {key : Key} (absent : key ∉ entries)
    (value : Value) : entries.insert key value = entries.insertIfNew key value := by
  apply Std.ExtTreeMap.ext_getElem?
  intro other
  rw [Std.ExtTreeMap.getElem?_insert, Std.ExtTreeMap.getElem?_insertIfNew]
  simp only [absent, not_false_eq_true, and_true]

/-- The pairs put into an empty map one after the other.  Of several pairs
with one key, the first stays. -/
def ofPairs (pairs : List (Key × Value)) : FiniteMap Key Value :=
  pairs.foldl (fun entries pair => entries.insertIfNew pair.1 pair.2) ∅

theorem getElem?_ofPairs (pairs : List (Key × Value)) (key : Key) :
    (ofPairs pairs)[key]? = pairs.lookup key := by
  have general : ∀ (pairs : List (Key × Value)) (entries : FiniteMap Key Value),
      (pairs.foldl (fun entries pair => entries.insertIfNew pair.1 pair.2) entries)[key]? =
        entries[key]?.or (pairs.lookup key) := by
    intro pairs
    induction pairs with
    | nil => intro entries; exact Option.or_none.symm
    | cons pair rest inductionHypothesis =>
        intro entries
        rw [List.foldl_cons, inductionHypothesis, Std.ExtTreeMap.getElem?_insertIfNew,
          List.lookup_cons]
        by_cases same : pair.1 = key
        · subst same
          simp only [Std.compare_self, true_and, beq_self_eq_true]
          by_cases member : pair.1 ∈ entries
          · rcases Option.isSome_iff_exists.mp
              (Std.ExtTreeMap.mem_iff_isSome_getElem?.mp member) with ⟨value, found⟩
            simp only [member, not_true_eq_false, if_false, found, Option.some_or]
          · have absent : entries[pair.1]? = none := by
              rw [← Option.not_isSome_iff_eq_none, ← Std.ExtTreeMap.mem_iff_isSome_getElem?]
              exact member
            simp only [member, not_false_eq_true, if_true, absent, Option.some_or, Option.none_or]
        · have other : (key == pair.1) = false := beq_false_of_ne (Ne.symm same)
          simp only [Std.compare_eq_iff_eq, same, false_and, if_false, other]
  exact (general pairs ∅).trans (by rw [Std.ExtTreeMap.getElem?_empty, Option.none_or])

end Lookup

theorem mem_of_getElem? {entries : FiniteMap Key Value} {key : Key} {value : Value}
    (found : entries[key]? = some value) : key ∈ entries := by
  rw [Std.ExtTreeMap.mem_iff_isSome_getElem?, found]
  rfl

theorem exists_of_mem {entries : FiniteMap Key Value} {key : Key} (member : key ∈ entries) :
    ∃ value, entries[key]? = some value :=
  Option.isSome_iff_exists.mp (Std.ExtTreeMap.mem_iff_isSome_getElem?.mp member)

theorem getElem?_eq_none_iff {entries : FiniteMap Key Value} {key : Key} :
    entries[key]? = none ↔ key ∉ entries := by
  rw [Std.ExtTreeMap.mem_iff_isSome_getElem?, Option.not_isSome_iff_eq_none]

/-- Visiting all entries is defined when every visit is. -/
theorem exists_mapM_toList_iff [Std.LawfulEqOrd Key] {Result : Type w}
    (entries : FiniteMap Key Value) (visit : Key × Value → Option Result) :
    (∃ results, entries.toList.mapM visit = some results) ↔
      ∀ (key : Key) (value : Value), entries[key]? = some value →
        ∃ result, visit (key, value) = some result := by
  have each : ∀ pairs : List (Key × Value), (∃ results, pairs.mapM visit = some results) ↔
      ∀ pair ∈ pairs, ∃ result, visit pair = some result := by
    intro pairs
    induction pairs with
    | nil => simp only [List.mapM_nil, Option.pure_def, Option.some.injEq, exists_eq',
        List.not_mem_nil, false_implies, implies_true]
    | cons pair rest inductionHypothesis =>
        rw [List.forall_mem_cons, ← inductionHypothesis, List.mapM_cons]
        cases first : visit pair with
        | none => simp only [Option.bind_eq_bind, Option.bind_none, reduceCtorEq, exists_false,
            false_and]
        | some result =>
            simp only [Option.bind_eq_bind, Option.bind_some, Option.pure_def,
              Option.bind_eq_some_iff, Option.some.injEq, exists_eq', true_and]
            constructor
            · intro visited
              rcases visited with ⟨_, results, later, _⟩
              exact ⟨results, later⟩
            · intro visited
              rcases visited with ⟨results, later⟩
              exact ⟨result :: results, results, later, rfl⟩
  rw [each]
  constructor
  · intro visited key value found
    exact visited (key, value) (Std.ExtTreeMap.mem_toList_iff_getElem?_eq_some.mpr found)
  · intro visited pair member
    exact visited pair.1 pair.2 (Std.ExtTreeMap.mem_toList_iff_getElem?_eq_some.mp member)

/-- Visiting all entries gives the results in the order of the keys. -/
theorem mapM_toList_eq_some [Std.LawfulEqOrd Key] {Result : Type w}
    {entries : FiniteMap Key Value} {visit : Key → Value → Option Result} {result : Key → Result}
    (visited : ∀ key value, entries[key]? = some value → visit key value = some (result key)) :
    (entries.toList.mapM fun entry => visit entry.1 entry.2) = some (entries.keys.map result) := by
  have each : ∀ pairs : List (Key × Value),
      (∀ pair ∈ pairs, visit pair.1 pair.2 = some (result pair.1)) →
        (pairs.mapM fun entry => visit entry.1 entry.2) =
          some (pairs.map fun pair => result pair.1) := by
    intro pairs
    induction pairs with
    | nil => intro _; rfl
    | cons pair rest inductionHypothesis =>
        intro first
        rw [List.forall_mem_cons] at first
        rw [List.mapM_cons, first.1, inductionHypothesis first.2]
        rfl
  rw [each entries.toList, ← Std.ExtTreeMap.map_fst_toList_eq_keys, List.map_map]
  · rfl
  · intro pair member
    exact visited pair.1 pair.2 (Std.ExtTreeMap.mem_toList_iff_getElem?_eq_some.mp member)

/-- Erase an entry that was looked up: undefined when the lookup fails. -/
def eraseFound (entries : FiniteMap Key Value) (key : Key) : Option (FiniteMap Key Value) :=
  if key ∈ entries then some (entries.erase key) else none

theorem eraseFound_eq_some_iff {entries left : FiniteMap Key Value} {key : Key} :
    entries.eraseFound key = some left ↔ key ∈ entries ∧ entries.erase key = left := by
  unfold eraseFound
  by_cases member : key ∈ entries
  · simp only [member, if_true, Option.some.injEq, true_and]
  · simp only [member, if_false, reduceCtorEq, false_and]

end FiniteMap

open FiniteMap

section Relations

variable {A : Type u} {B : Type v} [Ord A] [Std.TransOrd A] [Ord B] [Std.TransOrd B]

/-- Two maps that undo each other, entry by entry. -/
def Inverse (forward : FiniteMap A B) (backward : FiniteMap B A) : Prop :=
  ∀ (a : A) (b : B), forward[a]? = some b ↔ backward[b]? = some a

namespace Inverse

variable {forward : FiniteMap A B} {backward : FiniteMap B A} {a : A} {b : B}

theorem empty : Inverse (∅ : FiniteMap A B) (∅ : FiniteMap B A) := by
  intro a b
  simp only [Std.ExtTreeMap.getElem?_empty, reduceCtorEq]

theorem symm (inverse : Inverse forward backward) : Inverse backward forward :=
  fun b a => (inverse a b).symm

theorem mem_backward (inverse : Inverse forward backward) (found : forward[a]? = some b) :
    b ∈ backward :=
  mem_of_getElem? ((inverse a b).mp found)

theorem injective (inverse : Inverse forward backward) {first second : A}
    (atFirst : forward[first]? = some b) (atSecond : forward[second]? = some b) :
    first = second := by
  have same := ((inverse first b).mp atFirst).symm.trans ((inverse second b).mp atSecond)
  exact Option.some.inj same

section Updates

variable [Std.LawfulEqOrd A] [DecidableEq A] [Std.LawfulEqOrd B] [DecidableEq B]

theorem insertIfNew (inverse : Inverse forward backward) (freshKey : a ∉ forward)
    (freshValue : b ∉ backward) :
    Inverse (forward.insertIfNew a b) (backward.insertIfNew b a) := by
  intro key value
  rw [getElem?_insertIfNew_of_not_mem freshKey, getElem?_insertIfNew_of_not_mem freshValue]
  by_cases sameKey : a = key <;> by_cases sameValue : b = value
  · simp only [sameKey, sameValue, if_true]
  · subst sameKey
    simp only [if_true, if_neg sameValue, Option.some.injEq]
    refine ⟨fun same => absurd same sameValue, fun found => ?_⟩
    exact absurd (inverse.symm.mem_backward found) freshKey
  · subst sameValue
    simp only [if_true, if_neg sameKey, Option.some.injEq]
    refine ⟨fun found => ?_, fun same => absurd same sameKey⟩
    exact absurd (inverse.mem_backward found) freshValue
  · simp only [if_neg sameKey, if_neg sameValue]
    exact inverse key value

theorem erase (inverse : Inverse forward backward) (found : forward[a]? = some b) :
    Inverse (forward.erase a) (backward.erase b) := by
  intro key value
  rw [getElem?_erase_eq, getElem?_erase_eq]
  by_cases sameKey : a = key <;> by_cases sameValue : b = value
  · simp only [sameKey, sameValue, if_true, reduceCtorEq]
  · subst sameKey
    simp only [if_true, if_neg sameValue, reduceCtorEq, false_iff]
    intro backwards
    exact sameValue (Option.mem_unique found ((inverse a value).mpr backwards))
  · subst sameValue
    simp only [if_true, if_neg sameKey, reduceCtorEq, iff_false]
    intro forwards
    exact sameKey (inverse.injective found forwards)
  · simp only [if_neg sameKey, if_neg sameValue]
    exact inverse key value

end Updates

end Inverse

end Relations

section SameKeys

variable {Key : Type u} {V : Type v} {W : Type w} [Ord Key] [Std.TransOrd Key]

/-- Two maps with the same keys; their values may be unrelated. -/
def SameKeys (first : FiniteMap Key V) (second : FiniteMap Key W) : Prop :=
  ∀ key, key ∈ first ↔ key ∈ second

namespace SameKeys

variable {first : FiniteMap Key V} {second : FiniteMap Key W}

theorem empty : SameKeys (∅ : FiniteMap Key V) (∅ : FiniteMap Key W) := by
  intro key
  simp only [Std.ExtTreeMap.not_mem_empty]

theorem insertIfNew (same : SameKeys first second) (key : Key) (value : V) (other : W) :
    SameKeys (first.insertIfNew key value) (second.insertIfNew key other) := by
  intro candidate
  rw [Std.ExtTreeMap.mem_insertIfNew, Std.ExtTreeMap.mem_insertIfNew, same candidate]

theorem erase (same : SameKeys first second) (key : Key) :
    SameKeys (first.erase key) (second.erase key) := by
  intro candidate
  rw [Std.ExtTreeMap.mem_erase, Std.ExtTreeMap.mem_erase, same candidate]

end SameKeys

end SameKeys

end General
end Pxc
