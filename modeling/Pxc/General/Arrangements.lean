import Mathlib.Data.List.Perm.Basic
import Mathlib.Data.List.Sort

namespace Pxc
namespace General

/-!
# Sorting by keys that somebody else chooses

A list that is sorted by keys comes out in the order of the keys.  Where the
keys say nothing about the elements, any order can come out: for each
arrangement of the elements there are keys that sorting turns into it.
-/

variable {A B : Type}

/-- The only list in the order of the keys, when these are different. -/
theorem insertionSort_eq_of_perm {key : A → Nat} {values arranged : List A}
    (perm : arranged.Perm values)
    (increasing : arranged.Pairwise fun first second => key first < key second) :
    values.insertionSort (fun first second => key first ≤ key second) = arranged := by
  let below : A → A → Prop := fun first second => key first ≤ key second
  have sorts : (values.insertionSort below).Pairwise below := by
    have total : Std.Total below := ⟨fun first second => Nat.le_total (key first) (key second)⟩
    have transitive : IsTrans A below := ⟨fun _ _ _ => Nat.le_trans⟩
    exact List.pairwise_insertionSort below values
  have weakly : arranged.Pairwise below := increasing.imp fun smaller => Nat.le_of_lt smaller
  refine List.Perm.eq_of_pairwise ?_ sorts weakly
    ((List.perm_insertionSort below values).trans perm.symm)
  intro first second isSorted isArranged firstBelow secondBelow
  have member : first ∈ arranged :=
    perm.symm.subset ((List.perm_insertionSort below values).subset isSorted)
  have distinct : (arranged.map key).Nodup :=
    List.pairwise_map.mpr (increasing.imp fun smaller => Nat.ne_of_lt smaller)
  exact List.inj_on_of_nodup_map distinct member isArranged
    (Nat.le_antisymm firstBelow secondBelow)

theorem pairwise_idxOf_lt [DecidableEq A] {values : List A} (distinct : values.Nodup) :
    values.Pairwise fun first second => values.idxOf first < values.idxOf second := by
  rw [List.pairwise_iff_getElem]
  intro i j inside insideToo smaller
  rw [distinct.idxOf_getElem, distinct.idxOf_getElem]
  exact smaller

/-- An arrangement of mapped values maps an arrangement of the values. -/
theorem exists_perm_of_perm_map {f : A → B} {values : List A} {arranged : List B}
    (perm : arranged.Perm (values.map f)) :
    ∃ origin : List A, origin.Perm values ∧ arranged = origin.map f := by
  have composed : Relation.Comp (fun first second => first = second.map f) List.Perm
      arranged values := by
    rw [List.eq_map_comp_perm]
    exact perm
  rcases composed with ⟨origin, mapped, isPerm⟩
  exact ⟨origin, isPerm, mapped⟩

theorem one_lt_length_of_ends {values : List A} {first last : A}
    (atEnd : values.getLast? = some last) (atFront : values.head? = some first)
    (different : last ≠ first) : 1 < values.length := by
  cases values with
  | nil => cases atEnd
  | cons head rest =>
      cases rest with
      | nil => exact absurd ((Option.some.inj atEnd).symm.trans (Option.some.inj atFront)) different
      | cons next rest => exact Nat.succ_lt_succ (Nat.succ_pos _)

theorem ends_ne_of_nodup {values : List A} {first last : A} (distinct : values.Nodup)
    (several : 1 < values.length) (atEnd : values.getLast? = some last)
    (atFront : values.head? = some first) : last ≠ first := by
  cases values with
  | nil => cases atEnd
  | cons head rest =>
      cases rest with
      | nil => exact absurd several (Nat.lt_irrefl 1)
      | cons next rest =>
          rw [List.getLast?_cons_cons] at atEnd
          intro same
          have later : last ∈ next :: rest := List.mem_of_getLast? atEnd
          rw [same, ← Option.some.inj atFront] at later
          exact (List.nodup_cons.mp distinct).1 later

theorem ends_ne_of_nodup_map {carried : A → B} {values : List A} {first last : A}
    (distinct : (values.map carried).Nodup) (several : 1 < values.length)
    (atEnd : values.getLast? = some last) (atFront : values.head? = some first) :
    carried last ≠ carried first := by
  apply ends_ne_of_nodup distinct
  · rw [List.length_map]
    exact several
  · rw [List.getLast?_map, atEnd, Option.map_some]
  · rw [List.head?_map, atFront, Option.map_some]

theorem rel_of_head {R : A → A → Prop} {values : List A} {first : A}
    (ordered : values.Pairwise R) (reflexive : ∀ value, R value value)
    (atFront : values.head? = some first) : ∀ value ∈ values, R first value := by
  rcases List.head?_eq_some_iff.mp atFront with ⟨rest, rfl⟩
  intro value member
  rcases List.mem_cons.mp member with rfl | later
  · exact reflexive value
  · exact List.rel_of_pairwise_cons ordered later

theorem rel_of_getLast {R : A → A → Prop} {values : List A} {last : A}
    (ordered : values.Pairwise R) (reflexive : ∀ value, R value value)
    (atEnd : values.getLast? = some last) : ∀ value ∈ values, R value last := by
  rcases List.getLast?_eq_some_iff.mp atEnd with ⟨rest, rfl⟩
  intro value member
  rcases List.mem_append.mp member with earlier | final
  · exact (List.pairwise_append.mp ordered).2.2 value earlier last (List.mem_singleton_self last)
  · rw [List.mem_singleton.mp final]
    exact reflexive last

end General
end Pxc
