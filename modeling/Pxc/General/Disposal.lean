import Mathlib.Data.List.Nodup
import Pxc.General.Ownership

namespace Pxc
namespace General

/-!
# Deleting every object of a map

A loop deletes the objects that a map of pointers leads to, in the order of
the keys.  Deleting runs the destructor of the object, which may have an
effect and may be undefined, and frees the object.  The pointers stay as they
are until the loop has ended.

The loop is defined exactly when every pointer leads to an object of its own
and the destructors are defined one after the other.  If every living object
has a pointer, nothing is left.

A program keeps the pointers good as long as it removes a pointer with its
object.  A pointer that it leaves behind stays bad for ever.
-/

universe u v w x

variable {Key : Type u} {Object : Type v} {Rest : Type w} {Effect : Type x}

/-- Destructors run one after the other. -/
def destroyEach (destroy : Rest → Object → Option (Rest × List Effect)) :
    List Object → Rest → Option (Rest × List Effect)
  | [], rest => some (rest, [])
  | object :: objects, rest =>
      (destroy rest object).bind fun (rest, effects) =>
        (destroyEach destroy objects rest).map fun (rest, more) => (rest, effects ++ more)

/-- The objects under some entries are destroyed and freed, one after the
other. -/
def deleteEach (destroy : Rest → Object → Option (Rest × List Effect)) :
    List (Key × Address) → Heap Object → Rest → Option (Heap Object × Rest × List Effect)
  | [], heap, rest => some (heap, rest, [])
  | entry :: entries, heap, rest =>
      (heap.load entry.2).bind fun object =>
        (destroy rest object).bind fun (rest, effects) =>
          (heap.free entry.2).bind fun heap =>
            (deleteEach destroy entries heap rest).map fun (heap, rest, more) =>
              (heap, rest, effects ++ more)

/-- The living objects under some entries. -/
def objectsOf (heap : Heap Object) (entries : List (Key × Address)) : List Object :=
  entries.filterMap fun entry => heap.load entry.2

variable {destroy : Rest → Object → Option (Rest × List Effect)} {heap freed : Heap Object}
  {rest after : Rest} {effects : List Effect} {entries : List (Key × Address)}

theorem destroyEach_cons_eq_some_iff {object : Object} {objects : List Object} :
    destroyEach destroy (object :: objects) rest = some (after, effects) ↔
      ∃ middle first more, destroy rest object = some (middle, first) ∧
        destroyEach destroy objects middle = some (after, more) ∧ effects = first ++ more := by
  simp only [destroyEach, Option.bind_eq_some_iff, Option.map_eq_some_iff, Prod.exists,
    Prod.mk.injEq]
  constructor
  · rintro ⟨middle, first, destroyed, _, more, onwards, rfl, rfl⟩
    exact ⟨middle, first, more, destroyed, onwards, rfl⟩
  · rintro ⟨middle, first, more, destroyed, onwards, rfl⟩
    exact ⟨middle, first, destroyed, after, more, onwards, rfl, rfl⟩

theorem deleteEach_cons_eq_some_iff {entry : Key × Address} :
    deleteEach destroy (entry :: entries) heap rest = some (freed, after, effects) ↔
      ∃ object between middle first more, heap.load entry.2 = some object ∧
        destroy rest object = some (middle, first) ∧ heap.free entry.2 = some between ∧
        deleteEach destroy entries between middle = some (freed, after, more) ∧
        effects = first ++ more := by
  simp only [deleteEach, Option.bind_eq_some_iff, Option.map_eq_some_iff, Prod.exists,
    Prod.mk.injEq]
  constructor
  · rintro ⟨object, loaded, middle, first, destroyed, between, gone, _, _, more, onwards, rfl, rfl,
      rfl⟩
    exact ⟨object, between, middle, first, more, loaded, destroyed, gone, onwards, rfl⟩
  · rintro ⟨object, between, middle, first, more, loaded, destroyed, gone, onwards, rfl⟩
    exact ⟨object, loaded, middle, first, destroyed, between, gone, freed, after, more, onwards,
      rfl, rfl, rfl⟩

theorem load_of_free_of_ne {address other : Address} (gone : heap.free address = some freed)
    (different : address ≠ other) : freed.load other = heap.load other := by
  rw [(Heap.free_eq_some_iff.mp gone).2.2, if_neg different]

theorem objectsOf_of_free {address : Address} (gone : heap.free address = some freed)
    (elsewhere : address ∉ entries.map Prod.snd) :
    objectsOf freed entries = objectsOf heap entries := by
  refine List.filterMap_congr fun entry member => load_of_free_of_ne gone ?_
  intro same
  exact elsewhere (same ▸ List.mem_map_of_mem member)

theorem objectsOf_cons {entry : Key × Address} {object : Object}
    (loaded : heap.load entry.2 = some object) :
    objectsOf heap (entry :: entries) = object :: objectsOf heap entries := by
  unfold objectsOf
  exact List.filterMap_cons_some loaded

/-- Freeing one object and then some others. -/
theorem load_free_cons {first : Address} {others : List Address}
    (gone : heap.free first = some freed) (address : Address) :
    (if address ∈ others then none else freed.load address) =
      if address ∈ first :: others then none else heap.load address := by
  simp only [List.mem_cons, (Heap.free_eq_some_iff.mp gone).2.2]
  by_cases member : address ∈ others
  · rw [if_pos member, if_pos (Or.inr member)]
  · rw [if_neg member]
    by_cases same : first = address
    · rw [if_pos same, if_pos (Or.inl same.symm)]
    · rw [if_neg same, if_neg]
      rintro (equal | inside)
      · exact same equal.symm
      · exact member inside

/-- What the loop has done when it is defined, and when it is. -/
theorem deleteEach_eq_some_iff :
    deleteEach destroy entries heap rest = some (freed, after, effects) ↔
      (entries.map Prod.snd).Nodup ∧
        (∀ entry ∈ entries, ∃ object, heap.load entry.2 = some object) ∧
        destroyEach destroy (objectsOf heap entries) rest = some (after, effects) ∧
        freed.next = heap.next ∧ ∀ address, freed.load address =
          if address ∈ entries.map Prod.snd then none else heap.load address := by
  induction entries generalizing heap rest effects with
  | nil =>
      constructor
      · intro done
        cases done
        exact ⟨List.nodup_nil, fun _ member => absurd member List.not_mem_nil, rfl, rfl,
          fun _ => (if_neg List.not_mem_nil).symm⟩
      · rintro ⟨_, _, destroyed, sameNext, loads⟩
        cases destroyed
        have same : heap = freed :=
          Heap.ext sameNext.symm fun address =>
            ((loads address).trans (if_neg List.not_mem_nil)).symm
        exact same ▸ rfl
  | cons entry entries inductionHypothesis =>
      rw [deleteEach_cons_eq_some_iff, List.map_cons, List.nodup_cons, List.forall_mem_cons]
      constructor
      · rintro ⟨object, between, middle, first, more, loaded, destroyed, gone, onwards, rfl⟩
        rcases inductionHypothesis.mp onwards with ⟨distinct, alive, destroyedRest, sameNext, loads⟩
        have absent : between.load entry.2 = none := by
          rw [(Heap.free_eq_some_iff.mp gone).2.2, if_pos rfl]
        have elsewhere : entry.2 ∉ entries.map Prod.snd := by
          intro member
          rcases List.mem_map.mp member with ⟨other, inside, same⟩
          rcases alive other inside with ⟨found, loadedOther⟩
          rw [same, absent] at loadedOther
          cases loadedOther
        refine ⟨⟨elsewhere, distinct⟩, ⟨⟨object, loaded⟩, ?_⟩, ?_,
          sameNext.trans (Heap.free_eq_some_iff.mp gone).2.1, ?_⟩
        · intro other member
          have different : entry.2 ≠ other.2 := by
            intro same
            exact elsewhere (same ▸ List.mem_map_of_mem member)
          exact load_of_free_of_ne gone different ▸ alive other member
        · rw [objectsOf_cons loaded]
          rw [objectsOf_of_free gone elsewhere] at destroyedRest
          exact destroyEach_cons_eq_some_iff.mpr
            ⟨middle, first, more, destroyed, destroyedRest, rfl⟩
        · intro address
          rw [loads]
          exact load_free_cons gone address
      · rintro ⟨⟨elsewhere, distinct⟩, ⟨⟨object, loaded⟩, alive⟩, destroyed, sameNext, loads⟩
        rw [objectsOf_cons loaded] at destroyed
        rcases destroyEach_cons_eq_some_iff.mp destroyed with
          ⟨middle, first, more, destroyedFirst, destroyedRest, rfl⟩
        rcases Heap.exists_free loaded with ⟨between, gone⟩
        refine ⟨object, between, middle, first, more, loaded, destroyedFirst, gone,
          inductionHypothesis.mpr ⟨distinct, ?_, ?_,
            sameNext.trans (Heap.free_eq_some_iff.mp gone).2.1.symm, ?_⟩, rfl⟩
        · intro other member
          have different : entry.2 ≠ other.2 := by
            intro same
            exact elsewhere (same ▸ List.mem_map_of_mem member)
          exact (load_of_free_of_ne gone different).symm ▸ alive other member
        · rw [objectsOf_of_free gone elsewhere]
          exact destroyedRest
        · intro address
          rw [loads]
          exact (load_free_cons gone address).symm

/-- The address has been handed out, and its object is gone. -/
structure Gone (heap : Heap Object) (address : Address) : Prop where
  below : address < heap.next
  absent : heap.load address = none

namespace Gone

variable {address other : Address} {object : Object}

theorem of_free (gone : heap.free address = some freed) : Gone freed address := by
  rcases Heap.free_eq_some_iff.mp gone with ⟨⟨object, loaded⟩, sameNext, loads⟩
  refine ⟨sameNext ▸ Heap.lt_next_of_load loaded, ?_⟩
  rw [loads, if_pos rfl]

theorem free (gone : Gone heap address) (freeing : heap.free other = some freed) :
    Gone freed address := by
  rcases Heap.free_eq_some_iff.mp freeing with ⟨_, sameNext, loads⟩
  refine ⟨sameNext ▸ gone.below, ?_⟩
  rw [loads, gone.absent, ite_self]

/-- No address is handed out twice. -/
theorem alloc (gone : Gone heap address) (object : Object) : Gone (heap.alloc object) address := by
  refine ⟨Nat.lt_succ_of_lt gone.below, ?_⟩
  rw [Heap.load_alloc, if_neg (Nat.ne_of_gt gone.below)]
  exact gone.absent

end Gone

/-- The same objects are alive, and no address is handed out. -/
structure Uses (before after : Heap Object) : Prop where
  next_address : after.next = before.next
  alive : ∀ address, (∃ object, after.load address = some object) ↔
    ∃ object, before.load address = some object

namespace Uses

variable {before middle after : Heap Object} {address : Address} {object : Object}

theorem refl (heap : Heap Object) : Uses heap heap :=
  ⟨rfl, fun _ => Iff.rfl⟩

theorem trans (first : Uses before middle) (second : Uses middle after) : Uses before after :=
  ⟨second.next_address.trans first.next_address,
    fun address => (second.alive address).trans (first.alive address)⟩

theorem gone {other : Address} (uses : Uses before after) (gone : Gone before other) :
    Gone after other := by
  refine ⟨uses.next_address ▸ gone.below, ?_⟩
  cases loaded : after.load other with
  | none => rfl
  | some object =>
      rcases (uses.alive other).mp ⟨object, loaded⟩ with ⟨previous, loadedBefore⟩
      rw [gone.absent] at loadedBefore
      cases loadedBefore

theorem store (stored : before.store address object = some after) : Uses before after where
  next_address := (Heap.store_eq_some_iff.mp stored).2.1
  alive := by
    rcases Heap.store_eq_some_iff.mp stored with ⟨present, _, loads⟩
    intro other
    rw [loads]
    split
    · next same => exact same ▸ iff_of_true ⟨object, rfl⟩ present
    · exact Iff.rfl

end Uses

section Evolution

variable [Ord Key] [Std.TransOrd Key] {owner owner' : FiniteMap Key Address} {heap' : Heap Object}

/-- What a program may do to a map of pointers and the objects it leads to:
use objects, put a new object under a new key, and free an object and remove
its key. -/
inductive Maintains (owner : FiniteMap Key Address) (heap : Heap Object) :
    FiniteMap Key Address → Heap Object → Prop where
  | used (after : Heap Object) (uses : Uses heap after) : Maintains owner heap owner after
  | added (key : Key) (object : Object) (absent : owner[key]? = none) :
      Maintains owner heap (owner.insert key heap.next) (heap.alloc object)
  | removed (key : Key) (address : Address) (after : Heap Object)
      (pointer : owner[key]? = some address) (gone : heap.free address = some after) :
      Maintains owner heap (owner.erase key) after

/-- What it should not do: free an object and leave the pointer. -/
structure Drops (owner : FiniteMap Key Address) (heap : Heap Object)
    (owner' : FiniteMap Key Address) (heap' : Heap Object) : Prop where
  same_pointers : owner' = owner
  freed : ∃ (key : Key) (address : Address), owner[key]? = some address ∧
    heap.free address = some heap'

/-- A pointer leads to an object that is gone. -/
def Dangling (owner : FiniteMap Key Address) (heap : Heap Object) : Prop :=
  ∃ (key : Key) (address : Address), owner[key]? = some address ∧ address < heap.next ∧
    heap.load address = none

theorem Holds.not_dangling (holds : Holds owner heap) : ¬ Dangling owner heap := by
  rintro ⟨key, address, pointer, _, absent⟩
  rcases holds.alive pointer with ⟨object, loaded⟩
  rw [absent] at loaded
  cases loaded

theorem Drops.dangling (drops : Drops owner heap owner' heap') : Dangling owner' heap' := by
  rcases drops with ⟨rfl, key, address, pointer, freeing⟩
  have gone := Gone.of_free freeing
  exact ⟨key, address, pointer, gone.below, gone.absent⟩

theorem StoresAll.of_drops (stores : StoresAll owner heap)
    (drops : Drops owner heap owner' heap') : StoresAll owner' heap' := by
  rcases drops with ⟨rfl, key, address, pointer, gone⟩
  intro other object loaded
  rw [(Heap.free_eq_some_iff.mp gone).2.2] at loaded
  split at loaded
  · cases loaded
  · exact stores other object loaded

/-- A freed object does not come back, since its address is not handed out
again. -/
theorem Dangling.of_drops (dangling : Dangling owner heap)
    (drops : Drops owner heap owner' heap') : Dangling owner' heap' := by
  rcases drops with ⟨rfl, _, other, _, freeing⟩
  rcases dangling with ⟨key, address, pointer, below, absent⟩
  have gone := Gone.free ⟨below, absent⟩ freeing
  exact ⟨key, address, pointer, gone.below, gone.absent⟩

variable [Std.LawfulEqOrd Key] [DecidableEq Key]

theorem StoresAll.of_maintains (stores : StoresAll owner heap)
    (maintains : Maintains owner heap owner' heap') : StoresAll owner' heap' := by
  cases maintains with
  | used _ uses =>
      intro address object loaded
      rcases (uses.alive address).mp ⟨object, loaded⟩ with ⟨previous, loadedBefore⟩
      exact stores address previous loadedBefore
  | added key object absent => exact stores.alloc absent object
  | removed key address _ pointer gone => exact stores.free pointer gone

theorem Holds.of_maintains (holds : Holds owner heap)
    (maintains : Maintains owner heap owner' heap') :
    Holds owner' heap' := by
  cases maintains with
  | used _ uses => exact ⟨fun pointer => (uses.alive _).mpr (holds.alive pointer), holds.injective⟩
  | added key object => exact holds.alloc key object
  | removed key address _ pointer gone => exact holds.free pointer gone

theorem Dangling.of_maintains (dangling : Dangling owner heap)
    (maintains : Maintains owner heap owner' heap') : Dangling owner' heap' := by
  rcases dangling with ⟨key, address, pointer, below, absent⟩
  cases maintains with
  | used _ uses =>
      have gone := uses.gone ⟨below, absent⟩
      exact ⟨key, address, pointer, gone.below, gone.absent⟩
  | added other object unknown =>
      have different : other ≠ key := by
        rintro rfl
        rw [unknown] at pointer
        cases pointer
      have gone := Gone.alloc ⟨below, absent⟩ object
      refine ⟨key, address, ?_, gone.below, gone.absent⟩
      rw [Std.ExtTreeMap.getElem?_insert, if_neg (mt Std.compare_eq_iff_eq.mp different)]
      exact pointer
  | removed other freed _ pointer' freeing =>
      rcases Heap.free_eq_some_iff.mp freeing with ⟨⟨object, loaded⟩, _⟩
      have gone := Gone.free ⟨below, absent⟩ freeing
      have different : other ≠ key := by
        rintro rfl
        rw [Option.mem_unique pointer' pointer, absent] at loaded
        cases loaded
      refine ⟨key, address, ?_, gone.below, gone.absent⟩
      rw [FiniteMap.getElem?_erase_eq, if_neg different]
      exact pointer

end Evolution

/-! ## The entries of a map -/

section Owner

variable [Ord Key] [Std.TransOrd Key] [Std.LawfulEqOrd Key]
  {owner : FiniteMap Key Address}

theorem mem_addresses_iff {address : Address} :
    address ∈ owner.toList.map Prod.snd ↔ ∃ key : Key, owner[key]? = some address := by
  simp only [List.mem_map, Prod.exists, exists_eq_right,
    Std.ExtTreeMap.mem_toList_iff_getElem?_eq_some]

/-- Every pointer leads to an object of its own. -/
theorem holds_iff_entries :
    Holds owner heap ↔ (owner.toList.map Prod.snd).Nodup ∧
      ∀ entry ∈ owner.toList, ∃ object, heap.load entry.2 = some object := by
  constructor
  · intro holds
    refine ⟨?_, ?_⟩
    · refine List.pairwise_map.mpr (Std.ExtTreeMap.distinct_keys_toList.imp_of_mem ?_)
      intro first second isFirst isSecond different same
      rw [Std.ExtTreeMap.mem_toList_iff_getElem?_eq_some] at isFirst isSecond
      exact different (Std.compare_eq_iff_eq.mpr (holds.injective isFirst (same ▸ isSecond)))
    · intro entry member
      rw [Std.ExtTreeMap.mem_toList_iff_getElem?_eq_some] at member
      exact holds.alive member
  · rintro ⟨distinct, alive⟩
    refine ⟨?_, ?_⟩
    · intro key address pointer
      exact alive (key, address) (Std.ExtTreeMap.mem_toList_iff_getElem?_eq_some.mpr pointer)
    · intro key other address first second
      have entries := List.inj_on_of_nodup_map distinct
        (Std.ExtTreeMap.mem_toList_iff_getElem?_eq_some.mpr first)
        (Std.ExtTreeMap.mem_toList_iff_getElem?_eq_some.mpr second) rfl
      exact congrArg Prod.fst entries

/-- The loop is defined when the map holds its objects and the destructors
are defined. -/
theorem deleteEach_toList_eq_some_iff :
    deleteEach destroy owner.toList heap rest = some (freed, after, effects) ↔
      Holds owner heap ∧
        destroyEach destroy (objectsOf heap owner.toList) rest = some (after, effects) ∧
        freed.next = heap.next ∧ ∀ address, freed.load address =
          if address ∈ owner.toList.map Prod.snd then none else heap.load address := by
  rw [deleteEach_eq_some_iff, holds_iff_entries, and_assoc]

theorem StoresAll.load_deleted (stores : StoresAll owner heap)
    (done : deleteEach destroy owner.toList heap rest = some (freed, after, effects))
    (address : Address) : freed.load address = none := by
  rcases deleteEach_toList_eq_some_iff.mp done with ⟨_, _, _, loads⟩
  rw [loads]
  split
  · rfl
  · next unpointed =>
    cases loaded : heap.load address with
    | none => rfl
    | some object => exact absurd (mem_addresses_iff.mpr (stores address object loaded)) unpointed

/-- A loop over a map that holds its objects frees them, if the destructors
are defined. -/
theorem Holds.exists_deleteEach (holds : Holds owner heap)
    (destroyed : destroyEach destroy (objectsOf heap owner.toList) rest = some (after, effects)) :
    ∃ freed, deleteEach destroy owner.toList heap rest = some (freed, after, effects) := by
  have general : ∀ entries : List (Key × Address), (∀ entry ∈ entries, entry ∈ owner.toList) →
      (entries.map Prod.snd).Nodup → ∃ freed : Heap Object, freed.next = heap.next ∧
        ∀ address, freed.load address =
          if address ∈ entries.map Prod.snd then none else heap.load address := by
    intro entries
    induction entries with
    | nil => exact fun _ _ => ⟨heap, rfl, fun _ => (if_neg List.not_mem_nil).symm⟩
    | cons entry entries inductionHypothesis =>
        intro inside distinct
        rw [List.map_cons, List.nodup_cons] at distinct
        rcases inductionHypothesis
            (fun other member => inside other (List.mem_cons_of_mem _ member))
          distinct.2 with ⟨between, sameNext, loads⟩
        rcases (holds_iff_entries.mp holds).2 entry (inside entry List.mem_cons_self) with
          ⟨object, loaded⟩
        have loadedBetween : between.load entry.2 = some object := by
          rw [loads, if_neg distinct.1, loaded]
        rcases Heap.exists_free loadedBetween with ⟨freed, gone⟩
        refine ⟨freed, (Heap.free_eq_some_iff.mp gone).2.1.trans sameNext, fun address => ?_⟩
        rw [(Heap.free_eq_some_iff.mp gone).2.2, loads, List.map_cons]
        by_cases same : entry.2 = address
        · rw [if_pos same, if_pos (List.mem_cons.mpr (.inl same.symm))]
        · simp only [List.mem_cons, Ne.symm same, false_or, if_neg same]
  rcases general owner.toList (fun _ member => member) (holds_iff_entries.mp holds).1 with
    ⟨freed, sameNext, loads⟩
  exact ⟨freed, deleteEach_toList_eq_some_iff.mpr ⟨holds, destroyed, sameNext, loads⟩⟩

end Owner

end General
end Pxc
