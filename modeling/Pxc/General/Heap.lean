import Pxc.General.FiniteMaps

namespace Pxc
namespace General

/-!
# A heap of objects of one type

Objects live at addresses that the heap hands out in increasing order and
never twice.  Using an address whose object was freed has no defined result,
so a program that depends on the reuse of an address is undefined anyway.

Every object of a heap has an address below the next one, which is a field of
the structure: a heap with an object at an address still to be handed out
cannot be built.
-/

universe u v

/-- The address of an object. -/
abbrev Address := Nat

/-- The objects that are alive, and the next address. -/
structure Heap (Object : Type u) where
  objects : FiniteMap Address Object
  next : Address
  allocated : ∀ address ∈ objects, address < next

namespace Heap

variable {Object : Type u}

def empty : Heap Object where
  objects := ∅
  next := 0
  allocated := by
    intro address member
    exact absurd member Std.ExtTreeMap.not_mem_empty

/-- The object at an address, if it is alive. -/
def load (heap : Heap Object) (address : Address) : Option Object :=
  heap.objects[address]?

/-- A new object at the next address. -/
def alloc (heap : Heap Object) (object : Object) : Heap Object where
  objects := heap.objects.insert heap.next object
  next := heap.next + 1
  allocated := by
    intro address member
    rw [Std.ExtTreeMap.mem_insert, Std.compare_eq_iff_eq] at member
    rcases member with same | old
    · exact same ▸ Nat.lt_succ_self heap.next
    · exact Nat.lt_succ_of_lt (heap.allocated address old)

/-- Overwrite a living object: undefined when there is none. -/
def store (heap : Heap Object) (address : Address) (object : Object) : Option (Heap Object) :=
  if member : address ∈ heap.objects then
    some { heap with
      objects := heap.objects.insert address object
      allocated := by
        intro other found
        rw [Std.ExtTreeMap.mem_insert, Std.compare_eq_iff_eq] at found
        rcases found with rfl | old
        · exact heap.allocated _ member
        · exact heap.allocated other old }
  else none

/-- Free a living object: undefined when there is none. -/
def free (heap : Heap Object) (address : Address) : Option (Heap Object) :=
  if address ∈ heap.objects then
    some { heap with
      objects := heap.objects.erase address
      allocated := fun other found =>
        heap.allocated other (Std.ExtTreeMap.mem_of_mem_erase found) }
  else none

variable {heap changed : Heap Object} {address other : Address} {object previous : Object}

@[ext] theorem ext {first second : Heap Object} (sameNext : first.next = second.next)
    (sameObjects : ∀ address, first.load address = second.load address) : first = second := by
  have objects : first.objects = second.objects := by
    apply Std.ExtTreeMap.ext_getElem?
    intro address
    exact sameObjects address
  cases first
  cases second
  cases sameNext
  cases objects
  rfl

theorem lt_next_of_load (found : heap.load address = some object) : address < heap.next :=
  heap.allocated address (FiniteMap.mem_of_getElem? found)

theorem load_alloc (heap : Heap Object) (object : Object) (address : Address) :
    (heap.alloc object).load address =
      if heap.next = address then some object else heap.load address := by
  simp only [load, alloc, Std.ExtTreeMap.getElem?_insert, Std.compare_eq_iff_eq]

@[simp] theorem next_alloc (heap : Heap Object) (object : Object) :
    (heap.alloc object).next = heap.next + 1 :=
  rfl

theorem store_eq_some_iff :
    heap.store address object = some changed ↔
      (∃ previous, heap.load address = some previous) ∧ changed.next = heap.next ∧
        ∀ other, changed.load other = if address = other then some object else heap.load other := by
  have stored : ∀ other, (heap.objects.insert address object)[other]? =
      if address = other then some object else heap.load other := by
    intro other
    simp only [load, Std.ExtTreeMap.getElem?_insert, Std.compare_eq_iff_eq]
  by_cases member : address ∈ heap.objects
  · simp only [store, dif_pos member, Option.some.injEq]
    constructor
    · rintro rfl
      exact ⟨FiniteMap.exists_of_mem member, rfl, stored⟩
    · rintro ⟨_, sameNext, loads⟩
      exact Heap.ext sameNext.symm fun other => (stored other).trans (loads other).symm
  · simp only [store, dif_neg member, reduceCtorEq, false_iff]
    rintro ⟨⟨previous, found⟩, _⟩
    exact member (FiniteMap.mem_of_getElem? found)

theorem store_same (found : heap.load address = some object) :
    heap.store address object = some heap := by
  refine store_eq_some_iff.mpr ⟨⟨object, found⟩, rfl, fun other => ?_⟩
  by_cases same : address = other
  · rw [if_pos same, ← same, found]
  · rw [if_neg same]

theorem exists_store (found : heap.load address = some previous) (object : Object) :
    ∃ changed, heap.store address object = some changed := by
  have member : address ∈ heap.objects := FiniteMap.mem_of_getElem? found
  simp only [store, dif_pos member, Option.some.injEq, exists_eq']

theorem map_load_store {Observed : Type v} {observe : Object → Observed}
    (found : heap.load address = some previous)
    (stored : heap.store address object = some changed) (same : observe object = observe previous)
    (other : Address) : (changed.load other).map observe = (heap.load other).map observe := by
  rcases store_eq_some_iff.mp stored with ⟨_, _, loads⟩
  rw [loads]
  by_cases equal : address = other
  · rw [if_pos equal, ← equal, found, Option.map_some, Option.map_some, same]
  · rw [if_neg equal]

theorem free_eq_some_iff :
    heap.free address = some changed ↔
      (∃ previous, heap.load address = some previous) ∧ changed.next = heap.next ∧
        ∀ other, changed.load other = if address = other then none else heap.load other := by
  have erased : ∀ other, (heap.objects.erase address)[other]? =
      if address = other then none else heap.load other :=
    FiniteMap.getElem?_erase_eq heap.objects address
  by_cases member : address ∈ heap.objects
  · simp only [free, if_pos member, Option.some.injEq]
    constructor
    · rintro rfl
      exact ⟨FiniteMap.exists_of_mem member, rfl, erased⟩
    · rintro ⟨_, sameNext, loads⟩
      exact Heap.ext sameNext.symm fun other => (erased other).trans (loads other).symm
  · simp only [free, if_neg member, reduceCtorEq, false_iff]
    rintro ⟨⟨previous, found⟩, _⟩
    exact member (FiniteMap.mem_of_getElem? found)

theorem exists_free (found : heap.load address = some object) :
    ∃ changed, heap.free address = some changed := by
  have member : address ∈ heap.objects := FiniteMap.mem_of_getElem? found
  simp only [free, if_pos member, Option.some.injEq, exists_eq']

end Heap

end General
end Pxc
