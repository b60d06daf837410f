import Pxc.General.Heap

namespace Pxc
namespace General

/-!
# Maps of pointers to the objects of a heap

A program that finds its objects by a key keeps a map of pointers to them.
Such a map *holds* its objects when every pointer in it leads to a living
object and no two keys share one.  The map and the heap together then behave
like one map from keys to objects: a new object, a changed object and a freed
object change the entry of one key.  The map *owns* its objects when each
carries the key of its pointer, so that no two keys can share it.  It *stores*
them all when no object is alive that has no pointer in the map.

Further tables of pointers *borrow* from an owner when each of their entries
is also an entry of the owner.  A borrowed table never leads to a freed
object, provided the key is taken out of it before the owner frees the object.
-/

universe u v

variable {Key : Type u} {Object : Type v} [Ord Key] [Std.TransOrd Key]

/-- The object that the pointer under a key leads to, if it is alive. -/
def find (owner : FiniteMap Key Address) (heap : Heap Object) (key : Key) : Option Object :=
  owner[key]?.bind heap.load

/-- Every pointer leads to a living object, and no two keys share one. -/
structure Holds (owner : FiniteMap Key Address) (heap : Heap Object) : Prop where
  alive : ∀ {key : Key} {address : Address}, owner[key]? = some address →
    ∃ object, heap.load address = some object
  injective : ∀ {key other : Key} {address : Address}, owner[key]? = some address →
    owner[other]? = some address → key = other

/-- Every living object has a pointer. -/
def StoresAll (owner : FiniteMap Key Address) (heap : Heap Object) : Prop :=
  ∀ (address : Address) (object : Object), heap.load address = some object →
    ∃ key : Key, owner[key]? = some address

/-- Every pointer leads to a living object that carries the pointer's key. -/
def Owns (keyOf : Object → Key) (owner : FiniteMap Key Address) (heap : Heap Object) : Prop :=
  ∀ (key : Key) (address : Address), owner[key]? = some address →
    ∃ object, heap.load address = some object ∧ keyOf object = key

/-- Every pointer was handed out, and leads to an object that carries the
pointer's key or to one that was freed. -/
structure Labels (keyOf : Object → Key) (owner : FiniteMap Key Address) (heap : Heap Object) :
    Prop where
  allocated : ∀ (key : Key) (address : Address), owner[key]? = some address → address < heap.next
  carries : ∀ (key : Key) (address : Address) (object : Object), owner[key]? = some address →
    heap.load address = some object → keyOf object = key

/-- Every entry of the table is an entry of the owner. -/
def Borrows (table owner : FiniteMap Key Address) : Prop :=
  ∀ (key : Key) (address : Address), table[key]? = some address → owner[key]? = some address

section Find

variable {owner : FiniteMap Key Address} {heap : Heap Object} {key : Key} {address : Address}
  {object : Object}

theorem find_eq_some_iff :
    find owner heap key = some object ↔
      ∃ address, owner[key]? = some address ∧ heap.load address = some object :=
  Option.bind_eq_some_iff

theorem find_of_pointer (pointer : owner[key]? = some address) :
    find owner heap key = heap.load address := by
  rw [find, pointer, Option.bind_some]

theorem find_of_absent (absent : owner[key]? = none) : find owner heap key = none := by
  rw [find, absent, Option.bind_none]

end Find

namespace Holds

variable {owner : FiniteMap Key Address} {heap changed : Heap Object} {key other : Key}
  {address address' : Address} {object previous : Object}

theorem empty : Holds (∅ : FiniteMap Key Address) (Heap.empty : Heap Object) := by
  constructor
  · intro key address pointer
    rw [Std.ExtTreeMap.getElem?_empty] at pointer
    cases pointer
  · intro key other address pointer
    rw [Std.ExtTreeMap.getElem?_empty] at pointer
    cases pointer

theorem address_ne (holds : Holds owner heap) (first : owner[key]? = some address)
    (second : owner[other]? = some address') (different : key ≠ other) : address ≠ address' := by
  intro equal
  exact different (holds.injective first (equal ▸ second))

theorem ne_next (holds : Holds owner heap) (pointer : owner[key]? = some address) :
    heap.next ≠ address := by
  rcases holds.alive pointer with ⟨object, found⟩
  exact Nat.ne_of_gt (Heap.lt_next_of_load found)

theorem mem_iff (holds : Holds owner heap) :
    key ∈ owner ↔ ∃ object, find owner heap key = some object := by
  constructor
  · intro member
    rcases FiniteMap.exists_of_mem member with ⟨address, pointer⟩
    rcases holds.alive pointer with ⟨object, found⟩
    exact ⟨object, (find_of_pointer pointer).trans found⟩
  · intro known
    rcases known with ⟨object, found⟩
    rcases find_eq_some_iff.mp found with ⟨address, pointer, _⟩
    exact FiniteMap.mem_of_getElem? pointer

theorem find_eq_none_iff (holds : Holds owner heap) :
    find owner heap key = none ↔ owner[key]? = none := by
  rw [FiniteMap.getElem?_eq_none_iff, holds.mem_iff, ← Option.isSome_iff_exists,
    Option.not_isSome_iff_eq_none]

/-- An object without a pointer does no harm to the others. -/
theorem alloc_unstored (holds : Holds owner heap) (object : Object) :
    Holds owner (heap.alloc object) where
  alive := by
    intro key address pointer
    rcases holds.alive pointer with ⟨previous, found⟩
    exact ⟨previous, by rw [Heap.load_alloc, if_neg (holds.ne_next pointer), found]⟩
  injective := holds.injective

theorem store (holds : Holds owner heap) (stored : heap.store address object = some changed) :
    Holds owner changed where
  alive := by
    intro key other pointer
    rw [(Heap.store_eq_some_iff.mp stored).2.2]
    split
    · exact ⟨object, rfl⟩
    · exact holds.alive pointer
  injective := holds.injective

section Updates

variable [Std.LawfulEqOrd Key] [DecidableEq Key]

theorem find_alloc (holds : Holds owner heap) (object : Object) (other : Key) :
    find (owner.insert key heap.next) (heap.alloc object) other =
      if key = other then some object else find owner heap other := by
  by_cases same : key = other
  · rw [if_pos same, find, same, Std.ExtTreeMap.getElem?_insert_self, Option.bind_some,
      Heap.load_alloc, if_pos rfl]
  · rw [if_neg same, find, Std.ExtTreeMap.getElem?_insert]
    simp only [Std.compare_eq_iff_eq, if_neg same, find]
    cases pointer : owner[other]? with
    | none => rfl
    | some address =>
        rw [Option.bind_some, Option.bind_some, Heap.load_alloc, if_neg (holds.ne_next pointer)]

omit [Std.LawfulEqOrd Key] in
theorem find_store (holds : Holds owner heap) (pointer : owner[key]? = some address)
    (stored : heap.store address object = some changed) (other : Key) :
    find owner changed other = if key = other then some object else find owner heap other := by
  rcases Heap.store_eq_some_iff.mp stored with ⟨_, _, loads⟩
  by_cases same : key = other
  · rw [if_pos same, ← same, find_of_pointer pointer, loads, if_pos rfl]
  · rw [if_neg same, find, find]
    cases pointer' : owner[other]? with
    | none => rfl
    | some address' =>
        rw [Option.bind_some, Option.bind_some, loads,
          if_neg (holds.address_ne pointer pointer' same)]

theorem find_free (holds : Holds owner heap) (pointer : owner[key]? = some address)
    (freed : heap.free address = some changed) (other : Key) :
    find (owner.erase key) changed other = if key = other then none else find owner heap other := by
  rcases Heap.free_eq_some_iff.mp freed with ⟨_, _, loads⟩
  rw [find, FiniteMap.getElem?_erase_eq]
  by_cases same : key = other
  · rw [if_pos same, if_pos same, Option.bind_none]
  · rw [if_neg same, if_neg same, find]
    cases pointer' : owner[other]? with
    | none => rfl
    | some address' =>
        rw [Option.bind_some, Option.bind_some, loads,
          if_neg (holds.address_ne pointer pointer' same)]

omit [DecidableEq Key] in
theorem alloc (holds : Holds owner heap) (key : Key) (object : Object) :
    Holds (owner.insert key heap.next) (heap.alloc object) := by
  have cases : ∀ {other : Key} {address : Address},
      (owner.insert key heap.next)[other]? = some address →
        key = other ∧ heap.next = address ∨ owner[other]? = some address := by
    intro other address pointer
    rw [Std.ExtTreeMap.getElem?_insert] at pointer
    split at pointer
    · next same => exact .inl ⟨Std.compare_eq_iff_eq.mp same, Option.some.inj pointer⟩
    · exact .inr pointer
  constructor
  · intro other address pointer
    rw [Heap.load_alloc]
    split
    · exact ⟨object, rfl⟩
    · next different =>
      rcases cases pointer with ⟨_, same⟩ | pointer
      · exact absurd same different
      · exact holds.alive pointer
  · intro first second address atFirst atSecond
    rcases cases atFirst with ⟨sameFirst, newFirst⟩ | atFirst <;>
      rcases cases atSecond with ⟨sameSecond, newSecond⟩ | atSecond
    · exact sameFirst.symm.trans sameSecond
    · exact absurd newFirst (holds.ne_next atSecond)
    · exact absurd newSecond (holds.ne_next atFirst)
    · exact holds.injective atFirst atSecond

theorem free (holds : Holds owner heap) (pointer : owner[key]? = some address)
    (freed : heap.free address = some changed) : Holds (owner.erase key) changed where
  alive := by
    intro other address' pointer'
    rw [FiniteMap.getElem?_erase_eq] at pointer'
    split at pointer'
    · cases pointer'
    · next different =>
      rw [(Heap.free_eq_some_iff.mp freed).2.2,
        if_neg (holds.address_ne pointer pointer' different)]
      exact holds.alive pointer'
  injective := by
    intro first second address' atFirst atSecond
    rw [FiniteMap.getElem?_erase_eq] at atFirst atSecond
    split at atFirst
    · cases atFirst
    · split at atSecond
      · cases atSecond
      · exact holds.injective atFirst atSecond

end Updates

end Holds

namespace StoresAll

variable {owner : FiniteMap Key Address} {heap changed : Heap Object} {key : Key}
  {address : Address} {object : Object}

theorem empty : StoresAll (∅ : FiniteMap Key Address) (Heap.empty : Heap Object) := by
  intro address object found
  rw [Heap.load, Heap.empty, Std.ExtTreeMap.getElem?_empty] at found
  cases found

theorem store (stores : StoresAll owner heap) (pointer : owner[key]? = some address)
    (stored : heap.store address object = some changed) : StoresAll owner changed := by
  intro other object' found
  rw [(Heap.store_eq_some_iff.mp stored).2.2] at found
  split at found
  · next same =>
    subst same
    exact ⟨key, pointer⟩
  · exact stores other object' found

/-- A new object without a pointer is missing from the map. -/
theorem not_alloc_unstored (holds : Holds owner heap) (object : Object) :
    ¬ StoresAll owner (heap.alloc object) := by
  intro stores
  have found : (heap.alloc object).load heap.next = some object := by
    rw [Heap.load_alloc, if_pos rfl]
  rcases stores heap.next object found with ⟨key, pointer⟩
  exact holds.ne_next pointer rfl

variable [Std.LawfulEqOrd Key] [DecidableEq Key]

omit [DecidableEq Key] in
theorem alloc (stores : StoresAll owner heap) (absent : owner[key]? = none) (object : Object) :
    StoresAll (owner.insert key heap.next) (heap.alloc object) := by
  intro address other found
  rw [Heap.load_alloc] at found
  split at found
  · next same =>
    subst same
    exact ⟨key, Std.ExtTreeMap.getElem?_insert_self⟩
  · rcases stores address other found with ⟨key', pointer⟩
    refine ⟨key', ?_⟩
    rw [Std.ExtTreeMap.getElem?_insert]
    split
    · next same =>
      rw [← Std.compare_eq_iff_eq.mp same, absent] at pointer
      cases pointer
    · exact pointer

theorem free (stores : StoresAll owner heap) (pointer : owner[key]? = some address)
    (freed : heap.free address = some changed) : StoresAll (owner.erase key) changed := by
  intro other object' found
  rw [(Heap.free_eq_some_iff.mp freed).2.2] at found
  split at found
  · cases found
  · next different =>
    rcases stores other object' found with ⟨key', pointer'⟩
    refine ⟨key', ?_⟩
    rw [FiniteMap.getElem?_erase_eq, if_neg, pointer']
    intro same
    subst same
    exact different (Option.mem_unique pointer pointer')

end StoresAll

section ChangeAll

variable {heap : Heap Object} {owner : FiniteMap Key Address}

/-- The object at one address is changed: undefined when there is none. -/
def Heap.changeAt (change : Object → Object) (heap : Heap Object) (address : Address) :
    Option (Heap Object) :=
  (heap.load address).bind fun object => heap.store address (change object)

/-- Every object that a map leads to is changed, in the order of the keys. -/
def changeAll (change : Object → Object) (owner : FiniteMap Key Address) (heap : Heap Object) :
    Option (Heap Object) :=
  owner.toList.foldlM (fun heap entry => heap.changeAt change entry.2) heap

omit [Ord Key] [Std.TransOrd Key] in
/-- Objects at different addresses are changed once each. -/
theorem exists_changeEach (change : Object → Object) (heap : Heap Object)
    {entries : List (Key × Address)} (distinct : (entries.map Prod.snd).Nodup)
    (alive : ∀ address ∈ entries.map Prod.snd, ∃ object, heap.load address = some object) :
    ∃ changed,
      entries.foldlM (fun heap entry => heap.changeAt change entry.2) heap = some changed ∧
      ∀ address, changed.load address =
        if address ∈ entries.map Prod.snd then (heap.load address).map change
        else heap.load address := by
  induction entries generalizing heap with
  | nil => exact ⟨heap, rfl, fun address => (if_neg List.not_mem_nil).symm⟩
  | cons entry rest inductionHypothesis =>
      rw [List.map_cons, List.nodup_cons] at distinct
      rw [List.map_cons, List.forall_mem_cons] at alive
      rcases alive.1 with ⟨object, found⟩
      rcases Heap.exists_store found (change object) with ⟨middle, stored⟩
      have loads := (Heap.store_eq_some_iff.mp stored).2.2
      have others : ∀ address ∈ rest.map Prod.snd, middle.load address = heap.load address := by
        intro address member
        rw [loads, if_neg]
        exact fun same => distinct.1 (same ▸ member)
      rcases inductionHypothesis middle distinct.2 (fun address member => by
        rw [others address member]
        exact alive.2 address member) with ⟨changed, onwards, loadsRest⟩
      refine ⟨changed, ?_, fun address => ?_⟩
      · rw [List.foldlM_cons, Heap.changeAt, found, Option.bind_some, stored]
        exact onwards
      · rw [loadsRest]
        simp only [List.map_cons, List.mem_cons]
        by_cases member : address ∈ rest.map Prod.snd
        · rw [if_pos member, if_pos (Or.inr member), others address member]
        · rw [if_neg member, loads]
          by_cases same : entry.2 = address
          · rw [if_pos same, if_pos (Or.inl same.symm), ← same, found, Option.map_some]
          · rw [if_neg same, if_neg]
            exact fun either => either.elim (fun equal => same equal.symm) member

/-- A map that holds its objects changes each of them once, and nothing else
about itself. -/
theorem Holds.exists_changeAll [Std.LawfulEqOrd Key] (holds : Holds owner heap)
    (change : Object → Object) :
    ∃ changed, changeAll change owner heap = some changed ∧ Holds owner changed ∧
      ∀ key, find owner changed key = (find owner heap key).map change := by
  have member : ∀ address, address ∈ owner.toList.map Prod.snd ↔
      ∃ key : Key, owner[key]? = some address := by
    intro address
    simp only [List.mem_map, Prod.exists, exists_eq_right,
      Std.ExtTreeMap.mem_toList_iff_getElem?_eq_some]
  have distinct : (owner.toList.map Prod.snd).Nodup := by
    refine List.pairwise_map.mpr (Std.ExtTreeMap.distinct_keys_toList.imp_of_mem ?_)
    intro first second isFirst isSecond different same
    rw [Std.ExtTreeMap.mem_toList_iff_getElem?_eq_some] at isFirst isSecond
    exact different (Std.compare_eq_iff_eq.mpr (holds.injective isFirst (same ▸ isSecond)))
  rcases exists_changeEach change heap distinct (fun address inside => by
    rcases (member address).mp inside with ⟨key, pointer⟩
    exact holds.alive pointer) with ⟨changed, done, loads⟩
  refine ⟨changed, done, ⟨?_, holds.injective⟩, ?_⟩
  · intro key address pointer
    rcases holds.alive pointer with ⟨object, found⟩
    exact ⟨change object, by rw [loads, if_pos ((member address).mpr ⟨key, pointer⟩), found,
      Option.map_some]⟩
  · intro key
    rw [find, find]
    cases pointer : owner[key]? with
    | none => rfl
    | some address =>
        rw [Option.bind_some, Option.bind_some, loads,
          if_pos ((member address).mpr ⟨key, pointer⟩)]

end ChangeAll

namespace Owns

variable {keyOf : Object → Key} {owner : FiniteMap Key Address} {heap changed : Heap Object}
  {key other : Key} {address : Address} {object previous : Object}

theorem empty : Owns keyOf (∅ : FiniteMap Key Address) (Heap.empty : Heap Object) := by
  intro key address pointer
  rw [Std.ExtTreeMap.getElem?_empty] at pointer
  cases pointer

theorem injective (owns : Owns keyOf owner heap) (first : owner[key]? = some address)
    (second : owner[other]? = some address) : key = other := by
  rcases owns key address first with ⟨object, found, carries⟩
  rcases owns other address second with ⟨object', found', carries'⟩
  have same : object = object' := Option.mem_unique found found'
  subst same
  exact carries.symm.trans carries'

theorem holds (owns : Owns keyOf owner heap) : Holds owner heap where
  alive := by
    intro key address pointer
    rcases owns key address pointer with ⟨object, found, _⟩
    exact ⟨object, found⟩
  injective := owns.injective

theorem find_of_pointer (owns : Owns keyOf owner heap) (pointer : owner[key]? = some address) :
    ∃ object, find owner heap key = some object ∧ heap.load address = some object ∧
      keyOf object = key := by
  rcases owns key address pointer with ⟨object, found, carries⟩
  exact ⟨object, (General.find_of_pointer pointer).trans found, found, carries⟩

theorem mem_iff (owns : Owns keyOf owner heap) :
    key ∈ owner ↔ ∃ object, find owner heap key = some object :=
  owns.holds.mem_iff

theorem find_eq_none_iff (owns : Owns keyOf owner heap) :
    find owner heap key = none ↔ owner[key]? = none :=
  owns.holds.find_eq_none_iff

theorem key_of_find (owns : Owns keyOf owner heap) (found : find owner heap key = some object) :
    keyOf object = key := by
  rcases find_eq_some_iff.mp found with ⟨address, pointer, loaded⟩
  rcases owns key address pointer with ⟨object', loaded', carries⟩
  have same : object = object' := Option.mem_unique loaded loaded'
  subst same
  exact carries

/-- If every object has a pointer, it is the one under the object's key. -/
theorem pointer_of_load (owns : Owns keyOf owner heap) (stores : StoresAll owner heap)
    (loaded : heap.load address = some object) : owner[keyOf object]? = some address := by
  rcases stores address object loaded with ⟨key, pointer⟩
  rcases owns key address pointer with ⟨object', found, carries⟩
  have same : object = object' := Option.mem_unique loaded found
  subst same
  exact carries ▸ pointer

theorem ne_next (owns : Owns keyOf owner heap) (pointer : owner[key]? = some address) :
    heap.next ≠ address :=
  owns.holds.ne_next pointer

theorem of_same_keys (owns : Owns keyOf owner heap)
    (same : ∀ address, (changed.load address).map keyOf = (heap.load address).map keyOf) :
    Owns keyOf owner changed := by
  intro key address pointer
  rcases owns key address pointer with ⟨object, found, carries⟩
  have kept := same address
  rw [found, Option.map_some, Option.map_eq_some_iff] at kept
  rcases kept with ⟨object', found', sameKey⟩
  exact ⟨object', found', sameKey.trans carries⟩

section Updates

variable [Std.LawfulEqOrd Key] [DecidableEq Key]

theorem find_alloc (owns : Owns keyOf owner heap) (object : Object) (other : Key) :
    find (owner.insert key heap.next) (heap.alloc object) other =
      if key = other then some object else find owner heap other :=
  owns.holds.find_alloc object other

theorem alloc (owns : Owns keyOf owner heap) (carries : keyOf object = key) :
    Owns keyOf (owner.insert key heap.next) (heap.alloc object) := by
  intro other address pointer
  rw [Std.ExtTreeMap.getElem?_insert] at pointer
  simp only [Std.compare_eq_iff_eq] at pointer
  by_cases same : key = other
  · rw [if_pos same, Option.some.injEq] at pointer
    exact ⟨object, by rw [Heap.load_alloc, if_pos pointer], carries.trans same⟩
  · rw [if_neg same] at pointer
    rcases owns other address pointer with ⟨object', found, carries'⟩
    exact ⟨object', by rw [Heap.load_alloc, if_neg (owns.ne_next pointer), found], carries'⟩

omit [Std.LawfulEqOrd Key] in
theorem find_store (owns : Owns keyOf owner heap) (pointer : owner[key]? = some address)
    (stored : heap.store address object = some changed) (other : Key) :
    find owner changed other = if key = other then some object else find owner heap other :=
  owns.holds.find_store pointer stored other

omit [Std.LawfulEqOrd Key] [DecidableEq Key] in
theorem store (owns : Owns keyOf owner heap) (pointer : owner[key]? = some address)
    (stored : heap.store address object = some changed) (carries : keyOf object = key) :
    Owns keyOf owner changed := by
  rcases Heap.store_eq_some_iff.mp stored with ⟨_, _, loads⟩
  intro other address' pointer'
  by_cases same : address = address'
  · subst same
    exact ⟨object, by rw [loads, if_pos rfl], carries.trans (owns.injective pointer pointer')⟩
  · rcases owns other address' pointer' with ⟨object', found, carries'⟩
    exact ⟨object', by rw [loads, if_neg same, found], carries'⟩

theorem find_free (owns : Owns keyOf owner heap) (pointer : owner[key]? = some address)
    (freed : heap.free address = some changed) (other : Key) :
    find (owner.erase key) changed other = if key = other then none else find owner heap other :=
  owns.holds.find_free pointer freed other

theorem free (owns : Owns keyOf owner heap) (pointer : owner[key]? = some address)
    (freed : heap.free address = some changed) : Owns keyOf (owner.erase key) changed := by
  rcases Heap.free_eq_some_iff.mp freed with ⟨_, _, loads⟩
  intro other address' pointer'
  rw [FiniteMap.getElem?_erase_eq] at pointer'
  by_cases same : key = other
  · rw [if_pos same] at pointer'
    cases pointer'
  · rw [if_neg same] at pointer'
    have different := owns.holds.address_ne pointer pointer' same
    rcases owns other address' pointer' with ⟨object', found, carries'⟩
    exact ⟨object', by rw [loads, if_neg different, found], carries'⟩

end Updates

end Owns

/-! ## Pointers that may be left behind -/

/-- Pointers that own their objects are labels in particular. -/
theorem Owns.labels {keyOf : Object → Key} {owner : FiniteMap Key Address} {heap : Heap Object}
    (owns : Owns keyOf owner heap) : Labels keyOf owner heap where
  allocated := by
    intro key address pointer
    rcases owns key address pointer with ⟨object, loaded, _⟩
    exact Heap.lt_next_of_load loaded
  carries := by
    intro key address object pointer loaded
    exact owns.key_of_find ((General.find_of_pointer pointer).trans loaded)

theorem Owns.of_finds [DecidableEq Key] {keyOf : Object → Key} {owner : FiniteMap Key Address}
    {heap changed : Heap Object} {key : Key} {object : Object} (owns : Owns keyOf owner heap)
    (finds : ∀ other, find owner changed other =
      if key = other then some object else find owner heap other)
    (carries : keyOf object = key) : Owns keyOf owner changed := by
  intro other address pointer
  rw [← General.find_of_pointer pointer, finds]
  by_cases same : key = other
  · exact ⟨object, if_pos same, carries.trans same⟩
  · rw [if_neg same, General.find_of_pointer pointer]
    exact owns other address pointer

namespace Labels

variable {keyOf : Object → Key} {owner : FiniteMap Key Address} {heap changed : Heap Object}
  {key other : Key} {address : Address} {object previous : Object}

theorem key_of_find (labels : Labels keyOf owner heap) (found : find owner heap key = some object) :
    keyOf object = key := by
  rcases find_eq_some_iff.mp found with ⟨address, pointer, loaded⟩
  exact labels.carries key address object pointer loaded

theorem injective (labels : Labels keyOf owner heap) (loaded : heap.load address = some object)
    (first : owner[key]? = some address) (second : owner[other]? = some address) : key = other :=
  (labels.carries key address object first loaded).symm.trans
    (labels.carries other address object second loaded)

variable [DecidableEq Key]

/-- A new object is found under the key it is entered under. -/
theorem find_alloc [Std.LawfulEqOrd Key] (labels : Labels keyOf owner heap) (object : Object)
    (other : Key) :
    find (owner.insert key heap.next) (heap.alloc object) other =
      if key = other then some object else find owner heap other := by
  rw [find, Std.ExtTreeMap.getElem?_insert]
  simp only [Std.compare_eq_iff_eq]
  by_cases same : key = other
  · rw [if_pos same, if_pos same, Option.bind_some, Heap.load_alloc, if_pos rfl]
  · rw [if_neg same, if_neg same, find]
    cases pointer : owner[other]? with
    | none => rfl
    | some address =>
        have below := labels.allocated other address pointer
        rw [Option.bind_some, Option.bind_some, Heap.load_alloc, if_neg (Nat.ne_of_gt below)]

/-- What happens to a living object is seen under its own key only. -/
theorem find_changed (labels : Labels keyOf owner heap)
    (pointer : owner[key]? = some address) (loaded : heap.load address = some previous)
    {found : Option Object}
    (loads : ∀ other, changed.load other = if address = other then found else heap.load other)
    (other : Key) :
    find owner changed other = if key = other then found else find owner heap other := by
  by_cases same : key = other
  · subst same
    rw [if_pos rfl, find_of_pointer pointer, loads, if_pos rfl]
  · rw [if_neg same, find, find]
    cases pointer' : owner[other]? with
    | none => rfl
    | some address' =>
        rw [Option.bind_some, Option.bind_some, loads, if_neg]
        intro sameAddress
        subst sameAddress
        exact same (labels.injective loaded pointer pointer')

theorem find_store (labels : Labels keyOf owner heap) (pointer : owner[key]? = some address)
    (stored : heap.store address object = some changed) (other : Key) :
    find owner changed other = if key = other then some object else find owner heap other := by
  rcases Heap.store_eq_some_iff.mp stored with ⟨⟨previous, loaded⟩, _, loads⟩
  exact labels.find_changed pointer loaded loads other

theorem find_free (labels : Labels keyOf owner heap) (pointer : owner[key]? = some address)
    (freed : heap.free address = some changed) (other : Key) :
    find owner changed other = if key = other then none else find owner heap other := by
  rcases Heap.free_eq_some_iff.mp freed with ⟨⟨previous, loaded⟩, _, loads⟩
  exact labels.find_changed pointer loaded loads other

end Labels

namespace Borrows

variable {table owner : FiniteMap Key Address} {key : Key} {address : Address}

theorem empty (owner : FiniteMap Key Address) : Borrows ∅ owner := by
  intro key address entry
  rw [Std.ExtTreeMap.getElem?_empty] at entry
  cases entry

variable [Std.LawfulEqOrd Key] [DecidableEq Key]

omit [DecidableEq Key] in
theorem insert (borrows : Borrows table owner) (pointer : owner[key]? = some address) :
    Borrows (table.insert key address) owner := by
  intro other address' entry
  rw [Std.ExtTreeMap.getElem?_insert] at entry
  split at entry
  · next same =>
    rw [Std.compare_eq_iff_eq] at same
    cases entry
    exact same ▸ pointer
  · exact borrows other address' entry

omit [DecidableEq Key] in
theorem insertIfNew (borrows : Borrows table owner) (pointer : owner[key]? = some address) :
    Borrows (table.insertIfNew key address) owner := by
  intro other address' entry
  rw [Std.ExtTreeMap.getElem?_insertIfNew] at entry
  split at entry
  · next new =>
    have same : key = other := Std.compare_eq_iff_eq.mp new.1
    cases entry
    exact same ▸ pointer
  · exact borrows other address' entry

theorem erase (borrows : Borrows table owner) (key : Key) : Borrows (table.erase key) owner := by
  intro other address' entry
  rw [FiniteMap.getElem?_erase_eq] at entry
  split at entry
  · cases entry
  · exact borrows other address' entry

omit [DecidableEq Key] in
/-- A table keeps its entries when the owner gets a new key. -/
theorem owner_insert (borrows : Borrows table owner) (absent : owner[key]? = none)
    (address : Address) : Borrows table (owner.insert key address) := by
  intro other address' entry
  have pointer := borrows other address' entry
  rw [Std.ExtTreeMap.getElem?_insert]
  split
  · next same =>
    rw [Std.compare_eq_iff_eq] at same
    rw [← same, absent] at pointer
    cases pointer
  · exact pointer

/-- A table that does not use a key survives its removal. -/
theorem owner_erase (borrows : Borrows table owner) (unused : table[key]? = none) :
    Borrows table (owner.erase key) := by
  intro other address' entry
  rw [FiniteMap.getElem?_erase_eq]
  split
  · next same =>
    rw [← same, unused] at entry
    cases entry
  · exact borrows other address' entry

end Borrows

end General
end Pxc
