import Mathlib.Data.List.Nodup
import Mathlib.Tactic.Common

namespace Pxc
namespace General

/-!
# Records laid out in memory

A record is a list of fields, placed in memory in their order.  Where exactly
a field starts is left to a layout rule, of which only this is assumed: no
field starts before the end of the fields declared before it.

One record type is used to write a block of memory and another one to read it.
The reader understands the writer when each of its fields holds the value that
the writer stored under the same label, for all values and whatever else the
memory contained.  This holds exactly when each field of the reader lies at
the place of a field of the writer with the same label and size.
-/

universe u

/-- The bytes of memory from the start of a record on. -/
abbrev Block :=
  Nat → UInt8

namespace Block

/-- Some consecutive bytes of a block. -/
def read (block : Block) (offset size : Nat) : List UInt8 :=
  (List.range size).map fun index => block (offset + index)

/-- Put some bytes into a block. -/
def write {size : Nat} (block : Block) (offset : Nat) (bytes : Vector UInt8 size) : Block :=
  fun index =>
    if inside : offset ≤ index ∧ index < offset + size then
      bytes.get ⟨index - offset, by omega⟩
    else block index

/-- The first bytes of one block, and all others of another. -/
def copy (size : Nat) (original fresh : Block) : Block :=
  fun index => if index < size then original index else fresh index

theorem read_congr {first second : Block} {offset size : Nat}
    (same : ∀ index < offset + size, first index = second index) :
    first.read offset size = second.read offset size := by
  apply List.map_congr_left
  intro index member
  apply same
  have bound := List.mem_range.mp member
  omega

theorem read_write {size : Nat} (block : Block) (offset : Nat) (bytes : Vector UInt8 size) :
    (block.write offset bytes).read offset size = bytes.toList := by
  apply List.ext_getElem
  · simp only [read, List.length_map, List.length_range, Vector.length_toList]
  · intro index inRead inBytes
    have bound : index < size := by simpa only [Vector.length_toList] using inBytes
    have inside : offset ≤ offset + index ∧ offset + index < offset + size := by omega
    simp only [read, write, List.getElem_map, List.getElem_range, dif_pos inside,
      Nat.add_sub_cancel_left, Vector.getElem_toList]
    rfl

theorem read_copy {size length offset : Nat} (original fresh : Block)
    (inside : offset + length ≤ size) :
    (copy size original fresh).read offset length = original.read offset length := by
  apply read_congr
  intro index bound
  exact if_pos (by omega)

end Block

/-- A field: an array of elements, or a single one.  It is not empty. -/
structure RecordField (Label : Type u) where
  label : Label
  unit : Nat
  count : Nat
  positive : 0 < unit * count
deriving DecidableEq

/-- The bytes a field occupies. -/
def RecordField.size {Label : Type u} (field : RecordField Label) : Nat :=
  field.unit * field.count

/-- Where a field of some element size starts after the end of the fields
before it, and the size of a record whose fields end somewhere. -/
structure LayoutRule where
  start : Nat → Nat → Nat
  total : Nat → Nat
  le_start : ∀ finish unit, finish ≤ start finish unit
  le_total : ∀ finish, finish ≤ total finish

namespace LayoutRule

variable {Label : Type u}

/-- The fields with the offsets at which they start. -/
def place (rule : LayoutRule) : Nat → List (RecordField Label) → List (Nat × RecordField Label)
  | _, [] => []
  | finish, field :: rest =>
      (rule.start finish field.unit, field) ::
        place rule (rule.start finish field.unit + field.size) rest

/-- The end of the last field. -/
def finish (rule : LayoutRule) : Nat → List (RecordField Label) → Nat
  | before, [] => before
  | before, field :: rest => finish rule (rule.start before field.unit + field.size) rest

/-- A value of every field, as its bytes. -/
abbrev Values (Label : Type u) :=
  (field : RecordField Label) → Vector UInt8 field.size

/-- Store the values of the fields, one after the other. -/
def store (rule : LayoutRule) (values : Values Label) :
    Nat → List (RecordField Label) → Block → Block
  | _, [], block => block
  | before, field :: rest, block =>
      store rule values (rule.start before field.unit + field.size) rest
        (block.write (rule.start before field.unit) (values field))

variable {rule : LayoutRule} {fields : List (RecordField Label)} {before : Nat}

theorem le_finish (rule : LayoutRule) (before : Nat) (fields : List (RecordField Label)) :
    before ≤ rule.finish before fields := by
  induction fields generalizing before with
  | nil => exact Nat.le_refl before
  | cons field rest inductionHypothesis =>
      have later := inductionHypothesis (rule.start before field.unit + field.size)
      have here := rule.le_start before field.unit
      simp only [finish]
      omega

theorem place_bounds {offset : Nat} {field : RecordField Label}
    (member : (offset, field) ∈ rule.place before fields) :
    before ≤ offset ∧ offset + field.size ≤ rule.finish before fields := by
  induction fields generalizing before with
  | nil => cases member
  | cons first rest inductionHypothesis =>
      have here := rule.le_start before first.unit
      rcases List.mem_cons.mp member with same | later
      · cases same
        exact ⟨here, rule.le_finish _ rest⟩
      · rcases inductionHypothesis later with ⟨above, below⟩
        exact ⟨by omega, below⟩

theorem map_snd_place (rule : LayoutRule) (before : Nat) (fields : List (RecordField Label)) :
    (rule.place before fields).map Prod.snd = fields := by
  induction fields generalizing before with
  | nil => rfl
  | cons field rest inductionHypothesis =>
      rw [place, List.map_cons, inductionHypothesis]

theorem exists_place {field : RecordField Label} (rule : LayoutRule) (before : Nat)
    (member : field ∈ fields) : ∃ offset, (offset, field) ∈ rule.place before fields := by
  rw [← rule.map_snd_place before fields] at member
  rcases List.mem_map.mp member with ⟨⟨offset, placed⟩, found, rfl⟩
  exact ⟨offset, found⟩

theorem place_unique {first second : Nat} {field : RecordField Label} (distinct : fields.Nodup)
    (atFirst : (first, field) ∈ rule.place before fields)
    (atSecond : (second, field) ∈ rule.place before fields) : first = second := by
  rw [← rule.map_snd_place before fields] at distinct
  have same := List.inj_on_of_nodup_map distinct atFirst atSecond rfl
  exact congrArg Prod.fst same

theorem place_append (rule : LayoutRule) (before : Nat) (front back : List (RecordField Label)) :
    rule.place before (front ++ back) =
      rule.place before front ++ rule.place (rule.finish before front) back := by
  induction front generalizing before with
  | nil => rfl
  | cons field rest inductionHypothesis =>
      simp only [List.cons_append, place, finish, inductionHypothesis]

theorem store_of_lt {index : Nat} (values : Values Label) (block : Block) (early : index < before) :
    rule.store values before fields block index = block index := by
  induction fields generalizing before block with
  | nil => rfl
  | cons field rest inductionHypothesis =>
      have here := rule.le_start before field.unit
      rw [store, inductionHypothesis _ (by omega)]
      exact dif_neg (by omega)

/-- Storing a record lets every field be read back. -/
theorem read_store {offset : Nat} {field : RecordField Label} (values : Values Label)
    (block : Block) (member : (offset, field) ∈ rule.place before fields) :
    (rule.store values before fields block).read offset field.size = (values field).toList := by
  induction fields generalizing before block with
  | nil => cases member
  | cons first rest inductionHypothesis =>
      rcases List.mem_cons.mp member with same | later
      · cases same
        rw [store, Block.read_congr fun index early => rule.store_of_lt values _ early]
        exact Block.read_write block _ (values field)
      · exact inductionHypothesis _ later

/-- A byte that storing changed is a byte of some field's value, at that
field's place. -/
theorem stored_of_ne {index : Nat} (values : Values Label) (block : Block)
    (changed : rule.store values before fields block index ≠ block index) :
    ∃ place ∈ rule.place before fields,
      place.1 ≤ index ∧ index < place.1 + place.2.size ∧
        rule.store values before fields block index ∈ values place.2 := by
  induction fields generalizing before block with
  | nil => exact absurd rfl changed
  | cons field rest inductionHypothesis =>
      rw [store] at changed ⊢
      by_cases later : rule.store values (rule.start before field.unit + field.size) rest
          (block.write (rule.start before field.unit) (values field)) index =
          block.write (rule.start before field.unit) (values field) index
      · rw [later] at changed ⊢
        refine ⟨(rule.start before field.unit, field), List.mem_cons_self .., ?_⟩
        by_cases inside : rule.start before field.unit ≤ index ∧
            index < rule.start before field.unit + field.size
        · refine ⟨inside.1, inside.2, ?_⟩
          rw [Block.write, dif_pos inside]
          exact Vector.getElem_mem _
        · exact absurd (dif_neg inside) changed
      · rcases inductionHypothesis _ later with ⟨place, member, found⟩
        exact ⟨place, List.mem_cons_of_mem _ member, found⟩

/-! ## One record read as another -/

/-- Each field received holds the value stored in a field sent with the same
label, and none lies beyond the fields sent.  The receiver copies as many
bytes as its own record type has. -/
def Understands (rule : LayoutRule) (sent received : List (RecordField Label)) : Prop :=
  ∀ place ∈ rule.place 0 received,
    place.1 + place.2.size ≤ rule.finish 0 sent ∧
      ∃ field ∈ sent, field.label = place.2.label ∧
        ∀ (values : Values Label) (memory fresh : Block),
          (Block.copy (rule.total (rule.finish 0 received)) (rule.store values 0 sent memory)
            fresh).read place.1 place.2.size = (values field).toList

variable {sent received : List (RecordField Label)}

theorem read_received {place : Nat × RecordField Label} (member : place ∈ rule.place 0 received)
    (original fresh : Block) :
    (Block.copy (rule.total (rule.finish 0 received)) original fresh).read place.1 place.2.size =
      original.read place.1 place.2.size :=
  Block.read_copy original fresh
    (Nat.le_trans (place_bounds member).2 (rule.le_total (rule.finish 0 received)))

/-- What a field of the sender must be for a receiver's field to hold its
value: at the same offset and of the same size. -/
theorem same_place_of_reads {offset : Nat} {field : RecordField Label}
    {place : Nat × RecordField Label}
    (distinct : sent.Nodup) (placed : (offset, field) ∈ rule.place 0 sent)
    (reads : ∀ values : Values Label,
      (rule.store values 0 sent fun _ => 0).read place.1 place.2.size = (values field).toList) :
    offset = place.1 ∧ field.size = place.2.size := by
  classical
  -- the bytes of this field are all one, every other byte is zero
  let marked : Values Label := fun other =>
    Vector.replicate other.size (if other = field then 1 else 0)
  have seen := reads marked
  have sameSize : field.size = place.2.size := by
    have lengths := congrArg List.length seen
    simpa only [Block.read, List.length_map, List.length_range, Vector.length_toList] using
      lengths.symm
  have inside : ∀ index < place.2.size, offset ≤ place.1 + index ∧
      place.1 + index < offset + field.size := by
    intro index bound
    have one : rule.store marked 0 sent (fun _ => 0) (place.1 + index) = 1 := by
      have member : rule.store marked 0 sent (fun _ => 0) (place.1 + index) ∈
          (marked field).toList := by
        rw [← seen]
        exact List.mem_map.mpr ⟨index, List.mem_range.mpr bound, rfl⟩
      simp only [marked, if_true, Vector.toList_replicate, List.mem_replicate] at member
      exact member.2
    rcases rule.stored_of_ne marked (fun _ => 0) (by rw [one]; decide) with
      ⟨⟨start, other⟩, found, above, below, byte⟩
    rw [one] at byte
    have same : other = field := by
      by_contra different
      simp only [marked, if_neg different, Vector.mem_replicate] at byte
      exact absurd byte.2 (by decide)
    subst same
    rw [place_unique distinct placed found]
    exact ⟨above, below⟩
  have nonempty : 0 < place.2.size := sameSize ▸ field.positive
  have low := (inside 0 nonempty).1
  have high := (inside (place.2.size - 1) (by omega)).2
  exact ⟨by omega, sameSize⟩

/-- The receiver understands the sender exactly when each field received lies
where the sender has a field with the same label and size. -/
theorem understands_iff (distinct : sent.Nodup) :
    rule.Understands sent received ↔
      ∀ place ∈ rule.place 0 received, ∃ source ∈ rule.place 0 sent,
        source.2.label = place.2.label ∧ source.1 = place.1 ∧ source.2.size = place.2.size := by
  refine ⟨fun understands place member => ?_, fun places place member => ?_⟩
  · rcases (understands place member).2 with ⟨field, isSent, label, reads⟩
    rcases rule.exists_place 0 isSent with ⟨offset, placed⟩
    refine ⟨(offset, field), placed, label, same_place_of_reads distinct placed fun values => ?_⟩
    rw [← reads values (fun _ => 0) (fun _ => 0), read_received member]
  · rcases places place member with ⟨⟨offset, field⟩, placed, label, sameOffset, sameSize⟩
    change offset = place.1 at sameOffset
    change field.size = place.2.size at sameSize
    refine ⟨?_, field, ?_, label, fun values memory fresh => ?_⟩
    · rw [← sameOffset, ← sameSize]
      exact (place_bounds placed).2
    · rw [← rule.map_snd_place 0 sent]
      exact List.mem_map.mpr ⟨(offset, field), placed, rfl⟩
    · rw [read_received member, ← sameOffset, ← sameSize]
      exact rule.read_store values memory placed

/-- A receiver whose fields are the first fields of the sender understands it,
under every layout rule. -/
theorem understands_of_isPrefix (distinct : sent.Nodup) (first : received <+: sent) :
    rule.Understands sent received := by
  rw [understands_iff distinct]
  rcases first with ⟨others, rfl⟩
  intro place member
  refine ⟨place, ?_, rfl, rfl, rfl⟩
  rw [place_append]
  exact List.mem_append_left _ member

/-- A receiver with a field of a label that the sender lacks does not
understand it. -/
theorem not_understands_of_missing {field : RecordField Label} (isReceived : field ∈ received)
    (missing : ∀ other ∈ sent, other.label ≠ field.label) : ¬ rule.Understands sent received := by
  intro understands
  rcases rule.exists_place 0 isReceived with ⟨offset, placed⟩
  rcases (understands _ placed).2 with ⟨other, isSent, label, -⟩
  exact missing other isSent label

/-- The first fields of sender and receiver, when they are of one element
size, must have the same label. -/
theorem head_label_of_understands {field other : RecordField Label}
    (distinct : (field :: sent).Nodup) (sameUnit : other.unit = field.unit)
    (understands : rule.Understands (field :: sent) (other :: received)) :
    field.label = other.label := by
  rcases (understands_iff distinct).mp understands _ (List.mem_cons_self ..) with
    ⟨source, member, label, sameOffset, -⟩
  rcases List.mem_cons.mp member with same | later
  · rw [same] at label
    exact label
  · have after := (place_bounds later).1
    have nonempty : 0 < field.size := field.positive
    simp only [sameUnit] at sameOffset
    omega

end LayoutRule

end General
end Pxc
