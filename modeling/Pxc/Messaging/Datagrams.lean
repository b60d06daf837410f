import Pxc.Messaging.Sending

namespace Pxc
namespace Messaging

/-!
# The payload of a datagram

`Datagram<T>` is the base class of every message class `T`.  An object of `T`
is that of the base, with the pointer to its functions, its size and its type,
followed by the fields of `T`.  The payload begins behind the base, and
`typeSize` is the size of the fields.  But `size` is that of the whole object,
so that a sender copies as many bytes more as the base has, from behind the
object.

Sizes are below the range of an `int`.
-/

/-- The sizes of a class: `sizeof(Datagram<T>)`, and that of the fields. -/
structure DatagramClass where
  sizeofDatagram : Nat
  fieldsSize : Nat
  sizeofDatagram_pos : 0 < sizeofDatagram

/-- `sizeof(T)`. -/
def DatagramClass.sizeofT (T : DatagramClass) : Nat :=
  T.sizeofDatagram + T.fieldsSize

/-- An object, as the bytes of its base and of its fields. -/
structure DatagramObject (T : DatagramClass) where
  inherited : List UInt8
  fields : List UInt8
  inherited_length : inherited.length = T.sizeofDatagram
  fields_length : fields.length = T.fieldsSize

/-- The byte at an offset from the object, with the memory behind it. -/
def DatagramObject.byteAt {T : DatagramClass} (object : DatagramObject T) (after : Nat → UInt8)
    (offset : Nat) : UInt8 :=
  (object.inherited ++ object.fields).getD offset (after (offset - T.sizeofT))

/-- `Datagram<T>::transferableObject`, as an offset. -/
def DatagramClass.transferableObject (T : DatagramClass) : Nat :=
  T.sizeofDatagram

/-- `Datagram<T>::size`: the constructor sets `mSize` to `sizeof(T)`. -/
def DatagramClass.size (T : DatagramClass) : Nat :=
  T.sizeofT

/-- `Datagram<T>::Creator::typeSize`. -/
def DatagramClass.typeSize (T : DatagramClass) : Nat :=
  T.sizeofT - T.sizeofDatagram

/-- The offsets that `memcpy(.., message.transferableObject(), lengthMessage)`
reads. -/
def DatagramClass.copied (T : DatagramClass) : List Nat :=
  List.range' T.transferableObject T.size

/-- The bytes that a sender copies. -/
def DatagramObject.payload {T : DatagramClass} (object : DatagramObject T) (after : Nat → UInt8) :
    List UInt8 :=
  T.copied.map (object.byteAt after)

theorem DatagramClass.typeSize_eq (T : DatagramClass) : T.typeSize = T.fieldsSize :=
  Nat.add_sub_cancel_left _ _

/-- `Datagram<T>::Creator::create`: a new object, with `typeSize` bytes copied
into the place of its fields. -/
def DatagramClass.create (T : DatagramClass) (fresh : DatagramObject T) (orig : List UInt8)
    (behind : Behind) : DatagramObject T where
  inherited := fresh.inherited
  fields := Messaging.create T.typeSize orig behind
  inherited_length := fresh.inherited_length
  fields_length := (length_create _ _ _).trans T.typeSize_eq

/-- The payload is exactly the fields: it lies inside the object, it has the
size that creators expect, and a creator makes equal fields of it. -/
structure PayloadIsFields {T : DatagramClass} (object : DatagramObject T) (after : Nat → UInt8) :
    Prop where
  inside : ∀ offset ∈ T.copied, offset < T.sizeofT
  exact : object.payload after = object.fields
  size : T.size = T.typeSize
  recreated : ∀ fresh behind, (T.create fresh (object.payload after) behind).fields = object.fields

variable {T : DatagramClass}

theorem byteAt_fields (object : DatagramObject T) (after : Nat → UInt8) {i : Nat} {byte : UInt8}
    (found : object.fields[i]? = some byte) :
    object.byteAt after (T.sizeofDatagram + i) = byte := by
  rw [DatagramObject.byteAt, List.getD_eq_getElem?_getD, ← object.inherited_length,
    List.getElem?_append_right (Nat.le_add_right _ _), Nat.add_sub_cancel_left, found]
  rfl

theorem byteAt_behind (object : DatagramObject T) (after : Nat → UInt8) (i : Nat) :
    object.byteAt after (T.sizeofT + i) = after i := by
  have beyond : (object.inherited ++ object.fields).length ≤ T.sizeofT + i := by
    rw [List.length_append, object.inherited_length, object.fields_length]
    exact Nat.le_add_right _ _
  rw [DatagramObject.byteAt, List.getD_eq_getElem?_getD, List.getElem?_eq_none beyond,
    Nat.add_sub_cancel_left]
  rfl

/-- What a sender copies: the fields, and then what lies behind the object, as
many bytes of it as the base has. -/
theorem payload_eq (object : DatagramObject T) (after : Nat → UInt8) :
    object.payload after = object.fields ++ (List.range T.sizeofDatagram).map after := by
  have offsets : T.copied = List.range' T.sizeofDatagram T.fieldsSize ++
      List.range' T.sizeofT T.sizeofDatagram := by
    have size : T.size = T.fieldsSize + T.sizeofDatagram := Nat.add_comm _ _
    rw [DatagramClass.copied, size, ← List.range'_append_1]
    rfl
  rw [DatagramObject.payload, offsets, List.map_append]
  congr 1
  · apply List.ext_getElem?
    intro i
    rw [List.getElem?_map]
    by_cases inside : i < T.fieldsSize
    · have within : i < object.fields.length := object.fields_length.symm ▸ inside
      have found := List.getElem?_eq_getElem within
      rw [List.getElem?_range' inside, Nat.one_mul, found, Option.map_some,
        byteAt_fields object after found]
    · rw [List.getElem?_eq_none (by rw [List.length_range']; omega),
        List.getElem?_eq_none (by rw [object.fields_length]; omega)]
      rfl
  · rw [List.range'_eq_map_range, List.map_map]
    apply List.map_congr_left
    intro i _
    exact byteAt_behind object after i

/-- A creator makes equal fields of a payload, since it copies no more than
they have. -/
theorem create_payload (object fresh : DatagramObject T) (after : Nat → UInt8)
    (behind : Behind) : (T.create fresh (object.payload after) behind).fields = object.fields := by
  rw [payload_eq]
  exact create_append (object.fields_length.trans T.typeSize_eq.symm) _ behind

/-- No payload is exactly the fields of its object. -/
theorem not_payloadIsFields (object : DatagramObject T) (after : Nat → UInt8) :
    ¬ PayloadIsFields object after := by
  intro isFields
  have size : T.sizeofDatagram + T.fieldsSize = T.typeSize := isFields.size
  have positive := T.sizeofDatagram_pos
  rw [T.typeSize_eq] at size
  omega

/-- A class with one `int`. -/
def oneInt : DatagramClass where
  sizeofDatagram := 24
  fieldsSize := 4
  sizeofDatagram_pos := by decide

def oneInt.object : DatagramObject oneInt where
  inherited := List.replicate 24 0
  fields := [7, 0, 0, 0]
  inherited_length := rfl
  fields_length := rfl

/-- The bytes that lie behind the object are sent with it. -/
theorem oneInt_leaks : ¬ PayloadIsFields oneInt.object fun _ => 99 := by
  intro isFields
  exact absurd isFields.exact (by decide)

end Messaging
end Pxc
