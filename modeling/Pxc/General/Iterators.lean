import Mathlib.Data.List.Basic

namespace Pxc
namespace General

/-!
# Iterators of a linked list

An iterator points to an element of a list, or behind the last one.  It moves
one place at a time, and may erase the element it points to, after which it
points to the next one.  Moving it in front of the first element, or past the
end, is undefined, and so is erasing at the end.

The list is kept together with the iterator, as the elements in front of it
and those from it on.
-/

universe u

/-- An iterator and its list.  The elements in front of it come in reverse
order, the nearest one first. -/
structure Iterator (Element : Type u) where
  front : List Element
  rest : List Element

namespace Iterator

variable {Element : Type u}

/-- `begin()`. -/
def begin (elements : List Element) : Iterator Element :=
  ⟨[], elements⟩

/-- The list that the iterator is in. -/
def elements (it : Iterator Element) : List Element :=
  it.front.reverse ++ it.rest

/-- The iterator is equal to `end()`. -/
def AtEnd (it : Iterator Element) : Prop :=
  it.rest = []

instance (it : Iterator Element) : Decidable it.AtEnd :=
  match it with
  | ⟨_, []⟩ => .isTrue rfl
  | ⟨_, element :: rest⟩ => .isFalse (List.cons_ne_nil element rest)

/-- `*it`. -/
def get (it : Iterator Element) : Option Element :=
  it.rest.head?

/-- `it = list.erase(it)`. -/
def erase (it : Iterator Element) : Option (Iterator Element) :=
  match it.rest with
  | [] => none
  | _ :: rest => some ⟨it.front, rest⟩

/-- `++it`. -/
def forward (it : Iterator Element) : Option (Iterator Element) :=
  match it.rest with
  | [] => none
  | element :: rest => some ⟨element :: it.front, rest⟩

/-- `--it`. -/
def back (it : Iterator Element) : Option (Iterator Element) :=
  match it.front with
  | [] => none
  | element :: front => some ⟨front, element :: it.rest⟩

variable {front rest : List Element} {element : Element}

@[simp] theorem get_cons : (⟨front, element :: rest⟩ : Iterator Element).get = some element :=
  rfl

@[simp] theorem forward_cons :
    (⟨front, element :: rest⟩ : Iterator Element).forward = some ⟨element :: front, rest⟩ :=
  rfl

end Iterator

end General
end Pxc
