import Mathlib.Data.List.TakeWhile

namespace Pxc
namespace General

/-!
# Character arrays of a fixed size

A C program keeps a text in an array, and ends it with a terminator if there
is room for one.  `strcpy` copies the terminator as well, and has no defined
result when the array is too small.  A loop with its own bound stops after the
terminator or at the bound, and its result may be without a terminator.

An array that has just been allocated holds anything, so that every operation
starts from some content.  The text of an array is what comes before its first
terminator, or all of it.
-/

/-- The terminator. -/
def NUL : Char := '\x00'

/-- An array of characters. -/
structure Buffer (size : Nat) where
  chars : List Char
  length_eq : chars.length = size
  deriving DecidableEq

/-- What comes before the first terminator. -/
def textOf (chars : List Char) : List Char :=
  chars.takeWhile fun char => char ≠ NUL

theorem textOf_cons_of_ne {char : Char} (different : char ≠ NUL) (rest : List Char) :
    textOf (char :: rest) = char :: textOf rest := by
  rw [textOf, List.takeWhile_cons, if_pos (decide_eq_true different)]
  rfl

theorem textOf_terminated {text : List Char} (plain : NUL ∉ text) (rest : List Char) :
    textOf (text ++ NUL :: rest) = text := by
  induction text with
  | nil => rfl
  | cons char text inductionHypothesis =>
      rw [List.mem_cons, not_or] at plain
      rw [List.cons_append, textOf_cons_of_ne (Ne.symm plain.1), inductionHypothesis plain.2]

namespace Buffer

variable {size : Nat}

/-- The text kept in an array. -/
def text (buffer : Buffer size) : List Char :=
  textOf buffer.chars

/-- An array with one character everywhere. -/
def filled (char : Char) (size : Nat) : Buffer size :=
  ⟨List.replicate size char, List.length_replicate⟩

/-- `strcpy`, undefined when the array has no room for the terminator. -/
def strcpy (buffer : Buffer size) (source : List Char) : Option (Buffer size) :=
  if fits : source.length < size then
    some ⟨source ++ NUL :: buffer.chars.drop (source.length + 1), by
      rw [List.length_append, List.length_cons, List.length_drop, buffer.length_eq]
      omega⟩
  else none

theorem strcpy_defined_iff (buffer : Buffer size) (source : List Char) :
    (∃ copied, buffer.strcpy source = some copied) ↔ source.length < size := by
  unfold strcpy
  by_cases fits : source.length < size
  · rw [dif_pos fits]
    exact ⟨fun _ => fits, fun _ => ⟨_, rfl⟩⟩
  · rw [dif_neg fits]
    refine ⟨?_, fun small => absurd small fits⟩
    rintro ⟨copied, impossible⟩
    cases impossible

theorem text_of_strcpy {buffer copied : Buffer size} {source : List Char}
    (done : buffer.strcpy source = some copied) (plain : NUL ∉ source) :
    copied.text = source ∧ NUL ∈ copied.chars := by
  unfold strcpy at done
  split at done
  · cases done
    exact ⟨textOf_terminated plain _, List.mem_append_right _ List.mem_cons_self⟩
  · cases done

end Buffer

/-- A loop that copies one array into another of the same size, from some
place on, and stops after a terminator.  It tells whether it met one.  Reading
outside of the source is undefined. -/
def copyChars : List Char → List Char → Option (List Char × Bool)
  | [], _ => some ([], false)
  | _ :: _, [] => none
  | _ :: rest, char :: source =>
      if char = NUL then some (char :: rest, true)
      else (copyChars rest source).map fun copied => (char :: copied.1, copied.2)

/-- Such a loop stays inside arrays of one size.  It copies the text, and
meets a terminator if there is one. -/
theorem copyChars_spec {destination source : List Char}
    (sameLength : destination.length = source.length) :
    ∃ copied found, copyChars destination source = some (copied, found) ∧
      copied.length = destination.length ∧ textOf copied = textOf source ∧
      (found = true ↔ NUL ∈ source) ∧ (NUL ∈ source → NUL ∈ copied) := by
  induction destination generalizing source with
  | nil =>
      have empty : source = [] := List.length_eq_zero_iff.mp sameLength.symm
      subst empty
      exact ⟨[], false, rfl, rfl, rfl, ⟨Bool.false_ne_true.elim, fun member => by cases member⟩, id⟩
  | cons first rest inductionHypothesis =>
      cases source with
      | nil => cases sameLength
      | cons char source =>
          rw [copyChars]
          by_cases terminator : char = NUL
          · rw [if_pos terminator]
            subst terminator
            exact ⟨NUL :: rest, true, rfl, rfl, rfl, ⟨fun _ => List.mem_cons_self, fun _ => rfl⟩,
              fun _ => List.mem_cons_self⟩
          · rw [if_neg terminator]
            rcases inductionHypothesis (Nat.succ.inj sameLength) with
              ⟨copied, found, done, length, text, met, kept⟩
            rw [done]
            refine ⟨char :: copied, found, rfl, congrArg Nat.succ length, ?_, ?_, ?_⟩
            · rw [textOf_cons_of_ne terminator, textOf_cons_of_ne terminator, text]
            · rw [met, List.mem_cons]
              exact ⟨Or.inr, fun either => either.resolve_left (Ne.symm terminator)⟩
            · intro member
              rcases List.mem_cons.mp member with same | later
              · exact absurd same.symm terminator
              · exact List.mem_cons_of_mem _ (kept later)

namespace Buffer

variable {size : Nat}

/-- The loop on two arrays of one size. -/
def copy (destination source : Buffer size) : Option (Buffer size × Bool) :=
  match copied : copyChars destination.chars source.chars with
  | none => none
  | some result =>
      some (⟨result.1, by
        rcases copyChars_spec (destination.length_eq.trans source.length_eq.symm) with
          ⟨chars, found, done, length, _⟩
        rw [done] at copied
        cases copied
        exact length.trans destination.length_eq⟩, result.2)

theorem copy_spec (destination source : Buffer size) :
    ∃ copied found, destination.copy source = some (copied, found) ∧
      copied.text = source.text ∧ (found = true ↔ NUL ∈ source.chars) ∧
      (NUL ∈ source.chars → NUL ∈ copied.chars) := by
  rcases copyChars_spec (destination.length_eq.trans source.length_eq.symm) with
    ⟨chars, found, done, length, text, met, kept⟩
  refine ⟨⟨chars, length.trans destination.length_eq⟩, found, ?_, text, met, kept⟩
  unfold copy
  split
  · next none => rw [done] at none; cases none
  · next result some =>
    rw [done] at some
    cases some
    rfl

end Buffer

end General
end Pxc
