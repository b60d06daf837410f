import Mathlib.Algebra.Order.Field.Basic
import Mathlib.Analysis.Real.Sqrt

namespace Pxc
namespace General

/-!
# Numbers of a program, and exact ones

A program that computes with `double` values uses a few operations, of which
nothing is assumed here.  The doubles themselves have these operations, and so
have exact numbers, for which no result is rounded.

A square root of a negative number is no number.  Every operation on what is
no number gives no number, and every comparison with it fails, except the one
that asks whether two numbers are different.  A division by zero is taken to
give no number either.
-/

universe u

/-- The operations on `double` values that a program uses. -/
class Floating (D : Type u) extends Zero D, One D, Add D, Sub D, Mul D, Div D, LT D, BEq D where
  decidableLT : DecidableLT D
  sqrt : D → D

instance Floating.instDecidableLT {D : Type u} [Floating D] : DecidableLT D :=
  Floating.decidableLT

instance : Floating Float where
  zero := 0
  one := 1
  decidableLT := inferInstance
  sqrt := Float.sqrt

/-- A number that was computed exactly, or what is no number. -/
inductive Exact (K : Type u) where
  | number (value : K)
  | notANumber

namespace Exact

/-- An operation on numbers. -/
def lift {K : Type u} (operation : K → K → K) : Exact K → Exact K → Exact K
  | number first, number second => number (operation first second)
  | _, _ => notANumber

/-- A comparison of numbers. -/
def Compares {K : Type u} (relation : K → K → Prop) : Exact K → Exact K → Prop
  | number first, number second => relation first second
  | _, _ => False

instance {K : Type u} (relation : K → K → Prop) [DecidableRel relation] :
    DecidableRel (Compares relation)
  | number first, number second => inferInstanceAs (Decidable (relation first second))
  | number _, notANumber => .isFalse id
  | notANumber, _ => .isFalse id

noncomputable instance : Floating (Exact ℝ) where
  zero := number 0
  one := number 1
  add := lift (· + ·)
  sub := lift (· - ·)
  mul := lift (· * ·)
  div
    | number first, number second => if second = 0 then notANumber else number (first / second)
    | _, _ => notANumber
  lt := Compares (· < ·)
  beq first second := decide (Compares (· = ·) first second)
  decidableLT := inferInstanceAs (DecidableRel (Compares (· < ·)))
  sqrt
    | number value => if value < 0 then notANumber else number √value
    | notANumber => notANumber

variable {first second : ℝ}

@[simp] theorem number_zero : (0 : Exact ℝ) = number 0 :=
  rfl

@[simp] theorem number_add : number first + number second = number (first + second) :=
  rfl

@[simp] theorem number_sub : number first - number second = number (first - second) :=
  rfl

@[simp] theorem number_mul : number first * number second = number (first * second) :=
  rfl

theorem number_div (nonzero : second ≠ 0) :
    number first / number second = number (first / second) :=
  if_neg nonzero

@[simp] theorem number_bne : (number first != number second) = decide (first ≠ second) :=
  (decide_not (p := first = second)).symm

theorem sqrt_number (nonnegative : 0 ≤ first) :
    Floating.sqrt (number first) = number √first :=
  if_neg (not_lt.mpr nonnegative)

theorem sqrt_of_neg (negative : first < 0) : Floating.sqrt (number first) = notANumber :=
  if_pos negative

theorem not_lt_notANumber (value : Exact ℝ) : ¬ value < notANumber := by
  cases value <;> exact id

theorem not_notANumber_lt (value : Exact ℝ) : ¬ notANumber < value :=
  id

/-- Comparing two roots compares the numbers, where both have a root. -/
theorem sqrt_lt_sqrt_iff :
    Floating.sqrt (number first) < Floating.sqrt (number second) ↔ 0 ≤ first ∧ first < second := by
  rcases lt_or_ge first 0 with negative | nonnegative
  · rw [sqrt_of_neg negative]
    exact iff_of_false (not_notANumber_lt _) fun both => not_le.mpr negative both.1
  · rw [and_iff_right nonnegative, sqrt_number nonnegative]
    rcases lt_or_ge second 0 with negative | nonnegative'
    · rw [sqrt_of_neg negative]
      exact iff_of_false (not_lt_notANumber _) (not_lt.mpr (negative.le.trans nonnegative))
    · rw [sqrt_number nonnegative']
      exact Real.sqrt_lt_sqrt_iff nonnegative

end Exact

end General
end Pxc
