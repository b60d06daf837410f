import Mathlib.Tactic.Common

namespace Pxc
namespace General

/-!
# Words as sets of positions

A word of `w` bits is a set of positions below `w`.  Shifting a word of ones
gives the first positions, and the complement of a shifted one takes a
position out.
-/

variable {w : Nat}

theorem getLsbD_allOnes_shiftRight {count : Nat} (fits : count ≤ w) (i : Nat) :
    (BitVec.allOnes w >>> (w - count)).getLsbD i = true ↔ i < count := by
  rw [BitVec.getLsbD_ushiftRight, BitVec.getLsbD_allOnes, decide_eq_true_eq]
  omega

theorem getLsbD_clear (mask : BitVec w) (position i : Nat) :
    (mask &&& ~~~(1#w <<< position)).getLsbD i = true ↔
      mask.getLsbD i = true ∧ i ≠ position := by
  rw [BitVec.getLsbD_and, Bool.and_eq_true]
  apply and_congr_right
  intro set
  have below : i < w := BitVec.lt_of_getLsbD set
  have positive : 0 < w := Nat.zero_lt_of_lt below
  simp only [BitVec.getLsbD_not, BitVec.getLsbD_shiftLeft, BitVec.getLsbD_one, below, positive,
    decide_true, Bool.true_and, Bool.not_eq_true', Bool.and_eq_false_iff, Bool.not_eq_false',
    decide_eq_true_eq, decide_eq_false_iff_not]
  omega

theorem eq_zero_iff_getLsbD {mask : BitVec w} :
    mask = 0 ↔ ∀ i, ¬ mask.getLsbD i = true := by
  constructor
  · rintro rfl i set
    rw [BitVec.ofNat_eq_ofNat, BitVec.getLsbD_zero] at set
    cases set
  · intro none
    apply BitVec.eq_of_getLsbD_eq
    intro i _
    rw [BitVec.ofNat_eq_ofNat, BitVec.getLsbD_zero]
    exact eq_false_of_ne_true (none i)

end General
end Pxc
