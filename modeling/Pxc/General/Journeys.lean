import Mathlib.Analysis.Convex.Segment
import Mathlib.Analysis.Normed.Module.Basic

namespace Pxc
namespace General

/-!
# Straight journeys

Something goes from one point straight to another, in any real normed space,
and stops when it is there.  After a distance it is where `travelled` says.
Going a distance and then another is the same as going both at once, and what
is left of the journey is the distance between the points without what has
been gone.
-/

variable {E : Type*} [NormedAddCommGroup E] [NormedSpace ℝ E]

/-- The unit vector from one point to another. -/
noncomputable def heading (start goal : E) : E :=
  (dist start goal)⁻¹ • (goal - start)

/-- Where a straight journey is after a distance. -/
noncomputable def travelled (start goal : E) (distance : ℝ) : E :=
  start + min distance (dist start goal) • heading start goal

variable {start goal : E} {distance : ℝ}

theorem dist_smul_heading (start goal : E) :
    dist start goal • heading start goal = goal - start := by
  by_cases same : start = goal
  · rw [same, dist_self, zero_smul, sub_self]
  · exact smul_inv_smul₀ (dist_ne_zero.mpr same) (goal - start)

theorem norm_heading (apart : start ≠ goal) : ‖heading start goal‖ = 1 := by
  rw [heading, norm_smul, norm_inv, Real.norm_of_nonneg dist_nonneg, ← dist_eq_norm',
    inv_mul_cancel₀]
  exact dist_ne_zero.mpr apart

theorem travelled_zero (start goal : E) : travelled start goal 0 = start := by
  rw [travelled, min_eq_left dist_nonneg, zero_smul, add_zero]

theorem travelled_of_le (far : dist start goal ≤ distance) :
    travelled start goal distance = goal := by
  rw [travelled, min_eq_right far, dist_smul_heading, add_sub_cancel]

theorem sub_travelled (start goal : E) (distance : ℝ) :
    goal - travelled start goal distance =
      (dist start goal - min distance (dist start goal)) • heading start goal := by
  rw [travelled, sub_smul, dist_smul_heading, sub_add_eq_sub_sub]

theorem dist_travelled (nonnegative : 0 ≤ distance) :
    dist (travelled start goal distance) goal =
      dist start goal - min distance (dist start goal) := by
  by_cases same : start = goal
  · rw [same, travelled_of_le (dist_self goal ▸ nonnegative), dist_self, min_eq_right nonnegative,
      sub_zero]
  · rw [dist_eq_norm', sub_travelled, norm_smul, norm_heading same, mul_one, Real.norm_of_nonneg]
    exact sub_nonneg.mpr (min_le_right _ _)

theorem travelled_mem_segment (nonnegative : 0 ≤ distance) :
    travelled start goal distance ∈ segment ℝ start goal := by
  rw [segment_eq_image']
  refine ⟨min distance (dist start goal) / dist start goal, ⟨?_, ?_⟩, ?_⟩
  · exact div_nonneg (le_min nonnegative dist_nonneg) dist_nonneg
  · exact div_le_one_of_le₀ (min_le_right _ _) dist_nonneg
  · rw [travelled, heading, smul_smul, div_eq_mul_inv]

/-- The journey goes on from where it is, by no more than what is left. -/
theorem travelled_add {first second : ℝ} (nonnegative : 0 ≤ first) (onwards : 0 ≤ second) :
    travelled start goal (first + second) = travelled start goal first +
      min second (dist (travelled start goal first) goal) • heading start goal := by
  have gone : min (first + second) (dist start goal) =
      min first (dist start goal) +
        min second (dist start goal - min first (dist start goal)) := by
    rcases le_total first (dist start goal) with short | far
    · rw [min_eq_left short, ← min_add_add_left, add_sub_cancel]
    · have further : dist start goal ≤ first + second := far.trans (le_add_of_nonneg_right onwards)
      rw [min_eq_right far, min_eq_right further, sub_self, min_eq_right onwards, add_zero]
  rw [dist_travelled nonnegative, travelled, travelled, add_assoc, ← add_smul, ← gone]

end General
end Pxc
