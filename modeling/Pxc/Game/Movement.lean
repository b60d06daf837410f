import Mathlib.Analysis.InnerProductSpace.PiL2
import Mathlib.Tactic.Linarith
import Pxc.Game.Zone
import Pxc.General.Journeys

namespace Pxc
namespace Game

open General

/-!
# Users on their way

A user that is given a destination should go there straight, at its speed, and
stop.  Two slips are in the way.  What is normalised is the destination and
not the direction, so that the user aims at another point, in steps as long as
the way was.  And the two lengths that are compared to find out whether the
user has gone too far are roots of sums of differences, not of their squares:
such a sum may be zero or negative on a long way, and then the user never
stops.
-/

attribute [local instance] neZero_three

/-- A point of the zone. -/
abbrev Point := EuclideanSpace ℝ (Fin 3)

/-- The coordinates of a point, as a program keeps them. -/
def coordinates (point : Point) : Fin 3 → Exact ℝ :=
  fun i => .number (point i)

theorem coordinates_injective {first second : Point}
    (same : coordinates first = coordinates second) : first = second := by
  ext i
  exact Exact.number.inj (congrFun same i)

theorem vec_coordinates (point : Point) :
    ![.number (point 0), .number (point 1), .number (point 2)] = coordinates point := by
  funext i
  fin_cases i <;> rfl

theorem coordinates_sub (first second : Point) :
    (fun i => coordinates first i - coordinates second i) = coordinates (first - second) :=
  rfl

theorem coordinates_div (point : Point) {length : ℝ} (nonzero : length ≠ 0) :
    (fun i => coordinates point i / .number length) = coordinates (length⁻¹ • point) := by
  funext i
  rw [coordinates, Exact.number_div nonzero, coordinates, PiLp.smul_apply, smul_eq_mul,
    inv_mul_eq_div]

theorem coordinates_add_smul (point direction : Point) (speed step : ℝ) (i : Fin 3) :
    coordinates point i + coordinates direction i * .number speed * .number step =
      coordinates (point + (speed * step) • direction) i := by
  simp only [coordinates, Exact.number_mul, Exact.number_add, PiLp.add_apply, PiLp.smul_apply,
    smul_eq_mul]
  rw [mul_assoc, mul_comm]

/-- The sum of the three coordinates. -/
def total (point : Point) : ℝ :=
  point 0 + point 1 + point 2

theorem total_smul (factor : ℝ) (point : Point) :
    total (factor • point) = factor * total point := by
  simp only [total, PiLp.smul_apply, smul_eq_mul]
  ring

/-- What `update` takes the root of to compare two lengths. -/
theorem sum_differences (first second : Point) :
    coordinates first 0 - coordinates second 0
      + coordinates first 1 - coordinates second 1
      + coordinates first 2 - coordinates second 2 = .number (total (first - second)) := by
  simp only [coordinates, Exact.number_sub, Exact.number_add, total, PiLp.sub_apply]
  congr 1
  ring

namespace User

/-- A user whose numbers are all exact. -/
def exact (position direction destination : Point) (speed : ℝ) : User (Exact ℝ) where
  mPosition := coordinates position
  mDirection := coordinates direction
  mDestination := coordinates destination
  mSpeed := .number speed

/-- A user that has been sent to a destination. -/
noncomputable def sentTo (user : User (Exact ℝ)) (goal : Point) : User (Exact ℝ) :=
  user.setDestination (.number (goal 0)) (.number (goal 1)) (.number (goal 2))

/-- The user after these steps. -/
noncomputable def moved (user : User (Exact ℝ)) (steps : List ℝ) : User (Exact ℝ) :=
  steps.foldl (fun user step => user.update (.number step)) user

variable {start goal position direction destination : Point} {speed step : ℝ}

/-- The destination is normalised, and the direction is not. -/
theorem normalizeDirection_exact :
    (exact position direction destination speed).normalizeDirection =
      exact position direction (‖destination‖⁻¹ • destination) speed := by
  have length : Floating.sqrt (coordinates destination 0 * coordinates destination 0
      + coordinates destination 1 * coordinates destination 1
      + coordinates destination 2 * coordinates destination 2) = .number ‖destination‖ := by
    simp only [coordinates, Exact.number_mul, Exact.number_add, ← pow_two]
    rw [Exact.sqrt_number (by positivity), EuclideanSpace.norm_eq, Fin.sum_univ_three]
    simp only [Real.norm_eq_abs, sq_abs]
  simp only [normalizeDirection, exact, length, Exact.number_zero, Exact.number_bne,
    decide_eq_true_eq]
  split
  · next nonzero => rw [coordinates_div destination nonzero]
  · next zero => rw [norm_eq_zero.mp (not_not.mp zero), smul_zero]

theorem sentTo_eq {user : User (Exact ℝ)} (placed : user.mPosition = coordinates start)
    (moving : user.mSpeed = .number speed) :
    user.sentTo goal = exact start (goal - start) (‖goal‖⁻¹ • goal) speed := by
  have sent : user.sentTo goal = (exact start (goal - start) goal speed).normalizeDirection := by
    simp only [sentTo, setDestination, vec_coordinates, placed, moving, coordinates_sub]
    rfl
  rw [sent, normalizeDirection_exact]

/-- On the machine's numbers the direction is as long as the way, too. -/
example : ((create (0 : Float) 0 0 1 0 0).setDestination 3 4 0).mDirection 1 == 4.0 := by
  decide +kernel

/-- A step jumps to the destination if the sums of the differences say that
it is too long. -/
theorem update_exact :
    (exact position direction destination speed).update (.number step) =
      if 0 ≤ total (destination - position) ∧
          total (destination - position) < speed * step * total direction then
        exact destination direction destination speed
      else exact (position + (speed * step) • direction) direction destination speed := by
  have gone : total (position + (speed * step) • direction - position) =
      speed * step * total direction := by
    rw [add_sub_cancel_left, total_smul]
  simp only [update, exact, coordinates_add_smul, sum_differences, gone, gt_iff_lt,
    Exact.sqrt_lt_sqrt_iff]

theorem moved_concat (user : User (Exact ℝ)) (steps : List ℝ) (step : ℝ) :
    user.moved (steps ++ [step]) = (user.moved steps).update (.number step) := by
  rw [moved, List.foldl_concat, moved]

/-- In a zone, the steps of the game move every user so. -/
theorem exists_run_moved {zone : PXCZone (Exact ℝ)} (sound : zone.Sound) (steps : List ℝ) :
    ∃ next, run PXCZone.gameStep zone (steps.map .number) = some next ∧
      ∀ idUser, next.userData idUser =
        (zone.userData idUser).map fun user => user.moved steps := by
  rcases sound.exists_run (steps.map .number) with ⟨next, reached, _, _, each⟩
  refine ⟨next, reached, fun idUser => ?_⟩
  simp only [each, moved, List.foldl_map]

/-! ## Straight to the destination -/

/-- The user stores the destination and aims at it, every step takes it on by
the distance that its speed allows or by what is left, it stays on the way,
and it is there once it has gone that far. -/
structure MovesStraight (user : User (Exact ℝ)) (start goal : Point) (speed : ℝ)
    (steps : List ℝ) : Prop where
  destination : (user.sentTo goal).mDestination = coordinates goal
  direction : (user.sentTo goal).mDirection = coordinates (heading start goal)
  moves : ∀ before step later, steps = before ++ step :: later → ∃ point,
    ((user.sentTo goal).moved before).mPosition = coordinates point ∧
      ((user.sentTo goal).moved (before ++ [step])).mPosition =
        coordinates (point + min (speed * step) (dist point goal) • heading start goal)
  stays : ∀ before later, steps = before ++ later → ∃ point ∈ segment ℝ start goal,
    ((user.sentTo goal).moved before).mPosition = coordinates point
  arrives : ∀ before later, steps = before ++ later → dist start goal ≤ speed * before.sum →
    ((user.sentTo goal).moved before).mPosition = coordinates goal

/-- The ways on which the slips do not show: the destination is as it would be
normalised, the way has the length one, and the comparison of the lengths can
tell a user that has gone too far, or none goes too far. -/
structure UnitWay (start goal : Point) (speed : ℝ) (steps : List ℝ) : Prop where
  destination : goal = 0 ∨ ‖goal‖ = 1
  length : dist start goal = 1
  stops : 0 < total (goal - start) ∨ speed * steps.sum ≤ 1

/-- Nothing stops a user if the coordinates of its direction sum to zero or
less. -/
theorem moved_of_total_nonpos (slow : total (goal - start) ≤ 0) (forward : 0 ≤ speed)
    {steps : List ℝ} (nonnegative : ∀ step ∈ steps, 0 ≤ step) :
    (exact start (goal - start) goal speed).moved steps =
      exact (start + (speed * steps.sum) • (goal - start)) (goal - start) goal speed := by
  induction steps using List.reverseRecOn with
  | nil => rw [moved, List.foldl_nil, List.sum_nil, mul_zero, zero_smul, add_zero]
  | append_singleton steps step inductionHypothesis =>
      rw [List.forall_mem_append, List.forall_mem_singleton] at nonnegative
      rw [moved_concat, inductionHypothesis nonnegative.1, update_exact, if_neg]
      · rw [add_assoc, ← add_smul, ← mul_add, List.sum_append, List.sum_singleton]
      · rintro ⟨left, short⟩
        have gone : speed * step * total (goal - start) ≤ 0 :=
          mul_nonpos_of_nonneg_of_nonpos (mul_nonneg forward nonnegative.2) slow
        exact absurd (left.trans_lt short) (not_lt.mpr gone)

/-- A user stops where it should if that sum is positive. -/
theorem moved_of_total_pos (length : dist start goal = 1) (fast : 0 < total (goal - start))
    (forward : 0 ≤ speed) {steps : List ℝ} (nonnegative : ∀ step ∈ steps, 0 ≤ step) :
    (exact start (goal - start) goal speed).moved steps =
      exact (travelled start goal (speed * steps.sum)) (goal - start) goal speed := by
  have unit : heading start goal = goal - start := by
    rw [heading, length, inv_one, one_smul]
  induction steps using List.reverseRecOn with
  | nil => rw [moved, List.foldl_nil, List.sum_nil, mul_zero, travelled_zero]
  | append_singleton steps step inductionHypothesis =>
      rw [List.forall_mem_append, List.forall_mem_singleton] at nonnegative
      have gone : 0 ≤ speed * steps.sum := mul_nonneg forward (List.sum_nonneg nonnegative.1)
      have onwards : 0 ≤ speed * step := mul_nonneg forward nonnegative.2
      have left : total (goal - travelled start goal (speed * steps.sum)) =
          dist (travelled start goal (speed * steps.sum)) goal * total (goal - start) := by
        rw [sub_travelled, total_smul, dist_travelled gone, unit]
      rw [moved_concat, inductionHypothesis nonnegative.1, update_exact, left, List.sum_append,
        List.sum_singleton, mul_add]
      split
      · next far =>
        have further := lt_of_mul_lt_mul_of_nonneg_right far.2 fast.le
        rw [travelled_of_le]
        rw [dist_travelled gone, length] at further
        rw [length]
        linarith [min_le_left (speed * steps.sum) 1]
      · next near =>
        have inside : speed * step ≤ dist (travelled start goal (speed * steps.sum)) goal := by
          by_contra further
          refine near ⟨mul_nonneg dist_nonneg fast.le, ?_⟩
          exact mul_lt_mul_of_pos_right (not_le.mp further) fast
        rw [travelled_add gone onwards, min_eq_left inside, unit]

namespace UnitWay

variable {steps : List ℝ}

theorem sentTo_eq (way : UnitWay start goal speed steps) {user : User (Exact ℝ)}
    (placed : user.mPosition = coordinates start) (moving : user.mSpeed = .number speed) :
    user.sentTo goal = exact start (goal - start) goal speed := by
  have normalised : ‖goal‖⁻¹ • goal = goal := by
    rcases way.destination with zero | unit
    · rw [zero, smul_zero]
    · rw [unit, inv_one, one_smul]
  rw [User.sentTo_eq placed moving, normalised]

/-- On such a way, a user is always where it should be. -/
theorem moved (way : UnitWay start goal speed steps) (forward : 0 ≤ speed)
    (nonnegative : ∀ step ∈ steps, 0 ≤ step) {before later : List ℝ}
    (split : steps = before ++ later) :
    (exact start (goal - start) goal speed).moved before =
      exact (travelled start goal (speed * before.sum)) (goal - start) goal speed := by
  rw [split, List.forall_mem_append] at nonnegative
  rcases lt_or_ge 0 (total (goal - start)) with fast | slow
  · exact moved_of_total_pos way.length fast forward nonnegative.1
  · have enough : speed * before.sum ≤ 1 := by
      refine le_trans (mul_le_mul_of_nonneg_left ?_ forward)
        (way.stops.resolve_left (not_lt.mpr slow))
      rw [split, List.sum_append]
      exact le_add_of_nonneg_right (List.sum_nonneg nonnegative.2)
    rw [moved_of_total_nonpos slow forward nonnegative.1, travelled, way.length,
      min_eq_left enough, heading, way.length, inv_one, one_smul]

theorem movesStraight (way : UnitWay start goal speed steps) (forward : 0 ≤ speed)
    (nonnegative : ∀ step ∈ steps, 0 ≤ step) {user : User (Exact ℝ)}
    (placed : user.mPosition = coordinates start) (moving : user.mSpeed = .number speed) :
    MovesStraight user start goal speed steps := by
  have gone : ∀ before later, steps = before ++ later → 0 ≤ speed * before.sum := by
    intro before later split
    rw [split, List.forall_mem_append] at nonnegative
    exact mul_nonneg forward (List.sum_nonneg nonnegative.1)
  have position : ∀ before later, steps = before ++ later →
      ((user.sentTo goal).moved before).mPosition =
        coordinates (travelled start goal (speed * before.sum)) := by
    intro before later split
    rw [way.sentTo_eq placed moving, way.moved forward nonnegative split]
    rfl
  refine ⟨?_, ?_, ?_, ?_, ?_⟩
  · rw [way.sentTo_eq placed moving]
    rfl
  · rw [way.sentTo_eq placed moving, heading, way.length, inv_one, one_smul]
    rfl
  · intro before step later split
    have onwards : steps = (before ++ [step]) ++ later := by
      rw [split, List.append_assoc, List.singleton_append]
    refine ⟨_, position before (step :: later) split, ?_⟩
    have stepNonnegative : 0 ≤ step := by
      apply nonnegative
      rw [split]
      exact List.mem_append_right before List.mem_cons_self
    rw [position _ later onwards, List.sum_append, List.sum_singleton, mul_add,
      travelled_add (gone before _ split) (mul_nonneg forward stepNonnegative)]
  · intro before later split
    exact ⟨_, travelled_mem_segment (gone before later split), position before later split⟩
  · intro before later split far
    rw [position before later split, travelled_of_le far]

end UnitWay

/-- Whatever a user that moves straight does, its way is such a way. -/
theorem MovesStraight.unitWay {user : User (Exact ℝ)} {steps : List ℝ}
    (straight : MovesStraight user start goal speed steps)
    (placed : user.mPosition = coordinates start) (moving : user.mSpeed = .number speed)
    (apart : goal ≠ start) (forward : 0 ≤ speed) (nonnegative : ∀ step ∈ steps, 0 ≤ step) :
    UnitWay start goal speed steps := by
  have sent : user.sentTo goal = exact start (goal - start) (‖goal‖⁻¹ • goal) speed :=
    sentTo_eq placed moving
  have stored : ‖goal‖⁻¹ • goal = goal :=
    coordinates_injective ((congrArg User.mDestination sent).symm.trans straight.destination)
  have directed : goal - start = heading start goal :=
    coordinates_injective ((congrArg User.mDirection sent).symm.trans straight.direction)
  have length : dist start goal = 1 := by
    rw [dist_eq_norm', directed, norm_heading apart.symm]
  refine ⟨?_, length, ?_⟩
  · rw [or_iff_not_imp_left]
    intro nonzero
    rw [← stored, norm_smul, norm_inv, norm_norm, inv_mul_cancel₀ (norm_ne_zero_iff.mpr nonzero)]
  · rw [or_iff_not_imp_left, not_lt]
    intro slow
    rcases straight.stays steps [] (List.append_nil steps).symm with ⟨point, inSegment, reached⟩
    rw [sent, stored, moved_of_total_nonpos slow forward nonnegative] at reached
    have same := coordinates_injective reached
    rw [← same, segment_eq_image'] at inSegment
    rcases inSegment with ⟨share, ⟨_, atMost⟩, there⟩
    have equal : share = speed * steps.sum :=
      smul_left_injective ℝ (sub_ne_zero.mpr apart) (add_left_cancel there)
    exact equal ▸ atMost

/-- A user moves straight to its destination exactly when the destination is
the origin or has the length one, the way has the length one, and either the
coordinates of the way sum to more than zero or the user does not go beyond
it. -/
theorem movesStraight_iff (user : User (Exact ℝ)) (start goal : Point) (speed : ℝ)
    (steps : List ℝ) (placed : user.mPosition = coordinates start)
    (moving : user.mSpeed = .number speed) (apart : goal ≠ start) (forward : 0 ≤ speed)
    (nonnegative : ∀ step ∈ steps, 0 ≤ step) :
    MovesStraight user start goal speed steps ↔ UnitWay start goal speed steps := by
  constructor
  · intro straight
    exact straight.unitWay placed moving apart forward nonnegative
  · intro way
    exact way.movesStraight forward nonnegative placed moving

/-- From the origin along one axis, half of the way and then more than the
rest. -/
theorem movesStraight_along_axis :
    MovesStraight (exact 0 0 0 1) 0 (EuclideanSpace.single 0 1) 1 [1 / 2, 1] := by
  have length : ‖(EuclideanSpace.single 0 1 : Point)‖ = 1 := by
    rw [PiLp.norm_single, norm_one]
  refine (movesStraight_iff (exact 0 0 0 1) 0 (EuclideanSpace.single 0 1) 1 [1 / 2, 1] rfl rfl
    ?_ zero_le_one ?_).mpr ⟨Or.inr length, ?_, Or.inl ?_⟩
  · rw [← norm_ne_zero_iff, length]
    exact one_ne_zero
  · intro step member
    rcases List.mem_pair.mp member with same | same <;> rw [same] <;> norm_num
  · rw [dist_zero_left, length]
  · simp [total]

/-- Two units along an axis, the user stores a destination at half of the way. -/
theorem destination_halved :
    ¬ MovesStraight (exact 0 0 0 1) 0 (EuclideanSpace.single 0 2) 1 [1] := by
  intro straight
  have length : ‖(EuclideanSpace.single 0 2 : Point)‖ = 2 := by
    rw [PiLp.norm_single, Real.norm_ofNat]
  have sent : ((exact 0 0 0 1).sentTo (EuclideanSpace.single 0 2)).mDestination =
      coordinates ((2 : ℝ)⁻¹ • EuclideanSpace.single 0 2) := by
    rw [sentTo_eq rfl rfl, length]
    rfl
  have same := congrArg norm (coordinates_injective (sent.symm.trans straight.destination))
  rw [norm_smul, length] at same
  norm_num at same

end User

end Game
end Pxc
