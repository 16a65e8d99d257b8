import Mathlib.Algebra.BigOperators.Ring.List
import FuzzyGrid.Proofs.Grid.Spread
import FuzzyGrid.Proofs.Number.Line

/-!
# Layers in other units

Data that are measured in other units, from another zero, are the image of the
data under a rising affine map.  In exact arithmetic the extremes, the mean and
the numbers of deviations from it go along with the map, and a line through two
points has the same heights where positions and points are mapped together.
-/

namespace FuzzyGrid

variable {K : Type} [ExactNumber K] {factor offset : K}

namespace Scalar

/-- A number in other units. -/
def affine (factor offset value : K) : K :=
  factor * value + offset

theorem affine_strictMono (positive : 0 < factor) (offset : K) :
    StrictMono (affine factor offset) := by
  intro value other less
  exact add_lt_add_left (mul_lt_mul_of_pos_left less positive) offset

theorem lt_affine (positive : 0 < factor) (value other : K) :
    Scalar.lt (affine factor offset value) (affine factor offset other) =
      Scalar.lt value other := by
  rw [Bool.eq_iff_iff, lt_iff, lt_iff]
  exact (affine_strictMono positive offset).lt_iff_lt

theorem le_affine (positive : 0 < factor) (value other : K) :
    Scalar.le (affine factor offset value) (affine factor offset other) =
      Scalar.le value other := by
  rw [Bool.eq_iff_iff, le_iff, le_iff]
  exact (affine_strictMono positive offset).le_iff_le

theorem sum_affine (factor offset : K) (values : List K) :
    (values.map (affine factor offset)).sum =
      factor * values.sum + values.length * offset := by
  have sums := List.sum_map_add (l := values) (f := fun value => factor * value)
    (g := fun _ => offset)
  rwa [List.sum_map_mul_left, List.map_id', List.map_const', List.sum_replicate,
    nsmul_eq_mul] at sums

/-- The root of a number times a square. -/
theorem HasRoot.sqrt_scaled {value : K} (root : HasRoot value)
    (scaled : HasRoot (factor * factor * value)) (nonnegative : 0 ≤ factor) :
    Scalar.sqrt (factor * factor * value) = factor * Scalar.sqrt value := by
  have scales := mul_nonneg nonnegative root.nonnegative
  rw [← mul_self_inj scaled.nonnegative scales, scaled.square, mul_mul_mul_comm,
    root.square]

end Scalar

open Scalar (affine)

/-- Heights do not depend on the units of positions. -/
theorem lineThrough_affine (nonzero : factor ≠ 0) (x₁ y₁ x₂ y₂ x : K) :
    lineThrough (affine factor offset x₁) y₁ (affine factor offset x₂) y₂
        (affine factor offset x) =
      lineThrough x₁ y₁ x₂ y₂ x := by
  have distance (one other : K) : affine factor offset one - affine factor offset other =
      factor * (one - other) := by
    unfold affine
    ring
  rw [lineThrough, lineThrough, distance, distance, ← mul_div_assoc, mul_assoc,
    mul_div_mul_left _ _ nonzero, mul_div_assoc]

namespace Grid

variable {grid : Grid K}

theorem varied_affine_iff (positive : 0 < factor) :
    (grid.map (affine factor offset)).Varied ↔ grid.Varied := by
  have injective := (Scalar.affine_strictMono positive offset).injective
  simp only [Varied, validValues_map, List.mem_map, exists_exists_and_eq_and,
    injective.ne_iff]

/-! ## Mean and deviation -/

theorem mean_affine (some_ : grid.validValues ≠ []) :
    (grid.map (affine factor offset)).mean = affine factor offset grid.mean := by
  have count : (grid.validValues.length : K) ≠ 0 :=
    Nat.cast_ne_zero.mpr (List.length_pos_iff.mpr some_).ne'
  rw [mean, validValues_map, List.length_map, Scalar.sum_affine, mean, affine, add_div,
    mul_div_cancel_left₀ _ count, mul_div_assoc]

theorem variance_affine (some_ : grid.validValues ≠ []) :
    (grid.map (affine factor offset)).variance = factor * factor * grid.variance := by
  have distance (value : K) :
      squaredDistance (affine factor offset grid.mean) (affine factor offset value) =
        factor * factor * squaredDistance grid.mean value := by
    unfold squaredDistance affine
    ring
  simp only [variance, mean_affine some_, validValues_map, List.map_map,
    Function.comp_def,
    distance, List.sum_map_mul_left, List.length_map, mul_div_assoc]

/-- A number of deviations from the mean is the same place in all units. -/
theorem atScore_affine (some_ : grid.validValues ≠ []) (nonnegative : 0 ≤ factor)
    (root : Scalar.HasRoot grid.variance)
    (rootToo : Scalar.HasRoot (grid.map (affine factor offset)).variance) (score : K) :
    (grid.map (affine factor offset)).atScore score =
      affine factor offset (grid.atScore score) := by
  have variances : (grid.map (affine factor offset)).variance =
      factor * factor * grid.variance := variance_affine some_
  rw [variances] at rootToo
  rw [atScore, mean_affine some_, variances, root.sqrt_scaled rootToo nonnegative,
    atScore]
  unfold affine
  ring

end Grid

end FuzzyGrid
