import Mathlib.Order.MinMax
import Mathlib.Tactic.FieldSimp
import Mathlib.Tactic.Ring
import FuzzyGrid.Operator.Curve
import FuzzyGrid.Proofs.Grid.Order

/-!
# Lines through two points

In exact arithmetic a line passes through the points it is given by, whichever
comes first, and the line with exchanged axes takes it back.  A line rises or
falls, so moving a position between the positions of the two points moves its
height between their heights.
-/

namespace FuzzyGrid

variable {K : Type} [ExactNumber K] {x₁ x₂ y₁ y₂ : K}

theorem lineThrough_first (x₁ y₁ x₂ y₂ : K) : lineThrough x₁ y₁ x₂ y₂ x₁ = y₁ := by
  simp [lineThrough]

theorem lineThrough_comm (apart : x₁ ≠ x₂) (x : K) :
    lineThrough x₂ y₂ x₁ y₁ x = lineThrough x₁ y₁ x₂ y₂ x := by
  have forward := sub_ne_zero.mpr apart.symm
  have backward := sub_ne_zero.mpr apart
  unfold lineThrough
  field_simp
  ring

theorem lineThrough_second (apart : x₁ ≠ x₂) :
    lineThrough x₁ y₁ x₂ y₂ x₂ = y₂ := by
  rw [← lineThrough_comm apart, lineThrough_first]

/-- The line with exchanged axes is the inverse. -/
theorem lineThrough_lineThrough (apart : x₁ ≠ x₂) (level : y₁ ≠ y₂) (x : K) :
    lineThrough y₁ x₁ y₂ x₂ (lineThrough x₁ y₁ x₂ y₂ x) = x := by
  have width := sub_ne_zero.mpr apart.symm
  have height := sub_ne_zero.mpr level.symm
  unfold lineThrough
  field_simp
  ring

/-- A line that is not level takes no height twice. -/
theorem lineThrough_injective (apart : x₁ ≠ x₂) (level : y₁ ≠ y₂) :
    Function.Injective (lineThrough x₁ y₁ x₂ y₂) :=
  Function.LeftInverse.injective (lineThrough_lineThrough apart level)

theorem lineThrough_diagonal (apart : x₁ ≠ x₂) : lineThrough x₁ x₁ x₂ x₂ = id := by
  funext x
  have width := sub_ne_zero.mpr apart.symm
  rw [lineThrough, div_self width, mul_one, sub_add_cancel, id]

theorem segment_eq_lineThrough (left right : K × K) (x : K) :
    Curve.segment left right x = lineThrough left.1 left.2 right.1 right.2 x := by
  unfold Curve.segment lineThrough
  ring

/-! ## Order -/

theorem lineThrough_monotone (ordered : x₁ ≤ x₂) (rising : y₁ ≤ y₂) :
    Monotone (lineThrough x₁ y₁ x₂ y₂) := by
  intro x other atMost
  have slope := div_nonneg (sub_nonneg.mpr rising) (sub_nonneg.mpr ordered)
  exact add_le_add_left
    (mul_le_mul_of_nonneg_right (sub_le_sub_right atMost x₁) slope) y₁

theorem lineThrough_antitone (ordered : x₁ ≤ x₂) (falling : y₂ ≤ y₁) :
    Antitone (lineThrough x₁ y₁ x₂ y₂) := by
  intro x other atMost
  have slope := div_nonpos_of_nonpos_of_nonneg (sub_nonpos.mpr falling)
    (sub_nonneg.mpr ordered)
  exact add_le_add_left
    (mul_le_mul_of_nonpos_right (sub_le_sub_right atMost x₁) slope) y₁

theorem lineThrough_strictMono (ordered : x₁ < x₂) (rising : y₁ < y₂) :
    StrictMono (lineThrough x₁ y₁ x₂ y₂) :=
  (lineThrough_monotone ordered.le rising.le).strictMono_of_injective
    (lineThrough_injective ordered.ne rising.ne)

theorem lineThrough_strictAnti (ordered : x₁ < x₂) (falling : y₂ < y₁) :
    StrictAnti (lineThrough x₁ y₁ x₂ y₂) :=
  (lineThrough_antitone ordered.le falling.le).strictAnti_of_injective
    (lineThrough_injective ordered.ne falling.ne')

/-- Moving a position between the two points moves its height between
theirs. -/
theorem lineThrough_clamp (ordered : x₁ < x₂) (x : K) :
    lineThrough x₁ y₁ x₂ y₂ (Scalar.clamp x₁ x₂ x) =
      Scalar.clamp (min y₁ y₂) (max y₁ y₂) (lineThrough x₁ y₁ x₂ y₂ x) := by
  rw [Scalar.clamp_eq ordered.le, Scalar.clamp_eq min_le_max]
  rcases le_total y₁ y₂ with rising | falling
  · have line := lineThrough_monotone ordered.le rising
    rw [line.map_max, line.map_min, lineThrough_first,
      lineThrough_second ordered.ne, min_eq_left rising, max_eq_right rising]
  · have line := lineThrough_antitone ordered.le falling
    rw [line.map_max, line.map_min, lineThrough_first,
      lineThrough_second ordered.ne, min_eq_right falling, max_eq_left falling,
      min_max_distrib_left, min_eq_right falling, max_comm, min_comm]

/-- Between the two points a line stays between their heights. -/
theorem lineThrough_mem (ordered : x₁ < x₂) {x : K} (above : x₁ ≤ x)
    (upTo : x ≤ x₂) :
    min y₁ y₂ ≤ lineThrough x₁ y₁ x₂ y₂ x ∧
      lineThrough x₁ y₁ x₂ y₂ x ≤ max y₁ y₂ := by
  have moved : lineThrough x₁ y₁ x₂ y₂ (Scalar.clamp x₁ x₂ x) = _ :=
    lineThrough_clamp ordered x
  rw [Scalar.clamp_of_mem above upTo, Scalar.clamp_eq min_le_max] at moved
  rw [moved]
  exact ⟨le_max_left _ _, max_le min_le_max (min_le_right _ _)⟩

end FuzzyGrid
