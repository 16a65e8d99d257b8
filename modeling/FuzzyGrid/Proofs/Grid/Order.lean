import Mathlib.Tactic.Linarith
import FuzzyGrid.Proofs.Number.Exact
import FuzzyGrid.Proofs.Grid.Blend

/-!
# Grids cell by cell at most others

A grid is at most another one if it has the same shape and mask and nowhere a
greater unmasked scalar.  Blends that rise with their values keep this order,
and so does moving the unmasked cells into a range.  Moving them into a range
also commutes with the reflection of that range.
-/

namespace FuzzyGrid

open List (Forall₂)

variable {K : Type} [ExactNumber K]

/-! ## Clamped scalars -/

namespace Scalar

variable {low high : K}

theorem clamp_eq (ordered : low ≤ high) (value : K) :
    clamp low high value = max low (min value high) := by
  unfold clamp
  by_cases below : value < low
  · rw [if_pos (lt_iff.mpr below), max_eq_left]
    exact (min_le_left _ _).trans below.le
  · rw [if_neg (mt lt_iff.mp below)]
    by_cases above : high < value
    · rw [if_pos (lt_iff.mpr above), min_eq_right above.le, max_eq_right ordered]
    · rw [if_neg (mt lt_iff.mp above), min_eq_left (not_lt.mp above),
        max_eq_right (not_lt.mp below)]

theorem clamp_of_mem {value : K} (above : low ≤ value) (below : value ≤ high) :
    clamp low high value = value := by
  rw [clamp_eq (above.trans below), min_eq_left below, max_eq_right above]

theorem clamp_clamp (ordered : low ≤ high) (value : K) :
    clamp low high (clamp low high value) = clamp low high value := by
  rw [clamp_eq ordered value]
  exact clamp_of_mem (le_max_left _ _) (max_le ordered (min_le_right _ _))

theorem clamp_mono (ordered : low ≤ high) {value other : K}
    (atMost : value ≤ other) : clamp low high value ≤ clamp low high other := by
  rw [clamp_eq ordered, clamp_eq ordered]
  exact max_le_max_left low (min_le_min_right high atMost)

theorem clamp_reflect (ordered : low ≤ high) (value : K) :
    clamp low high (low + high - value) =
      low + high - clamp low high value := by
  unfold clamp
  by_cases below : value < low
  · have notBelow : ¬low + high - value < low := by linarith
    have above : high < low + high - value := by linarith
    rw [if_neg (mt lt_iff.mp notBelow), if_pos (lt_iff.mpr above),
      if_pos (lt_iff.mpr below), add_sub_cancel_left]
  · by_cases above : high < value
    · have reflected : low + high - value < low := by linarith
      rw [if_pos (lt_iff.mpr reflected), if_neg (mt lt_iff.mp below),
        if_pos (lt_iff.mpr above), add_sub_cancel_right]
    · have notBelow : ¬low + high - value < low := by linarith
      have notAbove : ¬high < low + high - value := by linarith
      rw [if_neg (mt lt_iff.mp notBelow), if_neg (mt lt_iff.mp notAbove),
        if_neg (mt lt_iff.mp below), if_neg (mt lt_iff.mp above)]

end Scalar

/-! ## The order of grids -/

/-- A cell that is masked where another one is, and else at most that one. -/
structure Cell.AtMost (first second : Cell K) : Prop where
  masked : first.masked = second.masked
  value : first.masked = false → first.value ≤ second.value

/-- A grid of the shape and mask of another one whose unmasked cells are at
most the cells of that one. -/
structure Grid.AtMost (first second : Grid K) : Prop where
  shape : first.shape = second.shape
  cells : Forall₂ Cell.AtMost first.cells second.cells

/-- Cells that are at most others have values that are, unless one is
masked. -/
private theorem values_of_atMost {cells others : List (Cell K)}
    (below : Forall₂ Cell.AtMost cells others) :
    cells.any Cell.masked = others.any Cell.masked ∧
      (cells.any Cell.masked = false →
        Forall₂ (· ≤ ·) (cells.map Cell.value) (others.map Cell.value)) := by
  induction below with
  | nil => exact ⟨rfl, fun _ => .nil⟩
  | cons head _ induction =>
      obtain ⟨sameMasks, values⟩ := induction
      refine ⟨by rw [List.any_cons, List.any_cons, head.masked, sameMasks], ?_⟩
      intro unmasked
      rw [List.any_cons, Bool.or_eq_false_iff] at unmasked
      exact .cons (head.value unmasked.1) (values unmasked.2)

namespace Grid

theorem AtMost.clampUnmasked {first second : Grid K}
    (atMost : first.AtMost second) {low high : K} (ordered : low ≤ high) :
    (first.clampUnmasked low high).AtMost (second.clampUnmasked low high) := by
  refine ⟨atMost.shape, ?_⟩
  simp only [Grid.clampUnmasked, List.forall₂_map_left_iff,
    List.forall₂_map_right_iff]
  apply atMost.cells.imp
  intro cell other below
  cases masked : cell.masked with
  | true =>
      have otherMasked : other.masked = true := below.masked ▸ masked
      simpa [masked, otherMasked] using below
  | false =>
      have otherOpen : other.masked = false := below.masked ▸ masked
      simp only [otherOpen, Bool.false_eq_true, if_false]
      exact ⟨rfl, fun _ => Scalar.clamp_mono ordered (below.value masked)⟩

theorem SameShape.of_atMost {lower upper : List (Grid K)}
    (shapes : SameShape lower) (below : Forall₂ AtMost lower upper) :
    SameShape upper := by
  have same : lower.map shape = upper.map shape := by
    rw [← List.forall₂_eq_eq_eq, List.forall₂_map_left_iff,
      List.forall₂_map_right_iff]
    exact below.imp fun _ _ atMost => atMost.shape
  apply shapes.of_shapes
  intro grid member
  exact List.mem_map.mp (same ▸ List.mem_map_of_mem member)

/-- A combination that is at most another one on the same values makes blends
that are. -/
theorem blend_atMost {combine other : List K → K} {grids : List (Grid K)}
    (below : ∀ values, values.length = grids.length →
      combine values ≤ other values) :
    (blend combine grids).AtMost (blend other grids) := by
  cases grids with
  | nil => exact ⟨rfl, .nil⟩
  | cons first rest =>
      refine ⟨rfl, ?_⟩
      simp only [blend, List.forall₂_map_left_iff, List.forall₂_map_right_iff]
      apply List.forall₂_same.mpr
      intro cells member
      have length := SortedStack.length_of_mem_columns member
      exact ⟨rfl, fun _ => below _ (by rw [List.length_map, length])⟩

/-- A combination that rises with the values makes blends that rise with the
grids. -/
theorem AtMost.blend {combine : List K → K} {first second : List (Grid K)}
    (rises : ∀ lower upper, Forall₂ (· ≤ ·) lower upper →
      combine lower ≤ combine upper)
    (atMost : Forall₂ AtMost first second) :
    (Grid.blend combine first).AtMost (Grid.blend combine second) := by
  have columns := SortedStack.forall₂_columns
    (atMost.imp fun _ _ below => below.cells)
  cases atMost with
  | nil => exact ⟨rfl, .nil⟩
  | cons below _ =>
      refine ⟨below.shape, ?_⟩
      simp only [Grid.blend, List.forall₂_map_left_iff,
        List.forall₂_map_right_iff]
      apply columns.imp
      intro cells others atMost
      obtain ⟨masked, values⟩ := values_of_atMost atMost
      exact ⟨masked, fun unmasked => rises _ _ (values unmasked)⟩

end Grid

/-! ## Fuzzy ranges -/

namespace FuzzyRange

/-- A range whose ends are in order, as those of every accepted range are. -/
def Ordered (range : FuzzyRange K) : Prop :=
  range.low ≤ range.high

variable {low high : K} {range : FuzzyRange K}

theorem low_lt_high_of_ofEnds (accepted : ofEnds low high = .ok range) :
    range.low < range.high := by
  unfold ofEnds at accepted
  split at accepted
  · rename_i below
    cases accepted
    exact Scalar.lt_iff.mp below
  · cases accepted

theorem ordered_of_ofEnds (accepted : ofEnds low high = .ok range) : range.Ordered :=
  (low_lt_high_of_ofEnds accepted).le

end FuzzyRange

/-! ## Grids in a fuzzy range -/

/-- The unmasked cells lie in a range. -/
def Grid.Within (grid : Grid K) (range : FuzzyRange K) : Prop :=
  ∀ value ∈ grid.validValues, range.contains value = true

instance (grid : Grid K) (range : FuzzyRange K) : Decidable (grid.Within range) :=
  inferInstanceAs (Decidable (∀ value ∈ grid.validValues,
    range.contains value = true))

theorem FuzzyRange.contains_iff {range : FuzzyRange K} {value : K} :
    range.contains value = true ↔ range.low ≤ value ∧ value ≤ range.high := by
  rw [contains, Bool.and_eq_true, Scalar.le_iff, Scalar.le_iff]

namespace Grid

variable {range : FuzzyRange K} {grid : Grid K}

theorem Within.clampUnmasked_eq (within : grid.Within range) :
    grid.clampUnmasked range.low range.high = grid := by
  have same : ∀ cell ∈ grid.cells, (if cell.masked then cell
      else ⟨Scalar.clamp range.low range.high cell.value, false⟩) = cell := by
    intro cell member
    cases masked : cell.masked with
    | true => rfl
    | false =>
        have valid : cell.value ∈ grid.validValues :=
          List.mem_filterMap.mpr ⟨cell, member, by simp [Cell.valid?, masked]⟩
        obtain ⟨above, below⟩ := FuzzyRange.contains_iff.mp (within _ valid)
        exact congrArg₂ Cell.mk (Scalar.clamp_of_mem above below) masked.symm
  rw [clampUnmasked, List.map_congr_left same, List.map_id']

theorem Within.complement (within : grid.Within range) :
    (grid.map range.complement).Within range := by
  intro value member
  rw [validValues_map] at member
  obtain ⟨source, valid, rfl⟩ := List.mem_map.mp member
  obtain ⟨above, below⟩ := FuzzyRange.contains_iff.mp (within source valid)
  rw [FuzzyRange.contains_iff, FuzzyRange.complement]
  constructor <;> linarith

theorem map_complement_map (grid : Grid K) :
    (grid.map range.complement).map range.complement = grid := by
  have twice : range.complement ∘ range.complement = id := by
    funext value
    exact sub_sub_cancel _ value
  rw [map_map, twice, map_id]

/-- The reflection of a clamped grid is clamped to the clamped reflection. -/
theorem clampUnmasked_complement (grid : Grid K)
    (ordered : range.low ≤ range.high) :
    ((grid.clampUnmasked range.low range.high).map
        range.complement).clampUnmasked range.low range.high =
      (grid.map range.complement).clampUnmasked range.low range.high := by
  have cell : ∀ value : K,
      Scalar.clamp range.low range.high
          (range.complement (Scalar.clamp range.low range.high value)) =
        Scalar.clamp range.low range.high (range.complement value) := by
    intro value
    rw [FuzzyRange.complement, Scalar.clamp_reflect ordered,
      Scalar.clamp_clamp ordered]
    exact (Scalar.clamp_reflect ordered value).symm
  simp only [clampUnmasked, map, List.map_map, mk.injEq, true_and]
  apply List.map_congr_left
  intro source _
  cases masked : source.masked with
  | true => simp [Cell.map, masked]
  | false => simp [Cell.map, masked, cell]

end Grid

end FuzzyGrid
