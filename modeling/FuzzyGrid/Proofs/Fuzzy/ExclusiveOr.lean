import Mathlib.Tactic.FieldSimp
import Mathlib.Tactic.Ring
import FuzzyGrid.Proofs.Number.Ascending
import FuzzyGrid.Proofs.Fuzzy.Layers
import FuzzyGrid.Proofs.Grid.Order
import FuzzyGrid.Proofs.Grid.Places
import FuzzyGrid.Proofs.Safety.Operations

/-!
# The exclusive or of layers

Of the values at a place only the two greatest ones count.  With the distances
`a` of the greatest from the second and `b` of the second from the lower end of
the range, the value is `a * b / (a + b)` below the greatest.  As
`4 * a * b ≤ (a + b) ^ 2`, it never loses more than a quarter of its distance
from the lower end.  So it stays in the range, and its divisor is positive
wherever it divides.
-/

namespace FuzzyGrid

open List (Forall₂)
open scoped List

variable {K : Type} [ExactNumber K]

/-- The two greatest of some values, equal ones counted as often as they
occur. -/
structure TopTwo (top second : K) (values : List K) : Prop where
  ordered : second ≤ top
  others : ∃ rest, values.Perm (top :: second :: rest) ∧
    ∀ value ∈ rest, value ≤ second

namespace TopTwo

variable {top second : K} {values : List K}

theorem exists_of_length (enough : 2 ≤ values.length) :
    ∃ top second, TopTwo top second values := by
  have perm := Ascending.sort_perm Scalar.lt values
  have descending : (Ascending.sort Scalar.lt values).reverse.Pairwise (· ≥ ·) :=
    List.pairwise_reverse.mpr (Ascending.pairwise_sort values)
  have same := perm.symm.trans (List.reverse_perm _).symm
  rw [same.length_eq] at enough
  match sorted : (Ascending.sort Scalar.lt values).reverse, enough with
  | top :: second :: rest, _ =>
      rw [sorted] at descending same
      have ⟨belowTop, others⟩ := List.pairwise_cons.mp descending
      exact ⟨top, second, belowTop second List.mem_cons_self, rest, same,
        (List.pairwise_cons.mp others).1⟩

theorem mem (topTwo : TopTwo top second values) :
    top ∈ values ∧ second ∈ values := by
  obtain ⟨rest, perm, _⟩ := topTwo.others
  simp [perm.mem_iff]

/-- In ascending order the two greatest values come last. -/
theorem sort_eq (topTwo : TopTwo top second values) :
    ∃ rest, Ascending.sort Scalar.lt values = rest ++ [second, top] := by
  obtain ⟨rest, perm, below⟩ := topTwo.others
  have sorted : (Ascending.sort Scalar.lt rest ++ [second, top]).Pairwise
      (· ≤ ·) := by
    refine List.pairwise_append.mpr
      ⟨Ascending.pairwise_sort rest, by simpa using topTwo.ordered, ?_⟩
    intro value member last isLast
    have atMost := below value (Ascending.mem_sort.mp member)
    rcases List.mem_pair.mp isLast with rfl | rfl
    · exact atMost
    · exact atMost.trans topTwo.ordered
  refine ⟨Ascending.sort Scalar.lt rest, (Ascending.eq_sort sorted ?_).symm⟩
  calc Ascending.sort Scalar.lt rest ++ [second, top]
    _ ~ rest ++ [second, top] := (Ascending.sort_perm _ _).append_right _
    _ ~ [second, top] ++ rest := List.perm_append_comm
    _ ~ top :: second :: rest := .swap top second rest
    _ ~ values := perm.symm

end TopTwo

namespace ListOperation

/-! ## Two values -/

section

variable {low second top : K}

theorem exclusiveOr_of_le (atMost : top ≤ low) :
    exclusiveOr low [second, top] = low := by
  simp [exclusiveOr, atMost]

theorem exclusiveOr_of_lt (above : low < top) :
    exclusiveOr low [second, top] =
      top - (top - second) * (second - low) / (top - low) := by
  simp [exclusiveOr, above]

variable (least : low ≤ second) (ordered : second ≤ top)

include least ordered

theorem le_exclusiveOr :
    low + 3 / 4 * (top - low) ≤ exclusiveOr low [second, top] := by
  rcases (least.trans ordered).eq_or_lt with rfl | above
  · simp [exclusiveOr_of_le (le_refl low)]
  · have wide := sub_pos.mpr above
    have square : 4 * ((top - second) * (second - low)) ≤ (top - low) ^ 2 := by
      have parts : (top - low) ^ 2 - 4 * ((top - second) * (second - low)) =
          ((top - second) - (second - low)) ^ 2 := by ring
      linarith [sq_nonneg ((top - second) - (second - low))]
    have quarter : (top - second) * (second - low) / (top - low) ≤
        1 / 4 * (top - low) := by
      rw [div_le_iff₀ wide]
      linarith
    rw [exclusiveOr_of_lt above]
    linarith

theorem exclusiveOr_le : exclusiveOr low [second, top] ≤ top := by
  rcases (least.trans ordered).eq_or_lt with rfl | above
  · exact (exclusiveOr_of_le (le_refl low)).le
  · rw [exclusiveOr_of_lt above]
    apply sub_le_self
    exact div_nonneg (mul_nonneg (sub_nonneg.mpr ordered) (sub_nonneg.mpr least))
      (sub_pos.mpr above).le

theorem exclusiveOr_eq_top_iff :
    exclusiveOr low [second, top] = top ↔ second = low ∨ second = top := by
  rcases (least.trans ordered).eq_or_lt with rfl | above
  · simp [exclusiveOr_of_le (le_refl low), le_antisymm ordered least]
  · have wide := (sub_pos.mpr above).ne'
    rw [exclusiveOr_of_lt above, sub_eq_self, div_eq_zero_iff, or_iff_left wide,
      mul_eq_zero, sub_eq_zero, sub_eq_zero, or_comm]
    exact or_congr_right eq_comm

theorem exclusiveOr_mono {higher : K} (atMost : top ≤ higher) :
    exclusiveOr low [second, top] ≤ exclusiveOr low [second, higher] := by
  rcases (least.trans ordered).eq_or_lt with rfl | above
  · have bound := le_exclusiveOr least (ordered.trans atMost)
    rw [exclusiveOr_of_le (le_refl low)]
    linarith
  · have wide := sub_pos.mpr above
    have wider := sub_pos.mpr (above.trans_le atMost)
    have sumOfSquares (value : K) (apart : value - low ≠ 0) :
        value - (value - second) * (second - low) / (value - low) =
          second + (value - second) ^ 2 / (value - low) := by
      field_simp
      ring
    rw [exclusiveOr_of_lt above, exclusiveOr_of_lt (above.trans_le atMost),
      sumOfSquares top wide.ne', sumOfSquares higher wider.ne']
    apply add_le_add_right
    rw [div_le_div_iff₀ wide wider, ← sub_nonneg]
    have inFactors :
        (higher - second) ^ 2 * (top - low) - (top - second) ^ 2 * (higher - low) =
          (higher - top) * ((top - second) * (higher - second) +
            (second - low) * ((top - second) + (higher - second))) := by ring
    have first := sub_nonneg.mpr ordered
    have other := sub_nonneg.mpr (ordered.trans atMost)
    rw [inFactors]
    exact mul_nonneg (sub_nonneg.mpr atMost) (add_nonneg (mul_nonneg first other)
      (mul_nonneg (sub_nonneg.mpr least) (add_nonneg first other)))

end

/-! ## Layers -/

/-- Only the two greatest values count. -/
theorem combine_fuzzyXor {range : FuzzyRange K} {values : List K} {top second : K}
    (topTwo : TopTwo top second values) :
    fuzzyXor.combine range values = exclusiveOr range.low [second, top] := by
  obtain ⟨rest, sorted⟩ := topTwo.sort_eq
  simp [combine, Scalar.arrange_id_eq_sort, exclusiveOr, sorted]

private theorem combine_fuzzyXor_perm (range : FuzzyRange K)
    ⦃values permuted : List K⦄ (same : values.Perm permuted) :
    fuzzyXor.combine range values = fuzzyXor.combine range permuted := by
  rw [combine, combine, Scalar.arrange_id_eq_sort, Scalar.arrange_id_eq_sort,
    Ascending.sort_eq_of_perm same]

section

variable {range : FuzzyRange K} {grids : List (Grid K)}
  (within : ∀ grid ∈ grids, grid.Within range)

include within

/-- What is seen of layers in the range lies in the range. -/
private theorem mem_range_of_seen {values : List K}
    (seen : Forall₂ (fun grid value => value ∈ grid.validValues) grids values) :
    ∀ value ∈ values, range.low ≤ value ∧ value ≤ range.high := by
  induction seen with
  | nil => exact nofun
  | cons here _ induction =>
      intro value member
      rcases List.mem_cons.mp member with rfl | later
      · exact FuzzyRange.contains_iff.mp (within _ List.mem_cons_self _ here)
      · apply induction _ value later
        intro grid isGrid
        exact within grid (List.mem_cons_of_mem _ isGrid)

/-- The exclusive or of layers in the range lies in the range. -/
theorem within_blend_fuzzyXor (enough : 2 ≤ grids.length) :
    (Grid.blend (fuzzyXor.combine range) grids).Within range := by
  intro value valid
  obtain ⟨values, seen, rfl⟩ := Grid.mem_validValues_blend valid
  obtain ⟨top, second, topTwo⟩ :=
    TopTwo.exists_of_length (seen.length_eq ▸ enough)
  have inside := mem_range_of_seen within seen
  obtain ⟨least, _⟩ := inside second topTwo.mem.2
  obtain ⟨leastTop, mostTop⟩ := inside top topTwo.mem.1
  have atLeast := le_exclusiveOr least topTwo.ordered
  have atMost := exclusiveOr_le least topTwo.ordered
  rw [combine_fuzzyXor topTwo, FuzzyRange.contains_iff]
  constructor
  · linarith
  · exact atMost.trans mostTop

end

/-- The exclusive or of layers in the range is left alone when it is moved into
the range, and zero never divides.  Whatever the order of the layers, it depends
on the two greatest values of a place only, rises with the greatest one, and lies
between three quarters of the way to the greatest value and that value, which it
reaches where the second one is at the lower end or as great. -/
theorem exclusiveOr_bounds {range : FuzzyRange K} {grids : List (Grid K)}
    (enough : 2 ≤ grids.length) (shapes : Grid.SameShape grids)
    (within : ∀ grid ∈ grids, grid.Within range) :
    ∃ (stack : SortedStack K) (made : Grid K),
      (∀ origin, Grid.stack origin argument grids = .ok stack) ∧
      stack.reduce (exclusiveOr range.low) = made ∧
      Guarded.reduce stack
        (Guarded.exclusiveOr (fun divisor => decide (divisor ≠ 0)) range.low) =
          some made ∧
      (∀ others, others.Perm grids → fuzzyXor.Makes range others made) ∧
      (∀ place value, made.ShowsAt place value →
        ∃ values top second,
          Forall₂ (fun grid value => grid.ShowsAt place value) grids values ∧
            TopTwo top second values) ∧
      (∀ place values top second,
        Forall₂ (fun grid value => grid.ShowsAt place value) grids values →
        TopTwo top second values →
        ∃ value, made.ShowsAt place value ∧
          value = exclusiveOr range.low [second, top] ∧
          range.low + 3 / 4 * (top - range.low) ≤ value ∧ value ≤ top ∧
          (value = top ↔ second = range.low ∨ second = top)) ∧
      ∀ second top higher, range.low ≤ second → second ≤ top → top ≤ higher →
        exclusiveOr range.low [second, top] ≤
          exclusiveOr range.low [second, higher] := by
  have some : grids ≠ [] :=
    List.ne_nil_of_length_pos (Nat.lt_of_lt_of_le two_pos enough)
  have inRange := within_blend_fuzzyXor within enough
  obtain ⟨stack, stacked, reduces⟩ := shapes.exists_stack (exclusiveOr range.low)
  have reduced : stack.reduce (exclusiveOr range.low) =
      Grid.blend (fuzzyXor.combine range) grids := reduces
  refine ⟨stack, Grid.blend (fuzzyXor.combine range) grids,
    fun origin => stacked origin argument, reduced, ?_,
    ?_, ?_, ?_, ?_⟩
  · rw [← reduced]
    apply Guarded.reduce_eq
    intro cell member
    apply Guarded.exclusiveOr_eq Guarded.Divisors.exact
    rwa [Guarded.length_of_mem_stack (stacked .unknown argument) member]
  · intro others same
    have takes : (fuzzyXor : ListOperation K).Takes others.length :=
      .of_unweighted rfl (same.length_eq ▸ enough) rfl
    have makes := takes.makes range (shapes.perm same)
    have unclamped : fuzzyXor.clampedBlend range others =
        Grid.blend (fuzzyXor.combine range) grids := by
      rw [clampedBlend, Grid.blend_perm (combine_fuzzyXor_perm range) shapes same,
        inRange.clampUnmasked_eq]
    rwa [unclamped] at makes
  · intro place value shows_
    obtain ⟨values, shown, _⟩ := (Grid.showsAt_blend_iff some).mp shows_
    obtain ⟨top, second, topTwo⟩ :=
      TopTwo.exists_of_length (shown.length_eq ▸ enough)
    exact ⟨values, top, second, shown, topTwo⟩
  · intro place values top second shown topTwo
    have seen := shown.imp fun _ _ here => Grid.ShowsAt.mem_validValues here
    have least := (mem_range_of_seen within seen second topTwo.mem.2).1
    refine ⟨exclusiveOr range.low [second, top], ?_, rfl,
      le_exclusiveOr least topTwo.ordered, exclusiveOr_le least topTwo.ordered,
      exclusiveOr_eq_top_iff least topTwo.ordered⟩
    exact (Grid.showsAt_blend_iff some).mpr ⟨values, shown, combine_fuzzyXor topTwo⟩
  · intro second top higher least ordered atMost
    exact exclusiveOr_mono least ordered atMost

end ListOperation

namespace Sample

/-- Layers with the second value half way up, all values at the lower end, two
greatest values, and a masked value above the range. -/
theorem exclusiveOr_bounds_three :
    let range : FuzzyRange ℚ := ⟨0, 4⟩
    let first : Grid ℚ :=
      ⟨1, 4, [⟨4, false⟩, ⟨0, false⟩, ⟨2, false⟩, ⟨9, true⟩]⟩
    let second : Grid ℚ :=
      ⟨1, 4, [⟨2, false⟩, ⟨0, false⟩, ⟨4, false⟩, ⟨1, false⟩]⟩
    let third : Grid ℚ :=
      ⟨1, 4, [⟨1, false⟩, ⟨0, false⟩, ⟨4, false⟩, ⟨0, false⟩]⟩
    let context := holding range
      [("First", first), ("Second", second), ("Third", third)]
    let made : Grid ℚ :=
      ⟨1, 4, [⟨3, false⟩, ⟨0, false⟩, ⟨4, false⟩, ⟨73 / 9, true⟩]⟩
    (Operation.list ["First", "Second", "Third"] .fuzzyXor).compute .unknown context =
        .ok ⟨.layer made .fuzzy, none⟩ ∧
      (Operation.list ["Third", "First", "Second"] .fuzzyXor).compute .unknown context =
        .ok ⟨.layer made .fuzzy, none⟩ ∧
      TopTwo 4 2 [(4 : ℚ), 2, 1] ∧
      range.low + 3 / 4 * (4 - range.low) ≤ 3 ∧
      ((3 : ℚ) = 4 ↔ 2 = range.low ∨ (2 : ℚ) = 4) := by
  intro range first second third context made
  have shapes : Grid.SameShape [first, second, third] := by decide +kernel
  have within : ∀ grid ∈ [first, second, third], grid.Within range := by
    decide +kernel
  obtain ⟨_, layer, _, _, _, makes, _, bounds, _⟩ :=
    ListOperation.exclusiveOr_bounds (by decide) shapes within
  have held : context.HoldsFuzzy ["First", "Second", "Third"]
      [first, second, third] := by decide +kernel
  have turned : context.HoldsFuzzy ["Third", "First", "Second"]
      [third, first, second] := by decide +kernel
  have computed := makes _ (.refl _) .unknown context _ rfl held
  have same : layer = made := eq_of_evaluated computed (by decide +kernel)
  subst same
  have topTwo : TopTwo 4 2 [(4 : ℚ), 2, 1] :=
    ⟨by decide +kernel, [1], .refl _, by decide +kernel⟩
  obtain ⟨value, shows_, _, atLeast, _, isTop⟩ := bounds 0 [4, 2, 1] 4 2
    (.cons rfl (.cons rfl (.cons rfl .nil))) topTwo
  have isThree : value = 3 := by
    cases shows_
    rfl
  subst isThree
  refine ⟨computed, ?_, topTwo, atLeast, isTop⟩
  exact makes [third, first, second] (by decide +kernel) .unknown context _ rfl turned

end Sample

end FuzzyGrid
