import FuzzyGrid.Proofs.Fuzzy.Values
import FuzzyGrid.Proofs.Grid.Order

/-!
# Monotonicity of the fuzzy set operations

Raising layers raises what the fuzzy set operations make of them, as long as no
weight is negative.  The exclusive or is not among these operations: under a
greatest value that is kept, it falls and rises again with the second one.
-/

namespace FuzzyGrid

open List (Forall₂)
open Grid (foldValues)

variable {K : Type} [ExactNumber K]

namespace ListOperation

/-- Operations on a number of layers whose values rise with the layers. -/
inductive Rising (count : Nat) : ListOperation K → Prop where
  | fuzzyAnd : Rising count .fuzzyAnd
  | fuzzyOr : Rising count .fuzzyOr
  | fuzzyUnion : Rising count .fuzzyUnion
  | fuzzySelectedUnion (selection : Selection) {considered : Nat}
      (positive : 1 ≤ considered) (enough : considered ≤ count) :
      Rising count (.fuzzySelectedUnion selection considered)
  | fuzzyWeightedUnion {weights : List K} (length : weights.length = count)
      (nonnegative : ∀ weight ∈ weights, 0 ≤ weight) (nonzero : weights.sum ≠ 0) :
      Rising count (.fuzzyWeightedUnion weights)

variable {count : Nat} {operation : ListOperation K}

theorem Rising.takes (rising : Rising count operation) (some : 0 < count) :
    operation.Takes count := by
  cases rising with
  | fuzzyAnd => exact .of_unweighted rfl some rfl
  | fuzzyOr => exact .of_unweighted rfl some rfl
  | fuzzyUnion => exact .of_unweighted rfl some rfl
  | fuzzySelectedUnion selection positive enough =>
      exact takes_fuzzySelectedUnion selection positive enough
  | fuzzyWeightedUnion length _ nonzero =>
      exact takes_fuzzyWeightedUnion some length nonzero

/-! ## Raised values -/

private theorem foldValues_mono {function : K → K → K}
    (rises : ∀ ⦃one other⦄, one ≤ other → ∀ ⦃two another⦄, two ≤ another →
      function one two ≤ function other another)
    {lower upper : List K} (below : Forall₂ (· ≤ ·) lower upper) :
    foldValues function lower ≤ foldValues function upper := by
  cases below with
  | nil => exact le_refl _
  | cons first rest => exact List.rel_foldl rises first rest

private theorem weighted_mono {lower upper weights : List K}
    (below : Forall₂ (· ≤ ·) lower upper)
    (nonnegative : ∀ weight ∈ weights, 0 ≤ weight) :
    (List.zipWith (· * ·) lower weights).sum ≤
      (List.zipWith (· * ·) upper weights).sum := by
  have same : Forall₂ (fun weight other => 0 ≤ weight ∧ weight = other)
      weights weights :=
    List.forall₂_same.mpr fun weight member => ⟨nonnegative weight member, rfl⟩
  apply List.Forall₂.sum_le_sum
  apply SortedStack.forall₂_zipWith _ below same
  rintro value weight other _ atMost ⟨weighs, rfl⟩
  exact mul_le_mul_of_nonneg_right atMost weighs

/-- A rising operation gives no less on greater values. -/
theorem Rising.combine_mono (rising : Rising count operation)
    (range : FuzzyRange K) {lower upper : List K}
    (below : Forall₂ (· ≤ ·) lower upper) :
    operation.combine range lower ≤ operation.combine range upper := by
  have length := below.length_eq
  have sorted := Ascending.sort_mono below
  cases rising with
  | fuzzyAnd =>
      rw [combine_fuzzyAnd, combine_fuzzyAnd]
      exact foldValues_mono (fun _ _ one _ _ two => min_le_min one two) below
  | fuzzyOr =>
      rw [combine_fuzzyOr, combine_fuzzyOr]
      exact foldValues_mono (fun _ _ one _ _ two => max_le_max one two) below
  | fuzzyUnion =>
      rw [combine_fuzzyUnion, combine_fuzzyUnion, length]
      exact div_le_div_of_nonneg_right below.sum_le_sum (Nat.cast_nonneg _)
  | @fuzzySelectedUnion selection considered _ _ =>
      cases selection with
      | falsest =>
          rw [combine_falsest, combine_falsest]
          exact div_le_div_of_nonneg_right
            (List.forall₂_take considered sorted).sum_le_sum (Nat.cast_nonneg _)
      | truest =>
          rw [combine_truest, combine_truest, length]
          exact div_le_div_of_nonneg_right
            (List.forall₂_drop _ sorted).sum_le_sum (Nat.cast_nonneg _)
  | fuzzyWeightedUnion _ nonnegative _ =>
      rw [combine_fuzzyWeightedUnion, combine_fuzzyWeightedUnion]
      exact div_le_div_of_nonneg_right (weighted_mono below nonnegative)
        (List.sum_nonneg nonnegative)

/-! ## Layers -/

/-- What a rising operation makes of layers is at most what it makes of layers
that are nowhere less. -/
theorem makes_mono {range : FuzzyRange K} {lower upper : List (Grid K)}
    (ordered : range.Ordered) (some : lower ≠ [])
    (shapes : Grid.SameShape lower) (below : Forall₂ Grid.AtMost lower upper)
    (rising : Rising lower.length operation) :
    ∃ made other : Grid K,
      operation.Makes range lower made ∧ operation.Makes range upper other ∧
        made.AtMost other := by
  have positive : 0 < lower.length := List.length_pos_iff.mpr some
  have takes := rising.takes positive
  have takesUpper : operation.Takes upper.length := below.length_eq ▸ takes
  refine ⟨_, _, takes.makes range shapes,
    takesUpper.makes range (shapes.of_atMost below), ?_⟩
  apply Grid.AtMost.clampUnmasked _ ordered
  apply Grid.AtMost.blend _ below
  intro values others atMost
  exact rising.combine_mono range atMost

end ListOperation

namespace Sample

/-- The raised layer was the least one at its first place and becomes the
greatest one there. -/
theorem makes_mono_raised :
    let range : FuzzyRange ℚ := ⟨0, 4⟩
    let kept : List (Grid ℚ) :=
      [⟨1, 2, [⟨3, false⟩, ⟨2, false⟩]⟩, ⟨1, 2, [⟨2, false⟩, ⟨1, false⟩]⟩]
    let grid : Grid ℚ := ⟨1, 2, [⟨1, false⟩, ⟨9, true⟩]⟩
    let raised : Grid ℚ := ⟨1, 2, [⟨4, false⟩, ⟨7, true⟩]⟩
    let fields := ["Changing", "First", "Second"]
    let operation := Operation.list fields (.fuzzySelectedUnion .truest 2)
    let made : Grid ℚ := ⟨1, 2, [⟨5 / 2, false⟩, ⟨11 / 2, true⟩]⟩
    let other : Grid ℚ := ⟨1, 2, [⟨7 / 2, false⟩, ⟨9 / 2, true⟩]⟩
    operation.compute .unknown (holding range (fields.zip (grid :: kept))) =
        .ok ⟨.layer made .fuzzy, none⟩ ∧
      operation.compute .unknown (holding range (fields.zip (raised :: kept))) =
        .ok ⟨.layer other .fuzzy, none⟩ ∧
      made.AtMost other := by
  intro range kept grid raised fields operation made other
  have accepted : FuzzyRange.ofEnds (0 : ℚ) 4 = .ok range := by decide +kernel
  have shapes : Grid.SameShape (grid :: kept) := by decide +kernel
  have below : List.Forall₂ Grid.AtMost (grid :: kept) (raised :: kept) := by
    refine .cons ⟨rfl, .cons ⟨rfl, fun _ => by decide +kernel⟩
      (.cons ⟨rfl, nofun⟩ .nil)⟩ (List.forall₂_same.mpr ?_)
    intro grid _
    exact ⟨rfl, List.forall₂_same.mpr fun _ _ => ⟨rfl, fun _ => le_refl _⟩⟩
  obtain ⟨first, second, makesFirst, makesSecond, atMost⟩ :=
    ListOperation.makes_mono (FuzzyRange.ordered_of_ofEnds accepted)
      (List.cons_ne_nil _ _) shapes below
      (.fuzzySelectedUnion .truest one_le_two (by decide))
  have held : (holding range (fields.zip (grid :: kept))).HoldsFuzzy fields
      (grid :: kept) := by decide +kernel
  have heldRaised : (holding range (fields.zip (raised :: kept))).HoldsFuzzy
      fields (raised :: kept) := by decide +kernel
  have computed := makesFirst .unknown _ fields rfl held
  have computedRaised := makesSecond .unknown _ fields rfl heldRaised
  have isMade : first = made := eq_of_evaluated computed (by decide +kernel)
  have isOther : second = other :=
    eq_of_evaluated computedRaised (by decide +kernel)
  subst isMade isOther
  exact ⟨computed, computedRaised, atMost⟩

end Sample

end FuzzyGrid
