import Mathlib.Algebra.Order.Group.MinMax
import FuzzyGrid.Proofs.Fuzzy.Values
import FuzzyGrid.Proofs.Grid.Order

/-!
# Duality of the fuzzy set operations

The complement reflects fuzzy values about the midpoint of the range, so that
truth and falsehood change places.  The greatest value becomes the least one,
the truest values become the falsest, and a mean stays a mean, whatever its
weights are.  Moving cells into the range gets along with the reflection, so
that all of this holds of the layers that the operations make.
-/

namespace FuzzyGrid

open Grid (foldValues)

variable {K : Type} [ExactNumber K]

namespace ListOperation

/-- Operations on a number of layers that the complement turns into each
other. -/
inductive Dual (count : Nat) : ListOperation K → ListOperation K → Prop where
  | fuzzyAnd : Dual count .fuzzyAnd .fuzzyOr
  | fuzzyOr : Dual count .fuzzyOr .fuzzyAnd
  | fuzzyUnion : Dual count .fuzzyUnion .fuzzyUnion
  | fuzzyWeightedUnion {weights : List K} (length : weights.length = count)
      (nonzero : weights.sum ≠ 0) :
      Dual count (.fuzzyWeightedUnion weights) (.fuzzyWeightedUnion weights)
  | truest {considered : Nat} (positive : 1 ≤ considered)
      (enough : considered ≤ count) :
      Dual count (.fuzzySelectedUnion .truest considered)
        (.fuzzySelectedUnion .falsest considered)
  | falsest {considered : Nat} (positive : 1 ≤ considered)
      (enough : considered ≤ count) :
      Dual count (.fuzzySelectedUnion .falsest considered)
        (.fuzzySelectedUnion .truest considered)

variable {count : Nat} {operation dual : ListOperation K}

theorem Dual.symm (duality : Dual count operation dual) :
    Dual count dual operation := by
  cases duality with
  | fuzzyAnd => exact .fuzzyOr
  | fuzzyOr => exact .fuzzyAnd
  | fuzzyUnion => exact .fuzzyUnion
  | fuzzyWeightedUnion length nonzero => exact .fuzzyWeightedUnion length nonzero
  | truest positive enough => exact .falsest positive enough
  | falsest positive enough => exact .truest positive enough

theorem Dual.takes (duality : Dual count operation dual) (some : 0 < count) :
    operation.Takes count := by
  cases duality with
  | fuzzyAnd => exact .of_unweighted rfl some rfl
  | fuzzyOr => exact .of_unweighted rfl some rfl
  | fuzzyUnion => exact .of_unweighted rfl some rfl
  | fuzzyWeightedUnion length nonzero =>
      exact takes_fuzzyWeightedUnion some length nonzero
  | truest positive enough => exact takes_fuzzySelectedUnion _ positive enough
  | falsest positive enough => exact takes_fuzzySelectedUnion _ positive enough

/-! ## Reflected values -/

private theorem foldValues_map {function : K → K} {one other : K → K → K}
    (turns : ∀ first second, other (function first) (function second) =
      function (one first second)) {values : List K} (some : values ≠ []) :
    foldValues other (values.map function) =
      function (foldValues one values) := by
  obtain ⟨first, rest, rfl⟩ := List.exists_cons_of_ne_nil some
  rw [List.map_cons, foldValues, foldValues, List.foldl_map]
  exact List.foldl_hom function fun sum value => turns sum value

private theorem weighted_reflect (ends : K) {values weights : List K}
    (length : weights.length = values.length) :
    (List.zipWith (· * ·) (values.map fun value => ends - value) weights).sum =
      ends * weights.sum - (List.zipWith (· * ·) values weights).sum := by
  induction values generalizing weights with
  | nil => simp [List.length_eq_zero_iff.mp length]
  | cons value rest induction =>
      obtain ⟨weight, others, rfl⟩ := List.exists_cons_of_length_eq_add_one length
      rw [List.map_cons, List.zipWith_cons_cons, List.sum_cons,
        induction (Nat.succ.inj length), List.sum_cons, List.zipWith_cons_cons,
        List.sum_cons]
      ring

private theorem falsest_reflect (range : FuzzyRange K) (ends : K)
    (values : List K) {considered : Nat} (positive : 1 ≤ considered)
    (enough : considered ≤ values.length) :
    (fuzzySelectedUnion .falsest considered).combine range
        (values.map fun value => ends - value) =
      ends - (fuzzySelectedUnion .truest considered).combine range values := by
  have length : ((Ascending.sort Scalar.lt values).drop
      (values.length - considered)).length = considered := by
    rw [List.length_drop, Ascending.length_sort]
    exact Nat.sub_sub_self enough
  rw [combine_falsest, combine_truest, Ascending.sort_reflect, List.take_reverse,
    List.sum_reverse, List.length_map, Ascending.length_sort, ← List.map_drop]
  exact Scalar.mean_reflect ends length positive

/-- An operation on reflected values gives the reflection of what its dual
gives. -/
theorem Dual.combine_reflect (duality : Dual count operation dual)
    (range : FuzzyRange K) (ends : K) {values : List K} (some : 0 < count)
    (length : values.length = count) :
    dual.combine range (values.map fun value => ends - value) =
      ends - operation.combine range values := by
  have nonempty : values ≠ [] := by
    rintro rfl
    exact some.ne length
  cases duality with
  | fuzzyAnd =>
      rw [combine_fuzzyAnd, combine_fuzzyOr]
      exact foldValues_map (fun _ _ => max_sub_sub_left _ _ _) nonempty
  | fuzzyOr =>
      rw [combine_fuzzyAnd, combine_fuzzyOr]
      exact foldValues_map (fun _ _ => min_sub_sub_left _ _ _) nonempty
  | fuzzyUnion =>
      rw [combine_fuzzyUnion, combine_fuzzyUnion, List.length_map]
      exact Scalar.mean_reflect ends rfl (length ▸ some)
  | fuzzyWeightedUnion weights nonzero =>
      rw [combine_fuzzyWeightedUnion, combine_fuzzyWeightedUnion,
        weighted_reflect ends (weights.trans length.symm), sub_div,
        mul_div_cancel_right₀ _ nonzero]
  | truest positive enough =>
      exact falsest_reflect range ends values positive (length ▸ enough)
  | falsest positive enough =>
      -- Reflecting twice changes nothing, so this is the case before.
      have back := falsest_reflect range ends
        (values.map fun value => ends - value) positive
        (by rw [List.length_map]; exact length ▸ enough)
      have twice : (values.map fun value => ends - value).map
          (fun value => ends - value) = values := by simp
      rw [twice] at back
      rw [back, sub_sub_cancel]

/-! ## Layers -/

/-- The complement of a layer in the range is its reflection, and back again.
The complement of what an operation makes of layers is what the dual operation
makes of their complements. -/
theorem makes_dual {range : FuzzyRange K} {grids : List (Grid K)}
    (proper : range.low < range.high) (some : grids ≠ [])
    (shapes : Grid.SameShape grids)
    (within : ∀ grid ∈ grids, grid.Within range) :
    (∀ grid ∈ grids,
      LayerOperation.fuzzyNot.Makes range grid (grid.map range.complement) ∧
      LayerOperation.fuzzyNot.Makes range (grid.map range.complement) grid) ∧
    ∀ operation dual, Dual grids.length operation dual →
      ∃ made opposite : Grid K,
        operation.Makes range grids made ∧
        LayerOperation.fuzzyNot.Makes range made opposite ∧
        dual.Makes range (grids.map fun grid => grid.map range.complement)
          opposite := by
  constructor
  · intro grid member
    have inside := within grid member
    have once := LayerOperation.fuzzyNot_makes range grid
    have twice := LayerOperation.fuzzyNot_makes range (grid.map range.complement)
    rw [inside.complement.clampUnmasked_eq] at once
    rw [Grid.map_complement_map, inside.clampUnmasked_eq] at twice
    exact ⟨once, twice⟩
  · intro operation dual duality
    have positive : 0 < grids.length := List.length_pos_iff.mpr some
    let complements := grids.map fun grid => grid.map range.complement
    have length : complements.length = grids.length := List.length_map ..
    have reflects : Grid.blend (dual.combine range) complements =
        (Grid.blend (operation.combine range) grids).map range.complement := by
      rw [Grid.blend_map, Grid.map_blend]
      apply Grid.blend_congr
      intro values count
      exact duality.combine_reflect range _ positive count
    have makes := (duality.takes positive).makes range shapes
    have negates := LayerOperation.fuzzyNot_makes range
      (operation.clampedBlend range grids)
    have makesDual := Takes.makes (length ▸ duality.symm.takes positive) range
      (shapes.map range.complement)
    rw [clampedBlend, Grid.clampUnmasked_complement _ proper.le] at negates
    rw [clampedBlend, reflects] at makesDual
    exact ⟨_, _, makes, negates, makesDual⟩

end ListOperation

namespace Sample

/-- A contrast of two layers that leaves the range on either side, and the
contrast of their complements. -/
theorem makes_dual_contrast :
    let range : FuzzyRange ℚ := ⟨-1, 3⟩
    let near : Grid ℚ := ⟨1, 3, [⟨2, false⟩, ⟨-1, false⟩, ⟨9, true⟩]⟩
    let far : Grid ℚ := ⟨1, 3, [⟨0, false⟩, ⟨3, false⟩, ⟨1, false⟩]⟩
    let contrast : Grid ℚ := ⟨1, 3, [⟨3, false⟩, ⟨-1, false⟩, ⟨17, true⟩]⟩
    let context := holding range [("Near", near), ("Far", far),
      ("NotNear", near.map range.complement),
      ("NotFar", far.map range.complement), ("Contrast", contrast)]
    let operation : ListOperation ℚ := .fuzzyWeightedUnion [2, -1]
    (Operation.layer "NotNear" .fuzzyNot).compute .unknown context =
        .ok ⟨.layer near .fuzzy, none⟩ ∧
      (Operation.list ["Near", "Far"] operation).compute .unknown context =
        .ok ⟨.layer contrast .fuzzy, none⟩ ∧
      (Operation.layer "Contrast" .fuzzyNot).compute .unknown context =
        (Operation.list ["NotNear", "NotFar"] operation).compute .unknown context := by
  intro range near far contrast context operation
  have shapes : Grid.SameShape [near, far] := by decide +kernel
  have within : ∀ grid ∈ [near, far], grid.Within range := by decide +kernel
  obtain ⟨negates, duals⟩ := ListOperation.makes_dual (by decide +kernel)
    (List.cons_ne_nil near [far]) shapes within
  obtain ⟨made, opposite, makes, complements, makesDual⟩ :=
    duals operation operation (.fuzzyWeightedUnion rfl (by decide +kernel))
  have held : context.HoldsFuzzy ["Near", "Far"] [near, far] := by
    decide +kernel
  have others : context.HoldsFuzzy ["NotNear", "NotFar"]
      [near.map range.complement, far.map range.complement] := by
    decide +kernel
  have computed := makes .unknown context _ rfl held
  have same : made = contrast := eq_of_evaluated computed (by decide +kernel)
  subst same
  refine ⟨?_, computed, ?_⟩
  · exact (negates near List.mem_cons_self).2 .unknown context "NotNear" rfl
      (by decide +kernel)
  · rw [complements .unknown context "Contrast" rfl (by decide +kernel),
      makesDual .unknown context _ rfl others]

end Sample

end FuzzyGrid
