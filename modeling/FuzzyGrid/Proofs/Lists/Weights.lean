import Mathlib.Algebra.BigOperators.Ring.List
import FuzzyGrid.Proofs.Fuzzy.Monotonicity
import FuzzyGrid.Proofs.Grid.Places

/-!
# Weighted sums and means

A weighted sum counts every layer once, with its weight, and a weighted mean
divides it by the sum of the weights.  In exact arithmetic a common factor of
the weights does not count, so that equal weights give the mean.  Weights that
are not negative keep the mean between the least and the greatest value.
-/

namespace FuzzyGrid

open List (Forall₂)
open Grid (SameShape foldValues weighValues blend)

variable {K : Type} [ExactNumber K]

/-! ## Values with their weights -/

namespace Grid

variable {values : List K}

theorem foldValues_min_le {value : K} (member : value ∈ values) :
    foldValues min values ≤ value := by
  cases values with
  | nil => cases member
  | cons first rest => exact (List.min?_eq_some_iff.mp List.min?_cons').2 value member

theorem le_foldValues_max {value : K} (member : value ∈ values) :
    value ≤ foldValues max values := by
  cases values with
  | nil => cases member
  | cons first rest => exact (List.max?_eq_some_iff.mp List.max?_cons').2 value member

end Grid

namespace ListOperation

variable (range : FuzzyRange K) {weights values : List K}

private theorem sum_products_scaled (factor : K) :
    (List.zipWith (· * ·) values (weights.map (factor * ·))).sum =
      factor * (List.zipWith (· * ·) values weights).sum := by
  have products : List.zipWith (· * ·) values (weights.map (factor * ·)) =
      (List.zipWith (· * ·) values weights).map (factor * ·) := by
    rw [List.zipWith_map_right, List.map_zipWith]
    congr 1
    funext value weight
    exact mul_left_comm value factor weight
  rw [products, List.sum_map_mul_left, List.map_id']

private theorem sum_products_level (common : K) :
    (List.zipWith (· * ·) values (List.replicate values.length common)).sum =
      values.sum * common := by
  induction values with
  | nil => simp
  | cons value rest induction =>
      rw [List.length_cons, List.replicate_succ, List.zipWith_cons_cons, List.sum_cons,
        induction, List.sum_cons, add_mul]

/-- A common factor of the weights does not count. -/
theorem combine_scaled {factor : K} (nonzero : factor ≠ 0) :
    (fuzzyWeightedUnion (weights.map (factor * ·))).combine range values =
      (fuzzyWeightedUnion weights).combine range values := by
  have total : (weights.map (factor * ·)).sum = factor * weights.sum := by
    rw [List.sum_map_mul_left, List.map_id']
  rw [combine_fuzzyWeightedUnion, combine_fuzzyWeightedUnion, sum_products_scaled, total,
    mul_div_mul_left _ _ nonzero]

/-- Equal weights do not count at all. -/
theorem combine_level {common : K} (nonzero : common ≠ 0) :
    (fuzzyWeightedUnion (List.replicate values.length common)).combine range values =
      fuzzyUnion.combine range values := by
  rw [combine_fuzzyWeightedUnion, combine_fuzzyUnion, sum_products_level,
    List.sum_replicate, nsmul_eq_mul, mul_div_mul_right _ _ nonzero]

/-- The weighted mean of equal values is their value. -/
theorem combine_constant (total : weights.sum ≠ 0) (value : K) :
    (fuzzyWeightedUnion weights).combine range
      (List.replicate weights.length value) = value := by
  have commutes : (List.zipWith (· * ·) (List.replicate weights.length value)
      weights).sum = weights.sum * value := by
    rw [List.zipWith_comm_of_comm mul_comm, sum_products_level]
  rw [combine_fuzzyWeightedUnion, commutes, mul_div_cancel_left₀ _ total]

/-! ## What is asked of the weights -/

variable (origin : Origin)

theorem checkWeightSum_eq (weights : List K) :
    checkWeightSum origin weights =
      if weights.sum = 0 then
        .error ⟨.invalidArgument "Weights" .zeroWeightSum, origin⟩
      else .ok () := by
  have isZero : (zero : K) = 0 := Int.cast_zero
  simp only [checkWeightSum, Scalar.eq_iff, Scalar.total_eq_sum, isZero]

private theorem checkWeightSum_scaled {factor : K} (nonzero : factor ≠ 0) :
    checkWeightSum origin (weights.map (factor * ·)) = checkWeightSum origin weights := by
  rw [checkWeightSum_eq, checkWeightSum_eq, List.sum_map_mul_left, List.map_id']
  simp only [mul_eq_zero, nonzero, false_or]

private theorem checkWeightSum_level {common : K} (nonzero : common ≠ 0) {count : Nat}
    (positive : 1 ≤ count) :
    checkWeightSum origin (List.replicate count common) = .ok () := by
  have total : (List.replicate count common).sum ≠ 0 := by
    rw [List.sum_replicate, nsmul_eq_mul]
    exact mul_ne_zero (Nat.cast_ne_zero.mpr (Nat.one_le_iff_ne_zero.mp positive)) nonzero
  rw [checkWeightSum_eq, if_neg total]

omit [ExactNumber K] in
private theorem checkCounts_level {operation other : ListOperation K} {count : Nat}
    {common : K} (least : operation.least = other.least)
    (weighted : operation.weights? = some (List.replicate count common))
    (weightless : other.weights? = none) :
    operation.checkCounts origin count = other.checkCounts origin count := by
  unfold checkCounts
  rw [least, weighted, weightless]
  cases Fault.checkMinLength origin argument other.least count with
  | error fault => rfl
  | ok _ => exact Fault.checkEqualLengths_eq_ok_iff.mpr List.length_replicate.symm

variable {origin : Origin} {context : ResultContext K} {fields : List String}

/-- A common factor of the weights does not change the weighted mean. -/
theorem compute_weightedMean_scaled {factor : K} (nonzero : factor ≠ 0) :
    (Operation.list fields
        (weightedMean (weights.map (factor * ·)))).compute origin context =
      (Operation.list fields (weightedMean weights)).compute origin context := by
  refine compute_congr rfl ?_ (fun _ => rfl)
    (fun _ => checkWeightSum_scaled origin nonzero)
    (fun _ _ => combine_scaled context.range nonzero) rfl
  simp only [checkCounts, least, weights?, List.length_map]

theorem compute_weightedMean_level {common : K} (nonzero : common ≠ 0) :
    (Operation.list fields
        (weightedMean (List.replicate fields.length common))).compute origin context =
      (Operation.list fields mean).compute origin context := by
  refine compute_congr rfl (checkCounts_level origin rfl rfl rfl) (fun _ => rfl)
    (checkWeightSum_level origin nonzero) ?_ rfl
  intro values length
  rw [← length]
  exact combine_level context.range nonzero

theorem compute_fuzzyWeightedUnion_level {common : K} (nonzero : common ≠ 0) :
    (Operation.list fields
        (fuzzyWeightedUnion
          (List.replicate fields.length common))).compute origin context =
      (Operation.list fields fuzzyUnion).compute origin context := by
  refine compute_congr rfl (checkCounts_level origin rfl rfl rfl)
    (checkWeightSum_level origin nonzero) (fun _ => rfl) ?_ rfl
  intro values length
  rw [← length]
  exact combine_level context.range nonzero

/-! ## Layers -/

/-- A grid of the shape of some layers that shows, wherever all of them are unmasked,
the sum of what they show with their weights. -/
structure IsWeightedSum (inputs : List (InputGrid K)) (weights : List K)
    (total : Grid K) : Prop where
  shape : ∀ input ∈ inputs, total.shape = input.grid.shape
  shows : ∀ place value, total.ShowsAt place value ↔
    ∃ values, Forall₂ (fun input value => input.grid.ShowsAt place value) inputs values ∧
      value = (List.zipWith (· * ·) weights values).sum

def weighed (inputs : List (InputGrid K)) (weights : List K) : Grid K :=
  blend (weighValues weights) (inputs.map InputGrid.grid)

theorem isWeightedSum_weighed {inputs : List (InputGrid K)} (some : inputs ≠ [])
    (shapes : SameShape (inputs.map InputGrid.grid)) (weights : List K) :
    IsWeightedSum inputs weights (weighed inputs weights) := by
  have grids : inputs.map InputGrid.grid ≠ [] := mt List.map_eq_nil_iff.mp some
  constructor
  · obtain ⟨first, rest, rfl⟩ := List.exists_cons_of_ne_nil some
    intro input member
    exact shapes first.grid List.mem_cons_self input.grid (List.mem_map_of_mem member)
  · intro place value
    simp only [weighed, Grid.showsAt_blend_iff grids, List.forall₂_map_left_iff,
      Grid.weighValues_eq, List.zipWith_comm_of_comm mul_comm, eq_comm]

/-- Weights that are not negative keep the weighted mean of the values of a place
between the least and the greatest of them. -/
theorem combine_weightedMean_mem (range : FuzzyRange K)
    (nonnegative : ∀ weight ∈ weights, 0 ≤ weight) (total : weights.sum ≠ 0)
    (length : weights.length = values.length) :
    minimum.combine range values ≤ (weightedMean weights).combine range values ∧
      (weightedMean weights).combine range values ≤ maximum.combine range values := by
  have rising : Rising values.length (fuzzyWeightedUnion weights) :=
    .fuzzyWeightedUnion length nonnegative total
  have above : Forall₂ (· ≤ ·)
      (List.replicate weights.length (foldValues min values)) values := by
    rw [length, ← List.map_const', List.forall₂_map_left_iff, List.forall₂_same]
    exact fun _ => Grid.foldValues_min_le
  have below : Forall₂ (· ≤ ·) values
      (List.replicate weights.length (foldValues max values)) := by
    rw [length, ← List.map_const', List.forall₂_map_right_iff, List.forall₂_same]
    exact fun _ => Grid.le_foldValues_max
  have low := rising.combine_mono range above
  have high := rising.combine_mono range below
  rw [combine_constant range total] at low high
  rw [← combine_fuzzyAnd range] at low
  rw [← combine_fuzzyOr range] at high
  exact ⟨low, high⟩

section

variable {inputs : List (InputGrid K)} (some : fields ≠ [])
  (read : context.layers origin DataType.numerics fields = .ok inputs)
  (shapes : SameShape (inputs.map InputGrid.grid))

include some read shapes

/-- Numeric layers of one shape can be blended by any operation that takes them. -/
theorem blends_numeric {operation : ListOperation K}
    (accepted : operation.accepted = DataType.numerics) (least : operation.least = 1)
    (lengths : ∀ others, operation.weights? = Option.some others →
      others.length = fields.length)
    (before : operation.checkBefore origin = .ok ())
    (after : operation.checkAfter origin = .ok ()) :
    operation.Blends origin context fields inputs := by
  have positive : operation.least ≤ fields.length := by
    rw [least]
    exact List.length_pos_iff.mpr some
  exact ⟨checkCounts_eq_ok_iff.mpr ⟨positive, lengths⟩, before, after,
    accepted ▸ readAll_eq_ok_iff.mp read, shapes⟩

variable (length : weights.length = fields.length)

include length

theorem compute_weightedSum :
    (Operation.list fields (weightedSum weights)).compute origin context =
      .ok ⟨.layer (weighed inputs weights) (DataType.floatFor (weighed inputs weights)),
        none⟩ := by
  have blends : (weightedSum weights).Blends origin context fields inputs := by
    refine blends_numeric some read shapes rfl rfl ?_ rfl rfl
    rintro _ ⟨⟩
    exact length
  exact blends.compute_eq

theorem compute_weightedMean (total : weights.sum ≠ 0) :
    (Operation.list fields (weightedMean weights)).compute origin context =
      .ok ⟨.layer ((weighed inputs weights).map fun value => value / weights.sum) .float,
        none⟩ := by
  have checked : checkWeightSum origin weights = .ok () := by
    rw [checkWeightSum_eq, if_neg total]
  have blends : (weightedMean weights).Blends origin context fields inputs := by
    refine blends_numeric some read shapes rfl rfl ?_ rfl checked
    rintro _ ⟨⟩
    exact length
  rw [blends.compute_eq, weighed, Grid.map_blend, ← Scalar.total_eq_sum]
  rfl

/-- Weights that are not negative keep the weighted mean between the least and the
greatest value. -/
theorem weightedMean_between (total : weights.sum ≠ 0)
    (nonnegative : ∀ weight ∈ weights, 0 ≤ weight) :
    ∃ least greatest : Grid K, ∃ leastType greatestType,
      (Operation.list fields minimum).compute origin context =
        .ok ⟨.layer least leastType, none⟩ ∧
      (Operation.list fields maximum).compute origin context =
        .ok ⟨.layer greatest greatestType, none⟩ ∧
      least.AtMost ((weighed inputs weights).map fun value => value / weights.sum) ∧
      ((weighed inputs weights).map fun value =>
        value / weights.sum).AtMost greatest := by
  have blendsLeast : minimum.Blends origin context fields inputs :=
    blends_numeric some read shapes rfl rfl nofun rfl rfl
  have blendsGreatest : maximum.Blends origin context fields inputs :=
    blends_numeric some read shapes rfl rfl nofun rfl rfl
  have count : (inputs.map InputGrid.grid).length = weights.length := by
    rw [List.length_map, ← blendsLeast.read.length_eq, length]
  have between : ∀ values : List K, values.length = (inputs.map InputGrid.grid).length →
      _ ∧ _ := fun values enough => combine_weightedMean_mem context.range nonnegative
        total (count.symm.trans enough.symm)
  rw [weighed, Grid.map_blend, ← Scalar.total_eq_sum]
  exact ⟨_, _, _, _, blendsLeast.compute_eq, blendsGreatest.compute_eq,
    Grid.blend_atMost fun values enough => (between values enough).1,
    Grid.blend_atMost fun values enough => (between values enough).2⟩

end

/-- In exact arithmetic the weighted sum of numeric layers counts every layer once
with its weight.  The weighted mean divides it by the sum of the weights.  A common
factor of the weights does not change it, equal weights make it the mean, and
weights that are not negative keep it between the least and the greatest value.
With equal weights the weighted union of fuzzy layers is their union. -/
theorem weighted_family (origin : Origin) (context : ResultContext K) :
    (∀ (fields : List String) (inputs : List (InputGrid K)) (weights : List K),
      let computes (operation : ListOperation K) :=
        (Operation.list fields operation).compute origin context
      fields ≠ [] → context.layers origin DataType.numerics fields = .ok inputs →
      SameShape (inputs.map InputGrid.grid) → weights.length = fields.length →
      ∃ total : Grid K,
        let quotient := total.map fun value => value / weights.sum
        IsWeightedSum inputs weights total ∧
        computes (weightedSum weights) =
          .ok ⟨.layer total (DataType.floatFor total), none⟩ ∧
        (weights.sum ≠ 0 →
          computes (weightedMean weights) = .ok ⟨.layer quotient .float, none⟩) ∧
        (∀ factor, factor ≠ 0 → computes (weightedMean (weights.map (factor * ·))) =
          computes (weightedMean weights)) ∧
        (∀ common, common ≠ 0 → (∀ weight ∈ weights, weight = common) →
          computes (weightedMean weights) = computes mean) ∧
        (weights.sum ≠ 0 → (∀ weight ∈ weights, 0 ≤ weight) →
          ∃ least greatest leastType greatestType,
            computes minimum = .ok ⟨.layer least leastType, none⟩ ∧
            computes maximum = .ok ⟨.layer greatest greatestType, none⟩ ∧
            least.AtMost quotient ∧ quotient.AtMost greatest)) ∧
    ∀ (fields : List String) (weights : List K) (common : K),
      common ≠ 0 → weights.length = fields.length →
      (∀ weight ∈ weights, weight = common) →
      (Operation.list fields (fuzzyWeightedUnion weights)).compute origin context =
          (Operation.list fields fuzzyUnion).compute origin context ∧
        ∀ grids, fields ≠ [] → context.HoldsFuzzy fields grids → SameShape grids →
          ∃ union, (Operation.list fields fuzzyUnion).compute origin context =
            .ok ⟨.layer union .fuzzy, none⟩ := by
  constructor
  · intro fields inputs weights computes some_ read shapes length
    have someInputs : inputs ≠ [] := by
      rintro rfl
      exact some_ (List.forall₂_nil_right_iff.mp (readAll_eq_ok_iff.mp read))
    refine ⟨weighed inputs weights, isWeightedSum_weighed someInputs shapes weights,
      compute_weightedSum some_ read shapes length,
      compute_weightedMean some_ read shapes length,
      fun _ => compute_weightedMean_scaled, ?_,
      weightedMean_between some_ read shapes length⟩
    intro common nonzero level
    obtain rfl := List.eq_replicate_iff.mpr ⟨length, level⟩
    exact compute_weightedMean_level nonzero
  · intro fields weights common nonzero length level
    obtain rfl := List.eq_replicate_iff.mpr ⟨length, level⟩
    refine ⟨compute_fuzzyWeightedUnion_level nonzero, ?_⟩
    intro grids some_ held shapes
    have takes : (fuzzyUnion (α := K)).Takes grids.length :=
      .of_unweighted rfl (held.length_eq ▸ List.length_pos_iff.mpr some_) rfl
    exact ⟨_, takes.makes context.range shapes origin context fields rfl held⟩

end ListOperation

namespace Sample

/-- A weighted mean of counts and areas, and two fuzzy layers with equal weights below
zero. -/
theorem weighted_family_counts :
    let count : Grid ℚ := ⟨1, 3, [⟨4, false⟩, ⟨6, false⟩, ⟨9, true⟩]⟩
    let area : Grid ℚ := ⟨1, 3, [⟨2, false⟩, ⟨0, false⟩, ⟨5, false⟩]⟩
    let near : Grid ℚ := ⟨1, 2, [⟨1, false⟩, ⟨-1, false⟩]⟩
    let far : Grid ℚ := ⟨1, 2, [⟨1 / 2, false⟩, ⟨0, true⟩]⟩
    let context : ResultContext ℚ := ⟨.standard, .ofList
      [("Count", .layer count .positiveInteger), ("Area", .layer area .float),
        ("Near", .layer near .fuzzy), ("Far", .layer far .fuzzy)]⟩
    let computes (operation : ListOperation ℚ) :=
      (Operation.list ["Count", "Area"] operation).compute .unknown context
    (∃ total quotient least : Grid ℚ, ∃ leastType,
      ListOperation.IsWeightedSum [⟨count, .positiveInteger⟩, ⟨area, .float⟩] [1, 3]
        total ∧
      quotient = total.map (fun value => value / ([1, 3] : List ℚ).sum) ∧
      computes (.weightedMean [1, 3]) = .ok ⟨.layer quotient .float, none⟩ ∧
      computes (.weightedMean (([1, 3] : List ℚ).map (-2 * ·))) =
        computes (.weightedMean [1, 3]) ∧
      computes .minimum = .ok ⟨.layer least leastType, none⟩ ∧
      least.AtMost quotient) ∧
    computes (.weightedMean [5, 5]) = computes .mean ∧
    (Operation.list ["Near", "Far"]
        (.fuzzyWeightedUnion [-2, -2])).compute .unknown context =
      (Operation.list ["Near", "Far"] .fuzzyUnion).compute .unknown context := by
  intro count area near far context computes
  have read : context.layers .unknown DataType.numerics ["Count", "Area"] =
      .ok [⟨count, .positiveInteger⟩, ⟨area, .float⟩] :=
    ok_of_evaluated (by decide +kernel)
  obtain ⟨numeric, fuzzy⟩ := ListOperation.weighted_family .unknown context
  obtain ⟨total, sums, _, divides, scales, _, between⟩ :=
    numeric ["Count", "Area"] _ [1, 3] (List.cons_ne_nil _ _) read (by decide +kernel) rfl
  obtain ⟨_, _, _, _, _, levels, _⟩ :=
    numeric ["Count", "Area"] _ [5, 5] (List.cons_ne_nil _ _) read (by decide +kernel) rfl
  have nonzero : ([1, 3] : List ℚ).sum ≠ 0 := by decide +kernel
  obtain ⟨least, _, leastType, _, leasts, _, above, _⟩ :=
    between nonzero (by decide +kernel)
  refine ⟨⟨total, _, least, leastType, sums, rfl, divides nonzero,
    scales (-2) (by decide +kernel), leasts, above⟩, ?_, ?_⟩
  · exact levels 5 (by decide +kernel) (by decide +kernel)
  · exact (fuzzy ["Near", "Far"] [-2, -2] (-2) (by decide +kernel) rfl
      (by decide +kernel)).1

end Sample

end FuzzyGrid
