import FuzzyGrid.Proofs.Conversion.Layers
import FuzzyGrid.Proofs.Fuzzy.Layers

/-!
# Interpolation between control points

Converting a layer by a curve follows the straight segments between the control
points, in whatever order these are listed.
-/

namespace FuzzyGrid

variable {K : Type} [ExactNumber K]

namespace LayerOperation

/-- A curve through control points at different positions, listed in any order,
is the one that passes through them in ascending order: level outside, straight
on the one segment that spans a position inside, so that the search for it never
comes to nothing.  It passes through every point and stays between the heights
of the points.  Converting a layer by it keeps the mask, and where the points
rise, the converted values rise with the unmasked ones. -/
theorem toFuzzyCurve_interpolates {points : List (Numeral K × K)}
    (enough : 2 ≤ points.length)
    (distinct : (points.map fun point => point.1.value).Nodup) :
    ∃ (ascending : List (K × K)) (curve : K → K),
      Curve.Orders (points.map fun point => (point.1.value, point.2)) ascending ∧
      (∀ x y, Curve.PassesThrough ascending x y ↔ curve x = y) ∧
      (∀ first last x, ascending.head? = some first →
        ascending.getLast? = some last → first.1 < x → x ≤ last.1 →
          (∃! place, ∃ left right, Curve.Spans ascending place left right x) ∧
            Curve.onSegments? x ascending = some (curve x)) ∧
      (∀ point ∈ points, curve point.1.value = point.2) ∧
      (∀ x, ∃ lower ∈ points, ∃ upper ∈ points,
        lower.2 ≤ curve x ∧ curve x ≤ upper.2) ∧
      (∀ (range : FuzzyRange K) (input : InputGrid K),
        input.dataType.satisfies DataType.numericsOrFuzzy = true →
          ∃ made : Grid K,
            made.Alike (input.grid.map fun x =>
              Scalar.clamp range.low range.high (curve x)) ∧
            ∀ permuted : List (Numeral K × K), permuted.Perm points →
              Curve.ascendingPoints
                  ((permuted.map Prod.fst).map Numeral.value)
                  (permuted.map Prod.snd) = ascending ∧
                (toFuzzyCurve (permuted.map Prod.fst) (permuted.map Prod.snd)).Turns
                  range input ⟨made, .fuzzy⟩) ∧
      ∀ range : FuzzyRange K, range.Ordered →
        (∀ point ∈ points, ∀ other ∈ points,
          point.1.value ≤ other.1.value → point.2 ≤ other.2) →
        Monotone fun x => Scalar.clamp range.low range.high (curve x) := by
  let place : Numeral K × K → K × K := fun point => (point.1.value, point.2)
  obtain ⟨ascending, orders⟩ : ∃ ascending,
      Curve.Orders (points.map place) ascending := by
    apply Curve.exists_orders
    rwa [List.map_map]
  have ascends := orders.ascends
  have listed : ∀ {point}, point ∈ points → place point ∈ ascending :=
    fun member => orders.same.symm.subset (List.mem_map_of_mem member)
  have placed : ∀ {point}, point ∈ ascending → ∃ source ∈ points, place source = point :=
    fun member => List.mem_map.mp (orders.same.subset member)
  have some_ : ascending ≠ [] := by
    rw [← List.length_pos_iff, orders.same.length_eq, List.length_map]
    exact Nat.lt_of_lt_of_le two_pos enough
  have passes := fun x y => Curve.passesThrough_iff (x := x) (y := y) ascends some_
  refine ⟨ascending, Curve.height ascending, orders, passes, ?_, ?_, ?_, ?_, ?_⟩
  · intro first last x isFirst isLast above upTo
    exact Curve.existsUnique_spans ascends isFirst isLast above upTo
  · intro point member
    exact (passes _ _).mp (Curve.passesThrough_of_mem (listed member) ascends)
  · intro x
    obtain ⟨lower, isLower, upper, isUpper, above, below⟩ :=
      ((passes x _).mpr rfl).exists_bounds
    obtain ⟨first, isFirst, rfl⟩ := placed isLower
    obtain ⟨second, isSecond, rfl⟩ := placed isUpper
    exact ⟨first, isFirst, second, isSecond, above, below⟩
  · intro range input accepted
    refine ⟨_, Grid.mapInto_alike range (Curve.height ascending) input.grid, ?_⟩
    intro permuted same
    have reordered := orders.perm (same.map place)
    constructor
    · apply Curve.Orders.ascendingPoints_eq
      rwa [Curve.zip_eq]
    · exact toFuzzyCurve_turns (same.length_eq ▸ enough) reordered accepted
  · intro range ordered rising x other upTo
    have rises : Curve.Rises ascending := by
      intro one isOne two isTwo order
      obtain ⟨first, isFirst, rfl⟩ := placed isOne
      obtain ⟨second, isSecond, rfl⟩ := placed isTwo
      exact rising first isFirst second isSecond order
    apply Scalar.clamp_mono ordered
    exact rises.height_le ascends ((passes _ _).mpr rfl) ((passes _ _).mpr rfl) upTo

end LayerOperation

namespace Sample

/-- Three points that are not listed in order, the lowest of them below the
range. -/
theorem toFuzzyCurve_interpolates_slopes :
    let range : FuzzyRange ℚ := ⟨-1 / 2, 1⟩
    let slopes : Grid ℚ := ⟨2, 3, [⟨-3, false⟩, ⟨2, false⟩, ⟨4, false⟩,
      ⟨7, false⟩, ⟨5, true⟩, ⟨12, false⟩]⟩
    let points : List (Numeral ℚ × ℚ) :=
      [(.whole 10, 1), (.whole 0, -1), (.real 4, 1 / 2)]
    let made : Grid ℚ := ⟨2, 3, [⟨-1 / 2, false⟩, ⟨-1 / 4, false⟩, ⟨1 / 2, false⟩,
      ⟨3 / 4, false⟩, ⟨7 / 12, true⟩, ⟨1, false⟩]⟩
    let converted (points : List (Numeral ℚ × ℚ)) :=
      (Operation.layer "Slopes"
        (.toFuzzyCurve (points.map Prod.fst) (points.map Prod.snd))).compute .unknown
          (holdingOne range "Slopes" slopes .float)
    2 ≤ points.length ∧ (points.map fun point => point.1.value).Nodup ∧
      converted points = .ok ⟨.layer made .fuzzy, none⟩ ∧
      converted points.reverse = .ok ⟨.layer made .fuzzy, none⟩ ∧
      (∃ curve : ℚ → ℚ, made.Alike (slopes.map fun x =>
          Scalar.clamp range.low range.high (curve x)) ∧
        curve 4 = 1 / 2 ∧
        Monotone fun x => Scalar.clamp range.low range.high (curve x)) := by
  intro range slopes points made converted
  have accepted : FuzzyRange.ofEnds (-1 / 2 : ℚ) 1 = .ok range := by decide +kernel
  have enough : 2 ≤ points.length := by decide
  have distinct : (points.map fun point => point.1.value).Nodup := by decide +kernel
  obtain ⟨_, curve, _, _, _, through, _, turns, rises⟩ :=
    LayerOperation.toFuzzyCurve_interpolates enough distinct
  obtain ⟨found, alike, perm⟩ := turns range ⟨slopes, .float⟩ rfl
  have held := holdingOne_get? range "Slopes" slopes .float
  have computed := (perm points (.refl _)).2 .unknown _ _ rfl held
  have same : found = made := eq_of_evaluated computed (by decide +kernel)
  subst same
  refine ⟨enough, distinct, computed, ?_, curve, alike, ?_, ?_⟩
  · exact (perm _ (List.reverse_perm _)).2 .unknown _ _ rfl held
  · exact through (.real 4, 1 / 2) (by decide +kernel)
  · exact rises range (FuzzyRange.ordered_of_ofEnds accepted) (by decide +kernel)

end Sample

end FuzzyGrid
