import FuzzyGrid.Proofs.Conversion.Layers
import FuzzyGrid.Proofs.Fuzzy.Layers

/-!
# Conversions by one line

A line to the range is computed in three ways: through two thresholds, as a
curve with two control points, and as a rescaling of the extent of a layer.  In
exact arithmetic they agree, whether the line rises or falls and also where it
leaves the range.
-/

namespace FuzzyGrid

variable {K : Type} [ExactNumber K] {range : FuzzyRange K} {trueAt falseAt : K}

namespace Grid

/-- The curve through the ends of the line to the range is this line, since what
leaves the range is moved back in. -/
theorem mapInto_alike_curve (wide : range.low < range.high)
    {ascending : List (K × K)}
    (orders : Curve.Orders [(falseAt, range.low), (trueAt, range.high)] ascending)
    (grid : Grid K) :
    (grid.mapInto range (lineThrough trueAt range.high falseAt range.low)).Alike
      (grid.mapInto range (Curve.height ascending)) := by
  have apart : falseAt ≠ trueAt := by simpa using orders.distinct
  rw [mapInto_alike_iff]
  intro value _
  rw [orders.height_of_two, min_eq_left wide.le, max_eq_right wide.le,
    Scalar.clamp_clamp wide.le, lineThrough_comm apart]

/-- The line that takes the extent of a layer to the ends of a range does not
leave it. -/
theorem within_map_lineThrough {grid : Grid K} {least greatest bottom top : K}
    (ordered : least < greatest)
    (extent : ∀ value ∈ grid.validValues, least ≤ value ∧ value ≤ greatest)
    (low : min bottom top = range.low) (high : max bottom top = range.high) :
    (grid.map (lineThrough least bottom greatest top)).Within range := by
  intro value member
  rw [validValues_map] at member
  obtain ⟨source, shown, rfl⟩ := List.mem_map.mp member
  obtain ⟨above, upTo⟩ := extent source shown
  rw [FuzzyRange.contains_iff, ← low, ← high]
  exact lineThrough_mem ordered above upTo

end Grid

namespace LayerOperation

variable {origin : Origin} {grid : Grid K}

theorem apply_toFuzzyZScore (apart : trueAt ≠ falseAt) (varied : grid.Varied)
    (root : Scalar.HasRoot grid.variance) :
    (toFuzzyZScore trueAt falseAt).apply origin range grid =
      .ok (.layer (grid.mapInto range (lineThrough (grid.atScore trueAt) range.high
        (grid.atScore falseAt) range.low)) .fuzzy) := by
  rw [apply, applyToFuzzyZScore_eq apart varied.exists_valid,
    applyLine_eq ((varied.atScore_injective root).ne apart)]

/-- A rescaling is the line from the extent of a layer. -/
theorem applyNormalize_eq_line {least greatest : K}
    (isLeast : grid.least? = some least)
    (isGreatest : grid.greatest? = some greatest) (ordered : least < greatest)
    (start stop : K) :
    applyNormalize origin start stop grid =
      .ok (.layer (grid.map (lineThrough least start greatest stop)) .float) := by
  have line : (fun value => (value - least) * (start - stop) / (least - greatest) +
      start) = lineThrough least start greatest stop := by
    funext value
    have backward := sub_ne_zero.mpr ordered.ne
    have forward := sub_ne_zero.mpr ordered.ne'
    unfold lineThrough
    field_simp
    ring
  rw [applyNormalize, isLeast, isGreatest]
  dsimp only
  rw [if_neg (mt Scalar.eq_iff.mp ordered.ne), line]

variable {input : InputGrid K}

/-- Operations that turn a layer into fuzzy layers that look the same. -/
def Agree (range : FuzzyRange K) (input : InputGrid K)
    (first second : LayerOperation K) : Prop :=
  ∃ one other : Grid K, one.Alike other ∧
    first.Turns range input ⟨one, .fuzzy⟩ ∧
    second.Turns range input ⟨other, .fuzzy⟩

section

variable {trueAt falseAt : Numeral K} {points : List (Numeral K × K)}
  (wide : range.low < range.high)
  (accepted : input.dataType.satisfies DataType.numericsOrFuzzy = true)
  (apart : trueAt.value ≠ falseAt.value)
  (same : points.Perm [(falseAt, range.low), (trueAt, range.high)])

include wide accepted apart same

/-- Two thresholds are a curve of two points. -/
theorem toFuzzy_agree_curve :
    Agree range input (toFuzzy (some trueAt.value) (some falseAt.value) none)
      (toFuzzyCurve (points.map Prod.fst) (points.map Prod.snd)) := by
  have distinct : ([(falseAt.value, range.low), (trueAt.value, range.high)].map
      Prod.fst).Nodup := by simpa using apart.symm
  obtain ⟨ascending, orders⟩ := Curve.exists_orders distinct
  exact ⟨_, _, input.grid.mapInto_alike_curve wide orders,
    toFuzzy_turns apart accepted,
    toFuzzyCurve_turns same.length_eq.ge (orders.perm (same.map _)) accepted⟩

/-- They still are where both are given by distances from the mean.  A layer that
is masked throughout has no mean, and neither operation changes it. -/
theorem toFuzzyZScore_agree_curve (spread : input.grid.validValues = [] ∨
      input.grid.Varied ∧ Scalar.HasRoot input.grid.variance) :
    Agree range input (toFuzzyZScore trueAt.value falseAt.value)
      (toFuzzyCurveZScore (points.map Prod.fst) (points.map Prod.snd)) := by
  have enough : 2 ≤ points.length := same.length_eq.ge
  have distinct : (points.map fun point => point.1.value).Nodup :=
    (same.map _).nodup_iff.mpr (by simpa using apart.symm)
  rcases spread with none_ | ⟨varied, root⟩
  · exact ⟨_, _, .refl _,
      turns_of_apply accepted fun _ => applyToFuzzyZScore_of_masked apart none_,
      turns_of_apply accepted fun origin =>
        apply_toFuzzyCurveZScore_of_masked origin enough distinct none_⟩
  · obtain ⟨ascending, orders⟩ := exists_orders_atScore varied root distinct
    let place : Numeral K × K → K × K := fun point =>
      (input.grid.atScore point.1.value, point.2)
    have two : Curve.Orders [(input.grid.atScore falseAt.value, range.low),
        (input.grid.atScore trueAt.value, range.high)] ascending :=
      orders.perm (same.symm.map place)
    refine ⟨_, _, input.grid.mapInto_alike_curve wide two,
      turns_of_apply accepted fun _ => apply_toFuzzyZScore apart varied root, ?_⟩
    rw [← scoreCurve_eq orders]
    exact turns_of_apply accepted fun origin =>
      apply_toFuzzyCurveZScore origin enough distinct varied.exists_valid

end

private theorem turns_of_extent (numeric : input.dataType.satisfies
      DataType.numerics = true) {direction : ArgValue K} {least greatest bottom top : K}
    (isLeast : input.grid.least? = some least)
    (isGreatest : input.grid.greatest? = some greatest) (ordered : least < greatest)
    (within : (input.grid.map (lineThrough least bottom greatest top)).Within range)
    (converted : ∀ origin,
      applyToFuzzy origin range none none (some direction) input.grid =
        .ok (.layer (input.grid.mapInto range (lineThrough least bottom greatest top))
          .fuzzy)) :
    ∃ made : Grid K,
      (toFuzzy none none (some direction)).Turns range input ⟨made, .fuzzy⟩ ∧
      (normalize bottom top).Turns range input ⟨made, .float⟩ := by
  rw [Grid.mapInto, within.clampUnmasked_eq] at converted
  exact ⟨_, turns_of_apply (DataType.numericOrFuzzy_of_numeric numeric) converted,
    turns_of_apply numeric fun _ =>
      applyNormalize_eq_line isLeast isGreatest ordered _ _⟩

/-- Thresholds at the extent of a layer rescale it to the range. -/
theorem toFuzzy_eq_normalize (wide : range.low < range.high)
    (numeric : input.dataType.satisfies DataType.numerics = true)
    (varied : input.grid.Varied) :
    (∃ made : Grid K,
      (toFuzzy none none (some (.text "LowToHigh"))).Turns range input
        ⟨made, .fuzzy⟩ ∧
      (normalize range.low range.high).Turns range input ⟨made, .float⟩) ∧
    ∃ made : Grid K,
      (toFuzzy none none (some (.text "HighToLow"))).Turns range input
        ⟨made, .fuzzy⟩ ∧
      (normalize range.high range.low).Turns range input ⟨made, .float⟩ := by
  obtain ⟨least, greatest, isLeast, isGreatest, ordered, extent⟩ :=
    varied.exists_extremes
  constructor
  · apply turns_of_extent numeric isLeast isGreatest ordered
      (Grid.within_map_lineThrough ordered extent (min_eq_left wide.le)
        (max_eq_right wide.le))
    have line : lineThrough greatest range.high least range.low =
      lineThrough least range.low greatest range.high :=
        funext (lineThrough_comm ordered.ne)
    intro origin
    rw [applyToFuzzy, isLeast, isGreatest, ← line]
    exact applyLine_eq ordered.ne' _ _
  · apply turns_of_extent numeric isLeast isGreatest ordered
      (Grid.within_map_lineThrough ordered extent (min_eq_right wide.le)
        (max_eq_left wide.le))
    intro origin
    rw [applyToFuzzy, isLeast, isGreatest]
    exact applyLine_eq ordered.ne _ _

/-- For a range with a width the ways to compute a line agree on every numeric
layer.  Two thresholds agree with the curve through the two points, listed in
either order; at distances from the mean they do so if the layer is masked
throughout or shows two values.  Thresholds that are taken from the extent of a
layer with two values make the same cells as rescaling this extent. -/
theorem lines_agree (wide : range.low < range.high)
    (numeric : input.dataType.satisfies DataType.numerics = true) :
    (∀ (trueAt falseAt : Numeral K) (points : List (Numeral K × K)),
      trueAt.value ≠ falseAt.value →
      points.Perm [(falseAt, range.low), (trueAt, range.high)] →
        Agree range input (toFuzzy (some trueAt.value) (some falseAt.value) none)
          (toFuzzyCurve (points.map Prod.fst) (points.map Prod.snd))) ∧
    (∀ (trueAt falseAt : Numeral K) (points : List (Numeral K × K)),
      trueAt.value ≠ falseAt.value →
      points.Perm [(falseAt, range.low), (trueAt, range.high)] →
      (input.grid.validValues = [] ∨ input.grid.Varied) →
      (input.grid.Varied → Scalar.HasRoot input.grid.variance) →
        Agree range input (toFuzzyZScore trueAt.value falseAt.value)
          (toFuzzyCurveZScore (points.map Prod.fst) (points.map Prod.snd))) ∧
    (input.grid.Varied →
      (∃ made : Grid K,
        (toFuzzy none none (some (.text "LowToHigh"))).Turns range input
          ⟨made, .fuzzy⟩ ∧
        (normalize range.low range.high).Turns range input ⟨made, .float⟩) ∧
      ∃ made : Grid K,
        (toFuzzy none none (some (.text "HighToLow"))).Turns range input
          ⟨made, .fuzzy⟩ ∧
        (normalize range.high range.low).Turns range input ⟨made, .float⟩) := by
  have accepted := DataType.numericOrFuzzy_of_numeric numeric
  refine ⟨?_, ?_, toFuzzy_eq_normalize wide numeric⟩
  · intro trueAt falseAt points apart same
    exact toFuzzy_agree_curve wide accepted apart same
  · intro trueAt falseAt points apart same spread rooted
    exact toFuzzyZScore_agree_curve wide accepted apart same
      (spread.imp_right fun varied => ⟨varied, rooted varied⟩)

end LayerOperation

namespace Sample

/-- Heights of one and five, with a hidden one far above. -/
theorem lines_agree_heights :
    let range : FuzzyRange ℚ := ⟨-1 / 2, 1⟩
    let heights : Grid ℚ := ⟨1, 3, [⟨1, false⟩, ⟨90, true⟩, ⟨5, false⟩]⟩
    let computed (operation : LayerOperation ℚ) :=
      (Operation.layer "Height" operation).compute .unknown
        (holdingOne range "Height" heights .positiveFloat)
    let points : List (Numeral ℚ × ℚ) := [(.real 4, -1 / 2), (.whole 2, 1)]
    let scores : List (Numeral ℚ × ℚ) := [(.whole 2, 1), (.real (-3), -1 / 2)]
    range.low < range.high ∧ heights.Varied ∧ Scalar.HasRoot heights.variance ∧
      (∃ line curve : Grid ℚ, line.Alike curve ∧
        computed (.toFuzzy (some 2) (some 4) none) = .ok ⟨.layer line .fuzzy, none⟩ ∧
        computed (.toFuzzyCurve (points.map Prod.fst) (points.map Prod.snd)) =
          .ok ⟨.layer curve .fuzzy, none⟩) ∧
      (∃ line curve : Grid ℚ, line.Alike curve ∧
        computed (.toFuzzyZScore 2 (-3)) = .ok ⟨.layer line .fuzzy, none⟩ ∧
        computed (.toFuzzyCurveZScore (scores.map Prod.fst) (scores.map Prod.snd)) =
          .ok ⟨.layer curve .fuzzy, none⟩) ∧
      ∃ made : Grid ℚ,
        computed (.toFuzzy none none (some (.text "HighToLow"))) =
          .ok ⟨.layer made .fuzzy, none⟩ ∧
        computed (.normalize 1 (-1 / 2)) = .ok ⟨.layer made .float, none⟩ := by
  intro range heights computed points scores
  have wide : range.low < range.high := by decide +kernel
  have varied : heights.Varied := by decide +kernel
  have root : Scalar.HasRoot heights.variance := by decide +kernel
  have held := holdingOne_get? range "Height" heights .positiveFloat
  obtain ⟨throughPoints, throughScores, ofExtent⟩ :=
    @LayerOperation.lines_agree ℚ _ range ⟨heights, .positiveFloat⟩ wide (by decide)
  obtain ⟨line, curve, alike, byLine, byCurve⟩ :=
    throughPoints (.whole 2) (.real 4) points (by decide +kernel) (.refl _)
  obtain ⟨scored, scoredCurve, alikeToo, byScores, byScoreCurve⟩ :=
    throughScores (.whole 2) (.real (-3)) scores (by decide +kernel) (.swap _ _ _)
      (.inr varied) (fun _ => root)
  obtain ⟨made, converted, rescaled⟩ := (ofExtent varied).2
  exact ⟨wide, varied, root,
    ⟨line, curve, alike, byLine _ _ _ rfl held, byCurve _ _ _ rfl held⟩,
    ⟨scored, scoredCurve, alikeToo, byScores _ _ _ rfl held,
      byScoreCurve _ _ _ rfl held⟩,
    made, converted _ _ _ rfl held, rescaled _ _ _ rfl held⟩

end Sample

end FuzzyGrid
