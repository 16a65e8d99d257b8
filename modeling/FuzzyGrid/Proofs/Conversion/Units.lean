import FuzzyGrid.Proofs.Conversion.Layers
import FuzzyGrid.Proofs.Conversion.Thresholds
import FuzzyGrid.Proofs.Grid.Units

/-!
# Conversions by scores in other units

A conversion whose thresholds or control points lie at numbers of deviations from
the mean does not depend on the units of the data.  In exact arithmetic the
positions move with the data, so that every cell lies at the same place of the line
or of the curve, and equal thresholds stay equal.  They are equal where the scores
are, or where there is no spread.
-/

namespace FuzzyGrid

variable {K : Type} [ExactNumber K] {factor offset : K}

open Scalar (affine HasRoot)

namespace Curve

/-- Control points at positions in other units. -/
def inUnits (factor offset : K) (points : List (K × K)) : List (K × K) :=
  points.map (Prod.map (affine factor offset) id)

section

variable (positive : 0 < factor)

include positive

theorem ascendingPoints_affine (positions heights : List K) :
    ascendingPoints (positions.map (affine factor offset)) heights =
      inUnits factor offset (ascendingPoints positions heights) := by
  rw [ascendingPoints_eq_insertionSort, ascendingPoints_eq_insertionSort,
    List.zip_map_left, inUnits]
  symm
  apply List.map_insertionSort
  intro one _ other _
  exact (Scalar.affine_strictMono positive offset).le_iff_le.symm

theorem segment_affine (left right : K × K) (x : K) :
    segment (Prod.map (affine factor offset) id left)
        (Prod.map (affine factor offset) id right) (affine factor offset x) =
      segment left right x := by
  rw [segment_eq_lineThrough, segment_eq_lineThrough]
  exact lineThrough_affine positive.ne' _ _ _ _ _

theorem onSegments?_affine (points : List (K × K)) (x : K) :
    onSegments? (affine factor offset x) (inUnits factor offset points) =
      onSegments? x points := by
  induction points with
  | nil => rfl
  | cons left rest induction =>
      cases rest with
      | nil => rfl
      | cons right others =>
          simp only [inUnits, List.map_cons, onSegments?] at induction ⊢
          rw [segment_affine positive, induction, Prod.map_fst, Prod.map_fst,
            Scalar.lt_affine positive, Scalar.le_affine positive]

theorem height_affine {points : List (K × K)} (some_ : points ≠ []) (x : K) :
    height (inUnits factor offset points) (affine factor offset x) = height points x := by
  have isFirst := List.head?_eq_some_head some_
  have isLast := List.getLast?_eq_some_getLast some_
  simp only [height, onSegments?_affine positive]
  simp only [inUnits, List.head?_map, List.getLast?_map, isFirst, isLast, Option.map_some,
    Prod.map_fst, Prod.map_snd, id_eq, Scalar.le_affine positive,
    Scalar.lt_affine positive]

end

end Curve

namespace LayerOperation

variable {origin : Origin} {range : FuzzyRange K} {grid : Grid K}

/-! ## Converted grids -/

section

variable (positive : 0 < factor)

include positive

theorem applyLine_affine (blamed : String) (trueAt falseAt : K) :
    applyLine origin range blamed (affine factor offset trueAt)
      (affine factor offset falseAt)
        (grid.map (affine factor offset)) =
      applyLine origin range blamed trueAt falseAt grid := by
  have injective := (Scalar.affine_strictMono positive offset).injective
  by_cases same : trueAt = falseAt
  · subst same
    rw [applyLine_of_eq (Scalar.eq_iff.mpr rfl), applyLine_of_eq (Scalar.eq_iff.mpr rfl)]
  · have line : lineThrough (affine factor offset trueAt) range.high
        (affine factor offset falseAt) range.low ∘ affine factor offset =
          lineThrough trueAt range.high falseAt range.low :=
      funext fun value => lineThrough_affine positive.ne' _ _ _ _ value
    rw [applyLine_of_ne (mt Scalar.eq_iff.mp same),
      applyLine_of_ne (mt Scalar.eq_iff.mp (injective.ne same)), Grid.map_map, line]

omit positive in
/-- A layer that is masked throughout passes in any units. -/
theorem fuzzyLayer_affine (none_ : grid.validValues = []) :
    (fuzzyLayer range grid).Alike
      (fuzzyLayer range (grid.map (affine factor offset))) :=
  (Grid.clampUnmasked_alike_mapInto none_ _).layer .fuzzy

variable (root : HasRoot grid.variance)
  (rootToo : HasRoot (grid.map (affine factor offset)).variance)

include root rootToo

theorem applyToFuzzyZScore_affine (trueAt falseAt : K) :
    SameOutcome Result.Alike (applyToFuzzyZScore origin range trueAt falseAt grid)
      (applyToFuzzyZScore origin range trueAt falseAt
        (grid.map (affine factor offset))) := by
  have sameShown := Grid.validValues_map_eq_nil_iff grid (affine factor offset)
  by_cases same : trueAt = falseAt
  · rw [applyToFuzzyZScore, applyToFuzzyZScore, if_pos (Scalar.eq_iff.mpr same),
      if_pos (Scalar.eq_iff.mpr same)]
    exact .error _
  · by_cases none_ : grid.validValues = []
    · rw [applyToFuzzyZScore_of_masked same none_,
        applyToFuzzyZScore_of_masked same (sameShown.mpr none_)]
      exact .ok (fuzzyLayer_affine none_)
    · rw [applyToFuzzyZScore_eq same none_,
        applyToFuzzyZScore_eq same (mt sameShown.mp none_),
        Grid.atScore_affine none_ positive.le root rootToo,
        Grid.atScore_affine none_ positive.le root rootToo, applyLine_affine positive]
      cases applyLine origin range "InFieldName" (grid.atScore trueAt)
        (grid.atScore falseAt)
          grid with
      | error fault => exact .error fault
      | ok result => exact .ok (.refl result)

theorem applyToFuzzyCurveZScore_affine (scores : List (Numeral K)) (fuzzy : List K) :
    SameOutcome Result.Alike (applyToFuzzyCurveZScore origin range scores fuzzy grid)
      (applyToFuzzyCurveZScore origin range scores fuzzy
        (grid.map (affine factor offset))) := by
  have sameShown := Grid.validValues_map_eq_nil_iff grid (affine factor offset)
  cases checked : checkCurve origin "ZScoreValues" scores fuzzy with
  | error fault =>
      rw [applyToFuzzyCurveZScore, applyToFuzzyCurveZScore, checked]
      exact .error fault
  | ok _ =>
      by_cases none_ : grid.validValues = []
      · rw [applyToFuzzyCurveZScore_of_masked checked none_,
          applyToFuzzyCurveZScore_of_masked checked (sameShown.mpr none_)]
        exact .ok (fuzzyLayer_affine none_)
      · let positions := scores.map fun score => grid.atScore score.value
        let points := Curve.ascendingPoints positions fuzzy
        have moved : (scores.map fun score =>
            (grid.map (affine factor offset)).atScore score.value) =
              positions.map (affine factor offset) := by
          rw [List.map_map]
          apply List.map_congr_left
          intro score _
          exact Grid.atScore_affine none_ positive.le root rootToo score.value
        have curve : Curve.height (Curve.inUnits factor offset points) ∘
            affine factor offset = Curve.height points :=
          funext (Curve.height_affine positive (ascendingPoints_of_checkCurve checked _))
        rw [applyToFuzzyCurveZScore_eq checked none_,
          applyToFuzzyCurveZScore_eq checked (mt sameShown.mp none_), moved,
          Curve.ascendingPoints_affine positive, Grid.map_map, curve]
        exact .ok (.refl _)

end

/-! ## Refused grids -/

/-- Where roots are exact, thresholds at different scores are refused just where the
layer has no spread. -/
theorem applyToFuzzyZScore_eq_error_iff (root : HasRoot grid.variance)
    {trueAt falseAt : K} {error : CommandError K} :
    applyToFuzzyZScore origin range trueAt falseAt grid = .error error ↔
      trueAt = falseAt ∧ error = ⟨.degenerateThreshold "TrueThresholdZScore", origin⟩ ∨
      trueAt ≠ falseAt ∧ (∃ value, grid.Level value) ∧
        error = ⟨.degenerateThreshold "InFieldName", origin⟩ := by
  by_cases same : trueAt = falseAt
  · rw [applyToFuzzyZScore, if_pos (Scalar.eq_iff.mpr same)]
    simp [same, eq_comm]
  · by_cases varied : grid.Varied
    · have notLevel : ¬∃ value, grid.Level value := by
        rintro ⟨value, level⟩
        exact level.not_varied varied
      rw [applyToFuzzyZScore_eq same varied.exists_valid,
        applyLine_eq ((varied.atScore_injective root).ne same)]
      simp [same, notLevel]
    · by_cases none_ : grid.validValues = []
      · have notLevel : ¬∃ value, grid.Level value := by
          rintro ⟨value, level⟩
          exact List.ne_nil_of_mem level.shown none_
        rw [applyToFuzzyZScore_of_masked same none_]
        simp [same, notLevel]
      · obtain ⟨value, level⟩ := Grid.exists_level none_ varied
        have isLevel : ∃ value, grid.Level value := ⟨value, level⟩
        rw [applyToFuzzyZScore_eq same none_, level.atScore_eq root,
          level.atScore_eq root, applyLine_of_eq (Scalar.eq_iff.mpr rfl)]
        simp [same, isLevel, eq_comm]

/-! ## Layers -/

section

variable {origin : Origin} {first second : ResultContext K} {field : String}
  {operation : LayerOperation K} {one other : Grid K} {dataType otherType : DataType}

/-- Layers that are converted alike, or that have a type that is refused, look the
same in the end. -/
theorem compute_sameOutcome
    (held : first.get? field = some (.layer one dataType))
    (heldToo : second.get? field = some (.layer other otherType))
    (types : dataType = otherType ∨ dataType.satisfies operation.accepted = true ∧
      otherType.satisfies operation.accepted = true)
    (same : SameOutcome Result.Alike (operation.apply origin first.range one)
      (operation.apply origin second.range other)) :
    SameOutcome Computed.Alike ((Operation.layer field operation).compute origin first)
      ((Operation.layer field operation).compute origin second) := by
  have read : first.layer origin operation.accepted field = _ :=
    ResultContext.layer_of_held held _
  have readToo : second.layer origin operation.accepted field = _ :=
    ResultContext.layer_of_held heldToo _
  by_cases both : dataType.satisfies operation.accepted = true ∧
      otherType.satisfies operation.accepted = true
  · rw [if_pos both.1] at read
    rw [if_pos both.2] at readToo
    rw [compute_of_layer read, compute_of_layer readToo]
    exact same.map fun _ _ alike => ⟨alike, rfl⟩
  · obtain rfl := types.resolve_right both
    have refused : ¬dataType.satisfies operation.accepted = true :=
      fun accepted => both ⟨accepted, accepted⟩
    rw [if_neg refused] at read readToo
    simp only [Operation.compute, read, readToo]
    exact .error _

end

/-- In exact arithmetic conversions by thresholds or by a curve at numbers of
deviations from the mean come to the same in all units of the data.  Thresholds are
refused just where the scores are equal or the layer has no spread. -/
theorem zscore_units {context : ResultContext K} {origin : Origin} {field : String}
    {grid : Grid K} {dataType : DataType}
    (held : context.get? field = some (.layer grid dataType))
    (root : HasRoot grid.variance) :
    (∀ (factor offset : K) (other : ResultContext K) (otherType : DataType),
      0 < factor → other.range = context.range →
      other.get? field = some (.layer (grid.map (affine factor offset)) otherType) →
      dataType = otherType ∨ dataType.satisfies DataType.numericsOrFuzzy = true ∧
        otherType.satisfies DataType.numericsOrFuzzy = true →
      HasRoot (grid.map (affine factor offset)).variance →
        (∀ trueAt falseAt : K, SameOutcome Computed.Alike
          ((Operation.layer field (.toFuzzyZScore trueAt falseAt)).compute origin context)
          ((Operation.layer field (.toFuzzyZScore trueAt falseAt)).compute origin other)) ∧
        ∀ (scores : List (Numeral K)) (fuzzy : List K), SameOutcome Computed.Alike
          ((Operation.layer field (.toFuzzyCurveZScore scores fuzzy)).compute origin context)
          ((Operation.layer field (.toFuzzyCurveZScore scores fuzzy)).compute origin
            other)) ∧
    (dataType.satisfies DataType.numericsOrFuzzy = true → ∀ trueAt falseAt : K,
      let converted :=
        (Operation.layer field (.toFuzzyZScore trueAt falseAt)).compute origin context
      ((∃ error, converted = .error error) ↔
        trueAt = falseAt ∨ ∃ value, grid.Level value) ∧
      ∀ error, converted = .error error →
        ∃ blamed, error = ⟨.degenerateThreshold blamed, origin⟩) := by
  constructor
  · intro factor offset other otherType positive sameRange heldToo types rootToo
    constructor
    · intro trueAt falseAt
      refine compute_sameOutcome held heldToo types ?_
      rw [sameRange]
      exact applyToFuzzyZScore_affine positive root rootToo trueAt falseAt
    · intro scores fuzzy
      refine compute_sameOutcome held heldToo types ?_
      rw [sameRange]
      exact applyToFuzzyCurveZScore_affine positive root rootToo scores fuzzy
  · intro accepted trueAt falseAt converted
    have read : context.layer origin (toFuzzyZScore trueAt falseAt).accepted field =
        .ok ⟨grid, dataType⟩ :=
      (ResultContext.layer_of_held held _).trans (if_pos accepted)
    have fails (error : CommandError K) : converted = .error error ↔
        applyToFuzzyZScore origin context.range trueAt falseAt grid = .error error := by
      have computed : converted =
          (applyToFuzzyZScore origin context.range trueAt falseAt grid).map
            fun result => ⟨result, none⟩ := compute_of_layer read
      rw [computed]
      cases applyToFuzzyZScore origin context.range trueAt falseAt grid <;>
        simp [Except.map]
    simp only [fails, applyToFuzzyZScore_eq_error_iff root]
    refine ⟨⟨?_, ?_⟩, ?_⟩
    · rintro ⟨_, ⟨same, _⟩ | ⟨_, level, _⟩⟩
      · exact .inl same
      · exact .inr level
    · intro degenerate
      by_cases same : trueAt = falseAt
      · exact ⟨_, .inl ⟨same, rfl⟩⟩
      · exact ⟨_, .inr ⟨same, degenerate.resolve_left same, rfl⟩⟩
    · rintro error (⟨_, blamed⟩ | ⟨_, _, blamed⟩)
      · exact ⟨_, blamed⟩
      · exact ⟨_, blamed⟩

end LayerOperation

namespace Sample

/-- Temperatures in two units, with a mean and a deviation that are whole numbers. -/
theorem zscore_units_temperatures :
    let celsius : Grid ℚ := ⟨1, 4, [⟨10, false⟩, ⟨99, true⟩, ⟨30, false⟩, ⟨20, true⟩]⟩
    let fahrenheit : Grid ℚ := ⟨1, 4, [⟨50, false⟩, ⟨1051 / 5, true⟩, ⟨86, false⟩,
      ⟨68, true⟩]⟩
    let first := holdingOne .standard "Heat" celsius .integer
    let second := holdingOne .standard "Heat" fahrenheit .float
    let scores : List (Numeral ℚ) := [.real (1 / 2), .whole (-1)]
    SameOutcome Computed.Alike
        ((Operation.layer "Heat" (.toFuzzyZScore 2 (-1))).compute .unknown first)
        ((Operation.layer "Heat" (.toFuzzyZScore 2 (-1))).compute .unknown second) ∧
      SameOutcome Computed.Alike
        ((Operation.layer "Heat" (.toFuzzyCurveZScore scores [1, 0])).compute .unknown
          first)
        ((Operation.layer "Heat" (.toFuzzyCurveZScore scores [1, 0])).compute .unknown
          second) ∧
      (¬∃ error, (Operation.layer "Heat" (.toFuzzyZScore 2 (-1))).compute .unknown first =
        .error error) ∧
      ∃ error, (Operation.layer "Heat" (.toFuzzyZScore 2 2)).compute .unknown first =
        .error error := by
  intro celsius fahrenheit first second scores
  have units : celsius.map (Scalar.affine (9 / 5) 32) = fahrenheit := by decide +kernel
  have held := holdingOne_get? .standard "Heat" celsius .integer
  have heldToo : second.get? "Heat" =
      some (.layer (celsius.map (Scalar.affine (9 / 5) 32)) .float) := by
    rw [units]
    exact holdingOne_get? .standard "Heat" fahrenheit .float
  obtain ⟨convertsToo, fails⟩ := LayerOperation.zscore_units held (by decide +kernel)
  obtain ⟨thresholds, curves⟩ := convertsToo (9 / 5) 32 second .float
    (by decide +kernel) rfl heldToo (.inr (by decide)) (by decide +kernel)
  have varied : celsius.Varied := by decide +kernel
  refine ⟨thresholds 2 (-1), curves scores [1, 0], ?_, (fails rfl 2 2).1.mpr (.inl rfl)⟩
  intro failing
  rcases (fails rfl 2 (-1)).1.mp failing with same | ⟨_, level⟩
  · revert same
    decide +kernel
  · exact level.not_varied varied

end Sample

end FuzzyGrid
