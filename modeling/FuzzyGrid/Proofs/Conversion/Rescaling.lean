import FuzzyGrid.Proofs.Conversion.SameLine
import FuzzyGrid.Proofs.Grid.Units

/-!
# Layers rescaled from their extent

In exact arithmetic a layer with a spread is rescaled by the line that takes its
least value to the start and its greatest value to the stop of the new extent.
The line rises or falls as the two are ordered.  A layer that has the new extent
already is not changed, and a layer in other units is rescaled to the same.  A layer
without a spread is refused.
-/

namespace FuzzyGrid

open Scalar (affine)

variable {K : Type} [ExactNumber K] {origin : Origin} {grid : Grid K} {start stop : K}

namespace LayerOperation

theorem applyNormalize_of_not_varied (same : ¬grid.Varied) (start stop : K) :
    applyNormalize origin start stop grid =
      .error ⟨.degenerateThreshold "InFieldName", origin⟩ := by
  by_cases none_ : grid.validValues = []
  · have noLeast : grid.least? = none := Scalar.least?_eq_none_iff.mpr none_
    rw [applyNormalize, noLeast]
  · obtain ⟨value, level⟩ := Grid.exists_level none_ same
    obtain ⟨isLeast, isGreatest⟩ := level.extremes_eq
    rw [applyNormalize, isLeast, isGreatest]
    exact if_pos (Scalar.eq_iff.mpr rfl)

/-- A layer that extends from the start to the stop already is not changed. -/
theorem applyNormalize_of_extent (isLeast : grid.least? = some start)
    (isGreatest : grid.greatest? = some stop) (ordered : start < stop) :
    applyNormalize origin start stop grid = .ok (.layer grid .float) := by
  rw [applyNormalize_eq_line isLeast isGreatest ordered, lineThrough_diagonal ordered.ne,
    Grid.map_id]

theorem applyNormalize_affine {factor : K} (positive : 0 < factor) (offset start stop : K)
    (grid : Grid K) :
    applyNormalize origin start stop (grid.map (affine factor offset)) =
      applyNormalize origin start stop grid := by
  by_cases varied : grid.Varied
  · obtain ⟨least, greatest, isLeast, isGreatest, ordered, _⟩ := varied.exists_extremes
    have rises := Scalar.affine_strictMono positive offset
    obtain ⟨leastToo, greatestToo⟩ :=
      Grid.extremes_map rises.monotone isLeast isGreatest
    have line : lineThrough (affine factor offset least) start
        (affine factor offset greatest) stop ∘ affine factor offset =
          lineThrough least start greatest stop :=
      funext fun value => lineThrough_affine positive.ne' _ _ _ _ value
    rw [applyNormalize_eq_line leastToo greatestToo (rises ordered),
      applyNormalize_eq_line isLeast isGreatest ordered, Grid.map_map, line]
  · have same : ¬(grid.map (affine factor offset)).Varied :=
      mt (Grid.varied_affine_iff positive).mp varied
    rw [applyNormalize_of_not_varied varied, applyNormalize_of_not_varied same]

/-- A function that takes the extent of a layer to the one from a start to a stop. -/
structure Rescales (grid : Grid K) (start stop : K) (function : K → K) : Prop where
  least : ∀ value, IsLeast {shown | shown ∈ grid.validValues} value →
    function value = start
  greatest : ∀ value, IsGreatest {shown | shown ∈ grid.validValues} value →
    function value = stop
  between : ∀ value ∈ grid.validValues,
    min start stop ≤ function value ∧ function value ≤ max start stop
  rising : start < stop → StrictMono function
  falling : stop < start → StrictAnti function

theorem exists_rescales (varied : grid.Varied) (start stop : K) :
    ∃ function, Rescales grid start stop function ∧
      applyNormalize origin start stop grid =
        .ok (.layer (grid.map function) .float) := by
  obtain ⟨least, greatest, isLeast, isGreatest, ordered, within⟩ := varied.exists_extremes
  refine ⟨lineThrough least start greatest stop, ⟨?_, ?_, ?_, ?_, ?_⟩,
    applyNormalize_eq_line isLeast isGreatest ordered start stop⟩
  · intro value extreme
    rw [extreme.unique (Grid.least?_eq_some_iff.mp isLeast), lineThrough_first]
  · intro value extreme
    rw [extreme.unique (Grid.greatest?_eq_some_iff.mp isGreatest),
      lineThrough_second ordered.ne]
  · intro value shown
    exact lineThrough_mem ordered (within value shown).1 (within value shown).2
  · exact lineThrough_strictMono ordered
  · exact lineThrough_strictAnti ordered

/-- Rescaling to a rising extent makes a layer of this extent. -/
theorem Rescales.extremes_eq {function : K → K}
    (rescales : Rescales grid start stop function)
    (varied : grid.Varied) (ordered : start < stop) :
    (grid.map function).least? = some start ∧
      (grid.map function).greatest? = some stop := by
  obtain ⟨least, greatest, isLeast, isGreatest, _, _⟩ := varied.exists_extremes
  have extremes := Grid.extremes_map (rescales.rising ordered).monotone isLeast isGreatest
  rwa [rescales.least least (Grid.least?_eq_some_iff.mp isLeast),
    rescales.greatest greatest (Grid.greatest?_eq_some_iff.mp isGreatest)] at extremes

theorem compute_normalize {context : ResultContext K} {origin : Origin}
    {field : String} {dataType : DataType}
    (held : context.get? field = some (.layer grid dataType))
    (numeric : dataType.satisfies DataType.numerics = true) :
    (Operation.layer field (.normalize start stop)).compute origin context =
      (applyNormalize origin start stop grid).map fun result => ⟨result, none⟩ := by
  have read : context.layer origin (normalize start stop).accepted field =
      .ok ⟨grid, dataType⟩ :=
    (ResultContext.layer_of_held held _).trans (if_pos numeric)
  exact compute_of_layer read

/-- In exact arithmetic a numeric layer is rescaled just where it has a spread.  Its
mask is kept, its least value goes to the start and its greatest to the stop, and
the others between them, in order or in reversed order.  Rescaling again to the same
rising extent changes nothing, and all units of the data give the same. -/
theorem normalize_rescales {context : ResultContext K} {origin : Origin}
    {field : String} {dataType : DataType}
    (held : context.get? field = some (.layer grid dataType))
    (numeric : dataType.satisfies DataType.numerics = true) (start stop : K) :
    let normalized :=
      (Operation.layer field (.normalize start stop)).compute origin context
    ((∃ computed, normalized = .ok computed) ↔ grid.Varied) ∧
    (grid.Varied → ∃ function, Rescales grid start stop function ∧
      normalized = .ok ⟨.layer (grid.map function) .float, none⟩ ∧
      (grid.map function).mask = grid.mask ∧
      (start < stop → ∀ range, (normalize start stop).Turns range
        ⟨grid.map function, .float⟩ ⟨grid.map function, .float⟩)) ∧
    ∀ (factor offset : K) (other : ResultContext K) (name : String)
      (otherType : DataType), 0 < factor →
      other.get? name = some (.layer (grid.map (affine factor offset)) otherType) →
      otherType.satisfies DataType.numerics = true →
        (Operation.layer name (.normalize start stop)).compute origin other =
          normalized := by
  intro normalized
  have comes : normalized =
      (applyNormalize origin start stop grid).map fun result => ⟨result, none⟩ :=
    compute_normalize held numeric
  refine ⟨⟨?_, ?_⟩, ?_, ?_⟩
  · rintro ⟨computed, success⟩
    by_contra same
    rw [comes, applyNormalize_of_not_varied same] at success
    cases success
  · intro varied
    obtain ⟨function, _, applied⟩ := exists_rescales varied start stop
    rw [comes, applied]
    exact ⟨_, rfl⟩
  · intro varied
    obtain ⟨function, rescales, applied⟩ := exists_rescales varied start stop
    refine ⟨function, rescales, ?_, Grid.mask_map _ _, ?_⟩
    · rw [comes, applied]
      rfl
    · intro ordered range
      obtain ⟨isLeast, isGreatest⟩ := rescales.extremes_eq varied ordered
      exact turns_of_apply rfl fun _ =>
        applyNormalize_of_extent isLeast isGreatest ordered
  · intro factor offset other name otherType positive heldToo numericToo
    rw [comes, compute_normalize heldToo numericToo, applyNormalize_affine positive]

end LayerOperation

namespace Sample

/-- Heights rescaled to a reversed extent, and to a rising one from heights that are
measured in other units. -/
theorem normalize_rescales_heights :
    let heights : Grid ℚ := ⟨2, 2, [⟨5, false⟩, ⟨900, true⟩, ⟨25, false⟩, ⟨10, false⟩]⟩
    let feet : Grid ℚ := ⟨2, 2, [⟨15, false⟩, ⟨2700, true⟩, ⟨75, false⟩, ⟨30, false⟩]⟩
    let context := holdingOne .standard "Height" heights .integer
    let other := holdingOne .standard "Height" feet .float
    let normalizes (start stop : ℚ) (context : ResultContext ℚ) :=
      (Operation.layer "Height" (.normalize start stop)).compute .unknown context
    (∃ function, LayerOperation.Rescales heights 1 (-1) function ∧ function 5 = 1 ∧
      normalizes 1 (-1) context = .ok ⟨.layer (heights.map function) .float, none⟩) ∧
    normalizes 0 100 other = normalizes 0 100 context := by
  intro heights feet context other normalizes
  have varied : heights.Varied := by decide +kernel
  have least : IsLeast {shown | shown ∈ heights.validValues} 5 := by
    have isLeast : heights.least? = some 5 := by decide +kernel
    exact Grid.least?_eq_some_iff.mp isLeast
  have units : heights.map (Scalar.affine 3 0) = feet := by decide +kernel
  have held := holdingOne_get? .standard "Height" heights .integer
  have heldToo : other.get? "Height" =
      some (.layer (heights.map (Scalar.affine 3 0)) .float) := by
    rw [units]
    exact holdingOne_get? .standard "Height" feet .float
  obtain ⟨_, rescaled, _⟩ := LayerOperation.normalize_rescales held rfl 1 (-1)
  obtain ⟨_, _, sameInUnits⟩ := LayerOperation.normalize_rescales held rfl 0 100
  obtain ⟨function, rescales, computes, _, _⟩ := rescaled varied
  exact ⟨⟨function, rescales, rescales.least 5 least, computes⟩,
    sameInUnits 3 0 other "Height" .float (by decide +kernel) heldToo rfl⟩

end Sample

end FuzzyGrid
