import FuzzyGrid.Proofs.Conversion.Layers
import FuzzyGrid.Proofs.Fuzzy.Layers

/-!
# Converting there and back

Two thresholds give a line from the values of a layer to the range and, with
exchanged axes, one back.  Only moving the cells into the range loses something
on the way, namely what lies outside the thresholds.
-/

namespace FuzzyGrid

variable {K : Type} [ExactNumber K] {range : FuzzyRange K} {trueAt falseAt : K}

/-- The line back takes the range to the interval of the thresholds. -/
theorem lineThrough_clamp_range (wide : range.low < range.high) (value : K) :
    lineThrough range.high trueAt range.low falseAt
        (Scalar.clamp range.low range.high value) =
      Scalar.clamp (min trueAt falseAt) (max trueAt falseAt)
        (lineThrough range.high trueAt range.low falseAt value) := by
  rw [lineThrough_comm wide.ne, lineThrough_comm wide.ne, lineThrough_clamp wide,
    min_comm, max_comm]

namespace Grid

theorem map_lineThrough_back {x₁ x₂ y₁ y₂ : K} (apart : x₁ ≠ x₂) (level : y₁ ≠ y₂)
    (grid : Grid K) :
    (grid.map (lineThrough x₁ y₁ x₂ y₂)).map (lineThrough y₁ x₁ y₂ x₂) = grid := by
  have back : lineThrough y₁ x₁ y₂ x₂ ∘ lineThrough x₁ y₁ x₂ y₂ = id :=
    funext (lineThrough_lineThrough apart level)
  rw [map_map, back, map_id]

end Grid

namespace LayerOperation

/-- Two thresholds convert a layer to the range and back to the same layer, with
the unmasked cells moved between the thresholds.  A fuzzy layer whose unmasked
cells lie in the range comes back from its values as it was. -/
theorem toFuzzy_fromFuzzy_inverse (wide : range.low < range.high)
    (apart : trueAt ≠ falseAt) :
    (∀ input : InputGrid K,
      input.dataType.satisfies DataType.numericsOrFuzzy = true →
        ∃ fuzzy : Grid K,
          (toFuzzy (some trueAt) (some falseAt) none).Turns range input
            ⟨fuzzy, .fuzzy⟩ ∧
          (fromFuzzy trueAt falseAt).Turns range ⟨fuzzy, .fuzzy⟩
            ⟨input.grid.clampUnmasked (min trueAt falseAt) (max trueAt falseAt),
              .float⟩) ∧
      ∀ grid : Grid K, grid.Within range →
        ∃ plain : Grid K,
          (fromFuzzy trueAt falseAt).Turns range ⟨grid, .fuzzy⟩ ⟨plain, .float⟩ ∧
          (toFuzzy (some trueAt) (some falseAt) none).Turns range ⟨plain, .float⟩
            ⟨grid, .fuzzy⟩ := by
  constructor
  · intro input isAccepted
    refine ⟨_, toFuzzy_turns apart isAccepted, ?_⟩
    have back : (fromFuzzy trueAt falseAt).Turns range _ _ := fromFuzzy_turns apart
      (input.grid.mapInto range (lineThrough trueAt range.high falseAt range.low))
    rwa [Grid.mapInto, Grid.map_clampUnmasked (lineThrough_clamp_range wide),
      Grid.map_lineThrough_back apart wide.ne'] at back
  · intro grid within
    refine ⟨_, fromFuzzy_turns apart grid, ?_⟩
    let values := grid.map (lineThrough range.high trueAt range.low falseAt)
    have back : (toFuzzy (some trueAt) (some falseAt) none).Turns range
      ⟨values, .float⟩ _ := toFuzzy_turns apart rfl
    rwa [Grid.mapInto, Grid.map_lineThrough_back wide.ne' apart,
      within.clampUnmasked_eq] at back

end LayerOperation

namespace Sample

/-- Falling thresholds and a range that is not symmetric. -/
theorem toFuzzy_fromFuzzy_inverse_depths :
    let range : FuzzyRange ℚ := ⟨-1 / 2, 1⟩
    let depths : Grid ℚ := ⟨1, 4, [⟨-7, false⟩, ⟨3, false⟩, ⟨12, false⟩, ⟨40, true⟩]⟩
    let moved : Grid ℚ := ⟨1, 4, [⟨0, false⟩, ⟨3, false⟩, ⟨6, false⟩, ⟨40, true⟩]⟩
    let fuzzy : Grid ℚ := ⟨1, 4, [⟨1, false⟩, ⟨1 / 4, false⟩, ⟨-1 / 2, false⟩,
      ⟨-9, true⟩]⟩
    let toFuzzy := Operation.layer "Depth" (.toFuzzy (some 0) (some (6 : ℚ)) none)
    let fromFuzzy := Operation.layer "Depth" (.fromFuzzy 0 (6 : ℚ))
    range.low < range.high ∧ (0 : ℚ) ≠ 6 ∧ fuzzy.Within range ∧
      toFuzzy.compute .unknown (holdingOne range "Depth" depths .float) =
        .ok ⟨.layer fuzzy .fuzzy, none⟩ ∧
      fromFuzzy.compute .unknown (holdingOne range "Depth" fuzzy .fuzzy) =
        .ok ⟨.layer moved .float, none⟩ ∧
      toFuzzy.compute .unknown (holdingOne range "Depth" moved .float) =
        .ok ⟨.layer fuzzy .fuzzy, none⟩ := by
  intro range depths moved fuzzy toFuzzy fromFuzzy
  have wide : range.low < range.high := by decide +kernel
  have apart : (0 : ℚ) ≠ 6 := by decide
  have within : fuzzy.Within range := by decide +kernel
  obtain ⟨thereAndBack, backAndThere⟩ :=
    LayerOperation.toFuzzy_fromFuzzy_inverse wide apart
  obtain ⟨found, there, back⟩ := thereAndBack ⟨depths, .float⟩ rfl
  have made := there .unknown _ _ rfl (holdingOne_get? range "Depth" depths .float)
  have same : found = fuzzy := eq_of_evaluated made (by decide +kernel)
  subst same
  have clamped := back .unknown _ _ rfl (holdingOne_get? range "Depth" fuzzy .fuzzy)
  have sameMoved : depths.clampUnmasked (min 0 6) (max 0 6) = moved := by
    decide +kernel
  obtain ⟨plain, values, again⟩ := backAndThere fuzzy within
  have samePlain : plain = moved := by
    have evaluated := values .unknown _ _ rfl (holdingOne_get? range "Depth" fuzzy .fuzzy)
    rw [evaluated] at clamped
    cases clamped
    exact sameMoved
  subst samePlain
  refine ⟨wide, apart, within, made, ?_, ?_⟩
  · exact values .unknown _ _ rfl (holdingOne_get? range "Depth" fuzzy .fuzzy)
  · exact again .unknown _ _ rfl (holdingOne_get? range "Depth" moved .float)

end Sample

end FuzzyGrid
