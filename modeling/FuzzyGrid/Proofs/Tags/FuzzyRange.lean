import FuzzyGrid.Proofs.Evaluation.Growth
import FuzzyGrid.Proofs.Number.Comparable

/-!
# Fuzzy layers stay in the fuzzy range

A result is tagged as fuzzy when its cells have been moved into the range, or
when it is a copy of such a result.  Nothing else carries the tag.  So if the
fuzzy inputs of a model lie in the range, everything fuzzy does that evaluating
the model leaves, wherever it stops.
-/

namespace FuzzyGrid

variable {α : Type} [Scalar α]

/-- The unmasked cells of a fuzzy result are not numbers or lie in the range. -/
def Result.FuzzyWithin (range : FuzzyRange α) (result : Result α) : Prop :=
  result.dataType = .fuzzy → ∀ grid, result.grid? = some grid →
    ∀ value ∈ grid.validValues, range.Admits value

variable {range : FuzzyRange α}

theorem Result.FuzzyWithin.of_ne {result : Result α}
    (other : result.dataType ≠ .fuzzy) : result.FuzzyWithin range :=
  fun same => absurd same other

theorem DataType.numeric_ne_fuzzy (isFloat isPositive : Bool) :
    numeric isFloat isPositive ≠ .fuzzy := by
  cases isFloat <;> cases isPositive <;> decide

section

variable [Comparable α] (proper : Scalar.lt range.low range.high = true)

include proper

theorem fuzzyLayer_within (grid : Grid α) :
    (fuzzyLayer range grid).FuzzyWithin range := by
  intro _ clamped isGrid value member
  cases isGrid
  rw [Grid.mem_validValues, Grid.seen_clampUnmasked, List.mem_map] at member
  obtain ⟨cell, _, shown⟩ := member
  obtain ⟨stored, _, rfl⟩ := Option.map_eq_some_iff.mp shown
  exact FuzzyRange.admits_clamp proper stored

theorem LayerOperation.finish_within (operation : LayerOperation α)
    (grid : Grid α) : (operation.finish range grid).FuzzyWithin range := by
  unfold finish
  split
  · exact .of_ne nofun
  · exact .of_ne nofun
  · exact fuzzyLayer_within proper grid

theorem ListOperation.finish_within (operation : ListOperation α)
    (types : List DataType) (grid : Grid α) :
    (operation.finish range types grid).FuzzyWithin range := by
  unfold finish
  split
  case h_8 => exact fuzzyLayer_within proper grid
  case h_6 | h_7 => exact .of_ne nofun
  all_goals exact .of_ne (DataType.numeric_ne_fuzzy _ _)

theorem Operation.Yields.fuzzyWithin {operation : Operation α}
    {context : ResultContext α} {result : Result α}
    (yields : operation.Yields context result) (same : context.range = range)
    (before : ∀ name result, context.get? name = some result →
      result.FuzzyWithin range) : result.FuzzyWithin range := by
  subst same
  cases yields with
  | copy held => exact before _ _ held
  | report => exact .of_ne nofun
  | layer function read => exact LayerOperation.finish_within proper _ _
  | pair readLeft readRight shape =>
      exact .of_ne (DataType.numeric_ne_fuzzy _ _)
  | list some_ read shapes => exact ListOperation.finish_within proper _ _ _

end

/-- Where the fuzzy inputs of a model lie in a proper range, so does everything
fuzzy that evaluating the model leaves. -/
theorem Model.fuzzy_within [Comparable α] {model : Model α}
    {context : ResultContext α} (leaves : model.Leaves range context)
    (proper : Scalar.lt range.low range.high = true)
    (inputs : ∀ input ∈ model.inputs, input.2.FuzzyWithin range) :
    ∀ name result, context.get? name = some result →
      result.FuzzyWithin range := by
  apply leaves.grown.forall_results inputs
  intro node _ before same within result yields
  exact yields.fuzzyWithin proper same within

namespace Sample

/-- Twice one layer less another one. -/
def contrast : Node (Extended ℚ) where
  command := ⟨"Contrast", "FuzzyWeightedUnion",
    ⟨[("InFieldNames", .list [.text "Near", .text "Far"]),
      ("Weights", .list [.number (.whole 2), .number (.whole (-1))])], by decide⟩,
    ⟨"contrast.mpt", 1, "Contrast = FuzzyWeightedUnion([Near, Far], [2, -1])"⟩⟩
  operator := .fuzzyWeightedUnion
  operation := .list ["Near", "Far"]
    (.fuzzyWeightedUnion [.number (Scalar.ofInt 2), .number (Scalar.ofInt (-1))])
  interpreted := rfl

/-- A fuzzy layer of a number, an undefined cell and a masked one. -/
def fuzzyCells (value : ℚ) : Result (Extended ℚ) :=
  .layer ⟨1, 3, [⟨.number value, false⟩, ⟨.undefined, false⟩,
    ⟨.number 7, true⟩]⟩ .fuzzy

def contrasts : Model (Extended ℚ) :=
  ⟨[("Near", fuzzyCells 1), ("Far", fuzzyCells (-1))], [contrast]⟩

/-- The contrast leaves the range before it is moved back into it. -/
theorem fuzzy_within_contrasts :
    let context := (contrasts.evaluate ⟨.empty .standard, .ofFiles []⟩).1.context
    context.get? "Contrast" = some (fuzzyCells 1) ∧
      ∀ name result, context.get? name = some result →
        result.FuzzyWithin .standard := by
  intro context
  have leaves : contrasts.Leaves .standard context := .sequential (.ofFiles [])
  have within : ∀ value : ℚ,
      FuzzyRange.standard.contains (Extended.number value) = true →
        (fuzzyCells value).FuzzyWithin .standard := by
    intro value inside _ grid isGrid cell member
    cases isGrid
    have cells : cell = .number value ∨ cell = .undefined := by
      simpa [Grid.validValues, Cell.valid?] using member
    rcases cells with rfl | rfl
    · exact .inr inside
    · exact .inl (by simp [Extended.isNumber_iff])
  have inputs : ∀ input ∈ contrasts.inputs, input.2.FuzzyWithin .standard := by
    intro input member
    simp only [contrasts, List.mem_cons, List.not_mem_nil, or_false] at member
    rcases member with rfl | rfl
    · exact within 1 (by decide +kernel)
    · exact within (-1) (by decide +kernel)
  refine ⟨by decide +kernel, ?_⟩
  exact Model.fuzzy_within leaves (by decide +kernel) inputs

end Sample

end FuzzyGrid
