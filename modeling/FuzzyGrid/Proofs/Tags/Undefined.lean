import FuzzyGrid.Proofs.Number.Search
import FuzzyGrid.Proofs.Tags.Numeric

/-!
# Positive tags of undefined cells

A computed tag is positive if the least unmasked cell is above zero.  The search
for this cell starts anew at every cell that is not a number, so the tag speaks
for the cells after the last of them only.  Infinite cells are numbers, and for
a grid of numbers a positive tag tells the truth.
-/

namespace FuzzyGrid

open Scalar (IsNumber numbersAtEnd)

variable {α : Type} [Scalar α]

theorem Grid.isPositive_iff_numbersAtEnd [TotallyOrdered α] {grid : Grid α} :
    grid.isPositive = true ↔
      numbersAtEnd grid.validValues ≠ [] ∧
        ∀ value ∈ numbersAtEnd grid.validValues, Scalar.lt zero value = true :=
  Scalar.lt_least?_iff

/-- The positive tags of computed cells are given where the unmasked cells end
with numbers above zero.  Where all of them are numbers this makes all of them
positive.  A number that is not above zero goes unseen just where a cell that is
not a number comes later and after the last such cell there are only numbers
above zero. -/
theorem DataType.positive_iff_numbersAtEnd [TotallyOrdered α]
    (inputs : List DataType) (grid : Grid α) :
    (floatFor grid).isPositive = grid.isPositive ∧
    (propagate inputs grid).isPositive = grid.isPositive ∧
    (grid.isPositive = true ↔
      numbersAtEnd grid.validValues ≠ [] ∧
        ∀ value ∈ numbersAtEnd grid.validValues, Scalar.lt zero value = true) ∧
    ((∀ value ∈ grid.validValues, IsNumber value) →
      (grid.isPositive = true ↔
        grid.validValues ≠ [] ∧
          ∀ value ∈ grid.validValues, Scalar.lt zero value = true)) ∧
    ((grid.isPositive = true ∧
        ∃ value ∈ grid.validValues,
          IsNumber value ∧ ¬Scalar.lt zero value = true) ↔
      ∃ before gap after, grid.validValues = before ++ gap :: after ∧
        ¬IsNumber gap ∧ after ≠ [] ∧
        (∀ value ∈ after, Scalar.lt zero value = true) ∧
        ∃ value ∈ before, IsNumber value ∧ ¬Scalar.lt zero value = true) := by
  have positive := grid.isPositive_iff_numbersAtEnd
  refine ⟨isPositive_numeric _ _, isPositive_numeric _ _, positive, ?_, ?_, ?_⟩
  · intro numbers
    have all : numbersAtEnd grid.validValues = grid.validValues :=
      List.rtakeWhile_eq_self_iff.mpr numbers
    rwa [all] at positive
  · rintro ⟨isPositive, value, shown, isNumber, notAbove⟩
    obtain ⟨some_, above⟩ := positive.mp isPositive
    have early : value ∉ numbersAtEnd grid.validValues :=
      fun late => notAbove (above value late)
    rcases Scalar.numbersAtEnd_eq_or grid.validValues with
      all | ⟨before, gap, notNumber, split⟩
    · exact absurd (all.symm ▸ shown) early
    · refine ⟨before, gap, _, split, notNumber, some_, above, value, ?_, isNumber,
        notAbove⟩
      rw [split] at shown
      rcases List.mem_append.mp shown with isBefore | later
      · exact isBefore
      · rcases List.mem_cons.mp later with rfl | late
        · exact absurd isNumber notNumber
        · exact absurd late early
  · rintro ⟨before, gap, after, split, notNumber, some_, above, value, isBefore,
      hidden⟩
    have numbers : ∀ value ∈ after, IsNumber value :=
      fun value member => (Comparable.numbers_of_lt (above value member)).2
    have atEnd : numbersAtEnd (before ++ gap :: after) = after :=
      Scalar.numbersAtEnd_append_cons notNumber numbers
    rw [split, atEnd] at positive
    refine ⟨positive.mpr ⟨some_, above⟩, value, ?_, hidden⟩
    rw [split]
    exact List.mem_append_left _ isBefore

namespace Sample

/-- Heights on either side of an undefined one, and one that is masked. -/
def heights (first : Extended ℚ) : Grid (Extended ℚ) :=
  ⟨1, 4, [⟨first, false⟩, ⟨.undefined, false⟩, ⟨.number (-7), true⟩,
    ⟨.number 3, false⟩]⟩

/-- The tag overlooks a low height in front of the undefined one, and is right
where nothing unmasked is undefined. -/
theorem positive_iff_numbersAtEnd_heights :
    let known : Grid (Extended ℚ) :=
      ⟨1, 3, [⟨.number 2, false⟩, ⟨.undefined, true⟩, ⟨.number 3, false⟩]⟩
    (∀ value ∈ known.validValues, IsNumber value) ∧ known.isPositive = true ∧
      (∀ value ∈ known.validValues, Scalar.lt zero value = true) ∧
      (heights (.number (-5))).isPositive = true ∧
      ∃ value ∈ (heights (.number (-5))).validValues,
        IsNumber value ∧ ¬Scalar.lt zero value = true := by
  intro known
  have numbers : ∀ value ∈ known.validValues, Scalar.eq value value = true := by
    decide +kernel
  have above : ∀ value ∈ known.validValues, Scalar.lt zero value = true := by
    decide +kernel
  obtain ⟨_, _, _, told, _⟩ := DataType.positive_iff_numbersAtEnd [] known
  obtain ⟨_, _, _, _, missed⟩ :=
    DataType.positive_iff_numbersAtEnd [] (heights (.number (-5)))
  refine ⟨numbers, (told numbers).mpr ⟨by decide, above⟩, above, ?_⟩
  apply missed.mpr
  have isLow : IsNumber (Extended.number (-5 : ℚ)) := Extended.isNumber_iff.mpr nofun
  have notAbove : ¬Scalar.lt zero (Extended.number (-5 : ℚ)) = true := by
    decide +kernel
  exact ⟨[.number (-5)], .undefined, [.number 3], rfl,
    fun isNumber => Extended.isNumber_iff.mp isNumber rfl, List.cons_ne_nil _ _,
    by decide +kernel, _, List.mem_cons_self, isLow, notAbove⟩

/-- A low height is published under a positive tag. -/
theorem heights_misjudged :
    let low : Extended ℚ := .number (-5)
    let context : ResultContext (Extended ℚ) :=
      ⟨.standard, .ofList [("Height", .layer (heights low) .float)]⟩
    ((Operation.list ["Height"] .sum).compute .unknown context).toOption =
        some ⟨.layer (heights low) .positiveFloat, none⟩ ∧
      low ∈ (heights low).validValues ∧ Scalar.lt low zero = true ∧
      ¬∀ grid : Grid (Extended ℚ), grid.isPositive = true →
        ∀ value ∈ grid.validValues, IsNumber value →
          Scalar.lt zero value = true := by
  intro low context
  have isPositive : (heights low).isPositive = true := by decide +kernel
  have shown : low ∈ (heights low).validValues := List.mem_cons_self
  have notAbove : ¬Scalar.lt zero low = true := by decide +kernel
  refine ⟨by decide +kernel, shown, by decide +kernel, ?_⟩
  intro told
  exact notAbove (told _ isPositive low shown (Extended.isNumber_iff.mpr nofun))

end Sample

end FuzzyGrid
