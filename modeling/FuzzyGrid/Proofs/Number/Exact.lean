import Mathlib.Algebra.Order.Field.Rat
import Mathlib.Data.Rat.Cast.Defs
import FuzzyGrid.Model

/-!
# Exact numbers

A model can be read in any ordered field in place of machine numbers.  Sums
start from zero there, comparisons are those of the order, and numbers are
identical where they are equal.  The square root and the texts of numbers are
left open, so that what is said of exact numbers holds for any of them.  Exact
numbers always compare, so no sort of them is left open.
-/

namespace FuzzyGrid

/-- An ordered field with a square root and texts for its numbers. -/
class ExactNumber (K : Type) extends Field K, LinearOrder K,
    IsStrictOrderedRing K where
  sqrt : K → K
  code : K → String
  plainText : K → String
  cellText : K → String

instance {K : Type} [ExactNumber K] : Scalar K where
  sqrt := ExactNumber.sqrt
  ofInt value := value
  emptySum := 0
  lt left right := decide (left < right)
  le left right := decide (left ≤ right)
  eq left right := decide (left = right)
  identical left right := decide (left = right)
  code := ExactNumber.code
  plainText := ExactNumber.plainText
  cellText := ExactNumber.cellText
  unordered? _ _ := none

/-- The rational numbers, whose squares have their roots. -/
instance : ExactNumber ℚ where
  sqrt value := (value.num.toNat.sqrt : ℚ) / value.den.sqrt
  code value := toString value
  plainText value := toString value
  cellText value := toString value

namespace Scalar

variable {K : Type} [ExactNumber K]

@[simp] theorem lt_iff {left right : K} :
    Scalar.lt left right = true ↔ left < right :=
  decide_eq_true_iff

@[simp] theorem le_iff {left right : K} :
    Scalar.le left right = true ↔ left ≤ right :=
  decide_eq_true_iff

@[simp] theorem eq_iff {left right : K} :
    Scalar.eq left right = true ↔ left = right :=
  decide_eq_true_iff

theorem lesser_eq_min (left right : K) : lesser left right = min left right := by
  unfold lesser
  rw [if_pos (eq_iff.mpr rfl), min_def]
  split
  · rename_i below
    rw [if_neg (not_le.mpr (lt_iff.mp below))]
  · rename_i notBelow
    rw [if_pos (not_lt.mp fun below => notBelow (lt_iff.mpr below))]

theorem greater_eq_max (left right : K) : greater left right = max left right := by
  unfold greater
  rw [if_pos (eq_iff.mpr rfl), max_def]
  split
  · rename_i below
    rw [if_pos (lt_iff.mp below).le]
  · rename_i notBelow
    split
    · rename_i atMost
      exact le_antisymm atMost (not_lt.mp fun below => notBelow (lt_iff.mpr below))
    · rfl

theorem lesser_eq : (lesser : K → K → K) = min :=
  funext₂ lesser_eq_min

theorem greater_eq : (greater : K → K → K) = max :=
  funext₂ greater_eq_max

end Scalar

/-! ## A small exact model

Counts by area, with an area of zero and a count that is masked, and a report
of the counts and their quotients added up. -/

namespace Sample

theorem ok_of_evaluated {ε β : Type} {outcome : Except ε β} {value : β}
    (evaluated : outcome.toOption = some value) : outcome = .ok value := by
  cases outcome with
  | error fault => cases evaluated
  | ok other => exact congrArg Except.ok (Option.some.inj evaluated)

def density : Node ℚ where
  command := ⟨"Density", "ADividedByB",
    ⟨[("A", .text "Count"), ("B", .text "Area")], by decide⟩,
    ⟨"density.mpt", 1, "Density = ADividedByB(Count, Area)"⟩⟩
  operator := .divide
  operation := .pair "Count" "Area" .divide
  interpreted := rfl

def both : Node ℚ where
  command := ⟨"Both", "Sum",
    ⟨[("InFieldNames", .list [.text "Count", .text "Density"])], by simp⟩,
    ⟨"density.mpt", 2, "Both = Sum([Count, Density])"⟩⟩
  operator := .sum
  operation := .list ["Count", "Density"] .sum
  interpreted := rfl

def shown : Node ℚ where
  command := ⟨"Shown", "PrintVars", ⟨[("InFieldNames", .text "Both")], by simp⟩,
    ⟨"density.mpt", 3, "Shown = PrintVars(Both)"⟩⟩
  operator := .printVariables
  operation := .report ["Both"] none
  interpreted := rfl

/-- Counts with a scalar under the mask. -/
def counts (hidden : ℚ) : Result ℚ :=
  .layer ⟨1, 3, [⟨4, false⟩, ⟨6, false⟩, ⟨hidden, true⟩]⟩ .positiveInteger

/-- Areas, one of them zero. -/
def areas : Result ℚ :=
  .layer ⟨1, 3, [⟨2, false⟩, ⟨0, false⟩, ⟨5, false⟩]⟩ .float

def densities (hidden : ℚ) : Model ℚ :=
  ⟨[("Count", counts hidden), ("Area", areas)], [both, density, shown]⟩

def unstarted : Session ℚ :=
  ⟨.empty .standard, .ofFiles []⟩

end Sample

end FuzzyGrid
