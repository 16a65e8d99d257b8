import FuzzyGrid.Proofs.Number.Exact
import FuzzyGrid.FuzzyRange

/-!
# Comparing scalars

What machine numbers promise of comparisons, whatever their arithmetic does:
a scalar that is not a number is below nothing and above nothing, and numbers
are totally ordered.  That is enough to see where clamping takes a scalar.
-/

namespace FuzzyGrid

/-- A scalar that is a number equals itself. -/
def Scalar.IsNumber {α : Type} [Scalar α] (value : α) : Prop :=
  Scalar.eq value value = true

/-- Scalars of which only numbers compare, and these in a total order. -/
class Comparable (α : Type) [Scalar α] : Prop where
  numbers_of_lt {left right : α} (below : Scalar.lt left right = true) :
    Scalar.IsNumber left ∧ Scalar.IsNumber right
  le_total {left right : α} (isLeft : Scalar.IsNumber left)
    (isRight : Scalar.IsNumber right) :
    Scalar.le left right = true ∨ Scalar.le right left = true
  lt_iff {left right : α} (isLeft : Scalar.IsNumber left)
    (isRight : Scalar.IsNumber right) :
    Scalar.lt left right = true ↔ ¬Scalar.le right left = true

/-- A scalar that is not a number or lies in the range. -/
def FuzzyRange.Admits {α : Type} [Scalar α] (range : FuzzyRange α)
    (value : α) : Prop :=
  ¬Scalar.IsNumber value ∨ range.contains value = true

section

variable {α : Type} [Scalar α] [Comparable α]

theorem Scalar.le_of_not_lt {left right : α} (isLeft : IsNumber left)
    (isRight : IsNumber right) (notBelow : ¬Scalar.lt right left = true) :
    Scalar.le left right = true := by
  rw [Comparable.lt_iff isRight isLeft, not_not] at notBelow
  exact notBelow

theorem Scalar.le_self {value : α} (isNumber : IsNumber value) :
    Scalar.le value value = true :=
  or_self_iff.mp (Comparable.le_total isNumber isNumber)

theorem Scalar.le_of_lt {left right : α} (below : Scalar.lt left right = true) :
    Scalar.le left right = true := by
  obtain ⟨isLeft, isRight⟩ := Comparable.numbers_of_lt below
  have notAbove := (Comparable.lt_iff isLeft isRight).mp below
  exact (Comparable.le_total isLeft isRight).resolve_right notAbove

/-- Clamping takes every number into the range. -/
theorem FuzzyRange.admits_clamp {range : FuzzyRange α}
    (proper : Scalar.lt range.low range.high = true) (value : α) :
    range.Admits (Scalar.clamp range.low range.high value) := by
  obtain ⟨isLow, isHigh⟩ := Comparable.numbers_of_lt proper
  have atMost := Scalar.le_of_lt proper
  unfold Scalar.clamp Admits contains
  split
  · exact .inr (by simp [Scalar.le_self isLow, atMost])
  · rename_i notBelow
    split
    · exact .inr (by simp [Scalar.le_self isHigh, atMost])
    · rename_i notAbove
      -- What is not a number is on neither side of a bound and stays as it is.
      by_cases isNumber : Scalar.IsNumber value
      · have above := Scalar.le_of_not_lt isLow isNumber notBelow
        have below := Scalar.le_of_not_lt isNumber isHigh notAbove
        exact .inr (by simp [above, below])
      · exact .inl isNumber

end

instance {K : Type} [ExactNumber K] : Comparable K where
  numbers_of_lt _ := ⟨Scalar.eq_iff.mpr rfl, Scalar.eq_iff.mpr rfl⟩
  le_total _ _ := by
    simp only [Scalar.le_iff]
    exact le_total _ _
  lt_iff _ _ := by
    simp only [Scalar.lt_iff, Scalar.le_iff, not_le]

/-! ## Undefined numbers -/

/-- A number, or what comes of an operation that has no result. -/
inductive Extended (K : Type) where
  | number (value : K)
  | undefined
  deriving Repr, DecidableEq

namespace Extended

variable {K : Type}

def map (function : K → K) : Extended K → Extended K
  | number value => number (function value)
  | undefined => undefined

def map₂ (function : K → K → K) : Extended K → Extended K → Extended K
  | number left, number right => number (function left right)
  | _, _ => undefined

/-- A comparison is false where either side is undefined. -/
def compare (test : K → K → Bool) : Extended K → Extended K → Bool
  | number left, number right => test left right
  | _, _ => false

def text (show_ : K → String) : Extended K → String
  | number value => show_ value
  | undefined => "NaN"

instance [ExactNumber K] : Scalar (Extended K) where
  add := map₂ fun left right => left + right
  sub := map₂ fun left right => left - right
  mul := map₂ fun left right => left * right
  div left right :=
    if right = number 0 then undefined
    else map₂ (fun left right => left / right) left right
  sqrt := map Scalar.sqrt
  ofInt value := number (Scalar.ofInt value)
  emptySum := number Scalar.emptySum
  lt := compare Scalar.lt
  le := compare Scalar.le
  eq := compare Scalar.eq
  identical := compare Scalar.identical
  code := text Scalar.code
  plainText := text Scalar.plainText
  cellText := text Scalar.cellText
  unordered? _ _ := none

theorem isNumber_iff [ExactNumber K] {value : Extended K} :
    Scalar.IsNumber value ↔ value ≠ undefined := by
  cases value with
  | number value => simp [Scalar.IsNumber, Scalar.eq, compare]
  | undefined => simp [Scalar.IsNumber, Scalar.eq, compare]

instance [ExactNumber K] : Comparable (Extended K) where
  numbers_of_lt {left right} below := by
    rw [isNumber_iff, isNumber_iff]
    cases left with
    | number left =>
        cases right with
        | number right => simp
        | undefined => cases below
    | undefined => cases below
  le_total {left right} isLeft isRight := by
    rw [isNumber_iff] at isLeft isRight
    cases left with
    | number left =>
        cases right with
        | number right => simpa [Scalar.le, compare] using le_total left right
        | undefined => exact absurd rfl isRight
    | undefined => exact absurd rfl isLeft
  lt_iff {left right} isLeft isRight := by
    rw [isNumber_iff] at isLeft isRight
    cases left with
    | number left =>
        cases right with
        | number right => simp [Scalar.lt, Scalar.le, compare]
        | undefined => exact absurd rfl isRight
    | undefined => exact absurd rfl isLeft

end Extended

end FuzzyGrid
