import FuzzyGrid.Number.Scalar

/-!
# Fuzzy ranges

The interval of fuzzy truth: its lower end is fully false and its upper end
fully true.
-/

namespace FuzzyGrid

structure FuzzyRange (α : Type) where
  low : α
  high : α
  deriving Repr, DecidableEq

/-- The ends of a refused interval, the lower one not below the upper one. -/
structure RangeFault (α : Type) where
  low : α
  high : α
  deriving Repr, DecidableEq

namespace FuzzyRange

variable {α : Type} [Scalar α]

/-- The interval of two ends, if the first lies below the second. -/
def ofEnds (low high : α) : Except (RangeFault α) (FuzzyRange α) :=
  if Scalar.lt low high then .ok ⟨low, high⟩ else .error ⟨low, high⟩

def standard : FuzzyRange α :=
  ⟨Scalar.ofInt (-1), Scalar.ofInt 1⟩

def midpoint (range : FuzzyRange α) : α :=
  (range.low + range.high) / Scalar.ofInt 2

def contains (range : FuzzyRange α) (value : α) : Bool :=
  Scalar.le range.low value && Scalar.le value range.high

/-- The reflection of a scalar about the midpoint. -/
def complement (range : FuzzyRange α) (value : α) : α :=
  range.low + range.high - value

end FuzzyRange

def RangeFault.message {α : Type} [Scalar α] (fault : RangeFault α) : String :=
  "Fuzzy range minimum " ++ Scalar.plainText fault.low ++ " must be below maximum "
    ++ Scalar.plainText fault.high

end FuzzyGrid
