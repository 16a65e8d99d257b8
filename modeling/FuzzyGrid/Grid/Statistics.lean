import FuzzyGrid.Grid.Basic

/-!
# Grid statistics

Least and greatest value, mean and population standard deviation of the
unmasked cells.  A grid without unmasked cells has none of them.
-/

namespace FuzzyGrid.Grid

variable {α : Type} [Scalar α]

def least? (grid : Grid α) : Option α :=
  Scalar.least? grid.validValues

def greatest? (grid : Grid α) : Option α :=
  Scalar.greatest? grid.validValues

/-- The mean of a list of scalars, if there are any. -/
def meanOf? (values : List α) : Option α :=
  if values.isEmpty then none
  else some (Scalar.total values / Scalar.ofNat values.length)

def mean? (grid : Grid α) : Option α :=
  meanOf? grid.validValues

/-- The square of the distance of a scalar from a mean. -/
def squaredDistance (mean value : α) : α :=
  (value - mean) * (value - mean)

/-- The population standard deviation of the unmasked cells. -/
def deviation? (grid : Grid α) : Option α :=
  grid.mean?.map fun mean =>
    Scalar.sqrt (Scalar.total (grid.validValues.map (squaredDistance mean))
      / Scalar.ofNat grid.validValues.length)

/-- Whether there are unmasked cells and the least of them is above zero. -/
def isPositive (grid : Grid α) : Bool :=
  grid.least?.any fun least => Scalar.lt (Scalar.ofInt 0) least

end FuzzyGrid.Grid
