import FuzzyGrid.Grid.Basic

/-!
# Printed grids

A grid is printed as its rows in brackets, one row to a line, the cells of a
row apart by spaces and a masked cell as two dashes.  The messages of grid
faults stand here as well.
-/

namespace FuzzyGrid

/-- A pair of counts. -/
def shapeText (shape : Nat × Nat) : String :=
  "(" ++ toString shape.1 ++ ", " ++ toString shape.2 ++ ")"

def ShapeMismatch.message (mismatch : ShapeMismatch) : String :=
  "grid shape " ++ shapeText mismatch.left ++ " does not match "
    ++ shapeText mismatch.right

def GridFault.message : GridFault → String
  | .valueCount rows cols count =>
    "Grid of " ++ toString rows ++ "x" ++ toString cols ++ " needs "
      ++ toString (Grid.wordCount rows cols) ++ " values, got " ++ toString count
  | .maskLength mask values =>
    "Mask length " ++ toString mask ++ " does not match " ++ toString values
      ++ " values"
  | .raggedRows cols =>
    "Ragged rows: every row must have " ++ toString cols ++ " columns"

namespace Grid

variable {α : Type}

/-- The first `rows` rows of a row-major list of cells. -/
def cellRows (cols : Nat) : Nat → List (Cell α) → List (List (Cell α))
  | 0, _ => []
  | rows + 1, cells => cells.take cols :: cellRows cols rows (cells.drop cols)

def cellText [Scalar α] (cell : Cell α) : String :=
  match cell.valid? with
  | some value => Scalar.cellText value
  | none => "--"

def rowText [Scalar α] (cells : List (Cell α)) : String :=
  "[" ++ String.intercalate " " (cells.map cellText) ++ "]"

def text [Scalar α] (grid : Grid α) : String :=
  "[" ++ String.intercalate "\n " ((cellRows grid.cols grid.rows grid.cells).map rowText)
    ++ "]"

end Grid

end FuzzyGrid
