import FuzzyGrid.Number.Scalar

/-!
# Grids

A grid is a rectangle of cells in row-major order.  A masked cell has no data;
it still stores a scalar, which no operator observes and which reappears when
the mask is replaced.
-/

namespace FuzzyGrid

/-- A stored scalar and whether it is masked. -/
structure Cell (α : Type) where
  value : α
  masked : Bool
  deriving Repr, DecidableEq

namespace Cell

variable {α : Type}

def valid? (cell : Cell α) : Option α :=
  if cell.masked then none else some cell.value

def map (function : α → α) (cell : Cell α) : Cell α :=
  ⟨function cell.value, cell.masked⟩

end Cell

/-- A rectangle of cells. -/
structure Grid (α : Type) where
  rows : Nat
  cols : Nat
  /-- The cells, row after row. -/
  cells : List (Cell α)
  deriving Repr, DecidableEq

/-- Two grids, or a grid and a mask, that should have one shape. -/
structure ShapeMismatch where
  left : Nat × Nat
  right : Nat × Nat
  deriving Repr, DecidableEq

/-- Why a grid cannot be made. -/
inductive GridFault where
  /-- The number of values is not the number of cells. -/
  | valueCount (rows cols count : Nat)
  /-- The mask and the values differ in length. -/
  | maskLength (mask values : Nat)
  /-- A row differs in length from the first one. -/
  | raggedRows (cols : Nat)
  deriving Repr, DecidableEq

/-- Which cells of an elementwise combination are masked. -/
inductive MaskRule where
  /-- A cell that is masked on either side. -/
  | union
  /-- A cell that is masked on the left. -/
  | keepLeft
  deriving Repr, DecidableEq

def MaskRule.combine : MaskRule → Bool → Bool → Bool
  | .union, left, right => left || right
  | .keepLeft, left, _ => left

namespace Grid

variable {α : Type}

def shape (grid : Grid α) : Nat × Nat :=
  (grid.rows, grid.cols)

def size (grid : Grid α) : Nat :=
  grid.cells.length

/-- The stored scalars, masked or not. -/
def values (grid : Grid α) : List α :=
  grid.cells.map Cell.value

def mask (grid : Grid α) : List Bool :=
  grid.cells.map Cell.masked

def validValues (grid : Grid α) : List α :=
  grid.cells.filterMap Cell.valid?

/-- The number of cells of a shape as a 64-bit word: a product that does not
fit wraps around. -/
def wordCount (rows cols : Nat) : Nat :=
  rows * cols % UInt64.size

def cellsOf (values : List α) (mask : List Bool) : List (Cell α) :=
  List.zipWith Cell.mk values mask

/-- A grid of given values and mask, the number of values being compared with
the shape as 64-bit words. -/
def withMask (rows cols : Nat) (values : List α) (mask : List Bool) :
    Except GridFault (Grid α) :=
  if values.length % UInt64.size ≠ wordCount rows cols then
    .error (.valueCount rows cols values.length)
  else if mask.length ≠ values.length then
    .error (.maskLength mask.length values.length)
  else
    .ok ⟨rows, cols, cellsOf values mask⟩

def ofValues (rows cols : Nat) (values : List α) : Except GridFault (Grid α) :=
  withMask rows cols values (values.map fun _ => false)

def ofRow (values : List α) : Grid α :=
  ⟨1, values.length, values.map fun value => ⟨value, false⟩⟩

/-- The length of the first row; none counts as empty. -/
def columnCount (rows : List (List α)) : Nat :=
  (rows.head?.map List.length).getD 0

/-- An unmasked grid of nested rows, all of the first one's length. -/
def ofRows (rows : List (List α)) : Except GridFault (Grid α) :=
  if rows.any fun row => row.length != columnCount rows then
    .error (.raggedRows (columnCount rows))
  else
    ofValues rows.length (columnCount rows) rows.flatten

/-- A grid that stores one scalar everywhere. -/
def filled (rows cols : Nat) (value : α) (mask : List Bool) :
    Except GridFault (Grid α) :=
  withMask rows cols (List.replicate (wordCount rows cols) value) mask

/-- Apply a function to every stored scalar; the mask stays. -/
def map (grid : Grid α) (function : α → α) : Grid α :=
  { grid with cells := grid.cells.map (Cell.map function) }

/-- Combine two grids of one shape cell by cell. -/
def zipWith (left right : Grid α) (rule : MaskRule) (function : α → α → α) :
    Except ShapeMismatch (Grid α) :=
  if left.shape = right.shape then
    .ok { left with
      cells := List.zipWith
        (fun first second =>
          ⟨function first.value second.value,
            rule.combine first.masked second.masked⟩)
        left.cells right.cells }
  else
    .error ⟨left.shape, right.shape⟩

/-- Mask the cells whose stored scalar passes a test as well. -/
def maskWhere (grid : Grid α) (test : α → Bool) : Grid α :=
  { grid with
    cells := grid.cells.map fun cell =>
      ⟨cell.value, cell.masked || test cell.value⟩ }

/-- Replace the mask; the stored scalars stay. -/
def replaceMask (grid : Grid α) (mask : List Bool) :
    Except ShapeMismatch (Grid α) :=
  if mask.length = grid.size then
    .ok { grid with cells := cellsOf grid.values mask }
  else
    .error ⟨grid.shape, (1, mask.length)⟩

def clampUnmasked [Scalar α] (grid : Grid α) (low high : α) : Grid α :=
  { grid with
    cells := grid.cells.map fun cell =>
      if cell.masked then cell else ⟨Scalar.clamp low high cell.value, false⟩ }

end Grid

end FuzzyGrid
