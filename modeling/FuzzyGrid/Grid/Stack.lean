import FuzzyGrid.Grid.Basic
import FuzzyGrid.Ascending

/-!
# Sorted stacks

Several grids of one shape, seen cell by cell: the values of all layers at a
place in ascending order.  A place that is masked in one layer is masked in
the stack.  The values are arranged at every place, masked or not, so a sort
may give up over values that no reduction shows.
-/

namespace FuzzyGrid

/-- The values of all layers at one place. -/
structure CellStack (α : Type) where
  /-- The values in ascending order, so far as they compare. -/
  ascending : List α
  masked : Bool
  deriving Repr, DecidableEq

/-- A rectangle of cell stacks. -/
structure SortedStack (α : Type) where
  rows : Nat
  cols : Nat
  /-- The stacks, row after row. -/
  cells : List (CellStack α)
  deriving Repr, DecidableEq

namespace SortedStack

variable {α : Type}

/-- The cells of several grids gathered place by place. -/
def columns : List (Grid α) → List (List (Cell α))
  | [] => []
  | [grid] => grid.cells.map fun cell => [cell]
  | grid :: next :: rest => List.zipWith List.cons grid.cells (columns (next :: rest))

/-- The sorted stack of the cells at one place. -/
def ofCells [Scalar α] (cells : List (Cell α)) : CellStack α :=
  ⟨Scalar.arrange id (cells.map Cell.value), cells.any Cell.masked⟩

/-- Stack grids on the first one, which every other must match in shape. -/
def build [Scalar α] : List (Grid α) → Except ShapeMismatch (SortedStack α)
  | [] => .ok ⟨0, 0, []⟩
  | first :: rest =>
    match rest.find? fun grid => first.shape != grid.shape with
    | some other => .error ⟨first.shape, other.shape⟩
    | none => .ok ⟨first.rows, first.cols, (columns (first :: rest)).map ofCells⟩

/-- Whether the sort gives up at some place. -/
def givesUp [Scalar α] (grids : List (Grid α)) : Bool :=
  match build grids with
  | .error _ => false
  | .ok _ => (columns grids).any fun cells =>
    (Scalar.arrange? id (cells.map Cell.value)).isNone

/-- Stack grids, if no sort gives up. -/
def build? [Scalar α] (grids : List (Grid α)) :
    Option (Except ShapeMismatch (SortedStack α)) :=
  if givesUp grids then none else some (build grids)

/-- How many values lie at each place. -/
def depth (stack : SortedStack α) : Nat :=
  (stack.cells.head?.map fun cell => cell.ascending.length).getD 0

/-- Reduce every ascending stack to one scalar; the mask stays. -/
def reduce (stack : SortedStack α) (function : List α → α) : Grid α :=
  ⟨stack.rows, stack.cols,
    stack.cells.map fun cell => ⟨function cell.ascending, cell.masked⟩⟩

end SortedStack

end FuzzyGrid
