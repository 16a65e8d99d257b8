import FuzzyGrid.Command.Check
import FuzzyGrid.Context
import FuzzyGrid.Grid.Stack

/-!
# Reading and combining layers

How an operation gets at its input layers, and the two ways of combining a
list of grids: folding a function over them, and adding them up with weights.
-/

namespace FuzzyGrid

variable {α : Type}

/-- An input layer: its grid and its type tag. -/
structure InputGrid (α : Type) where
  grid : Grid α
  dataType : DataType
  deriving Repr, DecidableEq

namespace ResultContext

/-- The layer under a name, which has to be a layer of data of an allowed
type. -/
def layer (context : ResultContext α) (origin : Origin) (allowed : List DataType)
    (field : String) : Except (CommandError α) (InputGrid α) :=
  match context.fetch origin field with
  | .error error => .error error
  | .ok result =>
    match result.layerGrid? with
    | none => .error ⟨.notADataLayer field, origin⟩
    | some grid =>
      if result.dataType.satisfies allowed then .ok ⟨grid, result.dataType⟩
      else .error ⟨.typeMismatch field result.dataType allowed, origin⟩

/-- The layers under several names, in order. -/
def layers (context : ResultContext α) (origin : Origin) (allowed : List DataType)
    (fields : List String) : Except (CommandError α) (List (InputGrid α)) :=
  readAll (context.layer origin allowed) fields

end ResultContext

namespace Grid

/-- A shape mismatch as the error of an argument. -/
def blame (origin : Origin) (arg : String) :
    Except ShapeMismatch (Grid α) → Except (CommandError α) (Grid α)
  | .ok grid => .ok grid
  | .error mismatch => .error ⟨.shapeMismatch arg mismatch, origin⟩

/-- Combine further grids into one, from the left. -/
def foldOnto (origin : Origin) (arg : String) (function : α → α → α) (grid : Grid α) :
    List (Grid α) → Except (CommandError α) (Grid α)
  | [] => .ok grid
  | next :: rest =>
    match blame origin arg (grid.zipWith next .union function) with
    | .error error => .error error
    | .ok combined => foldOnto origin arg function combined rest

/-- Combine a list of grids from the left; masks are united. -/
def fold (origin : Origin) (arg : String) (function : α → α → α) :
    List (Grid α) → Except (CommandError α) (Grid α)
  | [] => .error ⟨.tooFewInputs arg 1 0, origin⟩
  | first :: rest => foldOnto origin arg function first rest

variable [Scalar α]

/-- Add further grids with their weights to one, as long as there are both. -/
def addWeighted (origin : Origin) (arg : String) (grid : Grid α) :
    List (Grid α) → List α → Except (CommandError α) (Grid α)
  | next :: grids, weight :: weights =>
    match blame origin arg
        (grid.zipWith next .union fun sum value => sum + value * weight) with
    | .error error => .error error
    | .ok combined => addWeighted origin arg combined grids weights
  | _, _ => .ok grid

/-- The weighted sum of a list of grids; masks are united. -/
def weightedSum (origin : Origin) (arg : String) (grids : List (Grid α))
    (weights : List α) : Except (CommandError α) (Grid α) :=
  match grids, weights with
  | [], _ => .error ⟨.tooFewInputs arg 1 0, origin⟩
  | _, [] => .error ⟨.lengthMismatch [arg] [grids.length, 0], origin⟩
  | first :: rest, weight :: others =>
    addWeighted origin arg (first.map fun value => value * weight) rest others

def stack (origin : Origin) (arg : String) (grids : List (Grid α)) :
    Except (CommandError α) (SortedStack α) :=
  match SortedStack.build grids with
  | .ok stack => .ok stack
  | .error mismatch => .error ⟨.shapeMismatch arg mismatch, origin⟩

end Grid

end FuzzyGrid
