import FuzzyGrid.Command.Fault
import FuzzyGrid.FuzzyRange

/-!
# Results and contexts

A context maps result names to results.  Each name is written once: a second
result under a name is refused, and nothing is ever changed or removed.
-/

namespace FuzzyGrid

/-- The value of a result: a grid, or the flag of a report. -/
inductive ResultValue (α : Type) where
  | grid (layer : Grid α)
  | flag (value : Bool)
  deriving Repr, DecidableEq

/-- The text of a value in a report. -/
def ResultValue.text {α : Type} [Scalar α] : ResultValue α → String
  | .grid layer => layer.text
  | .flag true => "True"
  | .flag false => "False"

/-- A value, its type tag, and whether other operators may take it as a layer
of data. -/
structure Result (α : Type) where
  value : ResultValue α
  dataType : DataType
  isDataLayer : Bool
  deriving Repr, DecidableEq

namespace Result

variable {α : Type}

def layer (grid : Grid α) (dataType : DataType) : Result α :=
  ⟨.grid grid, dataType, true⟩

/-- The grid of a result that has one. -/
def grid? (result : Result α) : Option (Grid α) :=
  match result.value with
  | .grid layer => some layer
  | .flag _ => none

/-- The grid of a layer of data. -/
def layerGrid? (result : Result α) : Option (Grid α) :=
  if result.isDataLayer then result.grid? else none

end Result

/-- The fuzzy range of a run and the results published so far. -/
structure ResultContext (α : Type) where
  range : FuzzyRange α
  results : NameTable (Result α)

namespace ResultContext

variable {α : Type}

def empty (range : FuzzyRange α) : ResultContext α :=
  ⟨range, NameTable.empty⟩

def get? (context : ResultContext α) (name : String) : Option (Result α) :=
  context.results.get? name

def contains (context : ResultContext α) (name : String) : Bool :=
  context.results.contains name

/-- The names of the results in ascending order. -/
def names (context : ResultContext α) : List String :=
  context.results.names

def size (context : ResultContext α) : Nat :=
  context.results.size

/-- The result under a name that has to have one, for the command at a place. -/
def fetch (context : ResultContext α) (origin : Origin) (name : String) :
    Except (CommandError α) (Result α) :=
  match context.get? name with
  | some result => .ok result
  | none => .error ⟨.missingResult name, origin⟩

/-- Add a result under a name that has none yet, for the command at a place. -/
def publish (context : ResultContext α) (origin : Origin) (name : String)
    (result : Result α) : Except (CommandError α) (ResultContext α) :=
  if context.contains name then .error ⟨.duplicateResult name, origin⟩
  else .ok { context with results := context.results.insert name result }

end ResultContext

end FuzzyGrid
