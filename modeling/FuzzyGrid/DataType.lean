import FuzzyGrid.Grid.Statistics

/-!
# Data types

Every result carries a tag that says what its cells hold.  A positive tag is
accepted wherever its base tag is, and the tag of a computed numeric result is
positive exactly when its unmasked cells are.
-/

namespace FuzzyGrid

/-- What the cells of a result hold. -/
inductive DataType where
  | integer
  | positiveInteger
  | float
  | positiveFloat
  | fuzzy
  | bool
  | any
  deriving Repr, DecidableEq

namespace DataType

def all : List DataType :=
  [integer, positiveInteger, float, positiveFloat, fuzzy, bool, any]

/-- The name of a tag in messages and model files. -/
def name : DataType → String
  | integer => "Integer"
  | positiveInteger => "Positive Integer"
  | float => "Float"
  | positiveFloat => "Positive Float"
  | fuzzy => "Fuzzy"
  | bool => "Bool"
  | any => "Any"

def ofName? (name : String) : Option DataType :=
  all.find? fun dataType => dataType.name == name

def integers : List DataType :=
  [integer, positiveInteger]

def numerics : List DataType :=
  [integer, positiveInteger, float, positiveFloat]

def numericsOrFuzzy : List DataType :=
  [integer, positiveInteger, float, positiveFloat, fuzzy]

def isFloat : DataType → Bool
  | float | positiveFloat => true
  | _ => false

def isInteger : DataType → Bool
  | integer | positiveInteger => true
  | _ => false

/-- Whether a tag is accepted where another is asked for. -/
def fits (found asked : DataType) : Bool :=
  asked == any || asked == found
    || (asked == integer && found == positiveInteger)
    || (asked == float && found == positiveFloat)

/-- Whether a tag is accepted where any of several is asked for. -/
def satisfies (found : DataType) (allowed : List DataType) : Bool :=
  allowed.any fun asked => fits found asked

/-- The numeric tag of a family and a sign. -/
def numeric (isFloat isPositive : Bool) : DataType :=
  match isFloat, isPositive with
  | true, true => positiveFloat
  | true, false => float
  | false, true => positiveInteger
  | false, false => integer

variable {α : Type} [Scalar α]

/-- The float tag of computed cells. -/
def floatFor (grid : Grid α) : DataType :=
  numeric true grid.isPositive

/-- The numeric tag of computed cells: float if an input is. -/
def propagate (inputs : List DataType) (grid : Grid α) : DataType :=
  numeric (inputs.any isFloat) grid.isPositive

end DataType

end FuzzyGrid
