import FuzzyGrid.Number.Scalar

/-!
# Argument values

The values a command's arguments take, and the kinds by which an operator
declares what it accepts.
-/

namespace FuzzyGrid

/-- A number as it was written, whole or with a fraction. -/
inductive Numeral (α : Type) where
  | whole (value : Int)
  | real (value : α)
  deriving Repr, DecidableEq

def Numeral.value {α : Type} [Scalar α] : Numeral α → α
  | .whole value => Scalar.ofInt value
  | .real value => value

def Numeral.text {α : Type} [Scalar α] : Numeral α → String
  | .whole value => toString value
  | .real value => Scalar.plainText value

inductive ArgValue (α : Type) where
  | flag (value : Bool)
  | number (numeral : Numeral α)
  | text (value : String)
  | list (items : List (ArgValue α))
  deriving Repr

namespace ArgValue

variable {α : Type}

def numeral? : ArgValue α → Option (Numeral α)
  | number numeral => some numeral
  | _ => none

def scalar? [Scalar α] (value : ArgValue α) : Option α :=
  value.numeral?.map Numeral.value

/-- The integer of a number written as one. -/
def integer? : ArgValue α → Option Int
  | number (.whole value) => some value
  | _ => none

def text? : ArgValue α → Option String
  | text value => some value
  | _ => none

/-- The items of a list; any other value is a list of itself. -/
def items : ArgValue α → List (ArgValue α)
  | list items => items
  | single => [single]

def isList : ArgValue α → Bool
  | list _ => true
  | _ => false

mutual

/-- The text of a value in a message. -/
def display [Scalar α] : ArgValue α → String
  | flag value => if value then "true" else "false"
  | number numeral => numeral.text
  | text value => value
  | list items => "[" ++ String.intercalate "," (displayItems items) ++ "]"

def displayItems [Scalar α] : List (ArgValue α) → List String
  | [] => []
  | item :: rest => display item :: displayItems rest

end

/-- Whether two list entries count as the same: numbers by value, other
entries by their text.  A text that spells the code of a number counts as that
number. -/
def sameEntry [Scalar α] (first second : ArgValue α) : Bool :=
  match first.scalar?, second.scalar? with
  | some left, some right => Scalar.identical left right
  | some left, none => Scalar.code left == second.display
  | none, some right => first.display == Scalar.code right
  | none, none => first.display == second.display

/-- The first entry of a list that is the same as an earlier one or as one of
those already seen. -/
def firstRepeat? [Scalar α] (seen : List (ArgValue α)) :
    List (ArgValue α) → Option (ArgValue α)
  | [] => none
  | item :: rest =>
    if seen.any fun earlier => sameEntry earlier item then some item
    else firstRepeat? (item :: seen) rest

end ArgValue

inductive ArgKind where
  | fieldName
  | fieldNameList
  | float
  | floatList
  | integer
  | integerList
  | positiveInteger
  | fuzzyValue
  | fuzzyValueList
  | direction
  | truestOrFalsest
  | fileName
  | any
  deriving Repr, DecidableEq

namespace ArgKind

def all : List ArgKind :=
  [fieldName, fieldNameList, float, floatList, integer, integerList,
    positiveInteger, fuzzyValue, fuzzyValueList, direction, truestOrFalsest,
    fileName, any]

def name : ArgKind → String
  | fieldName => "Field Name"
  | fieldNameList => "Field Name List"
  | float => "Float"
  | floatList => "Float List"
  | integer => "Integer"
  | integerList => "Integer List"
  | positiveInteger => "Positive Integer"
  | fuzzyValue => "Fuzzy Value"
  | fuzzyValueList => "Fuzzy Value List"
  | direction => "Direction"
  | truestOrFalsest => "Truest Or Falsest"
  | fileName => "File Name"
  | any => "Any"

variable {α : Type}

/-- Whether a value is a list whose items all pass a test. -/
def acceptsList (test : ArgValue α → Bool) : ArgValue α → Bool
  | .list items => items.all test
  | _ => false

/-- Whether a kind accepts a value.  Spellings and bounds are left to the
operator. -/
def accepts (kind : ArgKind) (value : ArgValue α) : Bool :=
  match kind with
  | fieldName | fileName | truestOrFalsest => value.text?.isSome
  | direction => !value.isList
  | fieldNameList => acceptsList (fun item => item.text?.isSome) value
  | float | fuzzyValue => value.numeral?.isSome
  | floatList | fuzzyValueList => acceptsList (fun item => item.numeral?.isSome) value
  | integer => value.integer?.isSome
  | integerList => acceptsList (fun item => item.integer?.isSome) value
  | positiveInteger => value.integer?.any fun number => decide (0 < number)
  | any => true

/-- Whether values of a kind name results. -/
def isFieldReference : ArgKind → Bool
  | fieldName | fieldNameList => true
  | _ => false

end ArgKind

end FuzzyGrid
