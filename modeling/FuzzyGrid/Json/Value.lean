import FuzzyGrid.Command.Argument
import FuzzyGrid.Number.WrittenNumber
import FuzzyGrid.Number.Float

/-!
# JSON values

A JSON value keeps what its text says: numbers as they are written, so that
whole numbers, fractions and the sign of zero can be told apart, and the
members of an object in order and with repetitions.
-/

namespace FuzzyGrid

/-- A number of a JSON text: how it is written, and the float it is read as,
if that is finite. -/
structure JsonNumber where
  written : WrittenNumber
  float? : Option Float
  deriving Repr

namespace JsonNumber

/-- The integer of a number written without fraction and exponent. -/
def integer? (number : JsonNumber) : Option Int :=
  number.written.integer?

/-- A natural number that fits 64 bits. -/
def natural? (number : JsonNumber) : Option Nat :=
  match number.integer? with
  | some value =>
    if 0 ≤ value && value.toNat < UInt64.size then some value.toNat else none
  | none => none

/-- The numeral of a number: whole if it is an integer that fits 64 bits with
a sign. -/
def numeral? (number : JsonNumber) : Option (Numeral Float) :=
  match number.integer? with
  | some value =>
    if Int64.minValue.toInt ≤ value && value ≤ Int64.maxValue.toInt then
      some (.whole value)
    else number.float?.map Numeral.real
  | none => number.float?.map Numeral.real

end JsonNumber

/-- A JSON value. -/
inductive Json where
  | null
  | bool (value : Bool)
  | number (value : JsonNumber)
  | string (text : String)
  /-- A string with half of a surrogate pair, which denotes no text, or an
  object with such a name. -/
  | unpaired
  | array (items : List Json)
  | object (members : List (String × Json))
  deriving Repr

namespace Json

/-- The text of a string. -/
def string? : Json → Option String
  | string text => some text
  | _ => none

/-- The truth value. -/
def bool? : Json → Option Bool
  | bool value => some value
  | _ => none

/-- The items of an array. -/
def array? : Json → Option (List Json)
  | array items => some items
  | _ => none

/-- The float of a number. -/
def float? : Json → Option Float
  | number value => value.float?
  | _ => none

/-- The natural number. -/
def natural? : Json → Option Nat
  | number value => value.natural?
  | _ => none

/-- Whether a value is null. -/
def isNull : Json → Bool
  | null => true
  | _ => false

/-- Read every item of an array. -/
def arrayOf? {β : Type} (read : Json → Option β) (value : Json) : Option (List β) := do
  (← value.array?).mapM read

/-- The last member of an object under a name. -/
def member? (name : String) : Json → Option Json
  | object members => members.reverse.lookup name
  | _ => none

mutual

/-- How deep arrays and objects are nested. -/
def depth : Json → Nat
  | array items => depthOfItems items + 1
  | object members => depthOfMembers members + 1
  | _ => 0

/-- The greatest depth among items. -/
def depthOfItems : List Json → Nat
  | [] => 0
  | item :: rest => max (depth item) (depthOfItems rest)

/-- The greatest depth among members. -/
def depthOfMembers : List (String × Json) → Nat
  | [] => 0
  | (_, value) :: rest => max (depth value) (depthOfMembers rest)

end

mutual

/-- Whether every number is finite as a float and every string denotes a
text. -/
def isDenoting : Json → Bool
  | number value => value.float?.isSome
  | unpaired => false
  | array items => areDenoting items
  | object members => membersDenoting members
  | _ => true

/-- Whether all items denote. -/
def areDenoting : List Json → Bool
  | [] => true
  | item :: rest => isDenoting item && areDenoting rest

/-- Whether all members denote. -/
def membersDenoting : List (String × Json) → Bool
  | [] => true
  | (_, value) :: rest => isDenoting value && membersDenoting rest

end

mutual

/-- The value with one member for each name of an object, the last one. -/
def lastMembers : Json → Json
  | array items => array (lastOfItems items)
  | object members => object (lastOfMembers members)
  | other => other

/-- Each item with one member for each name. -/
def lastOfItems : List Json → List Json
  | [] => []
  | item :: rest => lastMembers item :: lastOfItems rest

/-- The members that no later one replaces. -/
def lastOfMembers : List (String × Json) → List (String × Json)
  | [] => []
  | (name, value) :: rest =>
    if rest.any fun member => member.1 == name then lastOfMembers rest
    else (name, lastMembers value) :: lastOfMembers rest

end

end Json

end FuzzyGrid
