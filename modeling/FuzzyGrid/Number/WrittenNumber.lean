import FuzzyGrid.Number.Binary64

/-!
# Written numbers

A number as it is written: its digits before and after the point and its
exponent, so that whole numbers, fractions and the sign of zero can be told
apart.  A reading gives the float that a written number denotes, if that is
finite.
-/

namespace FuzzyGrid

/-- The float nearest to `digits * 10 ^ exponent`, if it is finite. -/
def nearestFloat? (negative : Bool) (digits : Nat) (exponent : Int) : Option Float :=
  (Binary64.ofDecimal? negative digits exponent).map Float.ofBits

/-- A number as it is written. -/
structure WrittenNumber where
  /-- Whether a minus sign stands in front. -/
  negative : Bool
  /-- The digits before the point. -/
  whole : List Nat
  /-- The digits after the point, if there is one. -/
  fraction : Option (List Nat)
  /-- The exponent, if there is one. -/
  exponent : Option Int
  deriving Repr, DecidableEq

namespace WrittenNumber

/-- The number that digits spell, the first one counting most. -/
def spelled (digits : List Nat) : Nat :=
  digits.foldl (fun value digit => 10 * value + digit) 0

/-- The digits after the point. -/
def decimals (number : WrittenNumber) : List Nat :=
  number.fraction.getD []

/-- The power of ten that is written. -/
def power (number : WrittenNumber) : Int :=
  number.exponent.getD 0

/-- The integer of a number without fraction and exponent.  Minus zero is
none: its sign would be lost. -/
def integer? (number : WrittenNumber) : Option Int :=
  if number.fraction.isSome || number.exponent.isSome then none
  else
    let digits := spelled number.whole
    if number.negative then
      if digits = 0 then none else some (-(digits : Int))
    else some digits

/-- The nearest float, if it is finite. -/
def nearest? (number : WrittenNumber) : Option Float :=
  nearestFloat? number.negative (spelled (number.whole ++ number.decimals))
    (number.power - (number.decimals.length : Int))

end WrittenNumber

end FuzzyGrid
