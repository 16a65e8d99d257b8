import FuzzyGrid.Number.Binary64

/-!
# Shortest decimals

The decimal with the fewest digits among those that round to a given binary64
word, and of those the nearest.  The decimals that round to a word form an
interval; for one digit, two digits and so on the two neighbours of the number
on that decimal grid are tested against it in exact arithmetic.
-/

namespace FuzzyGrid

/-- The number `digits * 10 ^ exponent`. -/
structure Decimal where
  digits : Nat
  exponent : Int
  deriving Repr, DecidableEq

namespace Binary64

/-- Whether a decimal lies among the numbers that round to a finite positive
word.  The ends are halfway to the neighbouring words, and belong to the
interval exactly when the significand is even. -/
def readsBack (word : UInt64) (decimal : Decimal) : Bool :=
  let size := magnitude word
  let low := 4 * size.significand - (if isNarrowBelow word then 1 else 2)
  let high := 4 * size.significand + 2
  let quarter := size.exponent - 2
  let scaled := decimal.digits * scaleUp 10 decimal.exponent * scaleDown 2 quarter
  let unit := scaleUp 2 quarter * scaleDown 10 decimal.exponent
  if size.significand % 2 = 0 then
    decide (low * unit ≤ scaled) && decide (scaled ≤ high * unit)
  else
    decide (low * unit < scaled) && decide (scaled < high * unit)

/-- An exponent of ten whose power exceeds a positive magnitude, the least such
one. -/
def decimalScale (size : Magnitude) : Int :=
  let binary : Int := (Nat.log2 size.significand : Int) + size.exponent
  let guess := binary * 30103 / 100000 + 1
  let exceeds :=
    size.significand * scaleUp 2 size.exponent * scaleDown 10 guess
      < scaleUp 10 guess * scaleDown 2 size.exponent
  if exceeds then guess else guess + 1

/-- The better of the two neighbours of a word on the grid of the powers
`10 ^ exponent`, if one rounds to the word; halfway the upper one. -/
def onGrid? (word : UInt64) (exponent : Int) : Option Decimal :=
  let size := magnitude word
  let dividend := size.significand * scaleUp 2 size.exponent * scaleDown 10 exponent
  let divisor := scaleUp 10 exponent * scaleDown 2 size.exponent
  let below : Decimal := ⟨dividend / divisor, exponent⟩
  let above : Decimal := ⟨dividend / divisor + 1, exponent⟩
  match readsBack word below, readsBack word above with
  | true, true => some (if 2 * (dividend % divisor) < divisor then below else above)
  | true, false => some below
  | false, true => some above
  | false, false => none

/-- The exact decimal value of a magnitude. -/
def exactDecimal (size : Magnitude) : Decimal :=
  if 0 ≤ size.exponent then ⟨size.significand * scaleUp 2 size.exponent, 0⟩
  else ⟨size.significand * scaleDown 5 size.exponent, size.exponent⟩

/-- The shortest decimal of a finite positive word.  Seventeen digits always
suffice; past them the exact value stands in. -/
def shortestDecimal (word : UInt64) : Decimal :=
  let scale := decimalScale (magnitude word)
  let found := (List.range 17).findSome? fun (index : Nat) =>
    onGrid? word (scale - 1 - (index : Int))
  found.getD (exactDecimal (magnitude word))

end Binary64

end FuzzyGrid
