import FuzzyGrid.Number.Shortest

/-!
# Number layout

How the digits of a number are laid out as text.  A message writes a number
without exponent and without a fraction mark on whole numbers; a printed grid
marks whole numbers with `.0` and writes very large and very small numbers
with an exponent.
-/

namespace FuzzyGrid

/-- The choices of a number format. -/
structure NumberFormat where
  /-- What a whole number ends with. -/
  wholeMark : List Char
  /-- Whether numbers outside `1e-4` to `1e16` are written with an exponent. -/
  exponents : Bool

namespace NumberFormat

/-- Messages: `1`, `0.0000001`, `-0`. -/
def plain : NumberFormat :=
  ⟨[], false⟩

/-- Cells of a printed grid: `1.0`, `1e-7`, `-0.0`. -/
def cell : NumberFormat :=
  ⟨['.', '0'], true⟩

/-- The significant digits of a positive number as text, without trailing
zeros. -/
def significantDigits (digits : Nat) : List Char :=
  ((Nat.toDigits 10 digits).reverse.dropWhile fun digit => digit == '0').reverse

/-- Digits with the decimal point after the first `point` of them, zeros
filling the gap on either side. -/
def positional (format : NumberFormat) (digits : List Char) (point : Int) :
    List Char :=
  if point ≤ 0 then
    '0' :: '.' :: (List.replicate (-point).toNat '0' ++ digits)
  else if digits.length ≤ point.toNat then
    digits ++ List.replicate (point.toNat - digits.length) '0' ++ format.wholeMark
  else
    digits.take point.toNat ++ '.' :: digits.drop point.toNat

/-- One digit before the point, then the power of ten. -/
def exponential (digits : List Char) (point : Int) : List Char :=
  let mantissa :=
    match digits with
    | first :: second :: rest => first :: '.' :: second :: rest
    | short => short
  mantissa ++ 'e' :: (toString (point - 1)).toList

def decimalText (format : NumberFormat) (decimal : Decimal) : List Char :=
  let digits := significantDigits decimal.digits
  let point : Int := ((Nat.toDigits 10 decimal.digits).length : Int) + decimal.exponent
  if format.exponents && (decide (point < -3) || decide (16 < point)) then
    exponential digits point
  else
    format.positional digits point

def wordText (format : NumberFormat) (word : UInt64) : String :=
  let sign := if Binary64.isNegative word then ['-'] else []
  if Binary64.exponentField word = Binary64.exponentCount - 1 then
    if Binary64.fractionField word = 0 then String.ofList (sign ++ ['i', 'n', 'f'])
    else "NaN"
  else if (Binary64.magnitude word).significand = 0 then
    String.ofList (sign ++ '0' :: format.wholeMark)
  else
    String.ofList (sign ++ format.decimalText (Binary64.shortestDecimal word))

end NumberFormat

end FuzzyGrid
