/-!
# Binary64 words

The finite numbers of the 64-bit binary format, taken apart into a significand
and a power of two, and the nearest word to a decimal.  All arithmetic is on
natural numbers and exact.
-/

namespace FuzzyGrid.Binary64

/-- A non-negative number `significand * 2 ^ exponent`. -/
structure Magnitude where
  significand : Nat
  exponent : Int
  deriving Repr, DecidableEq

/-- The sign bit of a word, its sixty-third. -/
def signBit : Nat :=
  0x8000000000000000

/-- The leading bit of a significand, its fifty-second, which a word leaves
out. -/
def leadingBit : Nat :=
  0x10000000000000

/-- The number of exponents that a word can hold. -/
def exponentCount : Nat :=
  0x800

def isNegative (word : UInt64) : Bool :=
  decide (signBit ≤ word.toNat)

def exponentField (word : UInt64) : Nat :=
  word.toNat / leadingBit % exponentCount

def fractionField (word : UInt64) : Nat :=
  word.toNat % leadingBit

/-- The magnitude of a finite word.  An exponent field of zero stands for the
least exponent without the leading bit. -/
def magnitude (word : UInt64) : Magnitude :=
  if exponentField word = 0 then ⟨fractionField word, -1074⟩
  else ⟨leadingBit + fractionField word, (exponentField word : Int) - 1075⟩

/-- Whether the next number below a word's magnitude is nearer than the next
number above it, as it is at a power of two. -/
def isNarrowBelow (word : UInt64) : Bool :=
  fractionField word == 0 && decide (1 < exponentField word)

/-- The quotient rounded to the nearest natural number, a half to the even
neighbour. -/
def roundedQuotient (dividend divisor : Nat) : Nat :=
  let quotient := dividend / divisor
  let twice := 2 * (dividend % divisor)
  if twice < divisor then quotient
  else if divisor < twice then quotient + 1
  else quotient + quotient % 2

/-- The positive factor that brings a quotient up to a scale. -/
def scaleUp (base : Nat) (exponent : Int) : Nat :=
  Nat.pow base exponent.toNat

/-- The positive factor that brings a quotient down to a scale. -/
def scaleDown (base : Nat) (exponent : Int) : Nat :=
  Nat.pow base (-exponent).toNat

/-- The exponent at which a positive quotient has a significand of fifty-three
bits, or the least exponent there is. -/
def leadingExponent (dividend divisor : Nat) : Int :=
  let guess : Int := (Nat.log2 dividend : Int) - (Nat.log2 divisor : Int) - 52
  let short :=
    dividend * scaleDown 2 guess < leadingBit * (divisor * scaleUp 2 guess)
  max (-1074) (if short then guess - 1 else guess)

/-- The bits of the positive word nearest to a positive quotient, if that is
finite. -/
def nearestQuotient? (dividend divisor : Nat) : Option Nat :=
  let exponent := leadingExponent dividend divisor
  let significand :=
    roundedQuotient (dividend * scaleDown 2 exponent) (divisor * scaleUp 2 exponent)
  let bits := (exponent + 1074).toNat * leadingBit + significand
  if bits < (exponentCount - 1) * leadingBit then some bits else none

/-- The bits of the positive word nearest to `digits * 10 ^ exponent`, if that
is finite.  Exponents beyond every finite number are decided without forming
the power. -/
def nearestDecimal? (digits : Nat) (exponent : Int) : Option Nat :=
  if digits = 0 then some 0
  else if 400 < exponent then none
  else if exponent + (Nat.log2 digits : Int) < -400 then some 0
  else
    nearestQuotient? (digits * scaleUp 10 exponent) (scaleDown 10 exponent)

/-- The word of a signed decimal, if it is finite.  Zero keeps its sign. -/
def ofDecimal? (negative : Bool) (digits : Nat) (exponent : Int) :
    Option UInt64 :=
  (nearestDecimal? digits exponent).map fun bits =>
    UInt64.ofNat (if negative then signBit + bits else bits)

end FuzzyGrid.Binary64
