import FuzzyGrid.Number.WrittenNumber

/-!
# Stepwise reading of numbers

The digits of a number are gathered into a count of sixty-four bits, the count
is turned into the nearest float, and that is scaled by powers of ten.  Every
step rounds for itself, so that the result can miss the nearest float, which
the reading by `WrittenNumber.nearest?` gives.
-/

namespace FuzzyGrid.WrittenNumber

/-- Gathered digits, standing for `count * 10 ^ exponent`. -/
structure Gathered where
  count : Nat
  exponent : Int
  deriving Repr, DecidableEq

/-- A count with one more digit, if sixty-four bits hold it. -/
def append? (count digit : Nat) : Option Nat :=
  let longer := 10 * count + digit
  if longer < UInt64.size then some longer else none

/-- Gather digits before the point.  The first one that the count cannot hold
and all after it only shift the point. -/
def gatherWhole (count : Nat) : List Nat → Gathered
  | [] => ⟨count, 0⟩
  | digit :: rest =>
    match append? count digit with
    | some longer => gatherWhole longer rest
    | none => ⟨count, (rest.length : Int) + 1⟩

/-- Gather digits after the point.  The first one that the count cannot hold
and all after it are left out. -/
def gatherDecimals (start : Gathered) : List Nat → Gathered
  | [] => start
  | digit :: rest =>
    match append? start.count digit with
    | some longer => gatherDecimals ⟨longer, start.exponent - 1⟩ rest
    | none => start

/-- The digits of a number, gathered, and scaled by its written exponent. -/
def gathered (number : WrittenNumber) : Gathered :=
  let all := gatherDecimals (gatherWhole 0 number.whole) number.decimals
  ⟨all.count, all.exponent + number.power⟩

/-- The float nearest to `digits * 10 ^ places`, or infinity. -/
def scaled (digits places : Nat) : Float :=
  (nearestFloat? false digits places).getD (1 / 0)

/-- The exponent of the greatest power of ten that is a finite float. -/
def greatestPower : Nat :=
  308

/-- A float divided by a power of ten, the greatest one first as often as it
takes.  Zero stays as it is. -/
def shrink (value : Float) (places : Nat) : Float :=
  if places ≤ greatestPower then value / scaled 1 places
  else if value == 0 then value
  else shrink (value / scaled 1 greatestPower) (places - greatestPower)
termination_by places
decreasing_by simp_all [greatestPower]; omega

/-- A float times a power of ten, if that is finite.  Zero stays as it is. -/
def grow? (value : Float) (places : Nat) : Option Float :=
  if value == 0 then some value
  else
    let product := value * scaled 1 places
    if product.isFinite then some product else none

/-- The float that stepwise reading gives, if it is finite. -/
def stepwise? (number : WrittenNumber) : Option Float :=
  let digits := number.gathered
  let value := scaled digits.count 0
  let magnitude? :=
    if digits.exponent < 0 then some (shrink value digits.exponent.natAbs)
    else grow? value digits.exponent.toNat
  magnitude?.map fun magnitude => if number.negative then -magnitude else magnitude

end FuzzyGrid.WrittenNumber
