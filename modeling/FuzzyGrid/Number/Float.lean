import FuzzyGrid.Number.Scalar
import FuzzyGrid.Number.Layout

/-!
# Floats as scalars

Models run on binary64 floats.  Sums start from negative zero, which is
neutral for every float, and two floats are identical when their bits agree
after zero has been added, which turns negative zero into zero.  Of the outcomes
that a sort may have where floats do not compare, giving up is the one taken.
-/

namespace FuzzyGrid

/-- A word as sixteen lower-case hexadecimal digits. -/
def hexWord (word : UInt64) : String :=
  let digits := Nat.toDigits 16 word.toNat
  String.ofList (List.replicate (16 - digits.length) '0' ++ digits)

/-- The bits of a float after zero has been added. -/
def unsignedZeroBits (value : Float) : UInt64 :=
  (value + 0).toBits

instance : Scalar Float where
  sqrt := Float.sqrt
  ofInt := Float.ofInt
  emptySum := Float.ofBits 0x8000000000000000
  lt left right := decide (left < right)
  le left right := decide (left ≤ right)
  eq left right := left == right
  identical left right := unsignedZeroBits left == unsignedZeroBits right
  code value := "#" ++ hexWord (unsignedZeroBits value)
  plainText value := NumberFormat.plain.wordText value.toBits
  cellText value := NumberFormat.cell.wordText value.toBits
  unordered? _ _ := none

end FuzzyGrid
