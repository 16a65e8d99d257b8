import Mathlib
import FuzzyGrid.Number.Float
import FuzzyGrid.Proofs.Number.Search

/-!
# Machine numbers

Binary64 floats keep what is asked of scalars.  A float that is a number has a
key, made of its sign, exponent and mantissa, and floats compare as their keys
do.  The zeros have one key, and numbers of one key agree in all their bits
once zero has been added.  So floats that count as identical are those that are
equal, even where several integers become one float.
-/

namespace FuzzyGrid

/-- Totally ordered scalars of which those are identical that are equal, and to
which every integer can be converted. -/
class Discerning (α : Type) [Scalar α] : Prop extends TotallyOrdered α where
  eq_iff {left right : α} :
    Scalar.eq left right = true ↔
      Scalar.le left right = true ∧ Scalar.le right left = true
  identical_iff {left right : α} (isLeft : Scalar.IsNumber left)
    (isRight : Scalar.IsNumber right) :
    Scalar.identical left right = true ↔ Scalar.eq left right = true
  isNumber_ofInt (value : Int) : Scalar.IsNumber (Scalar.ofInt value : α)

instance {K : Type} [ExactNumber K] : Discerning K where
  eq_iff := by
    simp only [Scalar.eq_iff, Scalar.le_iff]
    exact le_antisymm_iff
  identical_iff _ _ := Iff.rfl
  isNumber_ofInt _ := Scalar.eq_iff.mpr rfl

instance {K : Type} [ExactNumber K] : Discerning (Extended K) where
  eq_iff {left right} := by
    cases left with
    | undefined => exact iff_of_false Bool.false_ne_true fun both => nomatch both.1
    | number left =>
        cases right with
        | undefined => exact iff_of_false Bool.false_ne_true fun both => nomatch both.1
        | number right => exact Discerning.eq_iff (α := K)
  identical_iff _ _ := Iff.rfl
  isNumber_ofInt _ := Scalar.eq_iff.mpr rfl

namespace Scalar

variable {α : Type} [Scalar α] [Discerning α] {first second third : α}

theorem eq_symm (same : eq first second = true) : eq second first = true :=
  Discerning.eq_iff.mpr (Discerning.eq_iff.mp same).symm

theorem eq_trans (same : eq first second = true) (next : eq second third = true) :
    eq first third = true := by
  obtain ⟨atMost, atLeast⟩ := Discerning.eq_iff.mp same
  obtain ⟨nextAtMost, nextAtLeast⟩ := Discerning.eq_iff.mp next
  exact Discerning.eq_iff.mpr ⟨TotallyOrdered.le_trans atMost nextAtMost,
    TotallyOrdered.le_trans nextAtLeast atLeast⟩

end Scalar

namespace Machine

open Float.Model (Format UnpackedFloat)
open Float.Model.UnpackedFloat

/-! ## The order of unpacked floats -/

/-- The place of a float in the order of numbers: below zero, zero or above it,
finite or not, then the exponent, then the mantissa. -/
def key : UnpackedFloat → Int ×ₗ Int ×ₗ Int
  | .infinity .negative => toLex (-2, toLex (0, 0))
  | .finite .negative mantissa exponent _ => toLex (-1, toLex (-exponent, -mantissa))
  | .zero _ | .notANumber => toLex (0, toLex (0, 0))
  | .finite .positive mantissa exponent _ => toLex (1, toLex (exponent, mantissa))
  | .infinity .positive => toLex (2, toLex (0, 0))

theorem compare_neg (left right : Int) :
    compare (-left) (-right) = (compare left right).swap := by
  cases order : compare left right with
  | lt => exact Int.compare_eq_gt.mpr (neg_lt_neg (Int.compare_eq_lt.mp order))
  | eq => exact Int.compare_eq_eq.mpr (congrArg Neg.neg (Int.compare_eq_eq.mp order))
  | gt => exact Int.compare_eq_lt.mpr (neg_lt_neg (Int.compare_eq_gt.mp order))

theorem compare_natCast (left right : Nat) :
    compare (left : Int) (right : Int) = compare left right := by
  cases order : compare left right with
  | lt => exact Int.compare_eq_lt.mpr (Int.ofNat_lt.mpr (Nat.compare_eq_lt.mp order))
  | eq => exact Int.compare_eq_eq.mpr (congrArg _ (Nat.compare_eq_eq.mp order))
  | gt => exact Int.compare_eq_gt.mpr (Int.ofNat_lt.mpr (Nat.compare_eq_gt.mp order))

theorem compare_toLex (first second third fourth fifth sixth : Int) :
    compare (toLex (first, toLex (second, third)))
        (toLex (fourth, toLex (fifth, sixth))) =
      (compare first fourth).then
        ((compare second fifth).then (compare third sixth)) := by
  simp only [Prod.Lex.compare_def, compareLex, compareOn, ofLex_toLex]

theorem compare_undefined {left right : UnpackedFloat}
    (undefined : left.isNaN = true ∨ right.isNaN = true) :
    left.compare right = none := by
  rcases undefined with isLeft | isRight
  · cases left with
    | notANumber => rfl
    | _ => cases isLeft
  · cases right with
    | notANumber => cases left <;> rfl
    | _ => cases isRight

/-- Floats that are numbers compare as their keys do. -/
theorem compare_key {left right : UnpackedFloat} (isLeft : left.isNaN = false)
    (isRight : right.isNaN = false) :
    left.compare right = some (compare (key left) (key right)) := by
  cases left with
  | notANumber => cases isLeft
  | infinity sign =>
      cases right with
      | notANumber => cases isRight
      | infinity other => cases sign <;> cases other <;> rfl
      | zero other => cases sign <;> rfl
      | finite other => cases sign <;> cases other <;> rfl
  | zero sign =>
      cases right with
      | notANumber => cases isRight
      | infinity other => cases other <;> rfl
      | zero other => rfl
      | finite other => cases other <;> rfl
  | finite sign mantissa exponent =>
      cases right with
      | notANumber => cases isRight
      | infinity other => cases sign <;> cases other <;> rfl
      | zero other => cases sign <;> rfl
      | finite other count power =>
          -- Two floats of one sign compare by exponent and mantissa, which those
          -- below zero do the other way round.
          cases sign with
          | negative =>
              cases other with
              | positive => rfl
              | negative =>
                  simp only [key, compare_toLex, compare_neg, compare_natCast]
                  rw [UnpackedFloat.compare, Ordering.swap_then]
                  rfl
          | positive =>
              cases other with
              | negative => rfl
              | positive =>
                  simp only [key, compare_toLex, compare_natCast]
                  rfl

/-! ## The sign of zero -/

/-- The float that compares alike and is no negative zero. -/
def unsigned : UnpackedFloat → UnpackedFloat
  | .zero _ => .zero .positive
  | value => value

theorem add_zero (value : UnpackedFloat) :
    UnpackedFloat.add .binary64 value (.zero .positive) = unsigned value := by
  cases value with
  | zero sign => cases sign <;> rfl
  | _ => rfl

theorem key_unsigned (value : UnpackedFloat) : key (unsigned value) = key value := by
  cases value with
  | _ => rfl

theorem unsigned_eq_of_key {left right : UnpackedFloat} (isLeft : left.isNaN = false)
    (isRight : right.isNaN = false) (same : key left = key right) :
    unsigned left = unsigned right := by
  cases left with
  | notANumber => cases isLeft
  | infinity sign =>
      cases right with
      | notANumber => cases isRight
      | infinity other => cases sign <;> cases other <;> first | rfl | cases same
      | zero other => cases sign <;> cases same
      | finite other => cases sign <;> cases other <;> cases same
  | zero sign =>
      cases right with
      | notANumber => cases isRight
      | infinity other => cases other <;> cases same
      | zero other => rfl
      | finite other => cases other <;> cases same
  | finite sign mantissa exponent =>
      cases right with
      | notANumber => cases isRight
      | infinity other => cases sign <;> cases other <;> cases same
      | zero other => cases sign <;> cases same
      | finite other => cases sign <;> cases other <;> simp_all [key, unsigned]

/-! ## Comparing floats -/

/-- A float taken apart. -/
def parts (value : Float) : UnpackedFloat :=
  value.toModel.unpack

theorem le_eq (left right : Float) :
    Scalar.le left right = (parts left).le (parts right) := by
  have model : Float.le left right = (parts left).le (parts right) := Bool.decide_coe _
  exact (Bool.decide_coe _).trans model

theorem lt_eq (left right : Float) :
    Scalar.lt left right = (parts left).lt (parts right) := by
  have model : Float.lt left right = (parts left).lt (parts right) := Bool.decide_coe _
  exact (Bool.decide_coe _).trans model

theorem eq_eq (left right : Float) :
    Scalar.eq left right = (parts left).beq (parts right) :=
  rfl

theorem isNumber_iff {value : Float} :
    Scalar.IsNumber value ↔ (parts value).isNaN = false := by
  rw [Scalar.IsNumber, eq_eq, UnpackedFloat.beq]
  cases undefined : (parts value).isNaN with
  | false =>
      rw [compare_key undefined undefined, compare_eq_iff_eq.mpr rfl]
      exact iff_of_true rfl rfl
  | true =>
      rw [compare_undefined (.inl undefined)]
      exact iff_of_false Bool.false_ne_true Bool.noConfusion

/-- What is asked of the order of two floats is asked of their keys, and no
float passes that is not a number. -/
theorem any_compare_iff {test : Ordering → Bool} {left right : Float} :
    ((parts left).compare (parts right)).any test = true ↔
      Scalar.IsNumber left ∧ Scalar.IsNumber right ∧
        test (compare (key (parts left)) (key (parts right))) = true := by
  rw [isNumber_iff, isNumber_iff]
  cases isLeft : (parts left).isNaN with
  | true => simp [compare_undefined (.inl isLeft)]
  | false =>
      cases isRight : (parts right).isNaN with
      | true => simp [compare_undefined (.inr isRight)]
      | false => simp [compare_key isLeft isRight]

theorem le_iff {left right : Float} :
    Scalar.le left right = true ↔
      Scalar.IsNumber left ∧ Scalar.IsNumber right ∧
        key (parts left) ≤ key (parts right) := by
  rw [le_eq, UnpackedFloat.le, any_compare_iff]
  simp only [Ordering.isLE_iff_ne_gt, compare_gt_iff_gt, not_lt]

theorem lt_iff {left right : Float} :
    Scalar.lt left right = true ↔
      Scalar.IsNumber left ∧ Scalar.IsNumber right ∧
        key (parts left) < key (parts right) := by
  have test : (parts left).lt (parts right) =
      ((parts left).compare (parts right)).any (· == .lt) := by
    rw [UnpackedFloat.lt]
    cases (parts left).compare (parts right) <;> rfl
  rw [lt_eq, test, any_compare_iff]
  simp only [beq_iff_eq, compare_lt_iff_lt]

theorem eq_iff {left right : Float} :
    Scalar.eq left right = true ↔
      Scalar.IsNumber left ∧ Scalar.IsNumber right ∧
        key (parts left) = key (parts right) := by
  have test : (parts left).beq (parts right) =
      ((parts left).compare (parts right)).any (· == .eq) := by
    rw [UnpackedFloat.beq]
    cases (parts left).compare (parts right) <;> rfl
  rw [eq_eq, test, any_compare_iff]
  simp only [beq_iff_eq, compare_eq_iff_eq]

instance : TotallyOrdered Float where
  numbers_of_lt below := by
    obtain ⟨isLeft, isRight, _⟩ := lt_iff.mp below
    exact ⟨isLeft, isRight⟩
  le_total isLeft isRight := by
    rw [le_iff, le_iff]
    rcases le_total (key (parts _)) (key (parts _)) with below | above
    · exact .inl ⟨isLeft, isRight, below⟩
    · exact .inr ⟨isRight, isLeft, above⟩
  lt_iff isLeft isRight := by
    simp only [lt_iff, le_iff, isLeft, isRight, true_and, not_le]
  numbers_of_le atMost := by
    obtain ⟨isLeft, isRight, _⟩ := le_iff.mp atMost
    exact ⟨isLeft, isRight⟩
  le_trans atMost next := by
    obtain ⟨isFirst, _, below⟩ := le_iff.mp atMost
    obtain ⟨_, isThird, above⟩ := le_iff.mp next
    exact le_iff.mpr ⟨isFirst, isThird, below.trans above⟩

theorem unpack_pack_unsigned (value : Float) :
    unpack .binary64 (pack .binary64 (unsigned (parts value))) =
      unsigned (parts value) := by
  have kept : unpack .binary64 (pack .binary64 (parts value)) = parts value :=
    congrArg (unpack .binary64) (pack_unpack_of_valid value.toModel.valid)
  cases taken : parts value with
  | zero sign =>
      rw [unsigned]
      rfl
  | _ =>
      rw [taken] at kept
      exact kept

/-- The bits that are compared are those of the float without the sign of
zero. -/
theorem identical_iff {left right : Float} :
    Scalar.identical left right = true ↔
      unsigned (parts left) = unsigned (parts right) := by
  have bits : ∀ value : Float, unsignedZeroBits value =
      UInt64.ofBitVec (pack .binary64 (unsigned (parts value))) := by
    intro value
    rw [← add_zero]
    rfl
  have test : Scalar.identical left right =
      (unsignedZeroBits left == unsignedZeroBits right) := rfl
  rw [test, beq_iff_eq, bits, bits]
  constructor
  · intro same
    rw [← unpack_pack_unsigned left, ← unpack_pack_unsigned right]
    exact congrArg (unpack .binary64) (congrArg UInt64.toBitVec same)
  · intro same
    rw [same]

/-! ## Integers as floats -/

theorem isNaN_roundWithAccuracy (sign : Sign) (mantissa : Nat) (exponent : Int)
    (accuracy : Accuracy) :
    (roundWithAccuracy .binary64 sign mantissa exponent accuracy).isNaN = false := by
  simp only [roundWithAccuracy]
  split
  · rfl
  · rfl

theorem isNaN_normalize (mantissa exponent : Int) (sign : Sign) :
    (UnpackedFloat.normalize .binary64 mantissa exponent sign).isNaN = false := by
  rw [UnpackedFloat.normalize]
  split
  · exact isNaN_roundWithAccuracy _ _ _ _
  · rfl
  · exact isNaN_roundWithAccuracy _ _ _ _

theorem isNaN_mul_finite {value : UnpackedFloat} (defined : value.isNaN = false)
    (sign : Sign) (mantissa : Nat) (exponent : Int) (positive : 0 < mantissa) :
    (UnpackedFloat.mul .binary64 value
      (.finite sign mantissa exponent positive)).isNaN = false := by
  cases value with
  | notANumber => cases defined
  | infinity => rfl
  | zero => rfl
  | finite => exact isNaN_roundWithAccuracy _ _ _ _

theorem isNaN_neg (value : UnpackedFloat) : value.neg.isNaN = value.isNaN := by
  cases value with
  | _ => rfl

theorem isNaN_ofScientific (count : Nat) :
    (ofScientific .binary64 count 0).isNaN = false := by
  rw [ofScientific]
  split
  · rfl
  · rw [if_neg (by decide), if_neg (by simp), if_pos le_rfl]
    exact isNaN_mul_finite rfl _ _ _ _

theorem isNaN_unpack {word : BitVec Format.binary64.numBits}
    (notLast : unpackExponent word ≠ -1#11) :
    (unpack .binary64 word).isNaN = false := by
  simp only [unpack]
  rw [if_neg notLast]
  split
  · split
    · rfl
    · rfl
  · rfl

/-- Packing makes no undefined float of a defined one. -/
theorem isNaN_unpack_pack {value : UnpackedFloat} (defined : value.isNaN = false) :
    (unpack .binary64 (pack .binary64 value)).isNaN = false := by
  cases value with
  | notANumber => cases defined
  | infinity sign => cases sign <;> rfl
  | zero sign => cases sign <;> rfl
  | finite sign mantissa exponent positive =>
      simp only [pack]
      split
      · cases sign <;> rfl
      · rename_i inside
        split
        · apply isNaN_unpack
          rw [unpackExponent_packComponents]
          intro last
          have biased := congrArg BitVec.toNat last
          rw [BitVec.toNat_ofNat, Nat.mod_eq_of_lt (by omega)] at biased
          exact inside (biased ▸ le_rfl)
        · apply isNaN_unpack
          rw [unpackExponent_packComponents]
          decide

theorem isNumber_ofNat (count : Nat) : Scalar.IsNumber (Float.ofNat count) := by
  rw [isNumber_iff]
  -- Short numbers are multiplied by one, long ones are rounded at once.
  by_cases short : count < 2 ^ 53 ∧ 0 ≤ 22
  · have product : Float.ofNat count =
        count.toUInt64.toFloat * Float.ofBits 0x3FF0000000000000 := by
      rw [Float.ofNat]
      exact dif_pos short
    rw [product]
    apply isNaN_unpack_pack
    exact isNaN_mul_finite (isNaN_unpack_pack (isNaN_normalize _ _ _)) _ _ _ _
  · have rounded : Float.ofNat count = .ofModel (.ofScientific count 0) := by
      rw [Float.ofNat]
      exact dif_neg short
    rw [rounded]
    exact isNaN_unpack_pack (isNaN_ofScientific count)

theorem isNumber_ofInt (value : Int) : Scalar.IsNumber (Float.ofInt value) := by
  cases value with
  | ofNat count => exact isNumber_ofNat count
  | negSucc count =>
      have defined := isNumber_iff.mp (isNumber_ofNat (count + 1))
      apply isNumber_iff.mpr
      apply isNaN_unpack_pack
      rw [← defined]
      exact isNaN_neg _

/-- Equal floats are identical, zeros of either sign among them, and only they
are. -/
instance : Discerning Float where
  eq_iff {left right} := by
    rw [eq_iff, le_iff, le_iff, le_antisymm_iff]
    tauto
  identical_iff isLeft isRight := by
    rw [identical_iff, eq_iff]
    constructor
    · intro same
      refine ⟨isLeft, isRight, ?_⟩
      rw [← key_unsigned, same, key_unsigned]
    · rintro ⟨_, _, same⟩
      exact unsigned_eq_of_key (isNumber_iff.mp isLeft) (isNumber_iff.mp isRight) same
  isNumber_ofInt := isNumber_ofInt

/-- Two integers may well become one float. -/
example : Scalar.identical (Scalar.ofInt 9007199254740992 : Float)
    (Scalar.ofInt 9007199254740993) = true := by
  decide +kernel

end Machine

end FuzzyGrid
