import Mathlib.Data.String.Basic

/-!
# The order of names

Names are compared code point by code point.  This is the order of their
bytes: the encoding of a code point begins with a byte that grows with its
length, and no encoding begins with another one.
-/

namespace FuzzyGrid

/-- The bytes of a text. -/
def bytesOf (text : String) : List UInt8 :=
  text.toUTF8.data.toList

theorem bytesOf_eq (text : String) :
    bytesOf text = text.toList.flatMap String.utf8EncodeChar := by
  rw [bytesOf, String.toUTF8, ← String.utf8Encode_toList, List.utf8Encode]
  simp

private theorem ofNat_lt_ofNat {low high : Nat} (lowByte : low < 256)
    (highByte : high < 256) :
    UInt8.ofNat low < UInt8.ofNat high ↔ low < high := by
  rw [UInt8.lt_iff_toNat_lt, UInt8.toNat_ofNat', UInt8.toNat_ofNat']
  omega

private theorem ofNat_eq_ofNat {one other : Nat} (oneByte : one < 256)
    (otherByte : other < 256) :
    UInt8.ofNat one = UInt8.ofNat other ↔ one = other := by
  rw [← UInt8.toNat_inj, UInt8.toNat_ofNat', UInt8.toNat_ofNat']
  omega

/-- Of two code points the smaller one has the smaller bytes, whatever follows
them. -/
theorem utf8EncodeChar_lt {low high : Char} (below : low < high)
    (first second : List UInt8) :
    String.utf8EncodeChar low ++ first <
      String.utf8EncodeChar high ++ second := by
  have belowNat : low.val.toNat < high.val.toNat := below
  have bounded : high.val.toNat < 1114112 := by
    have valid := high.valid
    simp only [UInt32.isValidChar, Nat.isValidChar] at valid
    omega
  have twoDigits (value : Nat) : value / 4096 = value / 64 / 64 := by
    rw [Nat.div_div_eq_div_mul]
  have threeDigits (value : Nat) : value / 262144 = value / 64 / 64 / 64 := by
    rw [Nat.div_div_eq_div_mul, Nat.div_div_eq_div_mul]
  unfold String.utf8EncodeChar
  generalize low.val.toNat = one at belowNat
  generalize high.val.toNat = other at belowNat bounded
  dsimp only
  -- Lengths that differ show in the first bytes; with one length the bytes are
  -- compared as digits to the base 64.
  split_ifs <;>
    simp (disch := omega) only [List.cons_append, List.nil_append,
      List.cons_lt_cons_iff, ofNat_lt_ofNat, ofNat_eq_ofNat, twoDigits,
      threeDigits] <;>
    omega

private theorem flatMap_utf8EncodeChar_lt {first second : List Char}
    (below : first < second) :
    first.flatMap String.utf8EncodeChar <
      second.flatMap String.utf8EncodeChar := by
  induction first generalizing second with
  | nil =>
      cases second with
      | nil => cases below
      | cons next rest =>
          rw [List.flatMap_nil, List.flatMap_cons]
          obtain ⟨byte, bytes, encoded⟩ := List.exists_cons_of_ne_nil
            (String.utf8EncodeChar_ne_nil (c := next))
          rw [encoded, List.cons_append]
          exact List.nil_lt_cons _ _
  | cons low rest induction =>
      cases second with
      | nil => cases below
      | cons high others =>
          rw [List.flatMap_cons, List.flatMap_cons]
          rcases List.cons_lt_cons_iff.mp below with lower | ⟨rfl, restBelow⟩
          · exact utf8EncodeChar_lt lower _ _
          · exact List.append_left_lt (induction restBelow)

/-- Names are in the order of their bytes. -/
theorem bytesOf_lt_iff {first second : String} :
    bytesOf first < bytesOf second ↔ first < second := by
  have grows : ∀ {low high : String}, low < high →
      bytesOf low < bytesOf high := by
    intro low high below
    rw [bytesOf_eq, bytesOf_eq]
    exact flatMap_utf8EncodeChar_lt (String.lt_iff_toList_lt.mp below)
  refine ⟨?_, grows⟩
  intro below
  by_contra notBelow
  rcases eq_or_lt_of_le (String.not_lt.mp notBelow) with same | above
  · exact List.lt_irrefl _ (same ▸ below)
  · exact List.lt_asymm below (grows above)

end FuzzyGrid
