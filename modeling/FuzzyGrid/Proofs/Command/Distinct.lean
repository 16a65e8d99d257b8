import FuzzyGrid.Command.Check
import FuzzyGrid.Proofs.Command.Arguments
import FuzzyGrid.Proofs.Number.Machine

/-!
# Repeated entries

The entries of a list argument have to differ.  Every entry is remembered under
a key: a number under the code of its bits, a zero without its sign, anything
else under its text.  Codes of machine numbers agree exactly where the numbers
are equal, so that a list of numbers passes the check exactly when no two of
them are equal, however they were written.
-/

namespace FuzzyGrid

/-! ## Hexadecimal words -/

/-- The number that a hexadecimal digit stands for. -/
def hexDigitValue (digit : Char) : Nat :=
  (List.range 16).findIdx fun value => value.digitChar == digit

/-- The number that hexadecimal digits spell. -/
def hexValue (digits : List Char) : Nat :=
  digits.foldl (fun value digit => 16 * value + hexDigitValue digit) 0

theorem hexDigitValue_digitChar {value : Nat} (isDigit : value < 16) :
    hexDigitValue value.digitChar = value := by
  interval_cases value <;> rfl

theorem hexValue_concat (digits : List Char) (digit : Char) :
    hexValue (digits ++ [digit]) = 16 * hexValue digits + hexDigitValue digit := by
  simp [hexValue]

theorem hexValue_toDigits (number : Nat) :
    hexValue (Nat.toDigits 16 number) = number := by
  induction number using Nat.strongRecOn with
  | ind number induction =>
      rcases Nat.lt_or_ge number 16 with short | long
      · rw [Nat.toDigits_of_lt_base short]
        simpa [hexValue] using hexDigitValue_digitChar short
      · have isDigit : number % 16 < 16 := Nat.mod_lt _ (by decide)
        rw [Nat.toDigits_of_base_le (by decide) long, hexValue_concat,
          induction (number / 16) (by omega), hexDigitValue_digitChar isDigit]
        omega

/-- Zeros in front do not count. -/
theorem hexValue_zeros (count : Nat) (digits : List Char) :
    hexValue (List.replicate count '0' ++ digits) = hexValue digits := by
  induction count with
  | zero => rfl
  | succ count induction =>
      rw [List.replicate_succ, List.cons_append, ← induction]
      rfl

/-- The digits of a word spell it, so that they belong to no other word. -/
theorem hexWord_injective : Function.Injective hexWord := by
  have spells : ∀ word, hexValue (hexWord word).toList = word.toNat := by
    intro word
    rw [hexWord, String.toList_ofList, hexValue_zeros, hexValue_toDigits]
  intro left right same
  apply UInt64.toNat_inj.mp
  rw [← spells left, ← spells right, same]

/-! ## Keys -/

/-- Scalars that have one code exactly where they count as one number. -/
class Coded (α : Type) [Scalar α] : Prop where
  code_eq_iff {left right : α} :
    Scalar.code left = Scalar.code right ↔ Scalar.identical left right = true

instance : Coded Float where
  code_eq_iff {left right} := by
    have codes : Scalar.code left = Scalar.code right ↔
        hexWord (unsignedZeroBits left) = hexWord (unsignedZeroBits right) :=
      String.append_right_inj "#"
    rw [codes, hexWord_injective.eq_iff]
    exact beq_iff_eq.symm

namespace ArgValue

variable {α : Type} [Scalar α]

/-- What an entry of a list is remembered by. -/
def key (item : ArgValue α) : String :=
  match item.scalar? with
  | some value => Scalar.code value
  | none => item.display

/-- The first entry of a list whose key is known already, the key of every
entry becoming known in its turn. -/
def firstKnown? (known : List String) : List (ArgValue α) → Option (ArgValue α)
  | [] => none
  | item :: rest =>
    if known.contains item.key then some item
    else firstKnown? (item.key :: known) rest

theorem key_number (numeral : Numeral α) :
    key (number numeral) = Scalar.code numeral.value :=
  rfl

/-- Entries count as the same where they have one key. -/
theorem sameEntry_iff_key [Coded α] {first second : ArgValue α} :
    sameEntry first second = true ↔ first.key = second.key := by
  unfold sameEntry key
  split
  · rename_i isLeft isRight
    rw [isLeft, isRight]
    exact Coded.code_eq_iff.symm
  · rename_i isLeft isRight
    rw [isLeft, isRight, beq_iff_eq]
  · rename_i isLeft isRight
    rw [isLeft, isRight, beq_iff_eq]
  · rename_i isLeft isRight
    rw [isLeft, isRight, beq_iff_eq]

/-- Comparing with all entries before comes to looking the key up among the
keys of these. -/
theorem firstRepeat?_eq_firstKnown? [Coded α] (seen items : List (ArgValue α)) :
    firstRepeat? seen items = firstKnown? (seen.map key) items := by
  induction items generalizing seen with
  | nil => rfl
  | cons item rest induction =>
      have known : (seen.any fun earlier => sameEntry earlier item) =
          (seen.map key).contains item.key := by
        rw [Bool.eq_iff_iff]
        simp [sameEntry_iff_key]
      rw [firstRepeat?, firstKnown?, known, induction, List.map_cons]

/-- The search ends at an entry with a known key, all those before having new
keys. -/
theorem firstKnown?_eq_some_iff {known : List String} {items : List (ArgValue α)}
    {item : ArgValue α} :
    firstKnown? known items = some item ↔
      ∃ before after, items = before ++ item :: after ∧
        (∀ earlier ∈ before, earlier.key ∉ known) ∧ (before.map key).Nodup ∧
        (item.key ∈ known ∨ item.key ∈ before.map key) := by
  induction items generalizing known with
  | nil => simp [firstKnown?]
  | cons next rest induction =>
      rw [firstKnown?]
      by_cases old : next.key ∈ known
      · rw [if_pos (List.contains_iff_mem.mpr old)]
        constructor
        · intro same
          cases same
          exact ⟨[], rest, rfl, by simp, List.nodup_nil, .inl old⟩
        · rintro ⟨before, after, split, new, _, _⟩
          cases before with
          | nil =>
              cases split
              rfl
          | cons first before =>
              cases split
              exact absurd old (new next List.mem_cons_self)
      · rw [if_neg (mt List.contains_iff_mem.mp old), induction]
        constructor
        · rintro ⟨before, after, rfl, new, distinct, repeats⟩
          refine ⟨next :: before, after, rfl, ?_, ?_, ?_⟩
          · refine List.forall_mem_cons.mpr ⟨old, fun earlier member => ?_⟩
            exact fun isKnown => new earlier member (List.mem_cons_of_mem _ isKnown)
          · refine List.nodup_cons.mpr ⟨?_, distinct⟩
            rintro member
            obtain ⟨earlier, isEarlier, same⟩ := List.mem_map.mp member
            exact new earlier isEarlier (same ▸ List.mem_cons_self)
          · rw [List.map_cons, List.mem_cons]
            rw [List.mem_cons] at repeats
            tauto
        · rintro ⟨before, after, split, new, distinct, repeats⟩
          cases before with
          | nil =>
              cases split
              exact absurd repeats (by simp [old])
          | cons first before =>
              cases split
              have ⟨fresh, distinctRest⟩ := List.nodup_cons.mp distinct
              refine ⟨before, after, rfl, ?_, distinctRest, ?_⟩
              · intro earlier member isKnown
                rcases List.mem_cons.mp isKnown with same | isKnown
                · exact fresh (same ▸ List.mem_map_of_mem member)
                · exact new earlier (List.mem_cons_of_mem _ member) isKnown
              · rw [List.map_cons, List.mem_cons] at repeats
                rw [List.mem_cons]
                tauto

end ArgValue

/-! ## Lists of numbers -/

namespace Numeral

variable {α : Type} [Scalar α]

/-- Two written numbers that are equal. -/
def Same (first second : Numeral α) : Prop :=
  Scalar.eq first.value second.value = true

instance (first second : Numeral α) : Decidable (first.Same second) :=
  inferInstanceAs (Decidable (_ = _))

theorem isNumber_value [Discerning α] {numeral : Numeral α}
    (defined : ∀ value, numeral = .real value → Scalar.IsNumber value) :
    Scalar.IsNumber numeral.value := by
  cases numeral with
  | whole value => exact Discerning.isNumber_ofInt value
  | real value => exact defined value rfl

/-- Numbers are remembered by one key exactly where they are equal. -/
theorem key_eq_iff [Discerning α] [Coded α] {first second : Numeral α}
    (isFirst : Scalar.IsNumber first.value) (isSecond : Scalar.IsNumber second.value) :
    (ArgValue.number first).key = (ArgValue.number second).key ↔ first.Same second := by
  rw [ArgValue.key_number, ArgValue.key_number, Coded.code_eq_iff,
    Discerning.identical_iff isFirst isSecond, Same]

theorem nodup_keys_iff [Discerning α] [Coded α] {numerals : List (Numeral α)}
    (defined : ∀ numeral ∈ numerals, Scalar.IsNumber numeral.value) :
    ((numerals.map ArgValue.number).map ArgValue.key).Nodup ↔
      numerals.Pairwise fun first second => ¬first.Same second := by
  rw [List.map_map, List.Nodup, List.pairwise_map]
  refine List.Pairwise.iff_of_mem ?_
  intro first second isFirst isSecond
  exact not_congr (key_eq_iff (defined first isFirst) (defined second isSecond))

end Numeral

namespace Fault

variable {α : Type} [Scalar α] [Coded α] {origin : Origin} {arg : String}
  {items : List (ArgValue α)}

theorem checkDistinct_eq_ok_iff_keys :
    checkDistinct origin arg items = .ok () ↔ (items.map ArgValue.key).Nodup := by
  rw [checkDistinct_eq_ok_iff, List.Nodup, List.pairwise_map]
  simp only [ArgValue.sameEntry_iff_key, ne_eq]

theorem checkDistinct_eq_error_iff {error : CommandError α} :
    checkDistinct origin arg items = .error error ↔
      ∃ before item after, items = before ++ item :: after ∧
        (before.map ArgValue.key).Nodup ∧ item.key ∈ before.map ArgValue.key ∧
        error = ⟨.duplicateValue arg item, origin⟩ := by
  have found : ∀ item, ArgValue.firstRepeat? [] items = some item ↔
      ∃ before after, items = before ++ item :: after ∧
        (before.map ArgValue.key).Nodup ∧ item.key ∈ before.map ArgValue.key := by
    intro item
    rw [ArgValue.firstRepeat?_eq_firstKnown?, ArgValue.firstKnown?_eq_some_iff]
    simp
  rw [checkDistinct]
  constructor
  · intro fails
    cases search : ArgValue.firstRepeat? [] items with
    | none =>
        rw [search] at fails
        cases fails
    | some item =>
        rw [search] at fails
        obtain ⟨before, after, split, distinct, repeats⟩ := (found item).mp search
        exact ⟨before, item, after, split, distinct, repeats,
          (Except.error.inj fails).symm⟩
  · rintro ⟨before, item, after, split, distinct, repeats, rfl⟩
    rw [(found item).mpr ⟨before, after, split, distinct, repeats⟩]

end Fault

namespace Command

/-- Whether the numbers of an argument differ is decided by their values.  A list
of numbers, or a single number, passes exactly when no two entries are equal as
floats: integers are converted first, and zeros of either sign are equal.
Otherwise the fault names the first entry that equals an earlier one, with its
text as it was written.  The keys that decide this are those of the values. -/
theorem requireDistinct_numbers (command : Command Float) {arg : String}
    {value : ArgValue Float} {entries : List (Numeral Float)}
    (held : command.get? arg = some value)
    (numeric : value.items = entries.map ArgValue.number)
    (defined : ∀ number, Numeral.real number ∈ entries → Scalar.IsNumber number) :
    (command.requireDistinct arg = .ok () ↔
      entries.Pairwise fun earlier later => ¬earlier.Same later) ∧
    (∀ error, command.requireDistinct arg = .error error ↔
      ∃ before repeated after, entries = before ++ repeated :: after ∧
        (before.Pairwise fun earlier later => ¬earlier.Same later) ∧
        (∃ earlier ∈ before, earlier.Same repeated) ∧
        error = ⟨.duplicateValue arg (.number repeated), command.origin⟩ ∧
        error.fault.message =
          arg ++ " contains duplicate value " ++ repeated.text) ∧
    ∀ first ∈ entries, ∀ second ∈ entries,
      Scalar.code first.value = Scalar.code second.value ↔ first.Same second := by
  have numbers : ∀ entry ∈ entries, Scalar.IsNumber entry.value := by
    intro entry member
    refine Numeral.isNumber_value ?_
    rintro number rfl
    exact defined number member
  have checked : command.requireDistinct arg =
      Fault.checkDistinct command.origin arg (entries.map ArgValue.number) := by
    rw [requireDistinct, held, ← numeric]
  rw [checked]
  refine ⟨?_, ?_, ?_⟩
  · rw [Fault.checkDistinct_eq_ok_iff_keys, Numeral.nodup_keys_iff numbers]
  · intro error
    rw [Fault.checkDistinct_eq_error_iff]
    constructor
    · rintro ⟨passed, item, rest, split, distinct, repeats, rfl⟩
      obtain ⟨before, later, rfl, rfl, rest⟩ := List.map_eq_append_iff.mp split
      obtain ⟨repeated, after, rfl, rfl, _⟩ := List.map_eq_cons_iff.mp rest
      have ⟨beforeNumbers, laterNumbers⟩ := List.forall_mem_append.mp numbers
      have isNumber := laterNumbers repeated List.mem_cons_self
      refine ⟨before, repeated, after, rfl, ?_, ?_, rfl, rfl⟩
      · exact (Numeral.nodup_keys_iff beforeNumbers).mp distinct
      · rw [List.map_map, List.mem_map] at repeats
        obtain ⟨earlier, member, same⟩ := repeats
        exact ⟨earlier, member,
          (Numeral.key_eq_iff (beforeNumbers earlier member) isNumber).mp same⟩
    · rintro ⟨before, repeated, after, rfl, distinct, ⟨earlier, member, same⟩, rfl, _⟩
      have ⟨beforeNumbers, laterNumbers⟩ := List.forall_mem_append.mp numbers
      have isNumber := laterNumbers repeated List.mem_cons_self
      refine ⟨before.map ArgValue.number, .number repeated,
        after.map ArgValue.number, ?_, ?_, ?_, rfl⟩
      · rw [List.map_append, List.map_cons]
      · exact (Numeral.nodup_keys_iff beforeNumbers).mpr distinct
      · rw [← (Numeral.key_eq_iff (beforeNumbers earlier member) isNumber).mpr same]
        exact List.mem_map_of_mem (List.mem_map_of_mem member)
  · intro first isFirst second isSecond
    exact Numeral.key_eq_iff (numbers first isFirst) (numbers second isSecond)

end Command

namespace Sample

/-- Raw values among which a whole zero follows a negative one. -/
def rawValues : List (Numeral Float) :=
  [.whole 9007199254740992, .real 0.5, .real (-0.0), .whole 0, .whole 9007199254740993]

/-- A curve through points of which two lie at zero. -/
def doubled : Command Float :=
  ⟨"Curve", "CvtToFuzzyCurve",
    ⟨[("RawValues", .list (rawValues.map .number))], by simp⟩,
    ⟨"curve.mpt", 1, "Curve = CvtToFuzzyCurve(RawValues = [..])"⟩⟩

/-- The whole zero is the first to be found again, before the large numbers that
become one float. -/
theorem requireDistinct_numbers_doubled :
    doubled.get? "RawValues" = some (.list (rawValues.map .number)) ∧
      (∀ number, Numeral.real number ∈ rawValues → Scalar.IsNumber number) ∧
      doubled.requireDistinct "RawValues" =
        .error ⟨.duplicateValue "RawValues" (.number (.whole 0)), doubled.origin⟩ ∧
      Scalar.code (Numeral.whole 9007199254740992 : Numeral Float).value =
        Scalar.code (Numeral.whole 9007199254740993 : Numeral Float).value := by
  have defined : ∀ number, Numeral.real number ∈ rawValues →
      Scalar.IsNumber number := by
    intro number member
    simp only [rawValues, List.mem_cons, reduceCtorEq, Numeral.real.injEq,
      List.not_mem_nil, false_or, or_false] at member
    rcases member with rfl | rfl
    · exact (by decide +kernel : Scalar.eq (0.5 : Float) 0.5 = true)
    · exact (by decide +kernel : Scalar.eq (-0.0 : Float) (-0.0) = true)
  have held : doubled.get? "RawValues" = some (.list (rawValues.map .number)) := rfl
  obtain ⟨_, fails, codes⟩ := Command.requireDistinct_numbers doubled held rfl defined
  refine ⟨held, defined, (fails _).mpr ⟨rawValues.take 3, .whole 0, rawValues.drop 4,
    rfl, ?_, ⟨.real (-0.0), by simp [rawValues], ?_⟩, rfl, rfl⟩, ?_⟩
  · decide +kernel
  · decide +kernel
  · refine (codes _ (by simp [rawValues]) _ (by simp [rawValues])).mpr ?_
    decide +kernel

end Sample

end FuzzyGrid
