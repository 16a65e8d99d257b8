import Mathlib.Data.List.DropRight
import FuzzyGrid.Proofs.Number.Comparable
import FuzzyGrid.Proofs.Number.Extremes

/-!
# Searching among scalars that may be undefined

The search for the least scalar keeps what it has found as long as that is at
most the next scalar.  A scalar that is not a number is at most nothing, and
nothing is at most it.  So the search starts anew at each of them, and what it
comes to is decided by the numbers after the last one.
-/

namespace FuzzyGrid

/-- Scalars of which only numbers compare, and these in one order. -/
class TotallyOrdered (α : Type) [Scalar α] : Prop extends Comparable α where
  numbers_of_le {left right : α} (atMost : Scalar.le left right = true) :
    Scalar.IsNumber left ∧ Scalar.IsNumber right
  le_trans {first second third : α} (atMost : Scalar.le first second = true)
    (next : Scalar.le second third = true) : Scalar.le first third = true

instance {K : Type} [ExactNumber K] : TotallyOrdered K where
  numbers_of_le _ := ⟨Scalar.eq_iff.mpr rfl, Scalar.eq_iff.mpr rfl⟩
  le_trans atMost next := by
    rw [Scalar.le_iff] at atMost next ⊢
    exact le_trans atMost next

instance {K : Type} [ExactNumber K] : TotallyOrdered (Extended K) where
  numbers_of_le {left right} atMost := by
    rw [Extended.isNumber_iff, Extended.isNumber_iff]
    cases left with
    | number left =>
        cases right with
        | number right => simp
        | undefined => cases atMost
    | undefined => cases atMost
  le_trans {first second third} atMost next := by
    cases first with
    | undefined => cases atMost
    | number first =>
        cases second with
        | undefined => cases atMost
        | number second =>
            cases third with
            | undefined => cases next
            | number third =>
                exact TotallyOrdered.le_trans (α := K) atMost next

namespace Scalar

variable {α : Type} [Scalar α]

/-! ## The numbers at the end -/

/-- The numbers at the end of a list, after the last scalar that is none. -/
def numbersAtEnd (values : List α) : List α :=
  values.rtakeWhile fun value => eq value value

variable {values before after : List α} {gap last : α}

theorem numbersAtEnd_concat (isNumber : IsNumber last) :
    numbersAtEnd (values ++ [last]) = numbersAtEnd values ++ [last] :=
  List.rtakeWhile_concat_pos _ _ _ isNumber

theorem numbersAtEnd_concat_gap (notNumber : ¬IsNumber gap) :
    numbersAtEnd (values ++ [gap]) = [] :=
  List.rtakeWhile_concat_neg _ _ _ notNumber

theorem numbersAtEnd_append_cons (notNumber : ¬IsNumber gap)
    (numbers : ∀ value ∈ after, IsNumber value) :
    numbersAtEnd (before ++ gap :: after) = after := by
  induction after using List.reverseRecOn with
  | nil => exact numbersAtEnd_concat_gap notNumber
  | append_singleton after last induction =>
      have ⟨earlier, isNumber⟩ := List.forall_mem_append.mp numbers
      rw [← List.cons_append, ← List.append_assoc,
        numbersAtEnd_concat (isNumber last List.mem_cons_self), induction earlier]

/-- All scalars are numbers, or the numbers at the end come after one that is
not. -/
theorem numbersAtEnd_eq_or (values : List α) :
    numbersAtEnd values = values ∨
      ∃ before gap, ¬IsNumber gap ∧ values = before ++ gap :: numbersAtEnd values := by
  induction values using List.reverseRecOn with
  | nil => exact .inl rfl
  | append_singleton values last induction =>
      by_cases isNumber : IsNumber last
      · rw [numbersAtEnd_concat isNumber]
        rcases induction with all | ⟨before, gap, notNumber, split⟩
        · exact .inl (by rw [all])
        · refine .inr ⟨before, gap, notNumber, ?_⟩
          rw [← List.cons_append, ← List.append_assoc, ← split]
      · rw [numbersAtEnd_concat_gap isNumber]
        exact .inr ⟨values, last, isNumber, rfl⟩

/-! ## What is found -/

/-- A scalar that is the least of some numbers, or is not a number as there are
none. -/
inductive LeastOf (numbers : List α) (least : α) : Prop where
  | undefined (none_ : numbers = []) (notNumber : ¬IsNumber least)
  | number (member : least ∈ numbers)
      (atMost : ∀ value ∈ numbers, le least value = true)

theorem least?_concat (values : List α) (last : α) :
    least? (values ++ [last]) =
      match least? values with
      | some least => if le least last then some least else some last
      | none => some last := by
  rw [least?, List.foldl_append]
  rfl

variable [TotallyOrdered α]

theorem lt_of_lt_of_le {first second third : α} (below : lt first second = true)
    (atMost : le second third = true) : lt first third = true := by
  obtain ⟨isFirst, isSecond⟩ := Comparable.numbers_of_lt below
  have isThird := (TotallyOrdered.numbers_of_le atMost).2
  rw [Comparable.lt_iff isFirst isSecond] at below
  rw [Comparable.lt_iff isFirst isThird]
  exact fun back => below (TotallyOrdered.le_trans atMost back)

theorem LeastOf.singleton (isNumber : IsNumber last) : LeastOf [last] last :=
  .number List.mem_cons_self (by simpa using le_self isNumber)

/-- A number that comes in is the least one if what was found is not at most
it. -/
theorem LeastOf.concat {numbers : List α} {best : α} (found : LeastOf numbers best)
    (isNumber : IsNumber last) :
    LeastOf (numbers ++ [last]) (if le best last then best else last) := by
  split
  · rename_i atMost
    cases found with
    | undefined _ notNumber =>
        exact absurd (TotallyOrdered.numbers_of_le atMost).1 notNumber
    | number member least =>
        refine .number (List.mem_append_left _ member) ?_
        exact List.forall_mem_append.mpr ⟨least, by simpa using atMost⟩
  · rename_i notAtMost
    cases found with
    | undefined none_ _ =>
        rw [none_]
        exact .singleton isNumber
    | number member least =>
        have isBest := (TotallyOrdered.numbers_of_le (least _ member)).1
        have back := (Comparable.le_total isBest isNumber).resolve_left notAtMost
        refine .number (List.mem_append_right _ List.mem_cons_self) ?_
        refine List.forall_mem_append.mpr ⟨?_, by simpa using le_self isNumber⟩
        intro value isValue
        exact TotallyOrdered.le_trans back (least value isValue)

/-- The search finds the least of the numbers at the end. -/
theorem leastOf_numbersAtEnd {least : α} (found : least? values = some least) :
    LeastOf (numbersAtEnd values) least := by
  induction values using List.reverseRecOn generalizing least with
  | nil => cases found
  | append_singleton values last induction =>
      rw [least?_concat] at found
      by_cases isNumber : IsNumber last
      · rw [numbersAtEnd_concat isNumber]
        cases searched : least? values with
        | none =>
            rw [searched] at found
            cases found
            rw [least?_eq_none_iff.mp searched]
            exact .singleton isNumber
        | some best =>
            rw [searched] at found
            dsimp only at found
            rw [← apply_ite some, Option.some.injEq] at found
            rw [← found]
            exact (induction searched).concat isNumber
      · -- Nothing is at most what is not a number.
        have notAtMost : ∀ best, ¬le best last = true :=
          fun best atMost => isNumber (TotallyOrdered.numbers_of_le atMost).2
        have same : last = least := by
          cases searched : least? values <;> simpa [searched, notAtMost] using found
        exact .undefined (numbersAtEnd_concat_gap isNumber) (same ▸ isNumber)

/-- A bound that the least value has is one for all numbers at the end. -/
theorem lt_least?_iff {bound : α} :
    (least? values).any (lt bound) = true ↔
      numbersAtEnd values ≠ [] ∧
        ∀ value ∈ numbersAtEnd values, lt bound value = true := by
  cases found : least? values with
  | none =>
      rw [least?_eq_none_iff.mp found]
      simp [numbersAtEnd]
  | some least =>
      rw [Option.any_some]
      cases leastOf_numbersAtEnd found with
      | undefined none_ notNumber =>
          have notAbove : ¬lt bound least = true :=
            fun below => notNumber (Comparable.numbers_of_lt below).2
          exact iff_of_false notAbove fun above => above.1 none_
      | number member atMost =>
          constructor
          · intro below
            exact ⟨List.ne_nil_of_mem member,
              fun value isValue => lt_of_lt_of_le below (atMost value isValue)⟩
          · intro above
            exact above.2 least member

end Scalar

end FuzzyGrid
