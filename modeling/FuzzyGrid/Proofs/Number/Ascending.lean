import Mathlib.Data.List.Sort
import FuzzyGrid.Proofs.Number.Search

/-!
# Exact numbers in ascending order

Sorting exact numbers gives the only ascending list of them.  So the order in
which they are given does not count, and a reflection turns the sorted list
round.  Raising numbers can change their order in any way, and still it raises
the number at every place of the sorted list.  Entries can also be sorted by a
number of theirs, and then those of one number stay in their given order.

Entries whose keys are numbers are always arranged in this way: only keys that
are not numbers leave an arrangement open.
-/

namespace FuzzyGrid

namespace Scalar

variable {α β : Type} [Scalar α]

/-- Numbers order the entries that have them as keys. -/
theorem settles_of_numbers [TotallyOrdered α] {key : β → α} {entries : List β}
    (numbers : ∀ entry ∈ entries, IsNumber (key entry)) :
    settles key entries = true := by
  rw [settles, Bool.or_eq_true]
  right
  simp only [Ascending.orders, List.all_eq_true, Bool.and_eq_true, Bool.or_eq_true,
    Bool.not_eq_true', Bool.and_eq_false_iff]
  intro first isFirst second isSecond
  have comparing := Comparable.lt_iff (numbers first isFirst) (numbers second isSecond)
  constructor
  · by_cases before : below key first second = true
    · have notAfter := mt le_of_lt (comparing.mp before)
      exact .inr (Bool.eq_false_iff.mpr notAfter)
    · exact .inl (Bool.eq_false_iff.mpr before)
  · intro third isThird
    by_contra apart
    simp only [not_or, Bool.not_eq_false] at apart
    obtain ⟨⟨before, notAbove⟩, notBelow⟩ := apart
    have third_le := le_of_not_lt (numbers third isThird) (numbers first isFirst) notAbove
    have le_third := le_of_not_lt (numbers second isSecond) (numbers third isThird)
        notBelow
    exact comparing.mp before (TotallyOrdered.le_trans le_third third_le)

/-- Numbers are arranged in ascending order. -/
theorem arrange_of_numbers [TotallyOrdered α] {values : List α}
    (numbers : ∀ value ∈ values, IsNumber value) :
    arrange id values = Ascending.sort lt values := by
  have settled : settles id values = true := settles_of_numbers numbers
  exact arrange_of_settles settled

/-- Exact numbers are always arranged. -/
@[simp] theorem arrange?_eq_sort {K : Type} [ExactNumber K] (key : β → K)
    (entries : List β) :
    arrange? key entries = some (Ascending.sort (below key) entries) :=
  arrange?_of_settles (settles_of_numbers fun _ _ => Scalar.eq_iff.mpr rfl)

theorem arrange_eq_sort {K : Type} [ExactNumber K] (key : β → K) (entries : List β) :
    arrange key entries = Ascending.sort (below key) entries :=
  arrange_of_settles (settles_of_numbers fun _ _ => Scalar.eq_iff.mpr rfl)

theorem arrange_id_eq_sort {K : Type} [ExactNumber K] (values : List K) :
    arrange id values = Ascending.sort lt values :=
  arrange_eq_sort id values

end Scalar

namespace Ascending

open List (Forall₂)

variable {K : Type} [ExactNumber K]

/-! ## Entries by a number -/

section

variable {β : Type} (key : β → K)

theorem insert_eq_orderedInsert (entry : β) (entries : List β) :
    insert (fun first second => Scalar.lt (key first) (key second)) entry entries =
      entries.orderedInsert (key · ≤ key ·) entry := by
  induction entries with
  | nil => rfl
  | cons next rest induction =>
      rw [insert, List.orderedInsert, induction]
      by_cases below : key next < key entry
      · rw [if_pos (Scalar.lt_iff.mpr below), if_neg (not_le.mpr below)]
      · rw [if_neg (mt Scalar.lt_iff.mp below), if_pos (not_lt.mp below)]

theorem sort_eq_insertionSort (entries : List β) :
    sort (fun first second => Scalar.lt (key first) (key second)) entries =
      entries.insertionSort (key · ≤ key ·) := by
  induction entries with
  | nil => rfl
  | cons entry rest induction =>
      rw [sort, insert_eq_orderedInsert, induction, List.insertionSort_cons]

theorem pairwise_sort_by (entries : List β) :
    (sort (fun first second => Scalar.lt (key first) (key second)) entries).Pairwise
      (key · ≤ key ·) := by
  have total : Std.Total (α := β) (key · ≤ key ·) := ⟨fun _ _ => le_total _ _⟩
  have trans : IsTrans β (key · ≤ key ·) := ⟨fun _ _ _ => le_trans⟩
  rw [sort_eq_insertionSort]
  exact List.pairwise_insertionSort _ _

/-- Entries that are in order stay where they are. -/
theorem sort_of_pairwise {entries : List β} (sorted : entries.Pairwise (key · ≤ key ·)) :
    sort (fun first second => Scalar.lt (key first) (key second)) entries =
      entries := by
  rw [sort_eq_insertionSort]
  exact List.Pairwise.insertionSort_eq sorted

end

/-! ## Lists of numbers -/

theorem pairwise_sort (entries : List K) :
    (sort Scalar.lt entries).Pairwise (· ≤ ·) :=
  pairwise_sort_by id entries

/-- There is one ascending list of given numbers. -/
theorem eq_sort {ascending entries : List K}
    (sorted : ascending.Pairwise (· ≤ ·)) (same : ascending.Perm entries) :
    ascending = sort Scalar.lt entries :=
  (same.trans (sort_perm _ entries).symm).eq_of_pairwise' sorted
    (pairwise_sort entries)

theorem sort_eq_of_perm {first second : List K} (same : first.Perm second) :
    sort Scalar.lt first = sort Scalar.lt second :=
  eq_sort (pairwise_sort first) ((sort_perm _ first).trans same)

theorem sort_reflect (ends : K) (entries : List K) :
    sort Scalar.lt (entries.map fun entry => ends - entry) =
      ((sort Scalar.lt entries).map fun entry => ends - entry).reverse := by
  symm
  apply eq_sort
  · rw [List.pairwise_reverse, List.pairwise_map]
    exact (pairwise_sort entries).imp fun atMost => sub_le_sub_left atMost ends
  · exact (List.reverse_perm _).trans ((sort_perm _ entries).map _)

/-- The least number comes first. -/
theorem head?_sort (entries : List K) :
    (sort Scalar.lt entries).head? = entries.min? := by
  have same := sort_perm Scalar.lt entries
  have ascending := pairwise_sort entries
  cases sorted : sort Scalar.lt entries with
  | nil =>
      rw [sorted] at same
      rw [same.symm.eq_nil]
      rfl
  | cons least rest =>
      rw [sorted] at same ascending
      refine (List.min?_eq_some_iff.mpr ⟨same.subset List.mem_cons_self, ?_⟩).symm
      intro entry member
      rcases List.mem_cons.mp (same.symm.subset member) with rfl | later
      · exact le_refl _
      · exact (List.pairwise_cons.mp ascending).1 entry later

/-! ## Raised numbers -/

theorem insert_of_le {entry : K} {entries : List K}
    (least : ∀ other ∈ entries, entry ≤ other) :
    insert Scalar.lt entry entries = entry :: entries := by
  cases entries with
  | nil => rfl
  | cons next rest =>
      have notBelow := not_lt.mpr (least next List.mem_cons_self)
      rw [insert, if_neg (mt Scalar.lt_iff.mp notBelow)]

/-- Putting a greater number into a greater ascending list. -/
theorem insert_mono {lower upper : List K} (below : Forall₂ (· ≤ ·) lower upper)
    (lowerSorted : lower.Pairwise (· ≤ ·)) (upperSorted : upper.Pairwise (· ≤ ·))
    {entry other : K} (atMost : entry ≤ other) :
    Forall₂ (· ≤ ·) (insert Scalar.lt entry lower)
      (insert Scalar.lt other upper) := by
  induction below generalizing entry other with
  | nil => exact .cons atMost .nil
  | @cons next above lower upper step rest induction =>
      have ⟨lowerLeast, lowerRest⟩ := List.pairwise_cons.mp lowerSorted
      have ⟨upperLeast, upperRest⟩ := List.pairwise_cons.mp upperSorted
      -- Where only one of the two numbers comes in front, the head of the other
      -- list is what is put into its own tail.
      have lowerHead := insert_of_le lowerLeast
      have upperHead := insert_of_le upperLeast
      rw [insert, insert]
      by_cases nextBelow : next < entry
      · rw [if_pos (Scalar.lt_iff.mpr nextBelow)]
        by_cases aboveBelow : above < other
        · rw [if_pos (Scalar.lt_iff.mpr aboveBelow)]
          exact .cons step (induction lowerRest upperRest atMost)
        · rw [if_neg (mt Scalar.lt_iff.mp aboveBelow), ← upperHead]
          exact .cons (nextBelow.le.trans atMost)
            (induction lowerRest upperRest (atMost.trans (not_lt.mp aboveBelow)))
      · rw [if_neg (mt Scalar.lt_iff.mp nextBelow)]
        have entryFirst := not_lt.mp nextBelow
        by_cases aboveBelow : above < other
        · rw [if_pos (Scalar.lt_iff.mpr aboveBelow), ← lowerHead]
          exact .cons (entryFirst.trans step)
            (induction lowerRest upperRest (step.trans aboveBelow.le))
        · rw [if_neg (mt Scalar.lt_iff.mp aboveBelow)]
          exact .cons atMost (.cons step rest)

/-- What stands at a place of the sorted list rises with the numbers. -/
theorem sort_mono {lower upper : List K} (below : Forall₂ (· ≤ ·) lower upper) :
    Forall₂ (· ≤ ·) (sort Scalar.lt lower) (sort Scalar.lt upper) := by
  induction below with
  | nil => exact .nil
  | cons atMost _ induction =>
      exact insert_mono induction (pairwise_sort _) (pairwise_sort _) atMost

end Ascending

end FuzzyGrid
