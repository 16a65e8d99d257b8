import FuzzyGrid.Ascending
import FuzzyGrid.Proofs.Number.Machine

/-!
# Sorting and searching numbers

What the exact order of numbers gives holds of every total order, that of
machine numbers among them: sorted numbers ascend, the first of them comes
before all others and the last one after them, and folding the choice of the
lesser or the greater of two finds numbers that equal these.
-/

namespace FuzzyGrid

variable {α : Type} [Scalar α]

namespace Ascending

/-- Numbers of which none is below an earlier one. -/
def Ascends (values : List α) : Prop :=
  values.Pairwise fun first second => Scalar.le first second = true

variable [TotallyOrdered α]

theorem ascends_insert {entry : α} {entries : List α} (isNumber : Scalar.IsNumber entry)
    (numbers : ∀ other ∈ entries, Scalar.IsNumber other) (ascends : Ascends entries) :
    Ascends (insert Scalar.lt entry entries) := by
  induction entries with
  | nil => exact List.pairwise_singleton _ _
  | cons next rest induction =>
      have ⟨nextNumber, restNumbers⟩ := List.forall_mem_cons.mp numbers
      have ⟨least, restAscends⟩ := List.pairwise_cons.mp ascends
      rw [insert]
      split
      · rename_i below
        refine List.pairwise_cons.mpr ⟨?_, induction restNumbers restAscends⟩
        intro other member
        rcases List.mem_cons.mp ((insert_perm _ _ _).subset member) with rfl | later
        · exact Scalar.le_of_lt below
        · exact least other later
      · rename_i notBelow
        have atMost := Scalar.le_of_not_lt isNumber nextNumber notBelow
        refine List.pairwise_cons.mpr ⟨?_, ascends⟩
        intro other member
        rcases List.mem_cons.mp member with rfl | later
        · exact atMost
        · exact TotallyOrdered.le_trans atMost (least other later)

theorem ascends_sort {entries : List α}
    (numbers : ∀ entry ∈ entries, Scalar.IsNumber entry) :
    Ascends (sort Scalar.lt entries) := by
  induction entries with
  | nil => exact List.Pairwise.nil
  | cons entry rest induction =>
      have ⟨isNumber, restNumbers⟩ := List.forall_mem_cons.mp numbers
      apply ascends_insert isNumber
      · intro other member
        exact restNumbers other (mem_sort.mp member)
      · exact induction restNumbers

end Ascending

namespace Scalar

open Ascending (Ascends ascends_sort sort sort_perm)

/-- One of some values that comes before each of them. -/
structure ComesFirst (before : α → α → Bool) (values : List α) (value : α) : Prop where
  member : value ∈ values
  before : ∀ other ∈ values, before value other = true

variable {before : α → α → Bool} {values : List α} {value other : α}

omit [Scalar α] in
theorem ComesFirst.perm {others : List α} (first : ComesFirst before values value)
    (same : values.Perm others) : ComesFirst before others value where
  member := same.subset first.member
  before other member := first.before other (same.symm.subset member)

omit [Scalar α] in
theorem ComesFirst.cons {next : α} (self : before next next = true)
    (sorted : (next :: values).Pairwise fun first second => before first second = true) :
    ComesFirst before (next :: values) next where
  member := List.mem_cons_self
  before := List.forall_mem_cons.mpr ⟨self, (List.pairwise_cons.mp sorted).1⟩

omit [Scalar α] in
/-- What comes first after a choice between two comes first before it. -/
theorem ComesFirst.of_choice {first next chosen best : α} {rest : List α}
    (chooses : ComesFirst before [first, next] chosen)
    (found : ComesFirst before (chosen :: rest) best)
    (trans : ∀ {first second third}, before first second = true →
      before second third = true → before first third = true) :
    ComesFirst before (first :: next :: rest) best := by
  have ⟨beforeChosen, beforeRest⟩ := List.forall_mem_cons.mp found.before
  have ⟨chosenFirst, chosenNext⟩ : before chosen first = true ∧
      before chosen next = true := by
    simpa using chooses.before
  refine ⟨?_, ?_⟩
  · rcases List.mem_cons.mp found.member with rfl | later
    · exact List.mem_append_left rest chooses.member
    · exact List.mem_cons_of_mem _ (List.mem_cons_of_mem _ later)
  · refine List.forall_mem_cons.mpr ⟨trans beforeChosen chosenFirst, ?_⟩
    exact List.forall_mem_cons.mpr ⟨trans beforeChosen chosenNext, beforeRest⟩

/-- A choice between two numbers, folded over a list of them, finds one that
comes before all. -/
theorem comesFirst_foldl {choice : α → α → α}
    (chooses : ∀ {left right}, IsNumber left → IsNumber right →
      ComesFirst before [left, right] (choice left right))
    (trans : ∀ {first second third}, before first second = true →
      before second third = true → before first third = true)
    {first : α} {rest : List α} (numbers : ∀ value ∈ first :: rest, IsNumber value) :
    ComesFirst before (first :: rest) (rest.foldl choice first) := by
  induction rest generalizing first with
  | nil =>
      have ⟨isNumber, _⟩ := List.forall_mem_cons.mp numbers
      have self := chooses isNumber isNumber
      have same : choice first first = first := by simpa using self.member
      rw [same] at self
      exact ⟨List.mem_cons_self, by simpa using self.before⟩
  | cons next rest induction =>
      have ⟨isFirst, others⟩ := List.forall_mem_cons.mp numbers
      have ⟨isNext, restNumbers⟩ := List.forall_mem_cons.mp others
      have chosen := chooses isFirst isNext
      have isChosen : IsNumber (choice first next) := by
        rcases List.mem_pair.mp chosen.member with same | same
        · rwa [same]
        · rwa [same]
      rw [List.foldl_cons]
      have found := induction (List.forall_mem_cons.mpr ⟨isChosen, restNumbers⟩)
      exact chosen.of_choice found trans

section

variable [TotallyOrdered α] {left right : α}

/-! ## The lesser and the greater of two -/

theorem lesser_comesFirst (isLeft : IsNumber left) (isRight : IsNumber right) :
    ComesFirst le [left, right] (lesser left right) := by
  rw [lesser, if_pos (show eq left left = true from isLeft)]
  split
  · rename_i below
    refine ⟨by simp, ?_⟩
    simpa using ⟨le_of_lt below, le_self isRight⟩
  · rename_i notBelow
    refine ⟨by simp, ?_⟩
    simpa using ⟨le_self isLeft, le_of_not_lt isLeft isRight notBelow⟩

theorem greater_comesFirst (isLeft : IsNumber left) (isRight : IsNumber right) :
    ComesFirst (fun first second => le second first) [left, right]
      (greater left right) := by
  rw [greater, if_pos (show eq left left = true from isLeft)]
  split
  · rename_i below
    refine ⟨by simp, ?_⟩
    simpa using ⟨le_of_lt below, le_self isRight⟩
  · rename_i notBelow
    refine ⟨by simp, ?_⟩
    simpa using ⟨le_self isLeft, le_of_not_lt isRight isLeft notBelow⟩

/-! ## The ends of sorted numbers -/

variable {first : α} {rest : List α}

theorem headD_sort_comesFirst (numbers : ∀ value ∈ first :: rest, IsNumber value)
    (default : α) :
    ComesFirst le (first :: rest) ((sort lt (first :: rest)).headD default) := by
  have same := sort_perm lt (first :: rest)
  have ascends := ascends_sort numbers
  cases sorted : sort lt (first :: rest) with
  | nil =>
      rw [sorted] at same
      cases same.symm.eq_nil
  | cons least others =>
      rw [sorted] at same ascends
      have isNumber := numbers least (same.subset List.mem_cons_self)
      exact (ComesFirst.cons (le_self isNumber) ascends).perm same

theorem getLastD_sort_comesFirst (numbers : ∀ value ∈ first :: rest, IsNumber value)
    (default : α) :
    ComesFirst (fun first second => le second first) (first :: rest)
      ((sort lt (first :: rest)).getLastD default) := by
  have same := (List.reverse_perm _).trans (sort_perm lt (first :: rest))
  have descends := List.pairwise_reverse.mpr (ascends_sort numbers)
  rw [List.getLastD_eq_getLast?, List.getLast?_eq_head?_reverse]
  cases sorted : (sort lt (first :: rest)).reverse with
  | nil =>
      rw [sorted] at same
      cases same.symm.eq_nil
  | cons greatest others =>
      rw [sorted] at same descends
      have isNumber := numbers greatest (same.subset List.mem_cons_self)
      have self : le greatest greatest = true := le_self isNumber
      exact ComesFirst.perm (.cons self descends) same

end

variable [Discerning α] {first : α} {rest : List α}

/-- The first of sorted numbers is what folding the lesser of two comes to. -/
theorem eq_headD_sort_foldl_lesser
    (numbers : ∀ value ∈ first :: rest, IsNumber value) (default : α) :
    eq ((sort lt (first :: rest)).headD default) (rest.foldl lesser first) = true := by
  have head := headD_sort_comesFirst numbers default
  have found := comesFirst_foldl lesser_comesFirst TotallyOrdered.le_trans numbers
  exact Discerning.eq_iff.mpr
    ⟨head.before _ found.member, found.before _ head.member⟩

theorem eq_getLastD_sort_foldl_greater
    (numbers : ∀ value ∈ first :: rest, IsNumber value) (default : α) :
    eq ((sort lt (first :: rest)).getLastD default) (rest.foldl greater first) =
      true := by
  have last := getLastD_sort_comesFirst numbers default
  have found := comesFirst_foldl greater_comesFirst
    (fun next atMost => TotallyOrdered.le_trans atMost next) numbers
  exact Discerning.eq_iff.mpr
    ⟨found.before _ last.member, last.before _ found.member⟩

end Scalar

end FuzzyGrid
