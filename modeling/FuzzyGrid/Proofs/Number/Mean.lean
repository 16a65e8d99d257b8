import Mathlib.Algebra.Order.BigOperators.Group.List
import Mathlib.Tactic.Ring
import FuzzyGrid.Proofs.Number.Exact

/-!
# Sums and means of exact numbers

A reflection turns a mean into its mirror image.  The mean of the first numbers
of an ascending list rises with their count, as every number that comes in is
at least the mean so far.
-/

namespace FuzzyGrid

variable {K : Type} [ExactNumber K]

namespace Scalar

theorem total_eq_sum (values : List K) : total values = values.sum :=
  List.sum_eq_foldl.symm

theorem ofNat_eq_cast (count : Nat) : (ofNat count : K) = count :=
  Int.cast_natCast count

theorem sum_reflect (ends : K) (values : List K) :
    (values.map fun value => ends - value).sum =
      values.length * ends - values.sum := by
  induction values with
  | nil => simp
  | cons value rest induction =>
      rw [List.map_cons, List.sum_cons, induction, List.sum_cons,
        List.length_cons, Nat.cast_succ]
      ring

theorem mean_reflect (ends : K) {values : List K} {count : Nat}
    (length : values.length = count) (positive : 0 < count) :
    (values.map fun value => ends - value).sum / count =
      ends - values.sum / count := by
  have nonzero : (count : K) ≠ 0 := Nat.cast_ne_zero.mpr positive.ne'
  rw [sum_reflect, length, sub_div, mul_div_cancel_left₀ _ nonzero]

/-! ## The first numbers of an ascending list -/

theorem sum_take_le {ascending : List K} (sorted : ascending.Pairwise (· ≤ ·))
    {count : Nat} (more : count < ascending.length) :
    (ascending.take count).sum ≤ count * ascending[count] := by
  have atMost : ∀ value ∈ ascending.take count, value ≤ ascending[count] := by
    rw [← List.take_append_drop count ascending, List.pairwise_append] at sorted
    intro value member
    apply sorted.2.2 value member
    rw [List.drop_eq_getElem_cons more]
    exact List.mem_cons_self
  have bound := List.sum_le_card_nsmul _ _ atMost
  rwa [List.length_take_of_le more.le, nsmul_eq_mul] at bound

theorem mean_take_le_succ {ascending : List K}
    (sorted : ascending.Pairwise (· ≤ ·)) {count : Nat} (positive : 0 < count)
    (more : count < ascending.length) :
    (ascending.take count).sum / count ≤
      (ascending.take (count + 1)).sum / (count + 1 : Nat) := by
  have bound := sum_take_le sorted more
  rw [← List.take_concat_get' ascending count more, List.sum_append,
    List.sum_singleton,
    div_le_div_iff₀ (Nat.cast_pos.mpr positive) (Nat.cast_pos.mpr count.succ_pos)]
  calc (ascending.take count).sum * (count + 1 : Nat)
      = (ascending.take count).sum * count + (ascending.take count).sum := by
        rw [Nat.cast_succ, mul_add, mul_one]
    _ ≤ (ascending.take count).sum * count + count * ascending[count] :=
        add_le_add_right bound _
    _ = ((ascending.take count).sum + ascending[count]) * count := by
        rw [add_mul, mul_comm (ascending[count])]

/-- The mean of the first numbers of an ascending list rises with their
count. -/
theorem mean_take_mono {ascending : List K}
    (sorted : ascending.Pairwise (· ≤ ·)) {fewer more : Nat}
    (positive : 0 < fewer) (atMost : fewer ≤ more)
    (enough : more ≤ ascending.length) :
    (ascending.take fewer).sum / fewer ≤ (ascending.take more).sum / more := by
  induction more, atMost using Nat.le_induction with
  | base => exact le_refl _
  | succ count atMost induction =>
      have below := induction (Nat.le_of_succ_le enough)
      exact below.trans (mean_take_le_succ sorted
        (Nat.lt_of_lt_of_le positive atMost) enough)

end Scalar

end FuzzyGrid
