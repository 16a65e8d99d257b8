import FuzzyGrid.Proofs.Number.Ascending
import FuzzyGrid.Proofs.Number.Mean
import FuzzyGrid.Proofs.Fuzzy.Layers

/-!
# Fuzzy set operations on the values of one place

What the operations come to in exact arithmetic: the least and the greatest
value, the mean and the weighted mean, and the mean of the first or of the last
values in ascending order.
-/

namespace FuzzyGrid

open Grid (foldValues weighValues)

variable {K : Type} [ExactNumber K]

namespace Grid

private theorem foldl_add (start : K) (values : List K) :
    values.foldl (fun x y => x + y) start = start + values.sum := by
  induction values generalizing start with
  | nil => simp
  | cons next rest induction =>
      rw [List.foldl_cons, induction, List.sum_cons, add_assoc]

theorem foldValues_add (values : List K) :
    foldValues (fun x y => x + y) values = values.sum := by
  cases values with
  | nil => rfl
  | cons first rest => exact foldl_add first rest

theorem weighValues_eq (weights values : List K) :
    weighValues weights values = (List.zipWith (· * ·) values weights).sum := by
  cases weights with
  | nil => cases values <;> rfl
  | cons weight others =>
      cases values with
      | nil => rfl
      | cons first rest =>
          have products := foldl_add (first * weight)
            ((rest.zip others).map fun pair => pair.1 * pair.2)
          rw [List.foldl_map] at products
          rw [List.zipWith_cons_cons, List.sum_cons, ← List.map_uncurry_zip_eq_zipWith]
          exact products

end Grid

namespace ListOperation

variable (range : FuzzyRange K) (values : List K)

theorem combine_fuzzyAnd :
    fuzzyAnd.combine range values = foldValues min values := by
  rw [combine, Scalar.lesser_eq]

theorem combine_fuzzyOr :
    fuzzyOr.combine range values = foldValues max values := by
  rw [combine, Scalar.greater_eq]

theorem combine_fuzzyUnion :
    fuzzyUnion.combine range values = values.sum / values.length := by
  rw [combine, Grid.foldValues_add, Scalar.ofNat_eq_cast]

theorem combine_fuzzyWeightedUnion (weights : List K) :
    (fuzzyWeightedUnion weights).combine range values =
      (List.zipWith (· * ·) values weights).sum / weights.sum := by
  rw [combine, Grid.weighValues_eq, Scalar.total_eq_sum]

theorem combine_falsest (count : Nat) :
    (fuzzySelectedUnion .falsest count).combine range values =
      ((Ascending.sort Scalar.lt values).take count).sum / count := by
  rw [combine, selectedMean, Scalar.arrange_id_eq_sort, Scalar.total_eq_sum,
    Scalar.ofNat_eq_cast]

theorem combine_truest (count : Nat) :
    (fuzzySelectedUnion .truest count).combine range values =
      ((Ascending.sort Scalar.lt values).drop (values.length - count)).sum /
        count := by
  rw [combine, selectedMean, Scalar.arrange_id_eq_sort, Scalar.total_eq_sum,
    Scalar.ofNat_eq_cast, Ascending.length_sort]

/-! ## Enough layers -/

theorem takes_fuzzyWeightedUnion {count : Nat} {weights : List K}
    (some : 0 < count) (length : weights.length = count)
    (nonzero : weights.sum ≠ 0) : (fuzzyWeightedUnion weights).Takes count := by
  refine ⟨rfl, some, ?_⟩
  intro _ same
  cases same
  have isZero : (zero : K) = 0 := Int.cast_zero
  refine ⟨length, Bool.eq_false_iff.mpr (mt Scalar.eq_iff.mp ?_)⟩
  rwa [Scalar.total_eq_sum, isZero]

theorem takes_fuzzySelectedUnion (selection : Selection) {considered count : Nat}
    (positive : 1 ≤ considered) (enough : considered ≤ count) :
    (fuzzySelectedUnion (α := K) selection considered).Takes count :=
  .of_unweighted rfl (max_le enough (positive.trans enough)) rfl

end ListOperation

end FuzzyGrid
