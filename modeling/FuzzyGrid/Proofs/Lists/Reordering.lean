import FuzzyGrid.Proofs.Fuzzy.Values
import FuzzyGrid.Proofs.Grid.Places

/-!
# Layers in another order

In exact arithmetic an operation on a list of layers does not depend on their
order.  What it combines at a place it folds by a function that does not care
for the order, or sorts beforehand, and the tag of its result asks whether some
layer has a float type.  Weights have to go along with their layers.

Names, layers, grids, cells and values are all brought into another order in the
same way, so that what is said of an order is said of items of any kind.
-/

namespace FuzzyGrid

open List (Forall₂)
open Grid (foldValues weighValues)

/-! ## Items and operations in another order -/

/-- Items and weights in another order, each item keeping its weight. -/
structure Alongside {β γ : Type} (items : List β) (weights : List γ)
    (permuted : List β) (others : List γ) : Prop where
  sameItems : permuted.Perm items
  sameWeights : others.Perm weights
  samePairs : (permuted.zip others).Perm (items.zip weights)

namespace Alongside

variable {β γ δ : Type} {items permuted : List β} {weights others : List γ}

theorem symm (alongside : Alongside items weights permuted others) :
    Alongside permuted others items weights :=
  ⟨alongside.sameItems.symm, alongside.sameWeights.symm, alongside.samePairs.symm⟩

theorem map (alongside : Alongside items weights permuted others)
    (function : β → δ) :
    Alongside (items.map function) weights (permuted.map function) others := by
  refine ⟨alongside.sameItems.map _, alongside.sameWeights, ?_⟩
  rw [List.zip_map_left, List.zip_map_left]
  exact alongside.samePairs.map _

private theorem forall₂_zip {related : β → δ → Prop} {values : List δ}
    (all : Forall₂ related items values) (weights : List γ) :
    Forall₂ (fun one other => related one.1 other.1 ∧ one.2 = other.2)
      (items.zip weights) (values.zip weights) := by
  induction all generalizing weights with
  | nil => exact .nil
  | cons head _ induction =>
      cases weights with
      | nil => exact .nil
      | cons weight rest => exact .cons ⟨head, rfl⟩ (induction rest)

/-- Whatever the items stand for can be brought into the other order. -/
theorem exists_moved {related : β → δ → Prop} {values : List δ}
    (alongside : Alongside items weights permuted others)
    (length : weights.length = items.length) (all : Forall₂ related items values) :
    ∃ moved, Forall₂ related permuted moved ∧
      Alongside values weights moved others := by
  obtain ⟨pairs, paired, perm⟩ :=
    List.perm_comp_forall₂ alongside.samePairs (forall₂_zip all weights)
  have enough : others.length = permuted.length := by
    rw [alongside.sameWeights.length_eq, length, alongside.sameItems.length_eq]
  have sameWeights : others = pairs.map Prod.snd := by
    rw [← List.map_snd_zip enough.le, ← List.forall₂_eq_eq_eq,
      List.forall₂_map_left_iff, List.forall₂_map_right_iff]
    exact paired.imp fun _ _ both => both.2
  have moved : Forall₂ related permuted (pairs.map Prod.fst) := by
    rw [← List.map_fst_zip enough.ge, List.forall₂_map_left_iff,
      List.forall₂_map_right_iff]
    exact paired.imp fun _ _ both => both.1
  have sameValues : (pairs.map Prod.fst).Perm values := by
    have perm := perm.map Prod.fst
    rwa [List.map_fst_zip (length.trans all.length_eq).ge] at perm
  refine ⟨pairs.map Prod.fst, moved, sameValues, alongside.sameWeights, ?_⟩
  rwa [sameWeights, List.zip_map', List.map_id']

end Alongside

namespace ListOperation

variable {α : Type}

/-- The operations that weigh their layers. -/
inductive Weighing : (List α → ListOperation α) → Prop where
  | weightedSum : Weighing .weightedSum
  | weightedMean : Weighing .weightedMean
  | fuzzyWeightedUnion : Weighing .fuzzyWeightedUnion

theorem Weighing.weights?_eq {kind : List α → ListOperation α}
    (weighing : Weighing kind) (weights : List α) :
    (kind weights).weights? = some weights := by
  cases weighing <;> rfl

/-- An operation on items, and the same operation on these items in another
order. -/
inductive Reordered {β : Type} (items permuted : List β) :
    ListOperation α → ListOperation α → Prop where
  | unweighted {operation : ListOperation α} (weightless : operation.weights? = none)
      (same : permuted.Perm items) : Reordered items permuted operation operation
  | weighted {kind : List α → ListOperation α} (weighing : Weighing kind)
      {weights others : List α}
      (alongside : Alongside items weights permuted others) :
      Reordered items permuted (kind weights) (kind others)

namespace Reordered

variable {origin : Origin} {β γ : Type} {items permuted : List β}
  {operation other : ListOperation α}

theorem symm (reordered : Reordered items permuted operation other) :
    Reordered permuted items other operation := by
  cases reordered with
  | unweighted weightless same => exact .unweighted weightless same.symm
  | weighted weighing alongside => exact .weighted weighing alongside.symm

theorem perm (reordered : Reordered items permuted operation other) :
    permuted.Perm items := by
  cases reordered with
  | unweighted _ same => exact same
  | weighted _ alongside => exact alongside.sameItems

theorem map (reordered : Reordered items permuted operation other)
    (function : β → γ) :
    Reordered (items.map function) (permuted.map function) operation other := by
  cases reordered with
  | unweighted weightless same => exact .unweighted weightless (same.map function)
  | weighted weighing alongside => exact .weighted weighing (alongside.map function)

theorem exists_moved {related : β → γ → Prop} {values : List γ}
    (reordered : Reordered items permuted operation other)
    (counted : operation.checkCounts origin items.length = .ok ())
    (all : Forall₂ related items values) :
    ∃ moved, Forall₂ related permuted moved ∧
      Reordered values moved operation other := by
  cases reordered with
  | unweighted weightless same =>
      obtain ⟨moved, related, perm⟩ := List.perm_comp_forall₂ same all
      exact ⟨moved, related, .unweighted weightless perm⟩
  | weighted weighing alongside =>
      have length := length_weights_of_checkCounts counted (weighing.weights?_eq _)
      obtain ⟨moved, related, along⟩ := alongside.exists_moved length all
      exact ⟨moved, related, .weighted weighing along⟩

theorem accepted_eq (reordered : Reordered items permuted operation other) :
    other.accepted = operation.accepted := by
  cases reordered with
  | unweighted => rfl
  | weighted weighing => cases weighing <;> rfl

theorem checkCounts_eq (reordered : Reordered items permuted operation other) :
    other.checkCounts origin permuted.length =
      operation.checkCounts origin items.length := by
  cases reordered with
  | unweighted _ same => rw [same.length_eq]
  | weighted weighing alongside =>
      have lengths := alongside.sameWeights.length_eq
      rw [alongside.sameItems.length_eq]
      cases weighing <;> simp only [checkCounts, least, weights?, lengths]

end Reordered

end ListOperation

variable {K : Type} [ExactNumber K]

/-! ## Values in another order -/

namespace Grid

variable {values permuted : List K}

theorem foldValues_perm {function : K → K → K} [Std.Commutative function]
    [Std.Associative function] (same : values.Perm permuted) :
    foldValues function values = foldValues function permuted := by
  induction same with
  | nil => rfl
  | cons _ rest _ => exact rest.foldl_op_eq
  | swap first second rest =>
      have swaps : function second first = function first second :=
        Std.Commutative.comm second first
      rw [foldValues, foldValues, List.foldl_cons, List.foldl_cons, swaps]
  | trans _ _ one other => exact one.trans other

theorem weighValues_alongside {weights others : List K}
    (alongside : Alongside values weights permuted others) :
    weighValues others permuted = weighValues weights values := by
  rw [weighValues_eq, weighValues_eq, ← List.map_uncurry_zip_eq_zipWith,
    ← List.map_uncurry_zip_eq_zipWith]
  exact (alongside.samePairs.map _).sum_eq

end Grid

namespace ListOperation.Reordered

section

variable {origin : Origin} {β : Type} {items permuted : List β}
  {operation other : ListOperation K}

private theorem total_perm {weights others : List K} (same : others.Perm weights) :
    Scalar.total others = Scalar.total weights := by
  rw [Scalar.total_eq_sum, Scalar.total_eq_sum, same.sum_eq]

private theorem checkWeightSum_perm {weights others : List K}
    (same : others.Perm weights) :
    checkWeightSum origin others = checkWeightSum origin weights := by
  rw [checkWeightSum, checkWeightSum, total_perm same]

theorem checkBefore_eq (reordered : Reordered items permuted operation other) :
    other.checkBefore origin = operation.checkBefore origin := by
  cases reordered with
  | unweighted => rfl
  | weighted weighing alongside =>
      cases weighing with
      | fuzzyWeightedUnion => exact checkWeightSum_perm alongside.sameWeights
      | _ => rfl

theorem checkAfter_eq (reordered : Reordered items permuted operation other) :
    other.checkAfter origin = operation.checkAfter origin := by
  cases reordered with
  | unweighted => rfl
  | weighted weighing alongside =>
      cases weighing with
      | weightedMean => exact checkWeightSum_perm alongside.sameWeights
      | _ => rfl

end

variable {origin : Origin} (range : FuzzyRange K) {operation other : ListOperation K}

private theorem combine_perm {values permuted : List K}
    (weightless : operation.weights? = none) (same : permuted.Perm values) :
    operation.combine range permuted = operation.combine range values := by
  cases operation with
  | weightedSum | weightedMean | fuzzyWeightedUnion => cases weightless
  | sum | multiply => exact Grid.foldValues_perm same
  | minimum | fuzzyAnd =>
      rw [combine, combine, Scalar.lesser_eq]
      exact Grid.foldValues_perm same
  | maximum | fuzzyOr =>
      rw [combine, combine, Scalar.greater_eq]
      exact Grid.foldValues_perm same
  | mean | fuzzyUnion =>
      rw [combine, combine, same.length_eq, Grid.foldValues_perm same]
  | fuzzySelectedUnion | fuzzyXor =>
      rw [combine, combine, Scalar.arrange_id_eq_sort, Scalar.arrange_id_eq_sort,
        Ascending.sort_eq_of_perm same]

theorem combine_eq {values permuted : List K}
    (reordered : Reordered values permuted operation other) :
    other.combine range permuted = operation.combine range values := by
  cases reordered with
  | unweighted weightless same => exact combine_perm range weightless same
  | weighted weighing alongside =>
      have sums := Grid.weighValues_alongside alongside
      have totals := total_perm alongside.sameWeights
      cases weighing with
      | weightedSum => exact sums
      | weightedMean | fuzzyWeightedUnion => rw [combine, combine, sums, totals]

theorem exists_cellsAt {grids permuted : List (Grid K)}
    (reordered : Reordered grids permuted operation other)
    (counted : operation.checkCounts origin grids.length = .ok ()) (place : Nat)
    (cells : List (Cell K)) (stored : Grid.CellsAt place grids cells) :
    ∃ moved, Grid.CellsAt place permuted moved ∧
      Cell.blend (other.combine range) moved =
        Cell.blend (operation.combine range) cells := by
  obtain ⟨moved, storedToo, along⟩ := reordered.exists_moved counted stored
  exact ⟨moved, storedToo,
    congrArg₂ Cell.mk ((along.map Cell.value).combine_eq range) along.perm.any_eq⟩

theorem blend_eq {grids permuted : List (Grid K)}
    (reordered : Reordered grids permuted operation other)
    (counted : operation.checkCounts origin grids.length = .ok ())
    (shapes : Grid.SameShape grids) :
    Grid.blend (other.combine range) permuted =
      Grid.blend (operation.combine range) grids := by
  have countedToo := reordered.checkCounts_eq.trans counted
  exact Grid.blend_eq_of_cellsAt shapes reordered.perm
    (reordered.exists_cellsAt range counted)
    (reordered.symm.exists_cellsAt range countedToo)

theorem finish_eq {types permuted : List DataType} {β : Type} {items others : List β}
    (reordered : Reordered items others operation other) (same : permuted.Perm types)
    (grid : Grid K) :
    other.finish range permuted grid = operation.finish range types grid := by
  have floats : DataType.propagate permuted grid = DataType.propagate types grid := by
    rw [DataType.propagate, DataType.propagate, same.any_eq]
  cases reordered with
  | unweighted =>
      cases operation with
      | sum | multiply | minimum | maximum => exact congrArg (Result.layer grid) floats
      | _ => rfl
  | weighted weighing => cases weighing <;> rfl

variable {context : ResultContext K} {fields permuted : List String}

/-- Layers that can be blended can be blended in the other order, to the same
result. -/
theorem exists_blends {inputs : List (InputGrid K)}
    (reordered : Reordered fields permuted operation other)
    (blends : operation.Blends origin context fields inputs) :
    ∃ moved, other.Blends origin context permuted moved ∧
      other.outcome context.range moved = operation.outcome context.range inputs := by
  obtain ⟨moved, read, along⟩ := reordered.exists_moved blends.counted blends.read
  have grids := along.map InputGrid.grid
  have counted : operation.checkCounts origin (inputs.map InputGrid.grid).length =
      .ok () := by
    rw [List.length_map, ← blends.read.length_eq]
    exact blends.counted
  refine ⟨moved, ⟨?_, ?_, ?_, ?_, ?_⟩, ?_⟩
  · exact reordered.checkCounts_eq.trans blends.counted
  · exact reordered.checkBefore_eq.trans blends.before
  · exact reordered.checkAfter_eq.trans blends.after
  · exact reordered.accepted_eq ▸ read
  · exact blends.shapes.perm grids.perm
  · rw [outcome, outcome, grids.blend_eq context.range counted blends.shapes]
    exact along.finish_eq context.range (along.perm.map _) _

theorem compute_eq_ok (reordered : Reordered fields permuted operation other)
    {computed : Computed K}
    (success : (Operation.list fields operation).compute origin context = .ok computed) :
    (Operation.list permuted other).compute origin context = .ok computed := by
  obtain ⟨inputs, blends, rfl⟩ := ListOperation.compute_eq_ok_iff.mp success
  obtain ⟨moved, blendsToo, same⟩ := reordered.exists_blends blends
  rw [← same]
  exact blendsToo.compute_eq

/-- In another order an operation goes through as well, and comes to the same
result. -/
theorem compute_eq_ok_iff (reordered : Reordered fields permuted operation other)
    {computed : Computed K} :
    (Operation.list permuted other).compute origin context = .ok computed ↔
      (Operation.list fields operation).compute origin context = .ok computed :=
  ⟨reordered.symm.compute_eq_ok, reordered.compute_eq_ok⟩

end ListOperation.Reordered

end FuzzyGrid
