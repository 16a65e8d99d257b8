import FuzzyGrid.Proofs.Grid.Order
import FuzzyGrid.Proofs.Lists.Reordering
import FuzzyGrid.Proofs.Masking.Operations
import FuzzyGrid.Proofs.Operator.Placement
import FuzzyGrid.Proofs.Tags.Numeric

/-!
# Layers in groups

The result of a sum, a product, a least or a greatest value on some of the layers
can take the place of these layers.  A fold over the values of one place goes on
from what the first of them come to, and a tag says whether some layer has a float
type, as the tag of a group does.  A fuzzy result has been moved into the range
before it goes on.  That does not show in the end, as least and greatest values
may be moved there before or after they are taken.
-/

namespace FuzzyGrid

open List (Forall₂)
open Grid (SameShape foldValues blend blend?)

/-! ## Computations that go through alike -/

section

variable {α : Type}

/-- Two computations that both fail, for whatever reasons, or come to results
that look the same. -/
abbrev SameSuccess :
    Except (CommandError α) (Computed α) → Except (CommandError α) (Computed α) →
      Prop :=
  Outcomes (fun _ _ => True) Computed.Alike

theorem Computed.Alike.refl (computed : Computed α) : computed.Alike computed :=
  ⟨.refl computed.result, rfl⟩

namespace SameSuccess

variable {first second : Except (CommandError α) (Computed α)}

theorem refl (outcome : Except (CommandError α) (Computed α)) :
    SameSuccess outcome outcome := by
  cases outcome with
  | error fault => exact .error trivial
  | ok computed => exact .ok (.refl computed)

theorem of_imp
    (onward : ∀ computed, first = .ok computed →
      ∃ other, second = .ok other ∧ computed.Alike other)
    (back : ∀ computed, second = .ok computed → ∃ other, first = .ok other) :
    SameSuccess first second := by
  cases first with
  | ok computed =>
      obtain ⟨other, rfl, alike⟩ := onward computed rfl
      exact .ok alike
  | error fault =>
      cases second with
      | ok computed =>
          obtain ⟨other, success⟩ := back computed rfl
          cases success
      | error _ => exact .error trivial

/-- Computations may be replaced by others that succeed where they do. -/
theorem congr {one other : Except (CommandError α) (Computed α)}
    (same : SameSuccess first second)
    (onFirst : ∀ computed, one = .ok computed ↔ first = .ok computed)
    (onSecond : ∀ computed, other = .ok computed ↔ second = .ok computed) :
    SameSuccess one other := by
  apply of_imp
  · intro computed success
    rcases same.exists_eq with ⟨_, _, failed, _⟩ | ⟨made, twin, makes, makesToo, alike⟩
    · cases failed.symm.trans ((onFirst computed).mp success)
    · cases makes.symm.trans ((onFirst computed).mp success)
      exact ⟨twin, (onSecond twin).mpr makesToo, alike⟩
  · intro computed success
    rcases same.exists_eq with ⟨_, _, _, failed, _⟩ | ⟨made, twin, makes, makesToo, _⟩
    · cases failed.symm.trans ((onSecond computed).mp success)
    · exact ⟨made, (onFirst made).mpr makes⟩

end SameSuccess

end

variable {K : Type} [ExactNumber K]

/-! ## Blends of groups -/

namespace Grid

private theorem blend?_append (function : K → K → K) (first : Grid K)
    (group rest : List (Grid K)) :
    blend? (foldValues function) (first :: group ++ rest) =
      (blend? (foldValues function) (first :: group) >>= fun merged =>
        blend? (foldValues function) (merged :: rest)) := by
  induction group generalizing first with
  | nil =>
      rw [blend?_singleton fun _ => rfl]
      rfl
  | cons next group induction =>
      rw [List.cons_append, List.cons_append,
        blend?_cons_cons (foldValues function) function fun _ _ _ => rfl,
        blend?_cons_cons (foldValues function) function fun _ _ _ => rfl]
      cases first.zipWith next .union function with
      | error mismatch => rfl
      | ok merged => exact induction merged

/-- A fold goes on from the blend of the first grids. -/
theorem blend_append (function : K → K → K) {group rest : List (Grid K)}
    (some : group ≠ [])
    (shapes : SameShape (group ++ rest)) :
    blend (foldValues function) (blend (foldValues function) group :: rest) =
      blend (foldValues function) (group ++ rest) := by
  obtain ⟨first, others, rfl⟩ := List.exists_cons_of_ne_nil some
  have shapesGroup : SameShape (first :: others) :=
    shapes.of_shapes fun grid member => ⟨grid, List.mem_append_left _ member, rfl⟩
  have blends := blend?_append function first others rest
  rw [shapes.blend?_eq, shapesGroup.blend?_eq] at blends
  exact (blend?_cons_eq_ok_iff.mp blends.symm).2.symm

private theorem clamp_foldl {low high : K} {function : K → K → K}
    (commutes : ∀ value other, Scalar.clamp low high (function value other) =
      function (Scalar.clamp low high value) (Scalar.clamp low high other))
    (values : List K) {value other : K}
    (same : Scalar.clamp low high value = Scalar.clamp low high other) :
    Scalar.clamp low high (values.foldl function value) =
      Scalar.clamp low high (values.foldl function other) := by
  induction values generalizing value other with
  | nil => exact same
  | cons next rest induction =>
      apply induction
      rw [commutes, commutes, same]

/-- Cells that are moved into the range in the end may be moved there before,
where this can be done after each step. -/
theorem clampUnmasked_blend_alike {low high : K} (ordered : low ≤ high)
    {function : K → K → K}
    (commutes : ∀ value other, Scalar.clamp low high (function value other) =
      function (Scalar.clamp low high value) (Scalar.clamp low high other))
    (first : Grid K) (rest : List (Grid K)) :
    ((blend (foldValues function) (first.clampUnmasked low high :: rest)).clampUnmasked
        low high).Alike
      ((blend (foldValues function) (first :: rest)).clampUnmasked low high) := by
  let clamp := Scalar.clamp low high
  have moved : (blend (foldValues function) (first.map clamp :: rest)).map clamp =
      (blend (foldValues function) (first :: rest)).map clamp := by
    rw [map_blend, map_blend]
    apply blend_map_cons
    intro value values
    exact clamp_foldl commutes values (Scalar.clamp_clamp ordered value)
  have before : (blend (foldValues function)
      (first.clampUnmasked low high :: rest)).Alike
        (blend (foldValues function) (first.map clamp :: rest)) :=
    .blend _ (.cons (clampUnmasked_alike first low high)
      (List.forall₂_same.mpr fun grid _ => .refl grid))
  have atLast := (before.clampUnmasked low high).trans (clampUnmasked_alike _ low high)
  rw [moved] at atLast
  exact atLast.trans (clampUnmasked_alike _ low high).symm

end Grid

/-! ## A layer in the place of a group -/

namespace ListOperation

/-- The operations that may be taken of some of the layers first.  Least and
greatest fuzzy values need a range with its ends in order. -/
inductive Regroups (range : FuzzyRange K) : ListOperation K → Prop where
  | sum : Regroups range .sum
  | multiply : Regroups range .multiply
  | minimum : Regroups range .minimum
  | maximum : Regroups range .maximum
  | fuzzyAnd (ordered : range.Ordered) : Regroups range .fuzzyAnd
  | fuzzyOr (ordered : range.Ordered) : Regroups range .fuzzyOr

/-- A layer that is the result on a group, and can take its place. -/
structure StandsFor (range : FuzzyRange K) (operation : ListOperation K)
    (input : InputGrid K) (group : List (InputGrid K)) : Prop where
  published : operation.outcome range group = .layer input.grid input.dataType
  accepted : input.dataType.satisfies operation.accepted = true
  shape : ∀ member ∈ group, member.grid.shape = input.grid.shape
  alike : ∀ rest, SameShape ((group ++ rest).map InputGrid.grid) →
    (operation.outcome range (input :: rest)).Alike
      (operation.outcome range (group ++ rest))

variable {range : FuzzyRange K} {operation : ListOperation K}

theorem Regroups.checkCounts_eq {origin : Origin}
    (regroups : Regroups range operation) {count : Nat}
    (positive : 1 ≤ count) :
    operation.checkCounts origin count = .ok () := by
  refine checkCounts_eq_ok_iff.mpr ?_
  cases regroups <;> exact ⟨positive, nofun⟩

theorem Regroups.weightless (regroups : Regroups range operation) :
    operation.weights? = none := by
  cases regroups <;> rfl

section

variable {group : List (InputGrid K)}

omit [ExactNumber K] in
private theorem shape_blend (combine : List K → K)
    (shapes : SameShape (group.map InputGrid.grid)) :
    ∀ member ∈ group,
      member.grid.shape = (blend combine (group.map InputGrid.grid)).shape := by
  intro member isMember
  cases group with
  | nil => cases isMember
  | cons first rest =>
      have same : member.grid.shape = first.grid.shape :=
        shapes _ (List.mem_map_of_mem isMember) _ List.mem_cons_self
      exact same

theorem standsFor_propagated {function : K → K → K}
    (folds : operation.combine range = foldValues function)
    (propagates : operation.operator ∈ Operator.propagating) (some : group ≠ [])
    (shapes : SameShape (group.map InputGrid.grid)) :
    ∃ input, StandsFor range operation input group := by
  have grids : group.map InputGrid.grid ≠ [] := mt List.map_eq_nil_iff.mp some
  let grid := blend (foldValues function) (group.map InputGrid.grid)
  let dataType := DataType.propagate (group.map InputGrid.dataType) grid
  refine ⟨⟨grid, dataType⟩, ?_, ?_, shape_blend _ shapes, ?_⟩
  · rw [outcome, finish_eq range propagates, folds]
  · rw [accepted_eq propagates]
    exact DataType.satisfies_numeric _ _
  · intro rest allShapes
    rw [List.map_append] at allShapes
    have sameGrid := Grid.blend_append function grids allShapes
    have sameFloat : dataType.isFloat =
        (group.map InputGrid.dataType).any DataType.isFloat :=
      DataType.isFloat_numeric _ _
    have same : operation.outcome range (⟨grid, dataType⟩ :: rest) =
        operation.outcome range (group ++ rest) := by
      rw [outcome, outcome, finish_eq range propagates, finish_eq range propagates,
        List.map_append, List.map_append, List.map_cons, List.map_cons,
        DataType.propagate, DataType.propagate, List.any_cons, List.any_append,
        sameFloat, folds, ← sameGrid]
    rw [same]
    exact .refl _

theorem standsFor_fuzzy {function : K → K → K} (ordered : range.Ordered)
    (folds : operation.combine range = foldValues function)
    (fuzzy : operation.accepted = [.fuzzy])
    (commutes : ∀ value other,
      Scalar.clamp range.low range.high (function value other) =
        function (Scalar.clamp range.low range.high value)
          (Scalar.clamp range.low range.high other))
    (finishes : ∀ types grid, operation.finish range types grid = fuzzyLayer range grid)
    (some : group ≠ []) (shapes : SameShape (group.map InputGrid.grid)) :
    ∃ input, StandsFor range operation input group := by
  have grids : group.map InputGrid.grid ≠ [] := mt List.map_eq_nil_iff.mp some
  let grid := blend (foldValues function) (group.map InputGrid.grid)
  refine ⟨⟨grid.clampUnmasked range.low range.high, .fuzzy⟩, ?_, ?_,
    shape_blend _ shapes, ?_⟩
  · rw [outcome, finishes, folds]
    rfl
  · rw [fuzzy]
    rfl
  · intro rest allShapes
    rw [List.map_append] at allShapes
    rw [outcome, outcome, finishes, finishes, List.map_append, folds,
      ← Grid.blend_append function grids allShapes]
    exact (Grid.clampUnmasked_blend_alike ordered commutes grid _).layer .fuzzy

end

/-- The result on a group of layers can take its place. -/
theorem Regroups.exists_standsFor (regroups : Regroups range operation)
    {group : List (InputGrid K)} (some : group ≠ [])
    (shapes : SameShape (group.map InputGrid.grid)) :
    ∃ input, StandsFor range operation input group := by
  cases regroups with
  | sum | multiply | minimum | maximum =>
      exact standsFor_propagated rfl (by simp [operator, Operator.propagating]) some
        shapes
  | fuzzyAnd ordered =>
      refine standsFor_fuzzy ordered rfl rfl ?_ (fun _ _ => rfl) some shapes
      intro value other
      rw [Scalar.lesser_eq]
      exact Monotone.map_min fun _ _ => Scalar.clamp_mono ordered
  | fuzzyOr ordered =>
      refine standsFor_fuzzy ordered rfl rfl ?_ (fun _ _ => rfl) some shapes
      intro value other
      rw [Scalar.greater_eq]
      exact Monotone.map_max fun _ _ => Scalar.clamp_mono ordered

/-! ## Names of groups -/

private theorem exists_of_forall₂_append {β γ : Type} {related : β → γ → Prop}
    {first second : List β} {values : List γ}
    (all : Forall₂ related (first ++ second) values) :
    ∃ one other, values = one ++ other ∧ Forall₂ related first one ∧
      Forall₂ related second other := by
  induction first generalizing values with
  | nil => exact ⟨[], values, rfl, .nil, all⟩
  | cons item rest induction =>
      obtain ⟨value, values, head, tail, rfl⟩ := List.forall₂_cons_left_iff.mp all
      obtain ⟨one, other, rfl, onRest, onSecond⟩ := induction tail
      exact ⟨value :: one, other, rfl, .cons head onRest, onSecond⟩

omit [ExactNumber K] in
private theorem eq_of_read {origin : Origin} {context : ResultContext K}
    {allowed : List DataType}
    {fields : List String} {inputs others : List (InputGrid K)}
    (read : Forall₂ (fun field input => context.layer origin allowed field = .ok input)
      fields inputs)
    (also : Forall₂ (fun field input => context.layer origin allowed field = .ok input)
      fields others) : inputs = others :=
  Except.ok.inj ((readAll_eq_ok_iff.mpr read).symm.trans (readAll_eq_ok_iff.mpr also))

theorem StandsFor.sameShape_iff {input : InputGrid K} {group : List (InputGrid K)}
    (stands : StandsFor range operation input group) (some : group ≠ [])
    (rest : List (InputGrid K)) :
    SameShape ((input :: rest).map InputGrid.grid) ↔
      SameShape ((group ++ rest).map InputGrid.grid) := by
  obtain ⟨first, others, rfl⟩ := List.exists_cons_of_ne_nil some
  constructor
  · intro shapes
    apply shapes.of_shapes
    intro grid isGrid
    obtain ⟨member, isMember, rfl⟩ := List.mem_map.mp isGrid
    rcases List.mem_append.mp isMember with inGroup | inRest
    · exact ⟨input.grid, List.mem_cons_self, (stands.shape member inGroup).symm⟩
    · exact ⟨member.grid, List.mem_cons_of_mem _ (List.mem_map_of_mem inRest), rfl⟩
  · intro shapes
    apply shapes.of_shapes
    intro grid isGrid
    rcases List.mem_cons.mp isGrid with rfl | inRest
    · exact ⟨first.grid, List.mem_cons_self, stands.shape first List.mem_cons_self⟩
    · obtain ⟨member, isMember, rfl⟩ := List.mem_map.mp inRest
      exact ⟨member.grid, List.mem_map_of_mem (List.mem_append_right _ isMember), rfl⟩

/-- The name of the result on a group can take the place of its names. -/
theorem Regroups.compute_alike {origin : Origin} {context : ResultContext K}
    {name : String}
    {group rest : List String} {result : Result K}
    (regroups : Regroups context.range operation)
    (made : (Operation.list group operation).compute origin context = .ok ⟨result, none⟩)
    (held : context.get? name = some result) :
    SameSuccess ((Operation.list (name :: rest) operation).compute origin context)
      ((Operation.list (group ++ rest) operation).compute origin context) := by
  obtain ⟨members, blends, same⟩ := compute_eq_ok_iff.mp made
  obtain ⟨rfl, -⟩ := Computed.mk.inj same
  have positive : 1 ≤ group.length :=
    operation.one_le_least.trans (least_le_of_checkCounts blends.counted)
  have some_ := blends.ne_nil
  obtain ⟨input, stands⟩ := regroups.exists_standsFor some_ blends.shapes
  have readName : context.layer origin operation.accepted name = .ok input := by
    rw [stands.published] at held
    exact ResultContext.layer_eq_ok_iff.mpr ⟨_, held, rfl, rfl, stands.accepted⟩
  apply SameSuccess.of_imp
  · intro computed success
    obtain ⟨inputs, regrouped, rfl⟩ := compute_eq_ok_iff.mp success
    obtain ⟨one, others, readOne, readRest, rfl⟩ :=
      List.forall₂_cons_left_iff.mp regrouped.read
    obtain rfl : input = one := Except.ok.inj (readName.symm.trans readOne)
    have shapes := (stands.sameShape_iff some_ others).mp regrouped.shapes
    have all : operation.Blends origin context (group ++ rest) (members ++ others) := by
      refine ⟨regroups.checkCounts_eq ?_, blends.before, blends.after,
        List.rel_append blends.read readRest, shapes⟩
      rw [List.length_append]
      exact positive.trans (Nat.le_add_right _ _)
    exact ⟨_, all.compute_eq, stands.alike others shapes, rfl⟩
  · intro computed success
    obtain ⟨inputs, all, rfl⟩ := compute_eq_ok_iff.mp success
    obtain ⟨one, others, rfl, readGroup, readRest⟩ := exists_of_forall₂_append all.read
    obtain rfl : members = one := eq_of_read blends.read readGroup
    have shapes := (stands.sameShape_iff some_ others).mpr all.shapes
    have regrouped : operation.Blends origin context (name :: rest) (input :: others) :=
      ⟨regroups.checkCounts_eq (Nat.le_add_left _ _), blends.before, blends.after,
        .cons readName readRest, shapes⟩
    exact ⟨_, regrouped.compute_eq⟩

/-- In exact arithmetic an operation on a list of layers goes through on the
layers in any order, with the weights at their sides, and comes to the same, wherever
the commands are written.  A sum, a product, a least or a greatest value does so too
if the result on some of the layers takes their place. -/
theorem order_and_grouping (here there : Origin) (context : ResultContext K)
    (fields : List String) :
    (∀ (permuted : List String) (operation other : ListOperation K),
      Reordered fields permuted operation other →
        SameSuccess ((Operation.list permuted other).compute here context)
          ((Operation.list fields operation).compute there context)) ∧
      ∀ (origin : Origin) (group rest regrouped : List String) (name : String)
        (result : Result K) (operation : ListOperation K),
        Regroups context.range operation → fields.Perm (group ++ rest) →
        (Operation.list group operation).compute origin context = .ok ⟨result, none⟩ →
        context.get? name = some result → regrouped.Perm (name :: rest) →
          SameSuccess ((Operation.list regrouped operation).compute here context)
            ((Operation.list fields operation).compute there context) := by
  have moved (operation : Operation K) (computed : Computed K) :=
    operation.compute_ok_iff_elsewhere there here context computed
  constructor
  · intro permuted operation other reordered
    exact (SameSuccess.refl _).congr (fun _ => reordered.compute_eq_ok_iff)
      fun computed => moved _ computed
  · intro origin group rest regrouped name result operation regroups parts made held same
    have first : Reordered (group ++ rest) fields operation operation :=
      .unweighted regroups.weightless parts
    have second : Reordered (name :: rest) regrouped operation operation :=
      .unweighted regroups.weightless same
    have madeHere := Operation.compute_carries origin here _ context _ made
    exact (regroups.compute_alike madeHere held).congr
      (fun _ => second.compute_eq_ok_iff)
      fun computed => (moved _ computed).trans first.compute_eq_ok_iff

end ListOperation

namespace Sample

/-- Layers in another order with their weights, and the layer that both of them have
in common in the place of two layers. -/
theorem order_and_grouping_common :
    let context : ResultContext ℚ := holding ⟨-1, 1⟩
      [("Near", ⟨1, 2, [⟨3, false⟩, ⟨0, true⟩]⟩),
        ("Far", ⟨1, 2, [⟨1 / 4, false⟩, ⟨-5, false⟩]⟩),
        ("High", ⟨1, 2, [⟨2, false⟩, ⟨1 / 2, false⟩]⟩),
        ("Common", ⟨1, 2, [⟨1, false⟩, ⟨0, true⟩]⟩)]
    let union := (Operation.list ["Near", "Far"]
      (.fuzzyWeightedUnion [1, 3])).compute .unknown context
    let least := (Operation.list ["Near", "Far", "High"] .fuzzyAnd).compute .unknown
        context
    (union.toOption.isSome = true ∧ least.toOption.isSome = true) ∧
      SameSuccess ((Operation.list ["Far", "Near"]
        (.fuzzyWeightedUnion [3, 1])).compute .unknown context) union ∧
      SameSuccess ((Operation.list ["Far", "Common"] .fuzzyAnd).compute .unknown context)
        least := by
  intro context union least
  have accepted : FuzzyRange.ofEnds (-1 : ℚ) 1 = .ok context.range := by decide +kernel
  refine ⟨by decide +kernel, ?_, ?_⟩
  · have alongside : Alongside ["Near", "Far"] [(1 : ℚ), 3] ["Far", "Near"] [3, 1] :=
      ⟨by decide +kernel, by decide +kernel, by decide +kernel⟩
    exact (ListOperation.order_and_grouping .unknown .unknown context
      ["Near", "Far"]).1 _ _ _
      (.weighted .fuzzyWeightedUnion alongside)
  · exact (ListOperation.order_and_grouping .unknown .unknown context
      ["Near", "Far", "High"]).2 .unknown
      ["Near", "High"] ["Far"] _ "Common"
      (.layer ⟨1, 2, [⟨1, false⟩, ⟨0, true⟩]⟩ .fuzzy) _
      (.fuzzyAnd (FuzzyRange.ordered_of_ofEnds accepted)) (by decide +kernel)
      (ok_of_evaluated (by decide +kernel)) (by decide +kernel) (by decide +kernel)

end Sample

end FuzzyGrid
