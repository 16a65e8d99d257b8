import FuzzyGrid.Proofs.Number.Exact
import FuzzyGrid.Proofs.Operator.Cellwise

/-!
# Fuzzy set operations on layers

What a fuzzy set operation makes of layers does not depend on where they are
held.  In every context with the same range, and under any names, layers of one
shape are blended, and the unmasked cells of the blend are moved into the range.
-/

namespace FuzzyGrid

open List (Forall₂)

variable {α : Type}

/-- A context holds grids as fuzzy layers under names. -/
def ResultContext.HoldsFuzzy (context : ResultContext α) (fields : List String)
    (grids : List (Grid α)) : Prop :=
  Forall₂ (fun field grid => context.get? field = some (.layer grid .fuzzy))
    fields grids

instance [DecidableEq α] (context : ResultContext α) (fields : List String)
    (grids : List (Grid α)) : Decidable (context.HoldsFuzzy fields grids) :=
  decidable_of_iff (fields.length = grids.length ∧ ∀ pair ∈ fields.zip grids,
      context.get? pair.1 = some (.layer pair.2 .fuzzy)) <| by
    rw [ResultContext.HoldsFuzzy, List.forall₂_iff_zip, Prod.forall]

theorem ResultContext.HoldsFuzzy.layers_eq {context : ResultContext α}
    {fields : List String} {grids : List (Grid α)}
    (held : context.HoldsFuzzy fields grids) (origin : Origin) :
    context.layers origin [.fuzzy] fields =
      .ok (grids.map fun grid => ⟨grid, .fuzzy⟩) := by
  apply readAll_eq_ok_iff.mpr
  rw [List.forall₂_map_right_iff]
  apply held.imp
  intro field grid holds
  exact layer_eq_ok_iff.mpr ⟨_, holds, rfl, rfl, rfl⟩

variable [Scalar α]

/-- What an operation makes of a fuzzy layer, wherever it is held and for
whichever command. -/
def LayerOperation.Makes (range : FuzzyRange α) (operation : LayerOperation α)
    (grid result : Grid α) : Prop :=
  ∀ (origin : Origin) (context : ResultContext α) (field : String),
    context.range = range →
    context.get? field = some (.layer grid .fuzzy) →
      (Operation.layer field operation).compute origin context =
        .ok ⟨.layer result .fuzzy, none⟩

/-- What an operation makes of a list of fuzzy layers, wherever they are held
and for whichever command. -/
def ListOperation.Makes (range : FuzzyRange α) (operation : ListOperation α)
    (grids : List (Grid α)) (result : Grid α) : Prop :=
  ∀ (origin : Origin) (context : ResultContext α) (fields : List String),
    context.range = range →
    context.HoldsFuzzy fields grids →
      (Operation.list fields operation).compute origin context =
        .ok ⟨.layer result .fuzzy, none⟩

theorem LayerOperation.fuzzyNot_makes (range : FuzzyRange α) (grid : Grid α) :
    fuzzyNot.Makes range grid
      ((grid.map range.complement).clampUnmasked range.low range.high) := by
  rintro origin context field rfl held
  have read : context.layer origin [.fuzzy] field = .ok ⟨grid, .fuzzy⟩ :=
    ResultContext.layer_eq_ok_iff.mpr ⟨_, held, rfl, rfl, rfl⟩
  exact compute_of_apply read rfl

namespace ListOperation

/-- Grids blended by an operation, with the unmasked cells moved into the
range. -/
def clampedBlend (range : FuzzyRange α) (operation : ListOperation α)
    (grids : List (Grid α)) : Grid α :=
  (Grid.blend (operation.combine range) grids).clampUnmasked range.low range.high

theorem clampedBlend_congr {range : FuzzyRange α} {operation other : ListOperation α}
    {grids : List (Grid α)} (same : ∀ values, values.length = grids.length →
      operation.combine range values = other.combine range values) :
    operation.clampedBlend range grids = other.clampedBlend range grids := by
  rw [clampedBlend, clampedBlend, Grid.blend_congr same]

/-- A fuzzy set operation that a number of layers is enough for, with a weight
for each where it has weights. -/
structure Takes (operation : ListOperation α) (count : Nat) : Prop where
  fuzzy : operation.accepted = [.fuzzy]
  enough : operation.least ≤ count
  weights : ∀ weights, operation.weights? = some weights →
    weights.length = count ∧ Scalar.eq (Scalar.total weights) zero = false

namespace Takes

variable {operation : ListOperation α} {count : Nat}

theorem of_unweighted (fuzzy : operation.accepted = [.fuzzy])
    (enough : operation.least ≤ count) (unweighted : operation.weights? = none) :
    operation.Takes count := by
  refine ⟨fuzzy, enough, ?_⟩
  rw [unweighted]
  exact nofun

variable (origin : Origin)

theorem checkCounts_eq (takes : operation.Takes count) :
    operation.checkCounts origin count = .ok () :=
  checkCounts_eq_ok_iff.mpr
    ⟨takes.enough, fun weights weighted => (takes.weights weights weighted).1⟩

theorem checkBefore_eq (takes : operation.Takes count) :
    operation.checkBefore origin = .ok () := by
  cases operation with
  | fuzzyWeightedUnion weights =>
      have nonzero := (takes.weights weights rfl).2
      simp [checkBefore, checkWeightSum, nonzero]
  | _ => rfl

theorem checkAfter_eq (takes : operation.Takes count) :
    operation.checkAfter origin = .ok () := by
  cases operation with
  | weightedMean weights => cases takes.fuzzy
  | _ => rfl

theorem finish_eq (takes : operation.Takes count) (range : FuzzyRange α)
    (types : List DataType) (grid : Grid α) :
    operation.finish range types grid = fuzzyLayer range grid := by
  cases operation with
  | sum | multiply | minimum | maximum | mean | weightedSum _ | weightedMean _ =>
      cases takes.fuzzy
  | _ => rfl

/-- Layers of one shape are blended, and the blend is moved into the range. -/
theorem makes {grids : List (Grid α)} (takes : operation.Takes grids.length)
    (range : FuzzyRange α) (shapes : Grid.SameShape grids) :
    operation.Makes range grids (operation.clampedBlend range grids) := by
  rintro origin context fields rfl held
  let inputs : List (InputGrid α) :=
    grids.map fun grid => ⟨grid, .fuzzy⟩
  have same : inputs.map InputGrid.grid = grids := by
    simp [inputs, Function.comp_def]
  have read : context.layers origin operation.accepted fields = .ok inputs := by
    rw [takes.fuzzy]
    exact held.layers_eq origin
  have blends : operation.Blends origin context fields inputs := by
    refine ⟨?_, takes.checkBefore_eq origin, takes.checkAfter_eq origin,
      readAll_eq_ok_iff.mp read,
      same.symm ▸ shapes⟩
    rw [held.length_eq]
    exact takes.checkCounts_eq origin
  rw [blends.compute_eq, outcome, takes.finish_eq, same]
  rfl

end Takes

end ListOperation

namespace Sample

/-- A context that holds fuzzy layers and nothing else. -/
def holding (range : FuzzyRange α) (layers : List (String × Grid α)) :
    ResultContext α :=
  ⟨range, .ofList (layers.map fun entry => (entry.1, .layer entry.2 .fuzzy))⟩

omit [Scalar α] in
/-- The grid of a result that has been evaluated. -/
theorem eq_of_evaluated {outcome : Except (CommandError α) (Computed α)}
    {made found : Grid α} (computes : outcome = .ok ⟨.layer made .fuzzy, none⟩)
    (evaluated : outcome.toOption = some ⟨.layer found .fuzzy, none⟩) :
    made = found := by
  cases computes.symm.trans (ok_of_evaluated evaluated)
  rfl

end Sample

end FuzzyGrid
