import FuzzyGrid.Proofs.Grid.Blend
import FuzzyGrid.Proofs.Operator.ReadSet
import Mathlib.Data.List.Forall2

/-!
# Blends of lists of layers

An operation on a list of layers asks for enough of them, for a weight for each
where it has weights, and for weights whose sum can divide.  Then it reads the
layers, which have to be of one shape, and blends them.  These conditions are
all that can fail, so that what it comes to is known from them.
-/

namespace FuzzyGrid

open List (Forall₂)

variable {α : Type}

/-! ## Lengths of lists -/

namespace Fault

theorem checkMinLength_eq_ok_iff {origin : Origin} {arg : String}
    {required found : Nat} :
    checkMinLength (α := α) origin arg required found = .ok () ↔
      required ≤ found := by
  rw [checkMinLength]
  split
  · rename_i few
    exact iff_of_false nofun (Nat.not_le.mpr few)
  · rename_i enough
    exact iff_of_true rfl (Nat.not_lt.mp enough)

theorem checkEqualLengths_eq_ok_iff {origin : Origin} {arg other : String}
    {length count : Nat} :
    checkEqualLengths (α := α) origin [(arg, length), (other, count)] = .ok () ↔
      length = count := by
  simp [checkEqualLengths, allEqual]

end Fault

/-! ## Readings and blends -/

theorem readAll_eq_ok_iff {β ε : Type} {read : α → Except ε β} {items : List α}
    {values : List β} :
    readAll read items = .ok values ↔
      List.Forall₂ (fun item value => read item = .ok value) items values := by
  induction items generalizing values with
  | nil => simp [readAll, eq_comm]
  | cons item rest induction =>
      cases head : read item with
      | error fault => simp [readAll, head, List.forall₂_cons_left_iff]
      | ok first =>
          rw [List.forall₂_cons_left_iff]
          simp only [head, Except.ok.injEq, ← induction]
          cases tail : readAll read rest with
          | error fault => simp [readAll, head, tail]
          | ok others => simp [readAll, head, tail, eq_comm]

theorem readAll_eq_of_forall₂ {β γ ε : Type} {read : α → Except ε γ}
    {other : β → Except ε γ} {items : List α} {others : List β}
    (same : List.Forall₂ (fun item twin => read item = other twin) items others) :
    readAll read items = readAll other others := by
  induction same with
  | nil => rfl
  | cons head _ induction => rw [readAll, readAll, head, induction]

variable [Scalar α] {origin : Origin}

namespace ListOperation

open Grid (foldValues weighValues blend blend?)

/-- What the values of one place are combined to. -/
def combine (range : FuzzyRange α) : ListOperation α → List α → α
  | sum, values => foldValues (fun x y => x + y) values
  | multiply, values => foldValues (fun x y => x * y) values
  | minimum, values | fuzzyAnd, values => foldValues Scalar.lesser values
  | maximum, values | fuzzyOr, values => foldValues Scalar.greater values
  | mean, values | fuzzyUnion, values =>
    foldValues (fun x y => x + y) values / Scalar.ofNat values.length
  | weightedSum weights, values => weighValues weights values
  | weightedMean weights, values | fuzzyWeightedUnion weights, values =>
    weighValues weights values / Scalar.total weights
  | fuzzySelectedUnion selection count, values =>
    selectedMean selection count (Scalar.arrange id values)
  | fuzzyXor, values => exclusiveOr range.low (Scalar.arrange id values)

/-- What becomes of the blended grid, given the types of the layers. -/
def finish (range : FuzzyRange α) (operation : ListOperation α)
    (types : List DataType) (grid : Grid α) : Result α :=
  match operation with
  | sum | multiply | minimum | maximum =>
    .layer grid (DataType.propagate types grid)
  | weightedSum _ => .layer grid (DataType.floatFor grid)
  | mean | weightedMean _ => .layer grid .float
  | _ => fuzzyLayer range grid

/-- What is checked of the weights before the layers are blended. -/
def checkBefore (origin : Origin) : ListOperation α → Except (CommandError α) Unit
  | fuzzyWeightedUnion weights => checkWeightSum origin weights
  | _ => .ok ()

/-- What is checked of the weights after the layers are blended. -/
def checkAfter (origin : Origin) : ListOperation α → Except (CommandError α) Unit
  | weightedMean weights => checkWeightSum origin weights
  | _ => .ok ()

/-- Blend grids between the two checks of the weights. -/
def blendLayers (origin : Origin) (range : FuzzyRange α)
    (operation : ListOperation α) (grids : List (Grid α)) :
    Except (CommandError α) (Grid α) := do
  operation.checkBefore origin
  let grid ← Grid.blame origin argument (blend? (operation.combine range) grids)
  operation.checkAfter origin
  return grid

/-! ## What is asked of the numbers of layers and weights -/

section

omit [Scalar α]

variable {operation : ListOperation α} {count : Nat}

theorem checkCounts_eq_ok_iff :
    operation.checkCounts origin count = .ok () ↔
      operation.least ≤ count ∧
        ∀ weights, operation.weights? = some weights → weights.length = count := by
  have enough :
      Fault.checkMinLength (α := α) origin argument operation.least count = .ok () ↔
        operation.least ≤ count := Fault.checkMinLength_eq_ok_iff
  rw [← enough, checkCounts]
  cases Fault.checkMinLength (α := α) origin argument operation.least count with
  | error fault => simp
  | ok _ =>
      cases operation.weights? with
      | none => simp
      | some weights =>
          simp only [true_and, Option.some.injEq, forall_eq']
          exact Fault.checkEqualLengths_eq_ok_iff.trans eq_comm

theorem least_le_of_checkCounts (checked : operation.checkCounts origin count = .ok ()) :
    operation.least ≤ count :=
  (checkCounts_eq_ok_iff.mp checked).1

theorem length_weights_of_checkCounts
    (checked : operation.checkCounts origin count = .ok ())
    {weights : List α} (weighted : operation.weights? = some weights) :
    weights.length = count :=
  (checkCounts_eq_ok_iff.mp checked).2 weights weighted

theorem one_le_least (operation : ListOperation α) : 1 ≤ operation.least := by
  cases operation with
  | fuzzySelectedUnion selection count => exact Nat.le_max_right count 1
  | fuzzyXor => exact Nat.le_succ 1
  | _ => exact Nat.le_refl 1

end

/-! ## Layers that are blended -/

section

omit [Scalar α]

private theorem bind_pure_eq {ε β γ : Type} (outcome : Except ε β)
    (next : β → γ) :
    (outcome >>= fun value => pure (next value)) = outcome.map next := by
  cases outcome <;> rfl

private theorem map_blame (origin : Origin) (arg : String) (function : α → α)
    (outcome : Except ShapeMismatch (Grid α)) :
    (Grid.blame origin arg outcome).map (fun grid => grid.map function) =
      Grid.blame origin arg (outcome.map fun grid => grid.map function) := by
  cases outcome <;> rfl

end

theorem meanGrid_eq (first : Grid α) (rest : List (Grid α)) :
    meanGrid origin (first :: rest) =
      Grid.blame origin argument (blend? (fun values =>
        foldValues (fun x y => x + y) values / Scalar.ofNat values.length)
        (first :: rest)) := by
  rw [meanGrid, Grid.fold_eq, bind_pure_eq, map_blame, Grid.map_blend?]
  apply congrArg (Grid.blame origin argument)
  apply Grid.blend?_congr
  intro values length
  simp [length]

theorem weightedMeanGrid_eq (weights : List α) (first : Grid α)
    (rest : List (Grid α)) (length : weights.length = (first :: rest).length) :
    (Grid.weightedSum origin argument (first :: rest) weights).map
        (divideByWeights weights) =
      Grid.blame origin argument (blend? (fun values =>
        weighValues weights values / Scalar.total weights) (first :: rest)) := by
  rw [Grid.weightedSum_eq origin argument first length]
  exact (map_blame origin argument _ _).trans
    (congrArg (Grid.blame origin argument) (Grid.map_blend? _ _ _))

theorem blendLayers_eq {range : FuzzyRange α} {operation : ListOperation α}
    (before : operation.checkBefore origin = .ok ())
    (after : operation.checkAfter origin = .ok ()) (grids : List (Grid α)) :
    operation.blendLayers origin range grids =
      Grid.blame origin argument (blend? (operation.combine range) grids) := by
  rw [blendLayers, before, after]
  cases Grid.blame origin argument (blend? (operation.combine range) grids) <;> rfl

theorem blendLayers_eq_ok_iff {range : FuzzyRange α} {operation : ListOperation α}
    {grids : List (Grid α)} {grid : Grid α} :
    operation.blendLayers origin range grids = .ok grid ↔
      operation.checkBefore origin = .ok () ∧ operation.checkAfter origin = .ok () ∧
        Grid.SameShape grids ∧ grid = blend (operation.combine range) grids := by
  constructor
  · intro success
    obtain ⟨_, before, blends⟩ := bind_eq_ok.mp success
    obtain ⟨blended, blames, checks⟩ := bind_eq_ok.mp blends
    obtain ⟨_, after, same⟩ := bind_eq_ok.mp checks
    cases same
    exact ⟨before, after, Grid.blend?_eq_ok_iff.mp ((Grid.blame_eq_ok_iff _ _).mp blames)⟩
  · rintro ⟨before, after, shapes, rfl⟩
    rw [blendLayers_eq before after, shapes.blend?_eq, Grid.blame]

theorem foldNumeric_eq (origin : Origin) (function : α → α → α)
    {inputs : List (InputGrid α)}
    (some : inputs.map InputGrid.grid ≠ []) :
    foldNumeric origin function inputs =
      (Grid.blame origin argument (blend? (foldValues function)
        (inputs.map InputGrid.grid))).map fun grid =>
          .layer grid (DataType.propagate (inputs.map InputGrid.dataType) grid) := by
  obtain ⟨first, rest, grids⟩ := List.exists_cons_of_ne_nil some
  rw [foldNumeric, grids, Grid.fold_eq]
  exact bind_pure_eq _ _

theorem stackLayer_eq (range : FuzzyRange α) (grids : List (Grid α))
    (function : List α → α) :
    (Grid.stack origin argument grids >>= fun stack =>
        pure (fuzzyLayer range (stack.reduce function))) =
      (Grid.blame origin argument (blend? (function ∘ Scalar.arrange id)
        grids)).map (fuzzyLayer range) := by
  rw [← Grid.stack_reduce_eq]
  cases Grid.stack origin argument grids <;> rfl

/-- Where there are enough layers and weights, the layers are blended. -/
theorem apply_eq (range : FuzzyRange α) {operation : ListOperation α}
    {inputs : List (InputGrid α)}
    (checked : operation.checkCounts origin inputs.length = .ok ()) :
    operation.apply origin range inputs =
      (operation.blendLayers origin range (inputs.map InputGrid.grid)).map
        (operation.finish range (inputs.map InputGrid.dataType)) := by
  have enough := Nat.le_trans operation.one_le_least
    (least_le_of_checkCounts checked)
  have lengths : ∀ weights, operation.weights? = some weights →
      weights.length = (inputs.map InputGrid.grid).length := by
    intro weights weighted
    simpa using length_weights_of_checkCounts checked weighted
  have some_ : inputs.map InputGrid.grid ≠ [] := by
    intro none_
    simp [List.map_eq_nil_iff.mp none_] at enough
  have numeric := fun function => foldNumeric_eq origin function some_
  obtain ⟨first, rest, grids⟩ := List.exists_cons_of_ne_nil some_
  simp only [grids] at lengths numeric ⊢
  cases operation with
  | sum | multiply | minimum | maximum =>
      rw [blendLayers_eq rfl rfl]
      exact numeric _
  | mean | fuzzyUnion =>
      simp only [apply, grids]
      rw [blendLayers_eq rfl rfl, meanGrid_eq]
      exact bind_pure_eq _ _
  | weightedSum weights =>
      simp only [apply, grids]
      rw [blendLayers_eq rfl rfl, Grid.weightedSum_eq origin argument first
        (lengths _ rfl)]
      exact bind_pure_eq _ _
  -- The sum of the weights is checked after the layers are blended here, and
  -- before in the fuzzy case, so the two fail differently where both checks do.
  | weightedMean weights =>
      have weighted : (Grid.weightedSum origin argument (first :: rest) weights).map
          (divideByWeights weights) = Grid.blame origin argument
            (blend? (combine range (weightedMean weights)) (first :: rest)) :=
        weightedMeanGrid_eq weights first rest (lengths _ rfl)
      simp only [apply, grids, blendLayers, checkBefore, checkAfter, ← weighted]
      cases Grid.weightedSum origin argument (first :: rest) weights with
      | error fault => rfl
      | ok grid => cases checkWeightSum origin weights <;> rfl
  | fuzzyWeightedUnion weights =>
      have weighted : (Grid.weightedSum origin argument (first :: rest) weights).map
          (divideByWeights weights) = Grid.blame origin argument
            (blend? (combine range (fuzzyWeightedUnion weights)) (first :: rest)) :=
        weightedMeanGrid_eq weights first rest (lengths _ rfl)
      simp only [apply, grids, blendLayers, checkBefore, checkAfter, ← weighted]
      cases checkWeightSum origin weights with
      | error fault => rfl
      | ok _ =>
          cases Grid.weightedSum origin argument (first :: rest) weights <;> rfl
  | fuzzyOr | fuzzyAnd =>
      simp only [apply, grids]
      rw [blendLayers_eq rfl rfl, Grid.fold_eq]
      exact bind_pure_eq _ _
  | fuzzySelectedUnion | fuzzyXor =>
      simp only [apply, grids]
      rw [blendLayers_eq rfl rfl]
      exact stackLayer_eq range _ _

/-! ## Operations that go through -/

/-- The result of blending layers. -/
def outcome (range : FuzzyRange α) (operation : ListOperation α)
    (inputs : List (InputGrid α)) : Result α :=
  operation.finish range (inputs.map InputGrid.dataType)
    (Grid.blend (operation.combine range) (inputs.map InputGrid.grid))

/-- An operation can blend the layers under some names, for the command at a
place. -/
structure Blends (origin : Origin) (context : ResultContext α)
    (operation : ListOperation α) (fields : List String)
    (inputs : List (InputGrid α)) : Prop where
  counted : operation.checkCounts origin fields.length = .ok ()
  before : operation.checkBefore origin = .ok ()
  after : operation.checkAfter origin = .ok ()
  read : Forall₂ (fun field input =>
    context.layer origin operation.accepted field = .ok input) fields inputs
  shapes : Grid.SameShape (inputs.map InputGrid.grid)

variable {context : ResultContext α} {operation : ListOperation α}
  {fields : List String} {inputs : List (InputGrid α)}

theorem Blends.compute_eq (blends : operation.Blends origin context fields inputs) :
    (Operation.list fields operation).compute origin context =
      .ok ⟨operation.outcome context.range inputs, none⟩ := by
  have counted := blends.counted
  have read : context.layers origin operation.accepted fields = .ok inputs :=
    readAll_eq_ok_iff.mpr blends.read
  have applied : operation.apply origin context.range inputs =
      .ok (operation.outcome context.range inputs) := by
    rw [apply_eq _ (blends.read.length_eq ▸ counted), blendLayers_eq_ok_iff.mpr
      ⟨blends.before, blends.after, blends.shapes, rfl⟩]
    rfl
  simp only [Operation.compute, counted, read, applied, Bind.bind, Except.bind]
  rfl

theorem Blends.ne_nil (blends : operation.Blends origin context fields inputs) :
    inputs ≠ [] := by
  apply List.ne_nil_of_length_pos
  rw [← blends.read.length_eq]
  exact Nat.le_trans operation.one_le_least (least_le_of_checkCounts blends.counted)

/-- Operations that ask for the same and combine the values of a place to the same
come to the same, whether they go through or not. -/
theorem compute_congr {other : ListOperation α}
    (accepted : operation.accepted = other.accepted)
    (counted : operation.checkCounts origin fields.length =
      other.checkCounts origin fields.length)
    (before : 1 ≤ fields.length → operation.checkBefore origin = other.checkBefore origin)
    (after : 1 ≤ fields.length → operation.checkAfter origin = other.checkAfter origin)
    (combined : ∀ values, values.length = fields.length →
      operation.combine context.range values = other.combine context.range values)
    (finished : operation.finish context.range = other.finish context.range) :
    (Operation.list fields operation).compute origin context =
      (Operation.list fields other).compute origin context := by
  simp only [Operation.compute, counted, accepted]
  cases checked : other.checkCounts origin fields.length with
  | error fault => rfl
  | ok _ =>
      cases reads : context.layers origin other.accepted fields with
      | error fault => rfl
      | ok inputs =>
          have length := (readAll_eq_ok_iff.mp reads).length_eq
          have enough := Nat.le_trans other.one_le_least (least_le_of_checkCounts checked)
          have sameBlend : Grid.blend? (operation.combine context.range)
              (inputs.map InputGrid.grid) =
                Grid.blend? (other.combine context.range)
                  (inputs.map InputGrid.grid) := by
            apply Grid.blend?_congr
            intro values count
            exact combined values (by rw [count, List.length_map, length])
          have applied : operation.apply origin context.range inputs =
              other.apply origin context.range inputs := by
            rw [apply_eq _ (length ▸ counted.trans checked),
              apply_eq _ (length ▸ checked),
              blendLayers, blendLayers, before enough, after enough, sameBlend, finished]
          simp only [Bind.bind, Except.bind, applied]

/-- An operation goes through just where it can blend the layers. -/
theorem compute_eq_ok_iff {computed : Computed α} :
    (Operation.list fields operation).compute origin context = .ok computed ↔
      ∃ inputs, operation.Blends origin context fields inputs ∧
        computed = ⟨operation.outcome context.range inputs, none⟩ := by
  constructor
  · intro success
    obtain ⟨_, counted, reads⟩ := bind_eq_ok.mp success
    obtain ⟨inputs, readInputs, applies⟩ := bind_eq_ok.mp reads
    obtain ⟨result, applied, same⟩ := bind_eq_ok.mp applies
    have read := readAll_eq_ok_iff.mp readInputs
    rw [apply_eq _ (read.length_eq ▸ counted)] at applied
    cases blended : operation.blendLayers origin context.range
        (inputs.map InputGrid.grid) with
    | error fault =>
        rw [blended] at applied
        cases applied
    | ok grid =>
        obtain ⟨before, after, shapes, _⟩ := blendLayers_eq_ok_iff.mp blended
        have blends : operation.Blends origin context fields inputs :=
          ⟨counted, before, after, read, shapes⟩
        exact ⟨inputs, blends, Except.ok.inj (success.symm.trans blends.compute_eq)⟩
  · rintro ⟨inputs, blends, rfl⟩
    exact blends.compute_eq

end ListOperation

end FuzzyGrid
