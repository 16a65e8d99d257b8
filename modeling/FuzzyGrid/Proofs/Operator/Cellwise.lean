import FuzzyGrid.Proofs.Lists.Blending

/-!
# Operations cell by cell

What every kind of operation does once it has its layers.  A conversion of one
layer applies one function to every cell, and chooses the function from the
unmasked cells alone.  An operation on two layers combines them cell by cell.
An operation on a list of layers blends them.  Everything said of results in
general is taken from these three facts and from `Operation.Yields`, which puts
them together.
-/

namespace FuzzyGrid

variable {α : Type}

/-! ## One layer -/

/-- Grids with the same unmasked values are converted by one function, or are
refused alike. -/
def IsConversion (finish : Grid α → Result α)
    (outcome : Grid α → Except (CommandError α) (Result α)) : Prop :=
  ∀ first second : Grid α, first.validValues = second.validValues →
    ∃ choice : Except (CommandError α) (α → α),
      outcome first = choice.map (fun function => finish (first.map function)) ∧
      outcome second = choice.map (fun function => finish (second.map function))

namespace IsConversion

variable {finish : Grid α → Result α}
  {outcome : Grid α → Except (CommandError α) (Result α)}

theorem map (function : α → α) :
    IsConversion finish fun grid => .ok (finish (grid.map function)) :=
  fun _ _ _ => ⟨.ok function, rfl, rfl⟩

theorem keep : IsConversion finish fun grid => .ok (finish grid) := by
  have same : IsConversion finish fun grid => .ok (finish (grid.map id)) :=
    map id
  simpa only [Grid.map_id] using same

theorem fail (error : CommandError α) : IsConversion finish fun _ => .error error :=
  fun _ _ _ => ⟨.error error, rfl, rfl⟩

/-- A conversion may begin with a step that does not look at the layer. -/
theorem bind {β : Type} (step : Except (CommandError α) β)
    {next : β → Grid α → Except (CommandError α) (Result α)}
    (rest : ∀ value, IsConversion finish (next value)) :
    IsConversion finish fun grid => step >>= fun value => next value grid := by
  cases step with
  | error error => exact fail error
  | ok value => exact rest value

theorem exists_map (conversion : IsConversion finish outcome) {grid : Grid α}
    {result : Result α} (success : outcome grid = .ok result) :
    ∃ function, result = finish (grid.map function) := by
  obtain ⟨choice, converts, _⟩ := conversion grid grid rfl
  rw [success] at converts
  cases choice with
  | error error => cases converts
  | ok function => exact ⟨function, Except.ok.inj converts⟩

end IsConversion

variable [Scalar α]

namespace LayerOperation

/-- What becomes of a converted grid. -/
def finish (range : FuzzyRange α) (operation : LayerOperation α)
    (grid : Grid α) : Result α :=
  match operation with
  | normalize _ _ | fromFuzzy _ _ => .layer grid .float
  | _ => fuzzyLayer range grid

variable (origin : Origin)

theorem applyNormalize_isConversion (start stop : α) :
    IsConversion (fun grid => .layer grid .float)
      (applyNormalize origin start stop) := by
  intro first second same
  obtain ⟨least, greatest⟩ := Grid.extremes_eq same
  unfold applyNormalize
  rw [least, greatest]
  split
  · split
    · exact ⟨.error _, rfl, rfl⟩
    · exact ⟨.ok _, rfl, rfl⟩
  · exact ⟨.error _, rfl, rfl⟩

variable (range : FuzzyRange α)

theorem applyLine_isConversion (blamed : String) (trueAt falseAt : α) :
    IsConversion (fuzzyLayer range) (applyLine origin range blamed trueAt falseAt) := by
  unfold applyLine
  split
  · exact .fail _
  · exact .map _

theorem applyThresholds_isConversion (trueAt falseAt : Option α) :
    IsConversion (fuzzyLayer range) (applyThresholds origin range trueAt falseAt) := by
  unfold applyThresholds
  split
  · exact .fail _
  · exact .fail _
  · exact applyLine_isConversion origin range _ _ _

theorem applyToFuzzy_isConversion (trueAt falseAt : Option α)
    (direction : Option (ArgValue α)) :
    IsConversion (fuzzyLayer range)
      (applyToFuzzy origin range trueAt falseAt direction) := by
  intro first second same
  obtain ⟨least, greatest⟩ := Grid.extremes_eq same
  unfold applyToFuzzy
  rw [least, greatest]
  split
  · exact applyThresholds_isConversion origin range _ _ _ _ same
  · split
    · exact ⟨.error _, rfl, rfl⟩
    · split
      · exact applyThresholds_isConversion origin range _ _ _ _ same
      · exact applyThresholds_isConversion origin range _ _ _ _ same
      · exact IsConversion.keep _ _ same

theorem applyToFuzzyZScore_isConversion (trueAt falseAt : α) :
    IsConversion (fuzzyLayer range)
      (applyToFuzzyZScore origin range trueAt falseAt) := by
  intro first second same
  obtain ⟨mean, deviation⟩ := Grid.spread_eq same
  unfold applyToFuzzyZScore
  rw [mean, deviation]
  split
  · exact ⟨.error _, rfl, rfl⟩
  · split
    · exact applyLine_isConversion origin range _ _ _ _ _ same
    · exact IsConversion.keep _ _ same

theorem applyToFuzzyCategory_isConversion (raw : List Int) (fuzzy : List α)
    (other : α) :
    IsConversion (fuzzyLayer range)
      (applyToFuzzyCategory origin range raw fuzzy other) :=
  .bind _ fun _ => .bind _ fun _ => .map _

theorem applyToFuzzyCurve_isConversion (raw : List (Numeral α))
    (fuzzy : List α) :
    IsConversion (fuzzyLayer range) (applyToFuzzyCurve origin range raw fuzzy) :=
  .bind _ fun _ => .map _

theorem applyToFuzzyCurveZScore_isConversion (scores : List (Numeral α))
    (fuzzy : List α) :
    IsConversion (fuzzyLayer range)
      (applyToFuzzyCurveZScore origin range scores fuzzy) := by
  apply IsConversion.bind
  intro _ first second same
  obtain ⟨mean, deviation⟩ := Grid.spread_eq same
  dsimp only
  rw [mean, deviation]
  split
  · exact ⟨.ok _, rfl, rfl⟩
  · exact IsConversion.keep _ _ same

theorem applyToBinary_isConversion (threshold : α) (direction : ArgValue α) :
    IsConversion (fuzzyLayer range)
      (applyToBinary origin range threshold direction) :=
  .bind _ fun _ => .map _

theorem applyFromFuzzy_isConversion (trueAt falseAt : α) :
    IsConversion (fun grid => .layer grid .float)
      (applyFromFuzzy origin range trueAt falseAt) := by
  unfold applyFromFuzzy
  split
  · exact .fail _
  · exact .map _

theorem apply_isConversion (operation : LayerOperation α) :
    IsConversion (operation.finish range) (operation.apply origin range) := by
  cases operation with
  | normalize start stop => exact applyNormalize_isConversion origin start stop
  | toFuzzy trueAt falseAt direction =>
      exact applyToFuzzy_isConversion origin range trueAt falseAt direction
  | toFuzzyZScore trueAt falseAt =>
      exact applyToFuzzyZScore_isConversion origin range trueAt falseAt
  | toFuzzyCategory raw fuzzy other =>
      exact applyToFuzzyCategory_isConversion origin range raw fuzzy other
  | toFuzzyCurve raw fuzzy => exact applyToFuzzyCurve_isConversion origin range raw fuzzy
  | toFuzzyCurveZScore scores fuzzy =>
      exact applyToFuzzyCurveZScore_isConversion origin range scores fuzzy
  | toBinary threshold direction =>
      exact applyToBinary_isConversion origin range threshold direction
  | fromFuzzy trueAt falseAt =>
      exact applyFromFuzzy_isConversion origin range trueAt falseAt
  | fuzzyNot => exact .map range.complement

end LayerOperation

/-! ## Two layers -/

namespace PairOperation

def cell (operation : PairOperation) (first second : Cell α) : Cell α :=
  match operation with
  | subtract => Cell.merge (fun x y => x - y) first second
  | divide => ⟨first.value / second.value,
      first.masked || second.masked || Scalar.eq second.value zero⟩

def merge (operation : PairOperation) (first second : Grid α) : Grid α :=
  { first with
    cells := List.zipWith operation.cell first.cells second.cells }

private theorem cellsOf_quotient (first second : List (Cell α)) :
    Grid.cellsOf
      ((List.zipWith (Cell.merge fun x y => x / y) first second).map Cell.value)
      (List.zipWith (fun masked divisor => masked || Scalar.eq divisor zero)
        ((List.zipWith (Cell.merge fun x y => x / y) first second).map
          Cell.masked)
        (second.map Cell.value)) =
      List.zipWith divide.cell first second := by
  induction first generalizing second with
  | nil => rfl
  | cons one first induction =>
      cases second with
      | nil => rfl
      | cons two second =>
          simpa [Grid.cellsOf, cell, Cell.merge] using induction second

/-- A quotient is made cell by cell, and its mask always fits. -/
theorem quotient_eq (origin : Origin) (first second : Grid α) :
    quotient origin first second =
      if first.shape = second.shape then .ok (divide.merge first second)
      else .error ⟨.shapeMismatch "B" ⟨first.shape, second.shape⟩, origin⟩ := by
  by_cases same : first.shape = second.shape
  · let divided : Grid α := { first with
      cells := List.zipWith (Cell.merge fun x y => x / y) first.cells second.cells }
    have divides : (first.zipWith second .union fun x y => x / y) = .ok divided :=
      if_pos same
    have fits : (List.zipWith
        (fun masked divisor => masked || Scalar.eq divisor zero)
        divided.mask second.values).length = divided.size := by
      simp [divided, Grid.mask, Grid.values, Grid.size]
    rw [quotient, divides, if_pos same]
    simp only [Grid.blame, Bind.bind, Except.bind, Grid.replaceMask, if_pos fits]
    exact congrArg (fun cells => Except.ok (Grid.mk first.rows first.cols cells))
      (cellsOf_quotient first.cells second.cells)
  · simp [quotient, Grid.zipWith, same, Grid.blame, Bind.bind, Except.bind]

theorem apply_eq (origin : Origin) (operation : PairOperation) (first second : Grid α) :
    operation.apply origin first second =
      if first.shape = second.shape then
        .ok (.layer (operation.merge first second)
          (DataType.floatFor (operation.merge first second)))
      else .error ⟨.shapeMismatch "B" ⟨first.shape, second.shape⟩, origin⟩ := by
  by_cases same : first.shape = second.shape
  · rw [if_pos same]
    cases operation with
    | subtract =>
        have subtracts : (first.zipWith second .union fun x y => x - y) =
            .ok (subtract.merge first second) := if_pos same
        rw [apply, subtracts]
        rfl
    | divide =>
        rw [apply, quotient_eq, if_pos same]
        rfl
  · rw [if_neg same]
    cases operation with
    | subtract =>
        have refused : (first.zipWith second .union fun x y => x - y) =
            .error ⟨first.shape, second.shape⟩ := if_neg same
        rw [apply, refused]
        rfl
    | divide =>
        rw [apply, quotient_eq, if_neg same]
        rfl

end PairOperation

/-! ## Operations -/

section

omit [Scalar α]

theorem exists_left_of_forall₂ {β γ : Type} {related : β → γ → Prop}
    {firsts : List β} {seconds : List γ}
    (all : List.Forall₂ related firsts seconds) {second : γ}
    (member : second ∈ seconds) : ∃ first ∈ firsts, related first second := by
  induction all with
  | nil => cases member
  | cons same _ induction =>
      rcases List.mem_cons.mp member with here | later
      · exact ⟨_, List.mem_cons_self, here ▸ same⟩
      · obtain ⟨first, isFirst, other⟩ := induction later
        exact ⟨first, List.mem_cons_of_mem _ isFirst, other⟩

theorem exists_right_of_forall₂ {β γ : Type} {related : β → γ → Prop}
    {firsts : List β} {seconds : List γ}
    (all : List.Forall₂ related firsts seconds) {first : β}
    (member : first ∈ firsts) : ∃ second ∈ seconds, related first second :=
  exists_left_of_forall₂ all.flip member

/-- A layer is read from a result that is a layer of data of an allowed
type. -/
theorem ResultContext.layer_eq_ok_iff {context : ResultContext α} {origin : Origin}
    {allowed : List DataType} {field : String} {input : InputGrid α} :
    context.layer origin allowed field = .ok input ↔
      ∃ result, context.get? field = some result ∧
        result.layerGrid? = some input.grid ∧
        result.dataType = input.dataType ∧
        result.dataType.satisfies allowed = true := by
  obtain ⟨grid, dataType⟩ := input
  unfold layer fetch
  cases held : context.get? field with
  | none => simp
  | some result =>
      cases kind : result.layerGrid? with
      | none => simp [kind]
      | some found =>
          by_cases fits : result.dataType.satisfies allowed
          · simp [kind, fits]
          · simp [kind, fits]

end

/-- A layer that is read and converted is what its operation computes. -/
theorem LayerOperation.compute_of_apply {context : ResultContext α} {origin : Origin}
    {field : String} {operation : LayerOperation α} {input : InputGrid α}
    {result : Result α}
    (read : context.layer origin operation.accepted field = .ok input)
    (applied : operation.apply origin context.range input.grid = .ok result) :
    (Operation.layer field operation).compute origin context = .ok ⟨result, none⟩ := by
  simp only [Operation.compute, read, Bind.bind, Except.bind, applied]
  rfl

/-- What an operation can yield from a context. -/
inductive Operation.Yields (context : ResultContext α) :
    Operation α → Result α → Prop where
  | copy {field : String} {result : Result α}
      (held : context.get? field = some result) :
      Yields context (.copy field) result
  | report {fields : List String} {destination : Option String} :
      Yields context (.report fields destination) ⟨.flag true, .bool, false⟩
  | layer {origin : Origin} {field : String} {operation : LayerOperation α}
      {input : InputGrid α} (function : α → α)
      (read : context.layer origin operation.accepted field = .ok input) :
      Yields context (.layer field operation)
        (operation.finish context.range (input.grid.map function))
  | pair {origin : Origin} {first second : String} {operation : PairOperation}
      {left right : InputGrid α}
      (readLeft : context.layer origin DataType.numerics first = .ok left)
      (readRight : context.layer origin DataType.numerics second = .ok right)
      (shape : left.grid.shape = right.grid.shape) :
      Yields context (.pair first second operation)
        (.layer (operation.merge left.grid right.grid)
          (DataType.floatFor (operation.merge left.grid right.grid)))
  | list {origin : Origin} {fields : List String} {operation : ListOperation α}
      {inputs : List (InputGrid α)} {shape : Nat × Nat}
      (some : inputs ≠ [])
      (read : List.Forall₂ (fun field input =>
        context.layer origin operation.accepted field = .ok input) fields inputs)
      (shapes : ∀ input ∈ inputs, input.grid.shape = shape) :
      Yields context (.list fields operation)
        (operation.finish context.range (inputs.map InputGrid.dataType)
          (Grid.blend (operation.combine context.range)
            (inputs.map InputGrid.grid)))

namespace Operation

variable {origin : Origin}

theorem compute_list_yields {context : ResultContext α} {fields : List String}
    {operation : ListOperation α} {computed : Computed α}
    (success : (Operation.list fields operation).compute origin context =
      .ok computed) :
    Yields context (.list fields operation) computed.result := by
  obtain ⟨inputs, blends, rfl⟩ := ListOperation.compute_eq_ok_iff.mp success
  obtain ⟨first, rest, rfl⟩ := List.exists_cons_of_ne_nil blends.ne_nil
  have shapes : ∀ input ∈ first :: rest, input.grid.shape = first.grid.shape :=
    fun input member =>
      blends.shapes _ (List.mem_map_of_mem member) _ List.mem_cons_self
  exact .list blends.ne_nil blends.read shapes

theorem compute_yields {operation : Operation α} {context : ResultContext α}
    {computed : Computed α} (success : operation.compute origin context = .ok computed) :
    operation.Yields context computed.result := by
  cases operation with
  | copy field =>
      obtain ⟨result, fetched, same⟩ := bind_eq_ok.mp success
      cases same
      unfold ResultContext.fetch at fetched
      split at fetched
      · rename_i held
        cases fetched
        exact .copy held
      · cases fetched
  | report fields destination =>
      obtain ⟨lines, _, same⟩ := bind_eq_ok.mp success
      cases same
      exact .report
  | layer field operation =>
      obtain ⟨input, read, applies⟩ := bind_eq_ok.mp success
      obtain ⟨result, applied, same⟩ := bind_eq_ok.mp applies
      cases same
      obtain ⟨function, rfl⟩ :=
        (operation.apply_isConversion origin context.range).exists_map applied
      exact .layer function read
  | pair first second operation =>
      obtain ⟨left, readLeft, reads⟩ := bind_eq_ok.mp success
      obtain ⟨right, readRight, applies⟩ := bind_eq_ok.mp reads
      obtain ⟨result, applied, same⟩ := bind_eq_ok.mp applies
      cases same
      rw [PairOperation.apply_eq] at applied
      split at applied
      · rename_i shape
        cases applied
        exact .pair readLeft readRight shape
      · cases applied
  | list fields operation => exact compute_list_yields success

end Operation

theorem Node.compute_yields {node : Node α} {context : ResultContext α}
    {computed : Computed α} (success : node.compute context = .ok computed) :
    node.operation.Yields context computed.result :=
  Operation.compute_yields success

end FuzzyGrid
