import FuzzyGrid.Proofs.Number.Extremes
import FuzzyGrid.Proofs.Evaluation.Growth
import FuzzyGrid.Proofs.Grid.Places

/-!
# Numeric tags tell the truth

In exact arithmetic an integer tag promises integral cells and a positive tag
promises positive ones, masked cells apart.  Some tags are taken from the types
of the inputs and some from the cells that have been computed, and a copy has
the tag of its source.  If the tags of the inputs of a model keep their
promises, all tags do that evaluating the model leaves.
-/

namespace FuzzyGrid

variable {K : Type} [ExactNumber K]

/-! ## Positive grids -/

/-- A grid is positive if there are unmasked cells and all of them are. -/
theorem Grid.isPositive_iff {grid : Grid K} :
    grid.isPositive = true ↔
      grid.validValues ≠ [] ∧ ∀ value ∈ grid.validValues, 0 < value := by
  have ofInt_zero : Scalar.ofInt 0 = (0 : K) := Int.cast_zero
  unfold isPositive least?
  rw [Scalar.least?_eq_min?]
  cases least : grid.validValues.min? with
  | none =>
      rw [List.min?_eq_none_iff] at least
      simp [least]
  | some value =>
      obtain ⟨member, atMost⟩ := List.min?_eq_some_iff.mp least
      simp only [Option.any_some, Scalar.lt_iff, ofInt_zero]
      constructor
      · intro positive
        exact ⟨List.ne_nil_of_mem member, fun other isOther =>
          lt_of_lt_of_le positive (atMost other isOther)⟩
      · intro positive
        exact positive.2 value member

/-! ## What tags promise -/

def Scalar.IsIntegral (value : K) : Prop :=
  ∃ integer : Int, value = integer

namespace DataType

/-- The positive variants of numeric tags. -/
def isPositive : DataType → Bool
  | positiveInteger | positiveFloat => true
  | _ => false

theorem isFloat_numeric (float positive : Bool) :
    (numeric float positive).isFloat = float := by
  cases float <;> cases positive <;> rfl

theorem isInteger_numeric (float positive : Bool) :
    (numeric float positive).isInteger = !float := by
  cases float <;> cases positive <;> rfl

theorem isPositive_numeric (float positive : Bool) :
    (numeric float positive).isPositive = positive := by
  cases float <;> cases positive <;> rfl

theorem satisfies_numeric (float positive : Bool) :
    (numeric float positive).satisfies numerics = true := by
  cases float <;> cases positive <;> rfl

theorem satisfies_floatFor (positive : Bool) :
    (numeric true positive).satisfies [.float, .positiveFloat] = true := by
  cases positive <;> rfl

theorem isInteger_of_satisfies {dataType : DataType}
    (numeric : dataType.satisfies numerics = true)
    (notFloat : dataType.isFloat = false) : dataType.isInteger = true := by
  revert numeric notFloat
  cases dataType <;> decide

end DataType

/-- The unmasked cells keep what a tag promises of them. -/
structure Grid.Truthful (grid : Grid K) (dataType : DataType) : Prop where
  integral : dataType.isInteger = true →
    ∀ value ∈ grid.validValues, Scalar.IsIntegral value
  positive : dataType.isPositive = true →
    ∀ value ∈ grid.validValues, 0 < value

/-- A result whose tag is truthful, and that is a layer of data just if it has
a grid. -/
structure Result.Sound (result : Result K) : Prop where
  truthful : ∀ grid, result.grid? = some grid → grid.Truthful result.dataType
  layer : result.isDataLayer = true ↔ result.grid?.isSome = true

theorem Grid.Truthful.sound {grid : Grid K} {dataType : DataType}
    (truthful : grid.Truthful dataType) : (Result.layer grid dataType).Sound := by
  refine ⟨?_, Iff.rfl⟩
  intro other isGrid
  cases isGrid
  exact truthful

theorem Grid.Truthful.trivial {grid : Grid K} {dataType : DataType}
    (notInteger : dataType.isInteger = false)
    (notPositive : dataType.isPositive = false) : grid.Truthful dataType := by
  constructor
  · intro integer
    rw [notInteger] at integer
    cases integer
  · intro positive
    rw [notPositive] at positive
    cases positive

/-- A tag that is positive where the cells are. -/
theorem Grid.Truthful.numeric {grid : Grid K} {float : Bool}
    (integral : float = false →
      ∀ value ∈ grid.validValues, Scalar.IsIntegral value) :
    grid.Truthful (DataType.numeric float grid.isPositive) := by
  constructor
  · intro integer
    rw [DataType.isInteger_numeric, Bool.not_eq_true'] at integer
    exact integral integer
  · intro positive
    rw [DataType.isPositive_numeric] at positive
    exact (isPositive_iff.mp positive).2

theorem fuzzyLayer_sound (range : FuzzyRange K) (grid : Grid K) :
    (fuzzyLayer range grid).Sound :=
  (Grid.Truthful.trivial rfl rfl).sound

theorem LayerOperation.finish_sound (range : FuzzyRange K)
    (operation : LayerOperation K) (grid : Grid K) :
    (operation.finish range grid).Sound := by
  unfold finish
  split
  · exact (Grid.Truthful.trivial rfl rfl).sound
  · exact (Grid.Truthful.trivial rfl rfl).sound
  · exact fuzzyLayer_sound range grid

/-! ## Integral blends -/

theorem Grid.foldValues_closed {property : K → Prop} {function : K → K → K}
    (closed : ∀ first second, property first → property second →
      property (function first second)) {values : List K} (some : values ≠ [])
    (all : ∀ value ∈ values, property value) :
    property (foldValues function values) := by
  obtain ⟨first, rest, rfl⟩ := List.exists_cons_of_ne_nil some
  have ⟨head, tail⟩ := List.forall_mem_cons.mp all
  clear some all
  unfold foldValues
  induction rest generalizing first with
  | nil => exact head
  | cons next rest induction =>
      have ⟨nextHolds, others⟩ := List.forall_mem_cons.mp tail
      exact induction _ (closed first next head nextHolds) others

namespace Scalar.IsIntegral

variable {first second : K}

theorem add (isFirst : IsIntegral first) (isSecond : IsIntegral second) :
    IsIntegral (first + second) := by
  obtain ⟨one, rfl⟩ := isFirst
  obtain ⟨two, rfl⟩ := isSecond
  exact ⟨one + two, (Int.cast_add one two).symm⟩

theorem mul (isFirst : IsIntegral first) (isSecond : IsIntegral second) :
    IsIntegral (first * second) := by
  obtain ⟨one, rfl⟩ := isFirst
  obtain ⟨two, rfl⟩ := isSecond
  exact ⟨one * two, (Int.cast_mul one two).symm⟩

theorem lesser (isFirst : IsIntegral first) (isSecond : IsIntegral second) :
    IsIntegral (Scalar.lesser first second) := by
  rw [lesser_eq_min]
  rcases min_choice first second with same | same
  · rwa [same]
  · rwa [same]

theorem greater (isFirst : IsIntegral first) (isSecond : IsIntegral second) :
    IsIntegral (Scalar.greater first second) := by
  rw [greater_eq_max]
  rcases max_choice first second with same | same
  · rwa [same]
  · rwa [same]

end Scalar.IsIntegral

namespace Operator

/-- The operators whose results are in the float family if an input is. -/
def propagating : List Operator :=
  [sum, multiply, minimum, maximum]

/-- The operators whose tags say whether the computed cells are positive. -/
def measuring : List Operator :=
  [sum, multiply, minimum, maximum, subtract, divide, weightedSum]

end Operator

namespace ListOperation

variable {operation : ListOperation K}

theorem combine_integral (range : FuzzyRange K)
    (propagates : operation.operator ∈ Operator.propagating) {values : List K}
    (some : values ≠ []) (all : ∀ value ∈ values, Scalar.IsIntegral value) :
    Scalar.IsIntegral (operation.combine range values) := by
  cases operation with
  | sum => exact Grid.foldValues_closed (fun _ _ => .add) some all
  | multiply => exact Grid.foldValues_closed (fun _ _ => .mul) some all
  | minimum => exact Grid.foldValues_closed (fun _ _ => .lesser) some all
  | maximum => exact Grid.foldValues_closed (fun _ _ => .greater) some all
  | _ => simp [operator, Operator.propagating] at propagates

/-- The layers of integers that an operation takes are blended to integers. -/
theorem blend_integral (range : FuzzyRange K)
    (propagates : operation.operator ∈ Operator.propagating)
    {grids : List (Grid K)} (some : grids ≠ [])
    (all : ∀ grid ∈ grids, ∀ value ∈ grid.validValues,
      Scalar.IsIntegral value) :
    ∀ value ∈ (Grid.blend (operation.combine range) grids).validValues,
      Scalar.IsIntegral value := by
  intro value member
  obtain ⟨values, shown, rfl⟩ := Grid.mem_validValues_blend member
  apply combine_integral range propagates
  · rintro rfl
    exact some (List.forall₂_nil_right_iff.mp shown)
  · intro cell isCell
    obtain ⟨grid, isGrid, inGrid⟩ := exists_left_of_forall₂ shown isCell
    exact all grid isGrid cell inGrid

theorem finish_eq (range : FuzzyRange K)
    (propagates : operation.operator ∈ Operator.propagating)
    (types : List DataType) (grid : Grid K) :
    operation.finish range types grid =
      .layer grid (DataType.propagate types grid) := by
  cases operation with
  | sum | multiply | minimum | maximum => rfl
  | _ => simp [operator, Operator.propagating] at propagates

omit [ExactNumber K] in
theorem accepted_eq
    (propagates : operation.operator ∈ Operator.propagating) :
    operation.accepted = DataType.numerics := by
  cases operation with
  | sum | multiply | minimum | maximum => rfl
  | _ => simp [operator, Operator.propagating] at propagates

theorem finish_sound (range : FuzzyRange K) {inputs : List (InputGrid K)}
    (some : inputs ≠ [])
    (truthful : ∀ input ∈ inputs, input.grid.Truthful input.dataType)
    (accepted : ∀ input ∈ inputs,
      input.dataType.satisfies operation.accepted = true) :
    (operation.finish range (inputs.map InputGrid.dataType)
      (Grid.blend (operation.combine range)
        (inputs.map InputGrid.grid))).Sound := by
  -- Only these operators can have an integer tag.
  by_cases propagates : operation.operator ∈ Operator.propagating
  · rw [finish_eq range propagates]
    apply Grid.Truthful.sound
    apply Grid.Truthful.numeric
    intro noFloat
    apply blend_integral range propagates
    · simpa using some
    · intro grid isGrid
      obtain ⟨input, isInput, rfl⟩ := List.mem_map.mp isGrid
      apply (truthful input isInput).integral
      apply DataType.isInteger_of_satisfies
      · exact accepted_eq propagates ▸ accepted input isInput
      · rw [List.any_eq_false] at noFloat
        simpa using noFloat _ (List.mem_map_of_mem isInput)
  · cases operation with
    | sum | multiply | minimum | maximum =>
        simp [operator, Operator.propagating] at propagates
    | weightedSum weights => exact (Grid.Truthful.numeric nofun).sound
    | mean => exact (Grid.Truthful.trivial rfl rfl).sound
    | weightedMean weights => exact (Grid.Truthful.trivial rfl rfl).sound
    | _ => exact fuzzyLayer_sound range _

end ListOperation

/-! ## One operation -/

variable {context : ResultContext K} {operation : Operation K}
  {result : Result K}

theorem ResultContext.truthful_of_layer
    (sound : ∀ name result, context.get? name = some result → result.Sound)
    {origin : Origin} {allowed : List DataType} {field : String}
    {input : InputGrid K} (read : context.layer origin allowed field = .ok input) :
    input.grid.Truthful input.dataType ∧
      input.dataType.satisfies allowed = true := by
  obtain ⟨source, held, isLayer, sameType, fits⟩ := layer_eq_ok_iff.mp read
  have isGrid : source.grid? = some input.grid := by
    unfold Result.layerGrid? at isLayer
    split at isLayer
    · exact isLayer
    · cases isLayer
  rw [← sameType]
  exact ⟨(sound field source held).truthful input.grid isGrid, fits⟩

omit [ExactNumber K] in
theorem ResultContext.any_isFloat_iff {origin : Origin} {allowed : List DataType}
    {fields : List String} {inputs : List (InputGrid K)}
    (read : List.Forall₂ (fun field input =>
      context.layer origin allowed field = .ok input) fields inputs) :
    (inputs.map InputGrid.dataType).any DataType.isFloat = true ↔
      ∃ field ∈ fields, ∃ source, context.get? field = some source ∧
        source.dataType.isFloat = true := by
  induction read with
  | nil => simp
  | cons reads _ induction =>
      obtain ⟨source, held, _, same, _⟩ := layer_eq_ok_iff.mp reads
      rw [List.map_cons, List.any_cons, Bool.or_eq_true, induction]
      simp [held, same]

namespace Operation.Yields

theorem sound (yields : operation.Yields context result)
    (before : ∀ name result, context.get? name = some result →
      result.Sound) : result.Sound := by
  cases yields with
  | copy held => exact before _ _ held
  | report => exact ⟨nofun, by simp [Result.grid?]⟩
  | layer function read => exact LayerOperation.finish_sound _ _ _
  | pair readLeft readRight shape => exact (Grid.Truthful.numeric nofun).sound
  | @list origin fields operation inputs shape some_ read shapes =>
      apply ListOperation.finish_sound _ some_
      · intro input member
        obtain ⟨field, _, reads⟩ := exists_left_of_forall₂ read member
        exact (ResultContext.truthful_of_layer before reads).1
      · intro input member
        obtain ⟨field, _, reads⟩ := exists_left_of_forall₂ read member
        exact (ResultContext.truthful_of_layer before reads).2

theorem satisfies_returns (yields : operation.Yields context result) :
    result.dataType.satisfies operation.operator.returns = true := by
  cases yields with
  | copy held => simp [Operation.operator, Operator.returns, DataType.satisfies,
      DataType.fits]
  | report => rfl
  | @layer origin field operation input function read => cases operation <;> rfl
  | @pair origin first second operation left right readLeft readRight shape =>
      cases operation <;> exact DataType.satisfies_floatFor _
  | @list origin fields operation inputs shape some_ read shapes =>
      cases operation with
      | sum | multiply | minimum | maximum =>
          exact DataType.satisfies_numeric _ _
      | weightedSum weights => exact DataType.satisfies_floatFor _
      | _ => rfl

theorem isFloat_iff (yields : operation.Yields context result)
    (propagates : operation.operator ∈ Operator.propagating) :
    result.dataType.isFloat = true ↔
      ∃ field ∈ operation.fields, ∃ source,
        context.get? field = some source ∧ source.dataType.isFloat = true := by
  cases yields with
  | copy | report => simp [Operation.operator, Operator.propagating] at propagates
  | @layer origin field operation =>
      cases operation <;>
        simp [Operation.operator, LayerOperation.operator,
          Operator.propagating] at propagates
  | @pair origin first second operation =>
      cases operation <;>
        simp [Operation.operator, PairOperation.operator,
          Operator.propagating] at propagates
  | @list origin fields operation inputs shape some_ read shapes =>
      rw [ListOperation.finish_eq context.range propagates]
      simp only [Result.layer, DataType.propagate, DataType.isFloat_numeric]
      exact ResultContext.any_isFloat_iff read

theorem isPositive_iff (yields : operation.Yields context result)
    (measures : operation.operator ∈ Operator.measuring) :
    result.dataType.isPositive = true ↔
      ∃ grid, result.grid? = some grid ∧ grid.validValues ≠ [] ∧
        ∀ value ∈ grid.validValues, 0 < value := by
  have measured : ∀ (float : Bool) (grid : Grid K),
      (Result.layer grid (DataType.numeric float grid.isPositive)).dataType.isPositive =
        true ↔
      ∃ other, (Result.layer grid (DataType.numeric float grid.isPositive)).grid? =
        some other ∧ other.validValues ≠ [] ∧
          ∀ value ∈ other.validValues, 0 < value := by
    intro float grid
    simp only [Result.layer, Result.grid?, DataType.isPositive_numeric,
      Grid.isPositive_iff, Option.some.injEq, exists_eq_left']
  cases yields with
  | copy | report => simp [Operation.operator, Operator.measuring] at measures
  | @layer origin field operation =>
      cases operation <;>
        simp [Operation.operator, LayerOperation.operator,
          Operator.measuring] at measures
  | pair readLeft readRight shape => exact measured true _
  | @list origin fields operation inputs shape some_ read shapes =>
      cases operation with
      | sum | multiply | minimum | maximum => exact measured _ _
      | weightedSum weights => exact measured true _
      | _ => simp [Operation.operator, ListOperation.operator,
          Operator.measuring] at measures

end Operation.Yields

/-! ## Whole runs -/

/-- Where the input layers of a model are sound, so is everything that
evaluating the model leaves: tags are truthful, and the layers of data are the
results with a grid.  The tag of each node's result is one that its operator
announces.  Sums, products, minima and maxima are float just if an input is,
and their tags, and those of differences, quotients and weighted sums, are
positive just if there are unmasked cells and all of them are positive. -/
theorem Model.tags_sound {model : Model K} {range : FuzzyRange K}
    {context : ResultContext K} (leaves : model.Leaves range context)
    (inputs : ∀ input ∈ model.inputs, input.2.Sound) :
    (∀ name result, context.get? name = some result → result.Sound) ∧
    ∀ node ∈ model.nodes, ∀ result, context.get? node.name = some result →
      result.dataType.satisfies node.operator.returns = true ∧
      (node.operator ∈ Operator.propagating →
        (result.dataType.isFloat = true ↔
          ∃ field ∈ node.operation.fields, ∃ source,
            context.get? field = some source ∧
              source.dataType.isFloat = true)) ∧
      (node.operator ∈ Operator.measuring →
        (result.dataType.isPositive = true ↔
          ∃ grid, result.grid? = some grid ∧ grid.validValues ≠ [] ∧
            ∀ value ∈ grid.validValues, 0 < value)) := by
  constructor
  · apply leaves.grown.forall_results inputs
    intro node _ before _ sound result yields
    exact yields.sound sound
  · intro node member result held
    have yields := leaves.yields member held
    rw [← node.operator_eq]
    exact ⟨yields.satisfies_returns, yields.isFloat_iff, yields.isPositive_iff⟩

namespace Sample

/-- The sums of the small exact model are positive floats, since one of their
inputs is float and the only sum that is not masked is positive. -/
theorem tags_sound_densities :
    let context := ((densities 0).evaluate unstarted).1.context
    let sums : Grid ℚ := ⟨1, 3, [⟨6, false⟩, ⟨6, true⟩, ⟨0, true⟩]⟩
    context.get? "Both" = some (.layer sums .positiveFloat) ∧
      (∀ name result, context.get? name = some result → result.Sound) ∧
      DataType.positiveFloat.satisfies Operator.sum.returns = true ∧
      (∃ field ∈ ["Count", "Density"], ∃ source,
        context.get? field = some source ∧ source.dataType.isFloat = true) ∧
      ∃ grid, some sums = some grid ∧ grid.validValues ≠ [] ∧
        ∀ value ∈ grid.validValues, 0 < value := by
  intro context sums
  have leaves : (densities 0).Leaves .standard context :=
    .sequential (.ofFiles [])
  have held : context.get? "Both" = some (.layer sums .positiveFloat) := by
    decide +kernel
  have countsSound : (counts 0).Sound := by
    have shown : ∀ grid, (counts 0).grid? = some grid →
        ∀ value ∈ grid.validValues, value = 4 ∨ value = 6 := by
      intro grid isGrid value member
      cases isGrid
      simpa [Grid.validValues, Cell.valid?] using member
    refine ⟨fun grid isGrid => ⟨?_, ?_⟩, Iff.rfl⟩
    · intro _ value member
      rcases shown grid isGrid value member with rfl | rfl
      · exact ⟨4, rfl⟩
      · exact ⟨6, rfl⟩
    · intro _ value member
      rcases shown grid isGrid value member with rfl | rfl
      · decide
      · decide
  have inputs : ∀ input ∈ (densities 0).inputs, input.2.Sound := by
    intro input member
    simp only [densities, List.mem_cons, List.not_mem_nil, or_false] at member
    rcases member with rfl | rfl
    · exact countsSound
    · exact (Grid.Truthful.trivial rfl rfl).sound
  obtain ⟨sound, nodes⟩ := Model.tags_sound leaves inputs
  obtain ⟨fits, floats, positive⟩ :=
    nodes both List.mem_cons_self _ held
  exact ⟨held, sound, fits, (floats (by decide)).mp rfl,
    (positive (by decide)).mp rfl⟩

end Sample

end FuzzyGrid
