import FuzzyGrid.Proofs.Evaluation.Growth
import FuzzyGrid.Proofs.Number.Exact
import FuzzyGrid.Proofs.Operator.Signature

/-!
# Where masked cells come from

A layer is drawn from the layers that its node reads as values, and from those
that these are drawn from.  They all have one shape.  A cell is masked if some
input that the layer is drawn from is masked there, or if somewhere on the way
an unmasked zero has been divided by; no other cell is.
-/

namespace FuzzyGrid

open List (Forall₂)
open Relation (ReflTransGen)

variable {α : Type}

namespace Grid

/-- As many cells as the shape says, counted in 64-bit words. -/
def Sized (grid : Grid α) : Prop :=
  grid.size = wordCount grid.rows grid.cols

theorem Sized.size_eq {first second : Grid α} (sized : first.Sized)
    (others : second.Sized) (shape : first.shape = second.shape) :
    first.size = second.size := by
  obtain ⟨rows, cols⟩ := Prod.mk.inj shape
  rw [sized, others, rows, cols]

theorem sized_of_withMask {rows cols : Nat} {values : List α}
    {mask : List Bool} {grid : Grid α} (few : values.length < UInt64.size)
    (made : withMask rows cols values mask = .ok grid) : grid.Sized := by
  unfold withMask at made
  split at made
  · cases made
  · rename_i counted
    split at made
    · cases made
    · rename_i sameLength
      cases made
      simp only [ne_eq, Decidable.not_not] at counted sameLength
      rw [Nat.mod_eq_of_lt few] at counted
      simp [Sized, size, cellsOf, sameLength, counted]

theorem Sized.of_size_eq {grid source : Grid α} (sized : source.Sized)
    (shape : grid.shape = source.shape) (size : grid.size = source.size) :
    grid.Sized := by
  obtain ⟨rows, cols⟩ := Prod.mk.inj shape
  rw [Sized, size, rows, cols]
  exact sized

theorem size_of_replaceMask {grid masked : Grid α} {mask : List Bool}
    (replaced : grid.replaceMask mask = .ok masked) :
    masked.shape = grid.shape ∧ masked.size = grid.size := by
  unfold replaceMask at replaced
  split at replaced
  · rename_i fits
    cases replaced
    exact ⟨rfl, by simp [size, cellsOf, values, fits]⟩
  · cases replaced

theorem Sized.replaceMask {grid masked : Grid α} {mask : List Bool}
    (sized : grid.Sized) (replaced : grid.replaceMask mask = .ok masked) :
    masked.Sized := by
  obtain ⟨shape, size⟩ := size_of_replaceMask replaced
  exact sized.of_size_eq shape size

theorem length_mask (grid : Grid α) : grid.mask.length = grid.size := by
  simp [mask, size]

theorem mask_clampUnmasked [Scalar α] (grid : Grid α) (low high : α) :
    (grid.clampUnmasked low high).mask = grid.mask := by
  rw [mask_eq, mask_eq, seen_clampUnmasked]
  simp [Function.comp_def]

/-- A grid that is masked as another one of its shape. -/
structure Framed (grid source : Grid α) : Prop where
  shape : grid.shape = source.shape
  mask : grid.mask = source.mask

theorem Framed.size_eq {grid source : Grid α} (framed : grid.Framed source) :
    grid.size = source.size := by
  rw [← length_mask, ← length_mask, framed.mask]

theorem Framed.sized {grid source : Grid α} (framed : grid.Framed source)
    (sized : source.Sized) : grid.Sized :=
  sized.of_size_eq framed.shape framed.size_eq

theorem Framed.maskedAt_iff {grid source : Grid α} (framed : grid.Framed source)
    {place : Nat} : grid.MaskedAt place ↔ source.MaskedAt place := by
  rw [MaskedAt, MaskedAt, framed.mask]

end Grid

/-- Input layers are sized as they are made of rows. -/
theorem InputLayer.sized_of_toGrid {input : InputLayer α} {grid : Grid α}
    (few : input.rows.flatten.length < UInt64.size)
    (made : input.toGrid = .ok grid) : grid.Sized := by
  unfold toGrid at made
  split at made
  · cases made
  · rename_i unmasked ofRows
    have sized : unmasked.Sized := by
      unfold Grid.ofRows at ofRows
      split at ofRows
      · cases ofRows
      · exact Grid.sized_of_withMask few ofRows
    split at made
    · cases made
      exact sized
    · split at made
      · split at made
        · rename_i masked replaced
          cases made
          exact sized.replaceMask replaced
        · cases made
      · cases made

section

variable [Scalar α]

theorem fuzzyLayer_framed (range : FuzzyRange α) {grid source layer : Grid α}
    (framed : grid.Framed source)
    (isLayer : (fuzzyLayer range grid).layerGrid? = some layer) :
    layer.Framed source := by
  cases isLayer
  refine ⟨framed.shape, ?_⟩
  rw [Grid.mask_clampUnmasked, framed.mask]

theorem LayerOperation.finish_framed {range : FuzzyRange α}
    {operation : LayerOperation α} {grid source layer : Grid α}
    (framed : grid.Framed source)
    (isLayer : (operation.finish range grid).layerGrid? = some layer) :
    layer.Framed source := by
  unfold finish at isLayer
  split at isLayer
  · cases isLayer
    exact framed
  · cases isLayer
    exact framed
  · exact fuzzyLayer_framed range framed isLayer

theorem ListOperation.finish_framed {range : FuzzyRange α}
    {operation : ListOperation α} {types : List DataType} {grid layer : Grid α}
    (isLayer : (operation.finish range types grid).layerGrid? = some layer) :
    layer.Framed grid := by
  unfold finish at isLayer
  split at isLayer
  case h_8 => exact fuzzyLayer_framed range ⟨rfl, rfl⟩ isLayer
  all_goals
    cases isLayer
    exact ⟨rfl, rfl⟩

namespace PairOperation

variable {operation : PairOperation} {first second : Grid α}

theorem size_merge (sizes : first.size = second.size) :
    (operation.merge first second).size = first.size := by
  rw [merge, Grid.size, List.length_zipWith]
  exact Nat.min_eq_left (Nat.le_of_eq sizes)

theorem sized_merge (shape : first.shape = second.shape) (sized : first.Sized)
    (others : second.Sized) : (operation.merge first second).Sized :=
  sized.of_size_eq rfl (size_merge (sized.size_eq others shape))

theorem maskedAt_merge_iff (sizes : first.size = second.size) {place : Nat} :
    (operation.merge first second).MaskedAt place ↔
      (first.MaskedAt place ∨ second.MaskedAt place) ∨
        operation = .divide ∧ ∃ value, second.seen[place]? = some (some value) ∧
          Scalar.eq value zero = true := by
  unfold Grid.MaskedAt Grid.mask Grid.seen merge
  rw [List.getElem?_map, List.getElem?_zipWith, List.getElem?_map,
    List.getElem?_map, List.getElem?_map]
  cases atFirst : first.cells[place]? with
  | none =>
      have beyond : second.cells[place]? = none := by
        rw [List.getElem?_eq_none_iff] at atFirst ⊢
        exact Nat.le_trans (Nat.le_of_eq sizes.symm) atFirst
      simp [beyond]
  | some one =>
      cases atSecond : second.cells[place]? with
      | none =>
          rw [List.getElem?_eq_none_iff] at atSecond
          have beyond : first.cells[place]? = none :=
            List.getElem?_eq_none_iff.mpr
              (Nat.le_trans (Nat.le_of_eq sizes) atSecond)
          rw [beyond] at atFirst
          cases atFirst
      | some two =>
          cases operation with
          | subtract => simp [cell, Cell.merge]
          | divide =>
              cases masked : two.masked <;> simp [cell, Cell.valid?, masked]

end PairOperation

end

/-! ## One operation -/

namespace ResultContext

def layerGrid? (context : ResultContext α) (name : String) : Option (Grid α) :=
  (context.get? name).bind Result.layerGrid?

theorem layerGrid?_of_layer {context : ResultContext α} {origin : Origin}
    {allowed : List DataType} {field : String} {input : InputGrid α}
    (read : context.layer origin allowed field = .ok input) :
    context.layerGrid? field = some input.grid := by
  obtain ⟨result, held, layer, _⟩ := layer_eq_ok_iff.mp read
  rw [layerGrid?, held]
  exact layer

theorem layerGrid?_mono {earlier later : ResultContext α}
    (grows : later.Extends earlier) {name : String} {grid : Grid α}
    (held : earlier.layerGrid? name = some grid) :
    later.layerGrid? name = some grid := by
  obtain ⟨result, found, layer⟩ := Option.bind_eq_some_iff.mp held
  rw [layerGrid?, grows.kept name (by simp [found]), found]
  exact layer

end ResultContext

variable [Scalar α]

namespace Operation

/-- The operation divides by a layer that shows a zero at the place. -/
def DividesByZero (operation : Operation α) (context : ResultContext α)
    (place : Nat) : Prop :=
  ∃ dividend divisor layer value, operation = .pair dividend divisor .divide ∧
    context.layerGrid? divisor = some layer ∧
    layer.seen[place]? = some (some value) ∧ Scalar.eq value zero = true

/-- How the layer that an operation yields is drawn from those that it reads:
they have its shape, and its mask is theirs but for divisions by zero. -/
structure Drawn (operation : Operation α) (context : ResultContext α)
    (grid : Grid α) : Prop where
  sized : grid.Sized
  shapes : ∀ field ∈ operation.fields, ∃ source,
    context.layerGrid? field = some source ∧ source.shape = grid.shape
  masked : ∀ place, grid.MaskedAt place ↔
    (∃ field ∈ operation.fields, ∃ source,
      context.layerGrid? field = some source ∧ source.MaskedAt place) ∨
    operation.DividesByZero context place

variable {context : ResultContext α}

omit [Scalar α] in
private theorem exists_field_iff {fields : List String}
    {inputs : List (InputGrid α)}
    (read : Forall₂ (fun field (input : InputGrid α) =>
      context.layerGrid? field = some input.grid) fields inputs)
    {property : Grid α → Prop} :
    (∃ field ∈ fields, ∃ source, context.layerGrid? field = some source ∧
        property source) ↔
      ∃ input ∈ inputs, property input.grid := by
  induction read with
  | nil => simp
  | cons held _ induction => simp [held, induction]

theorem list_drawn {fields : List String} {operation : ListOperation α}
    {inputs : List (InputGrid α)} {shape : Nat × Nat} {grid : Grid α}
    (sized : ∀ input ∈ inputs, input.grid.Sized) (some_ : inputs ≠ [])
    (read : Forall₂ (fun field (input : InputGrid α) =>
      context.layerGrid? field = some input.grid) fields inputs)
    (shapes : ∀ input ∈ inputs, input.grid.shape = shape)
    (framed : grid.Framed (Grid.blend (operation.combine context.range)
      (inputs.map InputGrid.grid))) :
    (Operation.list fields operation).Drawn context grid := by
  obtain ⟨first, rest, rfl⟩ := List.exists_cons_of_ne_nil some_
  have sizes : ∀ grid ∈ (first :: rest).map InputGrid.grid,
      grid.size = first.grid.size := by
    intro grid member
    obtain ⟨input, isInput, rfl⟩ := List.mem_map.mp member
    have firstShape := shapes first List.mem_cons_self
    exact (sized input isInput).size_eq (sized first List.mem_cons_self)
      ((shapes input isInput).trans firstShape.symm)
  have gridShape : grid.shape = shape :=
    framed.shape.trans (shapes first List.mem_cons_self)
  have someGrids : (first :: rest).map InputGrid.grid ≠ [] :=
    List.cons_ne_nil _ _
  have blendSized : (Grid.blend (operation.combine context.range)
      ((first :: rest).map InputGrid.grid)).Sized := by
    rw [Grid.Sized, Grid.size_blend _ someGrids sizes]
    exact sized first List.mem_cons_self
  refine ⟨framed.sized blendSized, ?_, ?_⟩
  · intro field member
    obtain ⟨input, isInput, held⟩ := exists_right_of_forall₂ read member
    exact ⟨input.grid, held, (shapes input isInput).trans gridShape.symm⟩
  · intro place
    have noDivision :
        ¬(Operation.list fields operation).DividesByZero context place := by
      rintro ⟨_, _, _, _, same, _⟩
      cases same
    have fields : (∃ field ∈ (Operation.list fields operation).fields,
        ∃ source, context.layerGrid? field = some source ∧
          source.MaskedAt place) ↔ _ := exists_field_iff read
    rw [fields, or_iff_left noDivision, framed.maskedAt_iff,
      Grid.maskedAt_blend_iff _ someGrids sizes]
    simp

theorem Yields.drawn {operation : Operation α} {result : Result α}
    {grid : Grid α} (yields : operation.Yields context result)
    (isLayer : result.layerGrid? = some grid)
    (sized : ∀ name source, context.layerGrid? name = some source →
      source.Sized) :
    operation.Drawn context grid := by
  cases yields with
  | @copy field _ held =>
      have source : context.layerGrid? field = some grid := by
        rw [ResultContext.layerGrid?, held]
        exact isLayer
      refine ⟨sized field grid source, ?_, ?_⟩
      · intro other member
        rw [List.mem_singleton.mp member]
        exact ⟨grid, source, rfl⟩
      · intro place
        simp [fields, source, DividesByZero]
  | report => cases isLayer
  | @layer origin field operation input function read =>
      have source := ResultContext.layerGrid?_of_layer read
      have mapped : (input.grid.map function).Framed input.grid :=
        ⟨rfl, input.grid.mask_map function⟩
      have framed := LayerOperation.finish_framed mapped isLayer
      refine ⟨framed.sized (sized field _ source), ?_, ?_⟩
      · intro other member
        rw [List.mem_singleton.mp member]
        exact ⟨_, source, framed.shape.symm⟩
      · intro place
        simp [fields, source, DividesByZero, framed.maskedAt_iff]
  | @pair origin first second operation left right readLeft readRight shape =>
      -- Cells are paired up to the shorter grid, so the sizes are needed here.
      have sourceLeft := ResultContext.layerGrid?_of_layer readLeft
      have sourceRight := ResultContext.layerGrid?_of_layer readRight
      have sizedLeft := sized first _ sourceLeft
      have sizedRight := sized second _ sourceRight
      cases isLayer
      refine ⟨PairOperation.sized_merge shape sizedLeft sizedRight, ?_, ?_⟩
      · intro field member
        simp only [fields, List.mem_cons, List.not_mem_nil, or_false] at member
        rcases member with same | same
        · exact ⟨left.grid, same ▸ sourceLeft, rfl⟩
        · exact ⟨right.grid, same ▸ sourceRight, shape.symm⟩
      · intro place
        rw [PairOperation.maskedAt_merge_iff (sizedLeft.size_eq sizedRight shape)]
        simp [fields, sourceLeft, sourceRight, DividesByZero]
  | list some_ read shapes =>
      have held := read.imp fun _ _ => ResultContext.layerGrid?_of_layer
      refine list_drawn ?_ some_ held shapes (ListOperation.finish_framed isLayer)
      intro input member
      obtain ⟨field, _, source⟩ := exists_left_of_forall₂ held member
      exact sized field _ source

end Operation

/-! ## Values by their arguments -/

omit [Scalar α] in
/-- A command that has passed the check has declared arguments only. -/
theorem Signature.exists_spec_of_check {signature : Signature}
    {command : Command α} (checked : signature.check command = .ok ())
    {arg : String} {value : ArgValue α} (present : command.get? arg = some value) :
    ∃ spec ∈ signature.specs, spec.name = arg := by
  unfold check at checked
  split at checked
  · cases checked
  · have entry := checkAll_eq_ok_iff.mp checked (arg, value)
      (NameTable.mem_of_lookup present)
    unfold checkArgument at entry
    split at entry
    · cases entry
    · rename_i spec found
      exact ⟨spec, declared_of_spec? found⟩

namespace Operator

/-- The arguments under which a command names results to be read as values. -/
def valueReferences : List String :=
  ["InFieldName", "InFieldNames", "A", "B"]

theorem mem_valueReferences (operator : Operator) :
    ∀ arg ∈ operator.valueArguments, arg ∈ valueReferences := by
  cases operator <;> decide

/-- An operator that declares such an argument reads it. -/
theorem mem_valueArguments (operator : Operator) :
    ∀ spec ∈ operator.signature.specs, spec.name ∈ valueReferences →
      spec.name ∈ operator.valueArguments := by
  cases operator <;> decide

end Operator

/-- The names that the operation of a node looks up are the texts of these
arguments, whatever its operator. -/
theorem Node.mem_fields_iff (node : Node α) {name : String} :
    name ∈ node.operation.fields ↔
      ∃ arg ∈ Operator.valueReferences, name ∈ node.command.textsOf arg := by
  rw [node.fields_eq, List.mem_flatMap]
  constructor
  · rintro ⟨arg, isArgument, isText⟩
    exact ⟨arg, node.operator.mem_valueReferences arg isArgument, isText⟩
  · rintro ⟨arg, isReference, isText⟩
    refine ⟨arg, ?_, isText⟩
    unfold Command.textsOf at isText
    split at isText
    · rename_i value present
      have checked := (Command.checked_of_interpret node.interpreted).1
      obtain ⟨spec, declared, rfl⟩ :=
        Signature.exists_spec_of_check checked present
      exact node.operator.mem_valueArguments spec declared isReference
    · cases isText

/-! ## Whole runs -/

namespace Model

/-- The node of a result names another one in an argument whose values it
reads. -/
def Feeds (model : Model α) (name source : String) : Prop :=
  ∃ node ∈ model.nodes, node.name = name ∧
    ∃ arg ∈ Operator.valueReferences, source ∈ node.command.textsOf arg

theorem feeds_iff {model : Model α} {name source : String} :
    model.Feeds name source ↔
      ∃ node ∈ model.nodes, node.name = name ∧
        source ∈ node.operation.fields := by
  simp only [Feeds, Node.mem_fields_iff]

/-- A result that comes from another one, over any number of nodes or none. -/
def Draws (model : Model α) : String → String → Prop :=
  ReflTransGen model.Feeds

/-- An input layer that a result is drawn from is masked at the place. -/
def MaskedInput (model : Model α) (name : String) (place : Nat) : Prop :=
  ∃ input ∈ model.inputs, model.Draws name input.1 ∧
    ∃ layer, input.2.layerGrid? = some layer ∧ layer.MaskedAt place

/-- A node that a result is drawn from, or its own, divides by zero at the
place. -/
def DividedByZero (model : Model α) (context : ResultContext α) (name : String)
    (place : Nat) : Prop :=
  ∃ node ∈ model.nodes, model.Draws name node.name ∧
    node.operation.DividesByZero context place

variable {model : Model α} {range : FuzzyRange α} {context : ResultContext α}
  {name : String} {grid : Grid α} {place : Nat}

theorem MaskedInput.feed {source : String} (feeds : model.Feeds name source)
    (masked : model.MaskedInput source place) : model.MaskedInput name place := by
  obtain ⟨input, isInput, draws, layer⟩ := masked
  exact ⟨input, isInput, .head feeds draws, layer⟩

theorem DividedByZero.feed {source : String} (feeds : model.Feeds name source)
    (divided : model.DividedByZero context source place) :
    model.DividedByZero context name place := by
  obtain ⟨node, member, draws, divides⟩ := divided
  exact ⟨node, member, .head feeds draws, divides⟩

theorem DividedByZero.mono {later : ResultContext α}
    (divided : model.DividedByZero context name place)
    (grows : later.Extends context) : model.DividedByZero later name place := by
  obtain ⟨node, member, draws, dividend, divisor, layer, value, is, held, zero⟩ :=
    divided
  exact ⟨node, member, draws, dividend, divisor, layer, value, is,
    ResultContext.layerGrid?_mono grows held, zero⟩

/-- The layers among the inputs have as many cells as their shapes say. -/
def InputsSized (model : Model α) : Prop :=
  ∀ input ∈ model.inputs, ∀ grid, input.2.layerGrid? = some grid → grid.Sized

/-- An input of a model that has been read from its description comes from an
input layer there. -/
theorem exists_source_of_toModel {file : ModelFile α}
    (read : file.toModel = .ok model) {input : String × Result α}
    (member : input ∈ model.inputs) :
    ∃ source ∈ file.inputs, ∃ grid, source.toGrid = .ok grid ∧
      input.2 = .layer grid source.dataType := by
  obtain ⟨nodes, _, rest⟩ := bind_eq_ok.mp read
  obtain ⟨inputs, readInputs, made⟩ := bind_eq_ok.mp rest
  cases made
  obtain ⟨source, isSource, reads⟩ :=
    exists_left_of_forall₂ (readAll_eq_ok_iff.mp readInputs) member
  unfold ModelFile.readInput InputLayer.toLayer at reads
  cases makes : source.toGrid with
  | error fault =>
      rw [makes] at reads
      cases reads
  | ok layer =>
      rw [makes] at reads
      cases reads
      exact ⟨source, isSource, layer, makes, rfl⟩

/-- The inputs of a model that has been read from its description are sized. -/
theorem inputsSized_of_toModel {file : ModelFile α}
    (few : ∀ input ∈ file.inputs, input.rows.flatten.length < UInt64.size)
    (read : file.toModel = .ok model) : model.InputsSized := by
  intro input member grid isLayer
  obtain ⟨source, isSource, layer, makes, same⟩ :=
    exists_source_of_toModel read member
  rw [same] at isLayer
  cases isLayer
  exact source.sized_of_toGrid (few source isSource) makes

theorem Grown.sized (grown : model.Grown range context)
    (inputs : model.InputsSized) (held : context.layerGrid? name = some grid) :
    grid.Sized := by
  let good (result : Result α) : Prop :=
    ∀ grid, result.layerGrid? = some grid → grid.Sized
  have nodes : ∀ node ∈ model.nodes, ∀ context : ResultContext α,
      context.range = range →
      (∀ name result, context.get? name = some result → good result) →
      ∀ result, node.operation.Yields context result → good result := by
    intro node _ context _ before result yields grid isLayer
    refine (yields.drawn isLayer ?_).sized
    intro field source held
    obtain ⟨result, found, isLayer⟩ := Option.bind_eq_some_iff.mp held
    exact before field result found source isLayer
  have all : ∀ name result, context.get? name = some result → good result :=
    grown.forall_results inputs nodes
  obtain ⟨result, found, isLayer⟩ := Option.bind_eq_some_iff.mp held
  exact all name result found grid isLayer

/-- Every masked cell comes from a masked input or from a division. -/
theorem Grown.masked_source (grown : model.Grown range context)
    (inputs : model.InputsSized) (held : context.layerGrid? name = some grid)
    (masked : grid.MaskedAt place) :
    model.MaskedInput name place ∨ model.DividedByZero context name place := by
  -- The induction is on how the context came about.  What a node reads was
  -- there before the node, so nothing need be known of the order of the nodes.
  induction grown generalizing name grid with
  | empty => cases held
  | @input _ grown _ published result _ member publishes induction =>
      have grows := ResultContext.extends_publish publishes
      have split := held
      rw [ResultContext.layerGrid?, ResultContext.get?_publish publishes] at split
      by_cases same : name = published
      · rw [if_pos same] at split
        exact .inl ⟨_, member, same ▸ .refl, grid, split, masked⟩
      · rw [if_neg same] at split
        exact (induction split masked).imp_right (·.mono grows)
  | @node context grown _ node computed before member success publishes
      induction =>
      have grows := ResultContext.extends_publish publishes
      have split := held
      rw [ResultContext.layerGrid?, ResultContext.get?_publish publishes] at split
      by_cases same : name = node.name
      · rw [if_pos same] at split
        have drawn := (Node.compute_yields success).drawn split
          fun _ _ heldBefore => before.sized inputs heldBefore
        rcases (drawn.masked place).mp masked with
          ⟨field, isField, source, heldSource, maskedSource⟩ | divides
        · have feeds : model.Feeds name field :=
            feeds_iff.mpr ⟨node, member, same.symm, isField⟩
          rcases induction heldSource maskedSource with input | divided
          · exact .inl (input.feed feeds)
          · exact .inr ((divided.feed feeds).mono grows)
        · have divided : model.DividedByZero context name place :=
            ⟨node, member, same ▸ .refl, divides⟩
          exact .inr (divided.mono grows)
      · rw [if_neg same] at split
        exact (induction split masked).imp_right (·.mono grows)

namespace Leaves

theorem drawn (leaves : model.Leaves range context)
    (inputs : model.InputsSized) {node : Node α} (member : node ∈ model.nodes)
    (held : context.layerGrid? node.name = some grid) :
    node.operation.Drawn context grid := by
  obtain ⟨result, found, isLayer⟩ := Option.bind_eq_some_iff.mp held
  exact (leaves.yields member found).drawn isLayer
    fun _ _ heldSource => leaves.grown.sized inputs heldSource

/-- What a layer is drawn from has its shape, and its masked cells stay masked
on the way. -/
theorem of_draws (leaves : model.Leaves range context)
    (inputs : model.InputsSized) {source : String}
    (draws : model.Draws name source)
    (held : context.layerGrid? name = some grid) :
    ∃ other, context.layerGrid? source = some other ∧
      other.shape = grid.shape ∧
        ∀ place, other.MaskedAt place → grid.MaskedAt place := by
  induction draws using ReflTransGen.head_induction_on generalizing grid with
  | refl => exact ⟨grid, held, rfl, fun _ masked => masked⟩
  | head feeds _ induction =>
      obtain ⟨node, member, rfl, isField⟩ := feeds_iff.mp feeds
      have drawn := leaves.drawn inputs member held
      obtain ⟨middle, heldMiddle, shape⟩ := drawn.shapes _ isField
      obtain ⟨other, heldOther, sameShape, masked⟩ := induction heldMiddle
      refine ⟨other, heldOther, sameShape.trans shape, ?_⟩
      intro place maskedAt
      exact (drawn.masked place).mpr
        (.inl ⟨_, isField, middle, heldMiddle, masked place maskedAt⟩)

end Leaves

/-- A layer of data that evaluation leaves has the shape of everything that it
is drawn from.  Its masked cells are those that are masked in some input that
it is drawn from, and those at which it or something that it is drawn from has
been divided by an unmasked zero. -/
theorem mask_provenance (leaves : model.Leaves range context)
    (inputs : model.InputsSized) (held : context.layerGrid? name = some grid) :
    (∀ source, model.Draws name source → ∃ other,
      context.layerGrid? source = some other ∧ other.shape = grid.shape) ∧
    ∀ place, grid.MaskedAt place ↔
      model.MaskedInput name place ∨
        model.DividedByZero context name place := by
  constructor
  · intro source draws
    obtain ⟨other, heldOther, shape, _⟩ := leaves.of_draws inputs draws held
    exact ⟨other, heldOther, shape⟩
  · intro place
    refine ⟨leaves.grown.masked_source inputs held, ?_⟩
    rintro (⟨input, member, draws, layer, isLayer, masked⟩ |
      ⟨node, member, draws, divides⟩)
    · obtain ⟨other, heldOther, _, stays⟩ := leaves.of_draws inputs draws held
      obtain ⟨result, found, isOther⟩ := Option.bind_eq_some_iff.mp heldOther
      rw [leaves.eq_input member found, isLayer] at isOther
      cases isOther
      exact stays place masked
    · obtain ⟨other, heldOther, _, stays⟩ := leaves.of_draws inputs draws held
      have drawn := leaves.drawn inputs member heldOther
      exact stays place ((drawn.masked place).mpr (.inr divides))

end Model

namespace Sample

/-- The sums of the small exact model are masked where an area is zero and
where a count is masked. -/
theorem mask_provenance_densities :
    let context := ((densities 0).evaluate unstarted).1.context
    let sums : Grid ℚ := ⟨1, 3, [⟨6, false⟩, ⟨6, true⟩, ⟨0, true⟩]⟩
    context.layerGrid? "Both" = some sums ∧ (densities 0).InputsSized ∧
      (∀ source, (densities 0).Draws "Both" source → ∃ other,
        context.layerGrid? source = some other ∧ other.shape = sums.shape) ∧
      ∀ place, sums.MaskedAt place ↔
        (densities 0).MaskedInput "Both" place ∨
          (densities 0).DividedByZero context "Both" place := by
  intro context sums
  have leaves : (densities 0).Leaves .standard context :=
    .sequential (.ofFiles [])
  have held : context.layerGrid? "Both" = some sums := by decide +kernel
  have inputs : (densities 0).InputsSized := by
    intro input member grid isLayer
    simp only [densities, List.mem_cons, List.not_mem_nil, or_false] at member
    rcases member with rfl | rfl
    · cases isLayer
      rfl
    · cases isLayer
      rfl
  exact ⟨held, inputs, Model.mask_provenance leaves inputs held⟩

end Sample

end FuzzyGrid
