import FuzzyGrid.Proofs.Masking.Provenance

/-!
# Rectangular grids

A grid is a rectangle if it has as many cells as its rows and columns make.  A
grid that has been made is only known to have as many as 64-bit words can tell
of that, which is less where the product of the shape does not fit a word.  By
either count, no operation makes a grid that is short of cells, or has too many,
of grids that are not.  Input layers that have been read are rectangles.
-/

namespace FuzzyGrid

variable {α : Type} {count : Nat → Nat → Nat}

namespace Grid

/-- A grid has the cells that a count makes of its rows and columns. -/
def Filled (count : Nat → Nat → Nat) (grid : Grid α) : Prop :=
  grid.size = count grid.rows grid.cols

instance (grid : Grid α) : Decidable (grid.Filled count) :=
  inferInstanceAs (Decidable (_ = _))

/-- A grid has a cell for every row and column. -/
def Rectangular (grid : Grid α) : Prop :=
  grid.Filled (· * ·)

/-- Words never tell of more cells than a rectangle has. -/
theorem Sized.size_le {grid : Grid α} (sized : grid.Sized) :
    grid.size ≤ grid.rows * grid.cols := by
  rw [sized, wordCount]
  exact Nat.mod_le _ _

theorem Sized.rectangular_iff {grid : Grid α} (sized : grid.Sized) :
    grid.Rectangular ↔ grid.rows * grid.cols < UInt64.size := by
  rw [Rectangular, Filled, sized, wordCount]
  constructor
  · intro same
    rw [← same]
    exact Nat.mod_lt _ (by decide)
  · exact Nat.mod_eq_of_lt

theorem Filled.of_size_eq {grid source : Grid α} (filled : source.Filled count)
    (shape : grid.shape = source.shape) (size : grid.size = source.size) :
    grid.Filled count := by
  obtain ⟨rows, cols⟩ := Prod.mk.inj shape
  rw [Filled, size, rows, cols]
  exact filled

theorem Filled.size_eq {first second : Grid α} (filled : first.Filled count)
    (others : second.Filled count) (shape : first.shape = second.shape) :
    first.size = second.size := by
  obtain ⟨rows, cols⟩ := Prod.mk.inj shape
  rw [filled, others, rows, cols]

/-- Rows of one length make a rectangle, whatever their number. -/
theorem rectangular_of_ofRows {rows : List (List α)} {grid : Grid α}
    (made : ofRows rows = .ok grid) : grid.Rectangular := by
  unfold ofRows at made
  split at made
  · cases made
  · rename_i even
    have lengths : rows.map List.length =
        List.replicate rows.length (columnCount rows) := by
      simpa [List.eq_replicate_iff] using even
    unfold ofValues withMask at made
    split at made
    · cases made
    · split at made
      · cases made
      · cases made
        simp [Rectangular, Filled, size, cellsOf, -List.map_flatten,
          List.length_flatten, lengths]

end Grid

theorem InputLayer.rectangular_of_toGrid {input : InputLayer α} {grid : Grid α}
    (made : input.toGrid = .ok grid) : grid.Rectangular := by
  unfold toGrid at made
  split at made
  · cases made
  · rename_i unmasked ofRows
    have rectangular := Grid.rectangular_of_ofRows ofRows
    split at made
    · cases made
      exact rectangular
    · split at made
      · split at made
        · rename_i replaced
          cases made
          obtain ⟨shape, size⟩ := Grid.size_of_replaceMask replaced
          exact rectangular.of_size_eq shape size
        · cases made
      · cases made

namespace Result

/-- A result whose grid, if it has one, is filled. -/
def Filled (count : Nat → Nat → Nat) (result : Result α) : Prop :=
  ∀ grid, result.grid? = some grid → grid.Filled count

def Rectangular (result : Result α) : Prop :=
  result.Filled (· * ·)

theorem filled_layer {grid : Grid α} (filled : grid.Filled count)
    (dataType : DataType) : (layer grid dataType).Filled count := by
  intro other isGrid
  cases isGrid
  exact filled

theorem Filled.layerGrid? {result : Result α} {grid : Grid α}
    (filled : result.Filled count) (isLayer : result.layerGrid? = some grid) :
    grid.Filled count := by
  unfold Result.layerGrid? at isLayer
  split at isLayer
  · exact filled grid isLayer
  · cases isLayer

end Result

namespace ResultContext

/-- Every grid among the results is filled. -/
def AllFilled (count : Nat → Nat → Nat) (context : ResultContext α) : Prop :=
  ∀ name result, context.get? name = some result → result.Filled count

/-- Every grid among the results is one that can have been made. -/
def Sized (context : ResultContext α) : Prop :=
  context.AllFilled Grid.wordCount

def Rectangular (context : ResultContext α) : Prop :=
  context.AllFilled (· * ·)

theorem AllFilled.layer {context : ResultContext α} (filled : context.AllFilled count)
    {origin : Origin} {allowed : List DataType} {field : String}
    {input : InputGrid α} (read : context.layer origin allowed field = .ok input) :
    input.grid.Filled count := by
  obtain ⟨result, held, isLayer, _, _⟩ := layer_eq_ok_iff.mp read
  exact (filled field result held).layerGrid? isLayer

end ResultContext

/-! ## Printed results -/

/-- The results that are printed are rectangles, up to the first one that is
missing. -/
def ResultContext.PrintsRectangles (context : ResultContext α) : List String → Prop
  | [] => True
  | field :: rest =>
    ∀ result, context.get? field = some result →
      result.Rectangular ∧ context.PrintsRectangles rest

theorem ResultContext.Rectangular.prints {context : ResultContext α}
    (rectangular : context.Rectangular) (fields : List String) :
    context.PrintsRectangles fields := by
  induction fields with
  | nil => trivial
  | cons field rest induction =>
      exact fun result held => ⟨rectangular field result held, induction⟩

/-- Whatever an operation prints is a rectangle. -/
def Operation.PrintsRectangles (context : ResultContext α) : Operation α → Prop
  | report fields _ => context.PrintsRectangles fields
  | _ => True

theorem ResultContext.Rectangular.printsRectangles {context : ResultContext α}
    (rectangular : context.Rectangular) (operation : Operation α) :
    operation.PrintsRectangles context := by
  cases operation with
  | report fields destination => exact rectangular.prints fields
  | copy _ | layer _ _ | pair _ _ _ | list _ _ => trivial

/-! ## Computed results -/

namespace Grid

theorem Filled.map {grid : Grid α} (filled : grid.Filled count)
    (function : α → α) : (grid.map function).Filled count :=
  filled.of_size_eq rfl (by simp [Grid.map, Grid.size])

theorem filled_blend (combine : List α → α) {grids : List (Grid α)}
    {shape : Nat × Nat} (some : grids ≠ [])
    (filled : ∀ grid ∈ grids, grid.Filled count)
    (shapes : ∀ grid ∈ grids, grid.shape = shape) :
    (blend combine grids).Filled count := by
  obtain ⟨first, rest, rfl⟩ := List.exists_cons_of_ne_nil some
  have isFirst : first ∈ first :: rest := List.mem_cons_self
  have sizes : ∀ grid ∈ first :: rest, grid.size = first.size := by
    intro grid member
    exact (filled grid member).size_eq (filled first isFirst)
      ((shapes grid member).trans (shapes first isFirst).symm)
  exact (filled first isFirst).of_size_eq rfl (size_blend combine some sizes)

end Grid

section

variable [Scalar α]

theorem fuzzyLayer_filled (range : FuzzyRange α) {grid : Grid α}
    (filled : grid.Filled count) : (fuzzyLayer range grid).Filled count := by
  have clamped : (grid.clampUnmasked range.low range.high).Filled count :=
    filled.of_size_eq rfl (by simp [Grid.clampUnmasked, Grid.size])
  exact Result.filled_layer clamped _

theorem LayerOperation.finish_filled (range : FuzzyRange α)
    (operation : LayerOperation α) {grid : Grid α} (filled : grid.Filled count) :
    (operation.finish range grid).Filled count := by
  unfold finish
  split
  · exact Result.filled_layer filled _
  · exact Result.filled_layer filled _
  · exact fuzzyLayer_filled range filled

theorem ListOperation.finish_filled (range : FuzzyRange α)
    (operation : ListOperation α) (types : List DataType) {grid : Grid α}
    (filled : grid.Filled count) :
    (operation.finish range types grid).Filled count := by
  unfold finish
  split
  case h_8 => exact fuzzyLayer_filled range filled
  all_goals exact Result.filled_layer filled _

theorem PairOperation.filled_merge (operation : PairOperation)
    {first second : Grid α} (filled : first.Filled count)
    (others : second.Filled count) (shape : first.shape = second.shape) :
    (operation.merge first second).Filled count :=
  filled.of_size_eq rfl (size_merge (filled.size_eq others shape))

/-- What is computed from filled grids is filled, if it is a grid at all. -/
theorem Operation.Yields.filled {context : ResultContext α}
    {operation : Operation α} {result : Result α}
    (yields : operation.Yields context result) (before : context.AllFilled count) :
    result.Filled count := by
  cases yields with
  | copy held => exact before _ _ held
  | report => exact nofun
  | layer function read =>
      exact LayerOperation.finish_filled _ _ ((before.layer read).map function)
  | pair readLeft readRight shape =>
      exact Result.filled_layer
        (PairOperation.filled_merge _ (before.layer readLeft)
          (before.layer readRight) shape) _
  | @list origin fields operation inputs shape some_ read shapes =>
      have each : ∀ input ∈ inputs, input.grid.Filled count := by
        intro input member
        obtain ⟨field, _, reads⟩ := exists_left_of_forall₂ read member
        exact before.layer reads
      apply ListOperation.finish_filled
      exact Grid.filled_blend _ (by simpa using some_)
        (List.forall_mem_map.mpr each) (List.forall_mem_map.mpr shapes)

namespace Model

variable {model : Model α}

/-- Wherever a run is, all grids in its context are filled if the inputs are. -/
theorem Grown.filled {range : FuzzyRange α} {context : ResultContext α}
    (grown : model.Grown range context)
    (inputs : ∀ input ∈ model.inputs, input.2.Filled count) :
    context.AllFilled count := by
  apply grown.forall_results inputs
  intro node _ context _ before result yields
  exact yields.filled before

/-- The inputs of a model that has been read from its description are
rectangles. -/
theorem rectangular_of_toModel {file : ModelFile α}
    (read : file.toModel = .ok model) :
    ∀ input ∈ model.inputs, input.2.Rectangular := by
  intro input member
  obtain ⟨source, _, layer, makes, same⟩ := exists_source_of_toModel read member
  rw [same]
  exact Result.filled_layer (source.rectangular_of_toGrid makes) _

end Model

end

end FuzzyGrid
