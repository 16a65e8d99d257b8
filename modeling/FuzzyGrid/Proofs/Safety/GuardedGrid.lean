import FuzzyGrid.Operator.Compute
import FuzzyGrid.Proofs.Safety.Guarded

/-!
# Grids and curves with guards

The partial operations among the grid operations: dividing where cells are
mapped, the counts that statistics divide by, the width of a line or of a
segment of a curve, the accesses that gather a stack and those that print a
grid.  A stack is in bounds because grids of one shape have one size.  A grid is
printed in bounds just if it is a rectangle, and not every grid that can be made
is one.
-/

namespace FuzzyGrid.Guarded

variable {α : Type}

/-- Apply a guarded function to every stored scalar; the mask stays. -/
def map (grid : Grid α) (function : α → Option α) : Option (Grid α) := do
  let cells ← grid.cells.mapM fun cell => do
    return (⟨← function cell.value, cell.masked⟩ : Cell α)
  return { grid with cells := cells }

theorem map_eq {grid : Grid α} {guarded : α → Option α} {function : α → α}
    (same : ∀ value, guarded value = some (function value)) :
    map grid guarded = some (grid.map function) := by
  have cells : (grid.cells.mapM fun cell => do
      return (⟨← guarded cell.value, cell.masked⟩ : Cell α)) =
        some (grid.cells.map (Cell.map function)) := by
    apply mapM_eq_some
    intro cell _
    simp [same, Cell.map]
  rw [map, cells]
  rfl

section Divisions

variable [Scalar α] (allows : α → Bool)

/-! ## Statistics -/

def mean? (grid : Grid α) : Option (Option α) :=
  if grid.validValues.isEmpty then some none
  else
    (divide allows (Scalar.total grid.validValues)
      (Scalar.ofNat grid.validValues.length)).map some

def deviation? (grid : Grid α) : Option (Option α) := do
  match ← mean? allows grid with
  | none => return none
  | some mean =>
    let variance ← divide allows
      (Scalar.total (grid.validValues.map (Grid.squaredDistance mean)))
      (Scalar.ofNat grid.validValues.length)
    return some (Scalar.sqrt variance)

/-! ## Lines and curves -/

/-- Map every cell along a line, whose slope is computed first. -/
def line (x₁ y₁ x₂ y₂ : α) (grid : Grid α) : Option (Grid α) := do
  let slope ← divide allows (y₂ - y₁) (x₂ - x₁)
  return grid.map fun x => (x - x₁) * slope + y₁

def segment (left right : α × α) (x : α) : Option α := do
  let slope ← divide allows (right.2 - left.2) (right.1 - left.1)
  return slope * x + (left.2 - slope * left.1)

def onSegments? (x : α) : List (α × α) → Option (Option α)
  | left :: right :: rest =>
    if Scalar.lt left.1 x && Scalar.le x right.1 then
      (segment allows left right x).map some
    else onSegments? x (right :: rest)
  | _ => some none

def height (points : List (α × α)) (x : α) : Option α :=
  match points.head?, points.getLast? with
  | some first, some last =>
    if Scalar.le x first.1 then some first.2
    else if Scalar.lt last.1 x then some last.2
    else (onSegments? allows x points).map fun found => found.getD last.2
  | _, _ => some x

section

variable {allows} (divisors : Divisors allows)

include divisors

theorem mean?_eq (grid : Grid α) : mean? allows grid = some grid.mean? := by
  unfold mean? Grid.mean? Grid.meanOf?
  split
  · rfl
  · rename_i some_
    have count : 0 < grid.validValues.length := by
      simpa [List.length_pos_iff] using some_
    rw [divide_eq (divisors.count count)]
    rfl

theorem deviation?_eq (grid : Grid α) :
    deviation? allows grid = some grid.deviation? := by
  unfold deviation? Grid.deviation?
  rw [mean?_eq divisors]
  cases found : grid.mean? with
  | none => rfl
  | some mean =>
      have count : 0 < grid.validValues.length := by
        rw [List.length_pos_iff]
        intro none_
        simp [Grid.mean?, Grid.meanOf?, none_] at found
      simp [divide_eq (divisors.count count)]

omit divisors in
theorem line_eq {x₁ x₂ : α} (wide : allows (x₂ - x₁)) (y₁ y₂ : α)
    (grid : Grid α) :
    line allows x₁ y₁ x₂ y₂ grid = some (grid.map (lineThrough x₁ y₁ x₂ y₂)) := by
  rw [line, divide_eq wide]
  rfl

theorem onSegments?_eq (x : α) (points : List (α × α)) :
    onSegments? allows x points = some (Curve.onSegments? x points) := by
  induction points with
  | nil => rfl
  | cons left points induction =>
      cases points with
      | nil => rfl
      | cons right rest =>
          unfold onSegments? Curve.onSegments?
          split
          · rename_i here
            have ⟨after, upTo⟩ := Bool.and_eq_true_iff.mp here
            simp [segment, divide_eq (divisors.segment after upTo), Curve.segment]
          · exact induction

theorem height_eq (points : List (α × α)) (x : α) :
    height allows points x = some (Curve.height points x) := by
  unfold height Curve.height
  cases points.head? with
  | none => rfl
  | some first =>
      cases points.getLast? with
      | none => rfl
      | some last =>
          by_cases before : Scalar.le x first.1
          · simp [before]
          · by_cases beyond : Scalar.lt last.1 x
            · simp [before, beyond]
            · simp [before, beyond, onSegments?_eq divisors]

end

end Divisions

/-! ## Stacks -/

section Stacks

/-- The cells of all grids at one place. -/
def column (grids : List (Grid α)) (place : Nat) : Option (List (Cell α)) :=
  grids.mapM fun grid => grid.cells[place]?

theorem column_eq {grids : List (Grid α)} {count place : Nat}
    (some_ : grids ≠ []) (sizes : ∀ grid ∈ grids, grid.size = count)
    (inside : place < count) :
    column grids place = (SortedStack.columns grids)[place]? := by
  induction grids with
  | nil => exact absurd rfl some_
  | cons grid rest induction =>
      have here : place < grid.cells.length :=
        Nat.lt_of_lt_of_eq inside (sizes grid List.mem_cons_self).symm
      by_cases none_ : rest = []
      · subst rest
        simp [column, SortedStack.columns, here]
      · have otherSizes : ∀ other ∈ rest, other.size = count :=
          fun other member => sizes other (List.mem_cons_of_mem _ member)
        have there : place < (SortedStack.columns rest).length :=
          Nat.lt_of_lt_of_eq inside (Grid.length_columns none_ otherSizes).symm
        have others := induction none_ otherSizes
        rw [column] at others ⊢
        rw [List.mapM_cons, others, SortedStack.columns_cons none_,
          List.getElem?_zipWith]
        simp [here, there]

variable [Scalar α]

/-- Stack grids on the first one, which every other must match in shape, by
looking every place up in all of them. -/
def stack (origin : Origin) (grids : List (Grid α)) : Attempt α (SortedStack α) :=
  match grids with
  | [] => Attempt.total (.ok ⟨0, 0, []⟩)
  | first :: rest =>
    match rest.find? fun grid => first.shape != grid.shape with
    | some other =>
      Attempt.total (.error
        ⟨.shapeMismatch ListOperation.argument ⟨first.shape, other.shape⟩, origin⟩)
    | none => do
      let cells ← Attempt.guarded
        ((List.range first.size).mapM (column (first :: rest)))
      return ⟨first.rows, first.cols, cells.map SortedStack.ofCells⟩

/-- Reduce every ascending stack to one scalar by a guarded function. -/
def reduce (stack : SortedStack α) (function : List α → Option α) :
    Option (Grid α) := do
  let cells ← stack.cells.mapM fun cell => do
    return (⟨← function cell.ascending, cell.masked⟩ : Cell α)
  return ⟨stack.rows, stack.cols, cells⟩

theorem stack_eq (origin : Origin) {count : Nat → Nat → Nat} {grids : List (Grid α)}
    (filled : ∀ grid ∈ grids, grid.Filled count) :
    stack origin grids =
      Attempt.total (Grid.stack origin ListOperation.argument grids) := by
  cases grids with
  | nil => rfl
  | cons first rest =>
      cases found : rest.find? fun grid => first.shape != grid.shape with
      | some other => simp [stack, Grid.stack, SortedStack.build, found]
      | none =>
          have sizes : ∀ grid ∈ first :: rest, grid.size = first.size := by
            intro grid member
            rcases List.mem_cons.mp member with rfl | later
            · rfl
            · have same : first.shape = grid.shape := by
                simpa using List.find?_eq_none.mp found grid later
              exact (filled grid member).size_eq
                (filled first List.mem_cons_self) same.symm
          have gathered : (List.range first.size).mapM (column (first :: rest)) =
              some (SortedStack.columns (first :: rest)) := by
            apply mapM_range_eq (Grid.length_columns (List.cons_ne_nil _ _) sizes)
            intro place inside
            exact column_eq (List.cons_ne_nil _ _) sizes inside
          simp only [stack, Grid.stack, SortedStack.build, found,
            Attempt.guarded_bind_eq gathered]
          rfl

/-- Every sorted stack has one value of each grid. -/
theorem length_of_mem_stack {origin : Origin} {arg : String} {grids : List (Grid α)}
    {stack : SortedStack α} (stacked : Grid.stack origin arg grids = .ok stack)
    {cell : CellStack α} (member : cell ∈ stack.cells) :
    cell.ascending.length = grids.length := by
  unfold Grid.stack at stacked
  split at stacked
  · rename_i built
    cases stacked
    unfold SortedStack.build at built
    split at built
    · cases built
      cases member
    · split at built
      · cases built
      · cases built
        obtain ⟨cells, inColumns, rfl⟩ := List.mem_map.mp member
        simpa [SortedStack.ofCells] using
          SortedStack.length_of_mem_columns inColumns
  · cases stacked

omit [Scalar α] in
theorem reduce_eq {stack : SortedStack α} {guarded : List α → Option α}
    {function : List α → α}
    (same : ∀ cell ∈ stack.cells,
      guarded cell.ascending = some (function cell.ascending)) :
    reduce stack guarded = some (stack.reduce function) := by
  have cells : (stack.cells.mapM fun cell => do
      return (⟨← guarded cell.ascending, cell.masked⟩ : Cell α)) =
        some (stack.cells.map fun cell =>
          ⟨function cell.ascending, cell.masked⟩) := by
    apply mapM_eq_some
    intro cell member
    simp [same cell member]
  rw [reduce, cells]
  rfl

end Stacks

/-! ## Printed grids -/

section Texts

variable [Scalar α]

/-- The cells of a row, each looked up where it is stored. -/
def rowCells (grid : Grid α) (row : Nat) : Option (List (Cell α)) :=
  (List.range grid.cols).mapM fun col => grid.cells[row * grid.cols + col]?

def text (grid : Grid α) : Option String := do
  let rows ← (List.range grid.rows).mapM (rowCells grid)
  return "[" ++ String.intercalate "\n " (rows.map Grid.rowText) ++ "]"

def valueText : ResultValue α → Option String
  | .grid layer => text layer
  | .flag value => some (ResultValue.flag value : ResultValue α).text

omit [Scalar α] in
private theorem cellRows_eq (cols rows : Nat) (cells : List (Cell α)) :
    Grid.cellRows cols rows cells =
      (List.range rows).map fun row => (cells.drop (row * cols)).take cols := by
  induction rows generalizing cells with
  | zero => rfl
  | succ rows induction =>
      simp [Grid.cellRows, induction, List.range_succ_eq_map, List.drop_drop,
        Function.comp_def, Nat.succ_mul, Nat.add_comm]

omit [Scalar α] in
theorem rowCells_eq {grid : Grid α} (rectangular : grid.Rectangular) {row : Nat}
    (inside : row < grid.rows) :
    rowCells grid row =
      some ((grid.cells.drop (row * grid.cols)).take grid.cols) := by
  have upTo : row * grid.cols + grid.cols ≤ grid.cells.length := by
    rw [← Nat.succ_mul]
    exact Nat.le_trans (Nat.mul_le_mul_right _ inside)
      (Nat.le_of_eq rectangular.symm)
  apply mapM_range_eq
  · rw [List.length_take, List.length_drop]
    exact Nat.min_eq_left (Nat.le_sub_of_add_le' upTo)
  · intro col inRow
    rw [List.getElem?_take_of_lt inRow, List.getElem?_drop]

/-- A rectangle is printed in bounds. -/
theorem text_eq {grid : Grid α} (rectangular : grid.Rectangular) :
    text grid = some grid.text := by
  have rows : (List.range grid.rows).mapM (rowCells grid) =
      some (Grid.cellRows grid.cols grid.rows grid.cells) := by
    rw [cellRows_eq]
    apply mapM_eq_some
    intro row member
    exact rowCells_eq rectangular (List.mem_range.mp member)
  rw [text, rows]
  rfl

/-- A grid that is short of cells is not printed in bounds: the first cell that
it lacks is looked up. -/
theorem text_eq_none {grid : Grid α} (short : grid.size < grid.rows * grid.cols) :
    text grid = none := by
  have wide : 0 < grid.cols := Nat.pos_of_lt_mul_left short
  have inRows : grid.size / grid.cols ∈ List.range grid.rows :=
    List.mem_range.mpr ((Nat.div_lt_iff_lt_mul wide).mpr short)
  have inCols : grid.size % grid.cols ∈ List.range grid.cols :=
    List.mem_range.mpr (Nat.mod_lt _ wide)
  have lacking : grid.cells[grid.size / grid.cols * grid.cols +
      grid.size % grid.cols]? = none := by
    rw [Nat.div_add_mod']
    exact List.getElem?_eq_none (Nat.le_refl _)
  have row : rowCells grid (grid.size / grid.cols) = none :=
    mapM_eq_none inCols lacking
  rw [text, mapM_eq_none inRows row]
  rfl

example : text (⟨1, 2, [⟨(3 : ℚ), false⟩]⟩ : Grid ℚ) = none := by decide

/-- What can be said of the printed grid of a result. -/
theorem valueText_eq {result : Result α} (rectangular : result.Rectangular) :
    valueText result.value = some result.value.text := by
  cases shown : result.value with
  | flag value => rfl
  | grid layer =>
      have isGrid : result.grid? = some layer := by
        rw [Result.grid?, shown]
      exact text_eq (rectangular layer isGrid)

theorem valueText_eq_none {result : Result α} (sized : result.Filled Grid.wordCount)
    (notRectangular : ¬result.Rectangular) : valueText result.value = none := by
  cases shown : result.value with
  | flag value =>
      have noGrid : result.grid? = none := by
        rw [Result.grid?, shown]
      refine absurd ?_ notRectangular
      intro grid isGrid
      rw [noGrid] at isGrid
      cases isGrid
  | grid layer =>
      have isGrid : result.grid? = some layer := by
        rw [Result.grid?, shown]
      have notFull : ¬layer.Rectangular := by
        intro rectangular
        apply notRectangular
        intro other isOther
        cases isGrid.symm.trans isOther
        exact rectangular
      have most := Grid.Sized.size_le (sized layer isGrid)
      exact text_eq_none (Nat.lt_of_le_of_ne most notFull)

end Texts

end FuzzyGrid.Guarded
