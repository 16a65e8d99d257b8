import FuzzyGrid.Grid.Statistics
import FuzzyGrid.Grid.Text
import Mathlib.Data.List.Basic
import Mathlib.Data.Option.NAry

/-!
# What is seen of a grid

A masked cell is seen as empty.  What a grid operation shows depends on what it
is shown: the scalars under the mask go through the arithmetic, too, but never
come out from under the mask.
-/

namespace FuzzyGrid

variable {α : Type}

namespace Grid

/-- The cells as they are seen, those under the mask being empty. -/
def seen (grid : Grid α) : List (Option α) :=
  grid.cells.map Cell.valid?

theorem validValues_eq (grid : Grid α) :
    grid.validValues = grid.seen.filterMap id := by
  simp [validValues, seen, List.filterMap_map]

theorem mem_validValues {grid : Grid α} {value : α} :
    value ∈ grid.validValues ↔ some value ∈ grid.seen := by
  simp [validValues_eq]

private theorem isNone_valid? (cell : Cell α) :
    cell.valid?.isNone = cell.masked := by
  cases masked : cell.masked <;> simp [Cell.valid?, masked]

theorem mask_eq (grid : Grid α) : grid.mask = grid.seen.map Option.isNone := by
  simp [mask, seen, Function.comp_def, isNone_valid?]

theorem map_id (grid : Grid α) : grid.map id = grid := by
  have sameCell : Cell.map (id : α → α) = id := rfl
  simp [map, sameCell]

theorem map_map (grid : Grid α) (function other : α → α) :
    (grid.map function).map other = grid.map (other ∘ function) := by
  simp only [map, List.map_map]
  rfl

theorem seen_map (grid : Grid α) (function : α → α) :
    (grid.map function).seen = grid.seen.map (Option.map function) := by
  have cell : ∀ cell : Cell α,
      (Cell.map function cell).valid? = cell.valid?.map function := by
    intro cell
    cases masked : cell.masked <;> simp [Cell.map, Cell.valid?, masked]
  simp [map, seen, Function.comp_def, cell]

theorem validValues_map (grid : Grid α) (function : α → α) :
    (grid.map function).validValues = grid.validValues.map function := by
  rw [validValues_eq, validValues_eq, seen_map, List.filterMap_map,
    List.map_filterMap]
  rfl

theorem validValues_map_eq_nil_iff (grid : Grid α) (function : α → α) :
    (grid.map function).validValues = [] ↔ grid.validValues = [] := by
  rw [validValues_map, List.map_eq_nil_iff]

theorem mask_map (grid : Grid α) (function : α → α) :
    (grid.map function).mask = grid.mask := by
  simp [mask, map, Cell.map, Function.comp_def]

theorem seen_clampUnmasked [Scalar α] (grid : Grid α) (low high : α) :
    (grid.clampUnmasked low high).seen =
      grid.seen.map (Option.map (Scalar.clamp low high)) := by
  have cell : ∀ cell : Cell α,
      (if cell.masked then cell
        else ⟨Scalar.clamp low high cell.value, false⟩ : Cell α).valid? =
      cell.valid?.map (Scalar.clamp low high) := by
    intro cell
    cases masked : cell.masked <;> simp [Cell.valid?, masked]
  simp [clampUnmasked, seen, Function.comp_def, cell]

section

variable [Scalar α]

theorem extremes_eq {first second : Grid α}
    (same : first.validValues = second.validValues) :
    first.least? = second.least? ∧ first.greatest? = second.greatest? :=
  ⟨congrArg Scalar.least? same, congrArg Scalar.greatest? same⟩

theorem spread_eq {first second : Grid α}
    (same : first.validValues = second.validValues) :
    first.mean? = second.mean? ∧ first.deviation? = second.deviation? := by
  have mean : first.mean? = second.mean? := congrArg meanOf? same
  exact ⟨mean, by rw [deviation?, deviation?, mean, same]⟩

/-! ## Printed grids -/

private theorem rowText_eq {first second : List (Cell α)}
    (same : first.map Cell.valid? = second.map Cell.valid?) :
    rowText first = rowText second := by
  have throughSeen : ∀ cells : List (Cell α), cells.map cellText =
      (cells.map Cell.valid?).map fun cell =>
        (cell.map Scalar.cellText).getD "--" := by
    intro cells
    rw [List.map_map]
    apply List.map_congr_left
    intro cell _
    cases valid : cell.valid? <;> simp [cellText, valid]
  rw [rowText, rowText, throughSeen, throughSeen, same]

private theorem map_rowText_eq (cols rows : Nat) {first second : List (Cell α)}
    (same : first.map Cell.valid? = second.map Cell.valid?) :
    (cellRows cols rows first).map rowText =
      (cellRows cols rows second).map rowText := by
  induction rows generalizing first second with
  | zero => rfl
  | succ rows induction =>
      have sameRow : (first.take cols).map Cell.valid? =
          (second.take cols).map Cell.valid? := by
        rw [List.map_take, List.map_take, same]
      have sameRest : (first.drop cols).map Cell.valid? =
          (second.drop cols).map Cell.valid? := by
        rw [List.map_drop, List.map_drop, same]
      simp only [cellRows, List.map_cons]
      rw [rowText_eq sameRow, induction sameRest]

/-- A printed grid shows what is seen of it. -/
theorem text_eq {first second : Grid α} (shape : first.shape = second.shape)
    (seen : first.seen = second.seen) : first.text = second.text := by
  obtain ⟨rows, cols⟩ := Prod.mk.inj shape
  rw [text, text, rows, cols, map_rowText_eq second.cols second.rows seen]

end

end Grid

end FuzzyGrid
