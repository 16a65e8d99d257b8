import Mathlib.Data.List.Perm.Basic
import FuzzyGrid.Proofs.Grid.Blend

/-!
# Blends place by place

A blend shows a scalar at a place if every grid does, namely the combination of
what they show there.  A combination that does not care for the order of its
scalars does not care for the order of the grids either.
-/

namespace FuzzyGrid

open List (Forall₂)

variable {α : Type}

namespace SortedStack

/-- A column holds the cells of all grids at its place. -/
theorem getElem?_columns_iff {grids : List (Grid α)} (some_ : grids ≠ [])
    {place : Nat} {cells : List (Cell α)} :
    (columns grids)[place]? = some cells ↔
      Forall₂ (fun grid cell => grid.cells[place]? = some cell) grids cells := by
  induction grids generalizing cells with
  | nil => exact absurd rfl some_
  | cons grid rest induction =>
      by_cases none_ : rest = []
      · subst rest
        simp only [columns, List.getElem?_map, Option.map_eq_some_iff,
          List.forall₂_cons_left_iff, List.forall₂_nil_left_iff]
        constructor
        · rintro ⟨cell, here, rfl⟩
          exact ⟨cell, [], here, rfl, rfl⟩
        · rintro ⟨cell, _, here, rfl, rfl⟩
          exact ⟨cell, here, rfl⟩
      · rw [columns_cons none_, List.getElem?_zipWith_eq_some,
          List.forall₂_cons_left_iff]
        constructor
        · rintro ⟨cell, others, here, there, rfl⟩
          exact ⟨cell, others, here, (induction none_).mp there, rfl⟩
        · rintro ⟨cell, others, here, there, rfl⟩
          exact ⟨cell, others, here, (induction none_).mpr there, rfl⟩

end SortedStack

namespace Grid

open SortedStack (columns getElem?_columns_iff)

/-! ## Shown scalars -/

/-- An unmasked cell at a place with its scalar. -/
def ShowsAt (grid : Grid α) (place : Nat) (value : α) : Prop :=
  grid.cells[place]? = some ⟨value, false⟩

theorem ShowsAt.mem_validValues {grid : Grid α} {place : Nat} {value : α}
    (shows_ : grid.ShowsAt place value) : value ∈ grid.validValues :=
  List.mem_filterMap.mpr ⟨_, List.mem_of_getElem? shows_, rfl⟩

theorem exists_showsAt {grid : Grid α} {value : α}
    (valid : value ∈ grid.validValues) : ∃ place, grid.ShowsAt place value := by
  obtain ⟨⟨stored, masked⟩, member, isValid⟩ := List.mem_filterMap.mp valid
  obtain ⟨place, here⟩ := List.mem_iff_getElem?.mp member
  cases masked with
  | true => cases isValid
  | false =>
      cases isValid
      exact ⟨place, here⟩

theorem cells_blend (combine : List α → α) (grids : List (Grid α)) :
    (blend combine grids).cells = (columns grids).map (Cell.blend combine) := by
  cases grids <;> rfl

/-- A blend shows what is combined from the scalars that all grids show. -/
theorem showsAt_blend_iff {combine : List α → α} {grids : List (Grid α)}
    (some_ : grids ≠ []) {place : Nat} {value : α} :
    (blend combine grids).ShowsAt place value ↔
      ∃ values, Forall₂ (fun grid value => grid.ShowsAt place value) grids values ∧
        combine values = value := by
  rw [ShowsAt, cells_blend, List.getElem?_map, Option.map_eq_some_iff]
  constructor
  · rintro ⟨column, here, blended⟩
    obtain ⟨combined, unmasked⟩ := Cell.mk.inj blended
    have open_ : ∀ cell ∈ column, cell.masked = false := by
      simpa using unmasked
    have cells := (getElem?_columns_iff some_).mp here
    have both := (List.forall₂_and_left _ _).mpr ⟨open_, cells.flip⟩
    refine ⟨column.map Cell.value, ?_, combined⟩
    rw [List.forall₂_map_right_iff]
    apply both.flip.imp
    rintro grid ⟨value, _⟩ ⟨rfl, stored⟩
    exact stored
  · rintro ⟨values, shown, rfl⟩
    refine ⟨values.map fun value => ⟨value, false⟩,
      (getElem?_columns_iff some_).mpr ?_, ?_⟩
    · rwa [List.forall₂_map_right_iff]
    · simp [Cell.blend, Function.comp_def]

theorem mem_validValues_blend {combine : List α → α} {grids : List (Grid α)}
    {value : α} (member : value ∈ (blend combine grids).validValues) :
    ∃ values, Forall₂ (fun grid value => value ∈ grid.validValues)
      grids values ∧ value = combine values := by
  have some_ : grids ≠ [] := by
    rintro rfl
    cases member
  obtain ⟨place, shows_⟩ := exists_showsAt member
  obtain ⟨values, shown, rfl⟩ := (showsAt_blend_iff some_).mp shows_
  exact ⟨values, shown.imp fun _ _ here => here.mem_validValues, rfl⟩

/-! ## The order of the grids -/

/-- The cells of grids at a place. -/
def CellsAt (place : Nat) (grids : List (Grid α)) (cells : List (Cell α)) : Prop :=
  Forall₂ (fun grid cell => grid.cells[place]? = some cell) grids cells

private theorem getElem?_blend_of_cellsAt {combine other : List α → α}
    {grids others : List (Grid α)} (some_ : grids ≠ []) (otherSome : others ≠ [])
    {place : Nat} (moves : ∀ cells, CellsAt place grids cells →
      ∃ moved, CellsAt place others moved ∧
        Cell.blend other moved = Cell.blend combine cells)
    {cell : Cell α} (here : (blend combine grids).cells[place]? = some cell) :
    (blend other others).cells[place]? = some cell := by
  rw [cells_blend, List.getElem?_map, Option.map_eq_some_iff] at here ⊢
  obtain ⟨column, stored, rfl⟩ := here
  obtain ⟨moved, otherCells, same⟩ :=
    moves column ((getElem?_columns_iff some_).mp stored)
  exact ⟨moved, (getElem?_columns_iff otherSome).mpr otherCells, same⟩

/-- Grids in another order have the same blend if at every place the cells of
the ones are blended to what some cells of the others are. -/
theorem blend_eq_of_cellsAt {combine other : List α → α} {grids others : List (Grid α)}
    (shapes : SameShape grids) (same : others.Perm grids)
    (onward : ∀ place cells, CellsAt place grids cells →
      ∃ moved, CellsAt place others moved ∧
        Cell.blend other moved = Cell.blend combine cells)
    (back : ∀ place cells, CellsAt place others cells →
      ∃ moved, CellsAt place grids moved ∧
        Cell.blend combine moved = Cell.blend other cells) :
    blend other others = blend combine grids := by
  cases grids with
  | nil => rw [same.eq_nil, blend, blend]
  | cons first rest =>
      cases others with
      | nil => exact absurd same.symm.eq_nil (List.cons_ne_nil _ _)
      | cons next others =>
          have shape := shapes next (same.subset List.mem_cons_self) first
            List.mem_cons_self
          obtain ⟨rows, cols⟩ := Prod.mk.inj shape
          have cells : (columns (next :: others)).map (Cell.blend other) =
              (columns (first :: rest)).map (Cell.blend combine) := by
            rw [← cells_blend, ← cells_blend]
            apply List.ext_getElem?
            intro place
            apply Option.ext
            intro cell
            exact ⟨getElem?_blend_of_cellsAt (List.cons_ne_nil _ _)
                (List.cons_ne_nil _ _) (back place),
              getElem?_blend_of_cellsAt (List.cons_ne_nil _ _)
                (List.cons_ne_nil _ _) (onward place)⟩
          rw [blend, blend, rows, cols, cells]

theorem blend_perm {combine : List α → α} {grids others : List (Grid α)}
    (regardless : ∀ ⦃values permuted⦄, values.Perm permuted →
      combine values = combine permuted)
    (shapes : SameShape grids) (same : others.Perm grids) :
    blend combine others = blend combine grids := by
  have moves : ∀ {grids others : List (Grid α)}, others.Perm grids →
      ∀ place cells, CellsAt place grids cells →
        ∃ moved, CellsAt place others moved ∧
          Cell.blend combine moved = Cell.blend combine cells := by
    intro grids others same place cells stored
    obtain ⟨moved, otherCells, perm⟩ := List.perm_comp_forall₂ same stored
    exact ⟨moved, otherCells,
      congrArg₂ Cell.mk (regardless (perm.map Cell.value)) perm.any_eq⟩
  exact blend_eq_of_cellsAt shapes same (moves same) (moves same.symm)

end Grid

end FuzzyGrid
