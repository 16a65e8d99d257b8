import FuzzyGrid.Proofs.Grid.Blend

/-!
# Grids that differ under the mask

Two grids are alike if they have one shape and what is seen of them is the
same; the scalars under their masks may be any.  What looks at unmasked cells
only cannot tell alike grids apart, and what computes cell by cell or place by
place keeps them alike.
-/

namespace FuzzyGrid

variable {α : Type}

/-- Cells that look the same. -/
def Cell.Alike (first second : Cell α) : Prop :=
  first.valid? = second.valid?

theorem Cell.alike_iff {first second : Cell α} :
    first.Alike second ↔
      first.masked = second.masked ∧
        (first.masked = false → first.value = second.value) := by
  cases masked : first.masked <;> cases other : second.masked <;>
    simp [Alike, valid?, masked, other]

namespace Grid

/-- Grids of one shape that look the same. -/
structure Alike (first second : Grid α) : Prop where
  shape : first.shape = second.shape
  seen : first.seen = second.seen

/-- Alike grids have the same mask, and the same scalar at every place that is
not masked. -/
theorem alike_iff {first second : Grid α} :
    first.Alike second ↔
      first.shape = second.shape ∧ first.mask = second.mask ∧
        ∀ (place : Nat) (cell other : Cell α), first.cells[place]? = some cell →
          second.cells[place]? = some other → cell.masked = false →
            cell.value = other.value := by
  constructor
  · intro alike
    refine ⟨alike.shape, by rw [mask_eq, mask_eq, alike.seen], ?_⟩
    intro place cell other atFirst atSecond unmasked
    have same := congrArg (fun cells => cells[place]?) alike.seen
    simp only [seen, List.getElem?_map, atFirst, atSecond, Option.map_some,
      Option.some.injEq] at same
    exact (Cell.alike_iff.mp same).2 unmasked
  · rintro ⟨shape, mask, values⟩
    refine ⟨shape, List.ext_getElem? fun place => ?_⟩
    have masks := congrArg (fun cells => cells[place]?) mask
    simp only [Grid.mask, List.getElem?_map] at masks
    simp only [seen, List.getElem?_map]
    cases atFirst : first.cells[place]? with
    | none =>
        cases atSecond : second.cells[place]? with
        | none => rfl
        | some other => simp [atFirst, atSecond] at masks
    | some cell =>
        cases atSecond : second.cells[place]? with
        | none => simp [atFirst, atSecond] at masks
        | some other =>
            rw [atFirst, atSecond, Option.map_some, Option.map_some,
              Option.some.injEq] at masks
            simp only [Option.map_some, Option.some.injEq]
            exact Cell.alike_iff.mpr
              ⟨masks, values place cell other atFirst atSecond⟩

namespace Alike

variable {first second : Grid α}

theorem refl (grid : Grid α) : grid.Alike grid :=
  ⟨rfl, rfl⟩

theorem symm (alike : first.Alike second) : second.Alike first :=
  ⟨alike.shape.symm, alike.seen.symm⟩

theorem trans {third : Grid α} (alike : first.Alike second)
    (also : second.Alike third) : first.Alike third :=
  ⟨alike.shape.trans also.shape, alike.seen.trans also.seen⟩

theorem validValues_eq (alike : first.Alike second) :
    first.validValues = second.validValues := by
  rw [Grid.validValues_eq, Grid.validValues_eq, alike.seen]

theorem map (alike : first.Alike second) (function : α → α) :
    (first.map function).Alike (second.map function) :=
  ⟨alike.shape, by rw [seen_map, seen_map, alike.seen]⟩

theorem clampUnmasked [Scalar α] (alike : first.Alike second) (low high : α) :
    (first.clampUnmasked low high).Alike (second.clampUnmasked low high) :=
  ⟨alike.shape, by rw [seen_clampUnmasked, seen_clampUnmasked, alike.seen]⟩

theorem isPositive_eq [Scalar α] (alike : first.Alike second) :
    first.isPositive = second.isPositive := by
  rw [isPositive, isPositive, least?, least?, alike.validValues_eq]

end Alike

/-- Functions take a grid to alike ones just where they agree on the unmasked
cells. -/
theorem map_alike_iff {grid : Grid α} {function other : α → α} :
    (grid.map function).Alike (grid.map other) ↔
      ∀ value ∈ grid.validValues, function value = other value := by
  have seen : (grid.map function).seen = (grid.map other).seen ↔
      ∀ value ∈ grid.validValues, function value = other value := by
    rw [seen_map, seen_map, List.map_inj_left]
    constructor
    · intro same value shown
      exact Option.some.inj (same (some value) (mem_validValues.mp shown))
    · intro same cell member
      cases cell with
      | none => rfl
      | some value =>
          exact congrArg some (same value (mem_validValues.mpr member))
  exact ⟨fun alike => seen.mp alike.seen, fun same => ⟨rfl, seen.mpr same⟩⟩

theorem clampUnmasked_alike [Scalar α] (grid : Grid α) (low high : α) :
    (grid.clampUnmasked low high).Alike (grid.map (Scalar.clamp low high)) :=
  ⟨rfl, by rw [seen_clampUnmasked, seen_map]⟩

/-! ## Combined grids -/

section

open List (Forall₂)

theorem seen_eq_iff {first second : List (Cell α)} :
    first.map Cell.valid? = second.map Cell.valid? ↔
      Forall₂ Cell.Alike first second := by
  rw [← List.forall₂_eq_eq_eq, List.forall₂_map_left_iff,
    List.forall₂_map_right_iff]
  rfl

/-- Cells that look the same are combined to such cells, wherever the
combination of two looks at unmasked scalars only. -/
theorem seen_zipWith_eq {combine : Cell α → Cell α → Cell α}
    (blind : ∀ first second other another : Cell α, first.Alike other →
      second.Alike another → (combine first second).Alike (combine other another))
    {left right other another : List (Cell α)}
    (sameLeft : left.map Cell.valid? = other.map Cell.valid?)
    (sameRight : right.map Cell.valid? = another.map Cell.valid?) :
    (List.zipWith combine left right).map Cell.valid? =
      (List.zipWith combine other another).map Cell.valid? := by
  rw [seen_eq_iff] at sameLeft sameRight ⊢
  exact SortedStack.forall₂_zipWith blind sameLeft sameRight

/-- Columns of cells that look the same have one mask, and one list of scalars
where nothing is masked. -/
theorem column_alike {first second : List (Cell α)}
    (same : Forall₂ Cell.Alike first second) :
    first.any Cell.masked = second.any Cell.masked ∧
      (first.any Cell.masked = false →
        first.map Cell.value = second.map Cell.value) := by
  induction same with
  | nil => exact ⟨rfl, fun _ => rfl⟩
  | cons head _ induction =>
      obtain ⟨sameMask, sameValue⟩ := Cell.alike_iff.mp head
      obtain ⟨sameMasks, sameValues⟩ := induction
      refine ⟨by rw [List.any_cons, List.any_cons, sameMask, sameMasks], ?_⟩
      intro unmasked
      rw [List.any_cons, Bool.or_eq_false_iff] at unmasked
      rw [List.map_cons, List.map_cons, sameValue unmasked.1,
        sameValues unmasked.2]

theorem columns_alike {first second : List (Grid α)}
    (alike : Forall₂ Alike first second) :
    Forall₂ (Forall₂ Cell.Alike) (SortedStack.columns first)
      (SortedStack.columns second) :=
  SortedStack.forall₂_columns
    (alike.imp fun _ _ same => seen_eq_iff.mp same.seen)

theorem Alike.blend (combine : List α → α) {first second : List (Grid α)}
    (alike : Forall₂ Alike first second) :
    (Grid.blend combine first).Alike (Grid.blend combine second) := by
  have columns := columns_alike alike
  cases alike with
  | nil => exact .refl _
  | cons same _ =>
      refine ⟨same.shape, seen_eq_iff.mpr ?_⟩
      simp only [Grid.blend, List.forall₂_map_left_iff, List.forall₂_map_right_iff]
      refine columns.imp fun _ _ sameColumn => Cell.alike_iff.mpr ?_
      obtain ⟨masked, values⟩ := column_alike sameColumn
      exact ⟨masked, fun unmasked => congrArg combine (values unmasked)⟩

end

end Grid

end FuzzyGrid
