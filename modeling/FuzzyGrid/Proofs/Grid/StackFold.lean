import FuzzyGrid.Proofs.Grid.Places
import FuzzyGrid.Proofs.Number.Ascending
import FuzzyGrid.Proofs.Number.Ordered
import FuzzyGrid.Proofs.Operator.Cellwise

/-!
# Stacks and folds of the same grids

A list of grids can be stacked, which looks at all shapes first and then sorts
every column, or folded, which meets the shapes one after the other with the
grid it has so far.  Both refuse the list for its first grid of another shape.
If there is none they mask the same places, and what the ends and the sum of a
sorted column are, folding finds without sorting.
-/

namespace FuzzyGrid

open List (Forall₂)

variable {α : Type}

/-! ## Refused lists -/

namespace Grid

/-- The first of further grids that differs in shape from the first one, and
both shapes. -/
def FirstMismatch (first : Grid α) (rest : List (Grid α))
    (mismatch : ShapeMismatch) : Prop :=
  ∃ before other after, rest = before ++ other :: after ∧
    (∀ grid ∈ before, grid.shape = first.shape) ∧ other.shape ≠ first.shape ∧
    mismatch = ⟨first.shape, other.shape⟩

theorem firstMismatch_iff {first : Grid α} {rest : List (Grid α)}
    {mismatch : ShapeMismatch} :
    FirstMismatch first rest mismatch ↔
      ∃ other, (rest.find? fun grid => first.shape != grid.shape) = some other ∧
        mismatch = ⟨first.shape, other.shape⟩ := by
  constructor
  · rintro ⟨before, other, after, rfl, same, different, rfl⟩
    refine ⟨other, List.find?_eq_some_iff_append.mpr ⟨?_, before, after, rfl, ?_⟩, rfl⟩
    · simpa using different.symm
    · intro grid member
      simpa using (same grid member).symm
  · rintro ⟨other, found, rfl⟩
    obtain ⟨different, before, after, split, same⟩ :=
      List.find?_eq_some_iff_append.mp found
    refine ⟨before, other, after, split, ?_, (bne_iff_ne.mp different).symm, rfl⟩
    intro grid member
    have passes := same grid member
    rw [Bool.not_eq_true', bne_eq_false_iff_eq] at passes
    exact passes.symm

theorem sameShape_cons_iff {first : Grid α} {rest : List (Grid α)} :
    SameShape (first :: rest) ↔
      (rest.find? fun grid => first.shape != grid.shape) = none := by
  rw [List.find?_eq_none]
  constructor
  · intro shapes grid member different
    apply bne_iff_ne.mp different
    exact shapes first List.mem_cons_self grid (List.mem_cons_of_mem _ member)
  · intro same
    have all : ∀ grid ∈ first :: rest, grid.shape = first.shape := by
      refine List.forall_mem_cons.mpr ⟨rfl, ?_⟩
      intro grid member
      have passes := same grid member
      rw [bne_iff_ne, not_not] at passes
      exact passes.symm
    intro one isOne other isOther
    exact (all one isOne).trans (all other isOther).symm

theorem blend?_eq_error_iff {combine : List α → α} {first : Grid α}
    {rest : List (Grid α)} {mismatch : ShapeMismatch} :
    blend? combine (first :: rest) = .error mismatch ↔
      FirstMismatch first rest mismatch := by
  rw [firstMismatch_iff, blend?]
  cases rest.find? fun grid => first.shape != grid.shape with
  | none => simp
  | some other => simp [eq_comm]

theorem blame_eq_error_iff {origin : Origin} {arg : String}
    {outcome : Except ShapeMismatch (Grid α)} {error : CommandError α} :
    blame origin arg outcome = .error error ↔
      ∃ mismatch, outcome = .error mismatch ∧
        error = ⟨.shapeMismatch arg mismatch, origin⟩ := by
  cases outcome with
  | ok grid => simp [blame]
  | error mismatch => simp [blame, eq_comm]

end Grid

/-- A stack is refused for the first grid of another shape. -/
theorem SortedStack.build_eq_error_iff [Scalar α] {first : Grid α}
    {rest : List (Grid α)} {mismatch : ShapeMismatch} :
    build (first :: rest) = .error mismatch ↔
      Grid.FirstMismatch first rest mismatch := by
  rw [Grid.firstMismatch_iff, build]
  cases rest.find? fun grid => first.shape != grid.shape with
  | none => simp
  | some other => simp [eq_comm]

theorem SortedStack.build_eq_ok_iff [Scalar α] {first : Grid α}
    {rest : List (Grid α)} {stack : SortedStack α} :
    build (first :: rest) = .ok stack ↔
      Grid.SameShape (first :: rest) ∧
        stack = ⟨first.rows, first.cols, (columns (first :: rest)).map ofCells⟩ := by
  rw [build, Grid.sameShape_cons_iff]
  cases rest.find? fun grid => first.shape != grid.shape with
  | none => simp [eq_comm]
  | some other => simp

/-- A fold is refused for the same grid. -/
theorem Grid.fold_eq_error_iff [Scalar α] {origin : Origin} {arg : String}
    {function : α → α → α} {first : Grid α} {rest : List (Grid α)}
    {error : CommandError α} :
    fold origin arg function (first :: rest) = .error error ↔
      ∃ mismatch, FirstMismatch first rest mismatch ∧
        error = ⟨.shapeMismatch arg mismatch, origin⟩ := by
  rw [fold_eq, blame_eq_error_iff]
  simp only [blend?_eq_error_iff]

theorem Grid.fold_eq_ok_iff [Scalar α] {origin : Origin} {arg : String}
    {function : α → α → α} {first folded : Grid α} {rest : List (Grid α)} :
    fold origin arg function (first :: rest) = .ok folded ↔
      SameShape (first :: rest) ∧
        folded = blend (foldValues function) (first :: rest) := by
  rw [fold_eq, blame_eq_ok_iff, blend?_eq_ok_iff]

/-! ## Columns and what they are reduced to -/

section

variable [Scalar α]

/-- Addition that does not round: in any order, grouped in any way, and from the
empty sum on. -/
class Scalar.AddsExactly (α : Type) [Scalar α] : Prop where
  add_comm (left right : α) : left + right = right + left
  add_assoc (first second third : α) : first + second + third = first + (second + third)
  emptySum_add (value : α) : Scalar.emptySum + value = value

instance {K : Type} [ExactNumber K] : Scalar.AddsExactly K where
  add_comm := add_comm
  add_assoc := add_assoc
  emptySum_add := zero_add

theorem Scalar.total_eq_of_perm [AddsExactly α] {values others : List α}
    (same : values.Perm others) : total values = total others := by
  have commutes : RightCommutative fun sum value : α => sum + value :=
    ⟨fun sum first second => by
      rw [AddsExactly.add_assoc, AddsExactly.add_comm first, ← AddsExactly.add_assoc]⟩
  exact same.foldl_eq _

theorem Scalar.total_arrange_cons [AddsExactly α] (first : α) (rest : List α) :
    total (arrange id (first :: rest)) =
      rest.foldl (fun sum value => sum + value) first := by
  rw [total_eq_of_perm (arrange_perm id _), total, List.foldl_cons,
    AddsExactly.emptySum_add]

namespace Grid

/-- Grids of one shape and mask that store equal numbers.  They may differ in
the signs of zeros. -/
structure SameNumbers (left right : Grid α) : Prop where
  shape : left.shape = right.shape
  mask : left.mask = right.mask
  values : Forall₂ (fun first second => Scalar.eq first second = true)
    left.values right.values

omit [Scalar α] in
theorem mask_blend (combine other : List α → α) (grids : List (Grid α)) :
    (blend combine grids).mask = (blend other grids).mask := by
  rw [mask, mask, cells_blend, cells_blend, List.map_map, List.map_map]
  rfl

omit [Scalar α] in
theorem shape_blend (combine other : List α → α) (grids : List (Grid α)) :
    (blend combine grids).shape = (blend other grids).shape := by
  cases grids with
  | nil => rfl
  | cons first rest => rfl

omit [Scalar α] in
/-- A column holds a value of every grid. -/
theorem forall₂_of_mem_columns {grids : List (Grid α)} (some_ : grids ≠ [])
    {cells : List (Cell α)} (member : cells ∈ SortedStack.columns grids) :
    Forall₂ (fun grid value => value ∈ grid.values) grids (cells.map Cell.value) := by
  obtain ⟨place, here⟩ := List.mem_iff_getElem?.mp member
  rw [List.forall₂_map_right_iff]
  apply ((SortedStack.getElem?_columns_iff some_).mp here).imp
  intro grid cell stored
  exact List.mem_map.mpr ⟨cell, List.mem_of_getElem? stored, rfl⟩

theorem sameNumbers_blend {combine other : List α → α} {first : Grid α}
    {rest : List (Grid α)}
    (numbers : ∀ grid ∈ first :: rest, ∀ value ∈ grid.values, Scalar.IsNumber value)
    (equal : ∀ first rest, (∀ value ∈ first :: rest, Scalar.IsNumber value) →
      Scalar.eq (combine (first :: rest)) (other (first :: rest)) = true) :
    (blend combine (first :: rest)).SameNumbers (blend other (first :: rest)) where
  shape := shape_blend combine other _
  mask := mask_blend combine other _
  values := by
    rw [values, values, cells_blend, cells_blend, List.map_map, List.map_map,
      List.forall₂_map_left_iff, List.forall₂_map_right_iff, List.forall₂_same]
    intro cells member
    have stored := forall₂_of_mem_columns (List.cons_ne_nil _ _) member
    have each : ∀ value ∈ cells.map Cell.value, Scalar.IsNumber value := by
      intro value isValue
      obtain ⟨grid, isGrid, here⟩ := exists_left_of_forall₂ stored isValue
      exact numbers grid isGrid value here
    cases stored_ : cells.map Cell.value with
    | nil =>
        rw [stored_] at stored
        cases stored
    | cons value others =>
        rw [stored_] at each
        simpa [Cell.blend, stored_] using equal value others each

end Grid

/-! ## Agreement -/

namespace SortedStack

open Ascending (Ascends ascends_sort sort sort_perm)

omit [Scalar α] in
theorem getElem?_columns_map_iff {β : Type} {function : List (Cell α) → β}
    {grids : List (Grid α)} (some_ : grids ≠ []) {place : Nat} {here : β} :
    ((columns grids).map function)[place]? = some here ↔
      ∃ cells, Grid.CellsAt place grids cells ∧ function cells = here := by
  rw [List.getElem?_map, Option.map_eq_some_iff]
  simp only [getElem?_columns_iff some_, Grid.CellsAt]

/-- A stack of the cells of some grids: at every place the values of all of
them, in ascending order if they are numbers, and the masks united. -/
structure Gathers (stack : SortedStack α) (grids : List (Grid α)) : Prop where
  size : ∀ size, (∀ grid ∈ grids, grid.size = size) → stack.cells.length = size
  place : ∀ place here, stack.cells[place]? = some here →
    ∃ cells, Grid.CellsAt place grids cells
  cell : ∀ place cells, Grid.CellsAt place grids cells →
    ∃ here, stack.cells[place]? = some here ∧
      here.masked = cells.any Cell.masked ∧
      here.ascending.Perm (cells.map Cell.value) ∧
      ((∀ cell ∈ cells, Scalar.IsNumber cell.value) → Ascends here.ascending)

theorem gathers_columns [TotallyOrdered α] (rows cols : Nat) {grids : List (Grid α)}
    (some_ : grids ≠ []) :
    Gathers ⟨rows, cols, (columns grids).map ofCells⟩ grids where
  size size sizes := by
    rw [List.length_map]
    exact Grid.length_columns some_ sizes
  place place here found := by
    obtain ⟨cells, stored, _⟩ := (getElem?_columns_map_iff some_).mp found
    exact ⟨cells, stored⟩
  cell place cells stored := by
    refine ⟨ofCells cells, (getElem?_columns_map_iff some_).mpr ⟨cells, stored, rfl⟩,
      rfl, Scalar.arrange_perm _ _, ?_⟩
    intro numbers
    have each := List.forall_mem_map.mpr numbers
    dsimp only [ofCells]
    rw [Scalar.arrange_of_numbers each]
    exact ascends_sort each

theorem reduce_columns (first : Grid α) (rest : List (Grid α))
    (function : List α → α) :
    reduce ⟨first.rows, first.cols, (columns (first :: rest)).map ofCells⟩ function =
      Grid.blend (function ∘ Scalar.arrange id) (first :: rest) := by
  rw [reduce, Grid.blend, List.map_map]
  rfl

/-! ## Sorts that give up -/

/-- The values of some grids at a place that the sort gives up on. -/
def Unsorted (grids : List (Grid α)) : Prop :=
  ∃ place cells, Grid.CellsAt place grids cells ∧
    Scalar.arrange? id (cells.map Cell.value) = none

theorem any_columns_iff {grids : List (Grid α)} (some_ : grids ≠ []) :
    ((columns grids).any fun cells =>
        (Scalar.arrange? id (cells.map Cell.value)).isNone) = true ↔
      Unsorted grids := by
  simp only [List.any_eq_true, Option.isNone_iff_eq_none, List.mem_iff_getElem?,
    getElem?_columns_iff some_, Unsorted, Grid.CellsAt]
  constructor
  · rintro ⟨cells, ⟨place, stored⟩, none_⟩
    exact ⟨place, cells, stored, none_⟩
  · rintro ⟨place, cells, stored, none_⟩
    exact ⟨cells, ⟨place, stored⟩, none_⟩

/-- Few values are sorted, and so are numbers. -/
theorem not_unsorted [TotallyOrdered α] {grids : List (Grid α)}
    (settled : grids.length ≤ Scalar.insertionLimit ∨
      ∀ grid ∈ grids, ∀ value ∈ grid.values, Scalar.IsNumber value) :
    ¬Unsorted grids := by
  rintro ⟨place, cells, stored, none_⟩
  have settles : Scalar.settles id (cells.map Cell.value) = true := by
    rcases settled with few | numbers
    · apply Scalar.settles_of_length_le
      rwa [List.length_map, ← stored.length_eq]
    · refine Scalar.settles_of_numbers (List.forall_mem_map.mpr ?_)
      intro cell member
      obtain ⟨grid, isGrid, here⟩ := exists_left_of_forall₂ stored member
      exact numbers grid isGrid cell.value
        (List.mem_map_of_mem (List.mem_of_getElem? here))
  rw [Scalar.arrange?_of_settles settles] at none_
  cases none_

variable {first : Grid α} {rest : List (Grid α)}

theorem build?_eq_none_iff :
    build? (first :: rest) = none ↔
      Grid.SameShape (first :: rest) ∧ Unsorted (first :: rest) := by
  have gaveUp : build? (first :: rest) = none ↔ givesUp (first :: rest) = true := by
    unfold build?
    split
    · rename_i gaveUp
      exact iff_of_true rfl gaveUp
    · rename_i ended
      exact iff_of_false nofun ended
  rw [gaveUp, givesUp, ← any_columns_iff (List.cons_ne_nil _ _),
    Grid.sameShape_cons_iff, build]
  cases rest.find? fun grid => first.shape != grid.shape with
  | none => simp
  | some other => simp

theorem build?_eq_error_iff {mismatch : ShapeMismatch} :
    build? (first :: rest) = some (.error mismatch) ↔
      Grid.FirstMismatch first rest mismatch := by
  rw [← build_eq_error_iff, build?]
  split
  · rename_i gaveUp
    refine iff_of_false nofun ?_
    intro refused
    rw [givesUp, refused] at gaveUp
    cases gaveUp
  · exact Option.some_inj

theorem build_of_build? {stack : SortedStack α}
    (built : build? (first :: rest) = some (.ok stack)) :
    build (first :: rest) = .ok stack := by
  unfold build? at built
  split at built
  · cases built
  · exact Option.some.inj built

variable [Discerning α]

/-- Stacking and folding agree on the grids that they refuse, on shapes and
masks, and on what the first, the last and the sum of every column is.  Only
stacking can come to no end: where the shapes agree and the sort gives up on the
values of a place, which it does neither on few values nor on numbers. -/
theorem build_agrees_with_fold (origin : Origin) (arg : String) (first : Grid α)
    (rest : List (Grid α)) :
    (∀ mismatch, build? (first :: rest) = some (.error mismatch) ↔
        Grid.FirstMismatch first rest mismatch) ∧
      (∀ function error,
        Grid.fold origin arg function (first :: rest) = .error error ↔
          ∃ mismatch, build? (first :: rest) = some (.error mismatch) ∧
            error = ⟨.shapeMismatch arg mismatch, origin⟩) ∧
      (build? (first :: rest) = none ↔
        Grid.SameShape (first :: rest) ∧ Unsorted (first :: rest)) ∧
      ((first :: rest).length ≤ Scalar.insertionLimit ∨
          (∀ grid ∈ first :: rest, ∀ value ∈ grid.values, Scalar.IsNumber value) →
        ¬Unsorted (first :: rest)) ∧
      ∀ stack, build? (first :: rest) = some (.ok stack) →
        stack.Gathers (first :: rest) ∧
        (∀ function reduction, ∃ folded,
          Grid.fold origin arg function (first :: rest) = .ok folded ∧
            (stack.reduce reduction).shape = folded.shape ∧
            (stack.reduce reduction).mask = folded.mask) ∧
        ((∀ grid ∈ first :: rest, ∀ value ∈ grid.values, Scalar.IsNumber value) →
          ∀ default, ∃ least greatest,
            Grid.fold origin arg Scalar.lesser (first :: rest) = .ok least ∧
            (stack.reduce (·.headD default)).SameNumbers least ∧
            Grid.fold origin arg Scalar.greater (first :: rest) = .ok greatest ∧
            (stack.reduce (·.getLastD default)).SameNumbers greatest) ∧
        (Scalar.AddsExactly α →
          Grid.fold origin arg (fun sum value => sum + value) (first :: rest) =
            .ok (stack.reduce Scalar.total)) := by
  refine ⟨fun _ => build?_eq_error_iff, ?_, build?_eq_none_iff, not_unsorted, ?_⟩
  · intro function error
    simp only [Grid.fold_eq_error_iff, build?_eq_error_iff]
  · intro stack built
    obtain ⟨shapes, rfl⟩ := build_eq_ok_iff.mp (build_of_build? built)
    have folds : ∀ function, Grid.fold origin arg function (first :: rest) =
        .ok (Grid.blend (Grid.foldValues function) (first :: rest)) :=
      fun function => Grid.fold_eq_ok_iff.mpr ⟨shapes, rfl⟩
    refine ⟨gathers_columns _ _ (List.cons_ne_nil _ _), ?_, ?_, ?_⟩
    · intro function reduction
      rw [reduce_columns]
      exact ⟨_, folds function, Grid.shape_blend _ _ _, Grid.mask_blend _ _ _⟩
    · intro numbers default
      simp only [reduce_columns]
      refine ⟨_, _, folds _, ?_, folds _, ?_⟩
      · apply Grid.sameNumbers_blend numbers
        intro value others each
        dsimp only [Function.comp_apply]
        rw [Scalar.arrange_of_numbers each]
        exact Scalar.eq_headD_sort_foldl_lesser each default
      · apply Grid.sameNumbers_blend numbers
        intro value others each
        dsimp only [Function.comp_apply]
        rw [Scalar.arrange_of_numbers each]
        exact Scalar.eq_getLastD_sort_foldl_greater each default
    · intro exact_
      rw [folds, reduce_columns]
      apply congrArg Except.ok
      apply Grid.blend_congr
      intro values length
      obtain ⟨value, others, rfl⟩ := List.exists_cons_of_length_eq_add_one length
      exact (Scalar.total_arrange_cons value others).symm

end SortedStack

end

/-! ## Counts of two years -/

namespace Sample

def earlier : Grid ℚ :=
  ⟨1, 2, [⟨4, false⟩, ⟨1, true⟩]⟩

def later : Grid ℚ :=
  ⟨1, 2, [⟨3, false⟩, ⟨2, false⟩]⟩

theorem build_agrees_with_fold_earlier_later :
    ∃ stack least greatest,
      SortedStack.build? [earlier, later] = some (.ok stack) ∧
        stack.Gathers [earlier, later] ∧
        Grid.fold .unknown "InFieldNames" Scalar.lesser [earlier, later] = .ok least ∧
        (stack.reduce (·.headD 0)).SameNumbers least ∧
        Grid.fold .unknown "InFieldNames" Scalar.greater [earlier, later] = .ok greatest ∧
        (stack.reduce (·.getLastD 0)).SameNumbers greatest ∧
        Grid.fold .unknown "InFieldNames" (fun sum value => sum + value)
          [earlier, later] =
          .ok (stack.reduce Scalar.total) := by
  obtain ⟨_, _, _, _, agrees⟩ :=
    SortedStack.build_agrees_with_fold .unknown "InFieldNames" earlier [later]
  obtain ⟨gathers, _, ends, sums⟩ := agrees _ rfl
  have numbers : ∀ grid ∈ [earlier, later], ∀ value ∈ grid.values,
      Scalar.IsNumber value := fun _ _ _ _ => Scalar.eq_iff.mpr rfl
  obtain ⟨least, greatest, lesser, first, greater, last⟩ := ends numbers 0
  exact ⟨_, least, greatest, rfl, gathers, lesser, first, greater, last,
    sums inferInstance⟩

/-- A layer of one cell. -/
def spot (value : Float) (masked : Bool) : Grid Float :=
  ⟨1, 1, [⟨value, masked⟩]⟩

/-- Layers of a high or a low spot, but for one of a masked spot that stores no
number. -/
def spots : List (Grid Float) :=
  spot 0.5 false :: spot (-0.5) false :: List.replicate 8 (spot 0.5 false) ++
    spot (0.0 / 0.0) true :: List.replicate 10 (spot (-0.5) false)

/-- The spots can be folded, but the sort gives up on stacking them. -/
theorem spots_unstacked :
    SortedStack.build? spots = none ∧
      (∀ function, ∃ folded, Grid.fold .unknown "InFieldNames" function spots =
        .ok folded) ∧
      ¬∀ (first : Grid Float) (rest : List (Grid Float)),
        (∃ folded, Grid.fold .unknown "InFieldNames" Scalar.lesser (first :: rest) =
          .ok folded) →
        ∃ stack, SortedStack.build? (first :: rest) = some (.ok stack) := by
  have shape : ∀ grid ∈ spots, grid.shape = (1, 1) := by decide +kernel
  have shapes : Grid.SameShape spots := fun first isFirst second isSecond =>
    (shape first isFirst).trans (shape second isSecond).symm
  have folds : ∀ function, ∃ folded,
      Grid.fold .unknown "InFieldNames" function spots = .ok folded :=
    fun _ => ⟨_, Grid.fold_eq_ok_iff.mpr ⟨shapes, rfl⟩⟩
  have gaveUp : SortedStack.build? spots = none :=
    Option.isNone_iff_eq_none.mp (by decide +kernel)
  refine ⟨gaveUp, folds, ?_⟩
  intro together
  obtain ⟨stack, built⟩ := together _ _ (folds Scalar.lesser)
  cases gaveUp.symm.trans built

end Sample

end FuzzyGrid
