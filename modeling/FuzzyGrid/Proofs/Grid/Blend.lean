import FuzzyGrid.Operator.Combine
import FuzzyGrid.Proofs.Grid.Seen
import Mathlib.Data.List.Forall2

/-!
# Grids combined place by place

Folding, adding up with weights and stacking all come to one thing: at every
place the scalars of all grids, in their order, are combined to one scalar, and
the place is masked where it is masked in some grid.  `Grid.blend` says so, and
the ways of combining grids are blends by the equations below.
-/

namespace FuzzyGrid

variable {α β : Type}

namespace Cell

/-- Two cells combined to one that is masked where one of them is. -/
def merge (function : α → α → α) (first second : Cell α) : Cell α :=
  ⟨function first.value second.value, first.masked || second.masked⟩

/-- The cells of one place combined to one that is masked where some is. -/
def blend (combine : List α → α) (cells : List (Cell α)) : Cell α :=
  ⟨combine (cells.map value), cells.any masked⟩

end Cell

namespace SortedStack

theorem columns_cons {grid : Grid α} {rest : List (Grid α)} (some : rest ≠ []) :
    columns (grid :: rest) = List.zipWith List.cons grid.cells (columns rest) := by
  cases rest with
  | nil => exact absurd rfl some
  | cons next others => rfl

theorem length_of_mem_columns {grids : List (Grid α)} {cells : List (Cell α)}
    (member : cells ∈ columns grids) : cells.length = grids.length := by
  induction grids generalizing cells with
  | nil => cases member
  | cons grid rest induction =>
      by_cases none_ : rest = []
      · subst rest
        obtain ⟨cell, _, rfl⟩ := List.mem_map.mp member
        rfl
      · rw [columns_cons none_, ← List.map_uncurry_zip_eq_zipWith] at member
        obtain ⟨⟨cell, others⟩, inZip, rfl⟩ := List.mem_map.mp member
        have length := induction (List.of_mem_zip inZip).2
        simp [length]

private theorem map_zipWith_cons {function : List (Cell α) → β}
    {other : List (Cell α) → β} {merge : Cell α → Cell α → Cell α}
    (same : ∀ first second cells, other (merge first second :: cells) =
      function (first :: second :: cells))
    (first second : List (Cell α)) (columns : List (List (Cell α))) :
    (List.zipWith List.cons (List.zipWith merge first second) columns).map other =
      (List.zipWith List.cons first
        (List.zipWith List.cons second columns)).map function := by
  induction first generalizing second columns with
  | nil => rfl
  | cons one first induction =>
      cases second with
      | nil => rfl
      | cons two second =>
          cases columns with
          | nil => rfl
          | cons column columns => simp [same, induction]

/-- Columns whose two first cells are merged. -/
theorem map_columns_merge {function : List (Cell α) → β}
    {other : List (Cell α) → β} {merge : Cell α → Cell α → Cell α}
    (same : ∀ first second cells, other (merge first second :: cells) =
      function (first :: second :: cells))
    {merged grid next : Grid α} (rest : List (Grid α))
    (cells : merged.cells = List.zipWith merge grid.cells next.cells) :
    (columns (merged :: rest)).map other =
      (columns (grid :: next :: rest)).map function := by
  by_cases none_ : rest = []
  · subst rest
    have alone : ∀ list : List (Cell α), list.map (fun cell => [cell]) =
        List.zipWith List.cons list (list.map fun _ => []) := by
      intro list
      induction list with
      | nil => rfl
      | cons cell list induction => simp [induction]
    simp only [columns, cells, List.map_map]
    clear cells
    generalize grid.cells = first
    generalize next.cells = second
    induction first generalizing second with
    | nil => rfl
    | cons one first induction =>
        cases second with
        | nil => rfl
        | cons two second => simpa [same] using induction second
  · rw [columns_cons none_, cells, columns_cons (List.cons_ne_nil _ _),
      columns_cons none_]
    exact map_zipWith_cons same _ _ _

/-- A function may be applied to all grids before or after they are
gathered. -/
theorem columns_map (function : α → α) (grids : List (Grid α)) :
    columns (grids.map fun grid => grid.map function) =
      (columns grids).map (List.map (Cell.map function)) := by
  induction grids with
  | nil => rfl
  | cons grid rest induction =>
      by_cases none_ : rest = []
      · subst rest
        simp [columns, Grid.map, Function.comp_def]
      · have others : rest.map (fun grid => grid.map function) ≠ [] :=
          mt List.map_eq_nil_iff.mp none_
        rw [List.map_cons, columns_cons others, columns_cons none_, induction,
          List.map_zipWith]
        simp [Grid.map, List.zipWith_map]

theorem forall₂_zipWith {γ δ : Type} {one : β → β → Prop}
    {two : γ → γ → Prop} {both : δ → δ → Prop} {combine : β → γ → δ}
    (combines : ∀ first second other another, one first other →
      two second another → both (combine first second) (combine other another))
    {left other : List β} {right another : List γ}
    (sameLeft : List.Forall₂ one left other)
    (sameRight : List.Forall₂ two right another) :
    List.Forall₂ both (List.zipWith combine left right)
      (List.zipWith combine other another) := by
  induction sameLeft generalizing right another with
  | nil => exact .nil
  | cons same _ induction =>
      cases sameRight with
      | nil => exact .nil
      | cons also rest =>
          exact .cons (combines _ _ _ _ same also) (induction rest)

/-- Grids whose cells are related have columns whose cells are. -/
theorem forall₂_columns {related : Cell α → Cell α → Prop}
    {first second : List (Grid α)}
    (all : List.Forall₂ (fun grid other =>
      List.Forall₂ related grid.cells other.cells) first second) :
    List.Forall₂ (List.Forall₂ related) (columns first) (columns second) := by
  induction all with
  | nil => exact .nil
  | cons cells tail induction =>
      cases tail with
      | nil =>
          simp only [columns, List.forall₂_map_left_iff,
            List.forall₂_map_right_iff]
          exact cells.imp fun _ _ sameCell => .cons sameCell .nil
      | cons =>
          rw [columns_cons (List.cons_ne_nil _ _),
            columns_cons (List.cons_ne_nil _ _)]
          exact forall₂_zipWith (fun _ _ _ _ => .cons) cells induction

end SortedStack

namespace Grid

open SortedStack (columns)

/-- Grids of one shape combined place by place. -/
def blend (combine : List α → α) : List (Grid α) → Grid α
  | [] => ⟨0, 0, []⟩
  | first :: rest =>
    ⟨first.rows, first.cols, (columns (first :: rest)).map (Cell.blend combine)⟩

/-- Blend grids with the first one, which every other must match in shape. -/
def blend? (combine : List α → α) :
    List (Grid α) → Except ShapeMismatch (Grid α)
  | [] => .ok (blend combine [])
  | first :: rest =>
    match rest.find? fun grid => first.shape != grid.shape with
    | some other => .error ⟨first.shape, other.shape⟩
    | none => .ok (blend combine (first :: rest))

theorem blend?_cons_eq_ok_iff {combine : List α → α} {first blended : Grid α}
    {rest : List (Grid α)} :
    blend? combine (first :: rest) = .ok blended ↔
      (∀ grid ∈ rest, grid.shape = first.shape) ∧
        blended = blend combine (first :: rest) := by
  cases found : rest.find? fun grid => first.shape != grid.shape with
  | some other =>
      have member := List.mem_of_find?_eq_some found
      have different := List.find?_some found
      simp only [bne_iff_ne, ne_eq] at different
      simp only [blend?, found, reduceCtorEq, false_iff, not_and]
      intro same
      exact absurd (same other member).symm different
  | none =>
      have same : ∀ grid ∈ rest, grid.shape = first.shape := by
        intro grid member
        have unfound := List.find?_eq_none.mp found grid member
        simp only [bne_iff_ne, ne_eq, Decidable.not_not] at unfound
        exact unfound.symm
      simp only [blend?, found, Except.ok.injEq]
      constructor
      · intro blends
        exact ⟨same, blends.symm⟩
      · intro blends
        exact blends.2.symm

/-- Grids that all have one shape. -/
def SameShape (grids : List (Grid α)) : Prop :=
  ∀ first ∈ grids, ∀ second ∈ grids, first.shape = second.shape

instance (grids : List (Grid α)) : Decidable (SameShape grids) :=
  inferInstanceAs (Decidable (∀ first ∈ grids, ∀ second ∈ grids,
    first.shape = second.shape))

theorem SameShape.of_shapes {grids others : List (Grid α)} (shapes : SameShape grids)
    (found : ∀ other ∈ others, ∃ grid ∈ grids, grid.shape = other.shape) :
    SameShape others := by
  intro first isFirst second isSecond
  obtain ⟨one, isOne, oneShape⟩ := found first isFirst
  obtain ⟨two, isTwo, twoShape⟩ := found second isSecond
  rw [← oneShape, ← twoShape]
  exact shapes one isOne two isTwo

theorem SameShape.perm {grids others : List (Grid α)} (shapes : SameShape grids)
    (same : others.Perm grids) : SameShape others :=
  shapes.of_shapes fun other member => ⟨other, same.subset member, rfl⟩

theorem SameShape.map {grids : List (Grid α)} (shapes : SameShape grids)
    (function : α → α) : SameShape (grids.map fun grid => grid.map function) := by
  apply shapes.of_shapes
  rintro _ isMapped
  obtain ⟨grid, member, rfl⟩ := List.mem_map.mp isMapped
  exact ⟨grid, member, rfl⟩

theorem SameShape.blend?_eq {grids : List (Grid α)} (shapes : SameShape grids)
    (combine : List α → α) : blend? combine grids = .ok (blend combine grids) := by
  cases grids with
  | nil => rfl
  | cons first rest =>
      refine blend?_cons_eq_ok_iff.mpr ⟨?_, rfl⟩
      intro grid member
      exact shapes grid (List.mem_cons_of_mem _ member) first List.mem_cons_self

theorem blend?_eq_ok_iff {combine : List α → α} {grids : List (Grid α)}
    {blended : Grid α} :
    blend? combine grids = .ok blended ↔
      SameShape grids ∧ blended = blend combine grids := by
  constructor
  · intro blends
    cases grids with
    | nil => exact ⟨nofun, (Except.ok.inj blends).symm⟩
    | cons first rest =>
        obtain ⟨shapes, same⟩ := blend?_cons_eq_ok_iff.mp blends
        have all : ∀ grid ∈ first :: rest, grid.shape = first.shape :=
          List.forall_mem_cons.mpr ⟨rfl, shapes⟩
        refine ⟨?_, same⟩
        intro one isOne other isOther
        exact (all one isOne).trans (all other isOther).symm
  · rintro ⟨shapes, rfl⟩
    exact shapes.blend?_eq combine

theorem blend_congr {combine other : List α → α} {grids : List (Grid α)}
    (same : ∀ values, values.length = grids.length →
      combine values = other values) :
    blend combine grids = blend other grids := by
  cases grids with
  | nil => rfl
  | cons first rest =>
      simp only [blend, mk.injEq, true_and]
      apply List.map_congr_left
      intro cells member
      have length := SortedStack.length_of_mem_columns member
      simp [Cell.blend, same (cells.map Cell.value) (by simp [length])]

theorem blend?_congr {combine other : List α → α} {grids : List (Grid α)}
    (same : ∀ values, values.length = grids.length →
      combine values = other values) :
    blend? combine grids = blend? other grids := by
  cases grids with
  | nil => rfl
  | cons first rest => simp only [blend?, blend_congr same]

theorem map_blend (combine : List α → α) (function : α → α)
    (grids : List (Grid α)) :
    (blend combine grids).map function = blend (function ∘ combine) grids := by
  cases grids with
  | nil => rfl
  | cons first rest => simp [blend, map, Cell.blend, Cell.map]

theorem map_blend? (combine : List α → α) (function : α → α)
    (grids : List (Grid α)) :
    (blend? combine grids).map (fun grid => grid.map function) =
      blend? (function ∘ combine) grids := by
  have mapped := map_blend combine function grids
  cases grids with
  | nil => exact congrArg Except.ok mapped
  | cons first rest =>
      cases found : rest.find? fun grid => first.shape != grid.shape with
      | some other => simp [blend?, found, Except.map]
      | none => simp [blend?, found, Except.map, mapped]

/-- A function may be applied to all grids beforehand. -/
theorem blend_map (combine : List α → α) (function : α → α)
    (grids : List (Grid α)) :
    blend combine (grids.map fun grid => grid.map function) =
      blend (fun values => combine (values.map function)) grids := by
  cases grids with
  | nil => rfl
  | cons first rest =>
      have sameCells : (columns ((first :: rest).map fun grid =>
          grid.map function)).map (Cell.blend combine) =
          (columns (first :: rest)).map
            (Cell.blend fun values => combine (values.map function)) := by
        rw [SortedStack.columns_map, List.map_map]
        apply List.map_congr_left
        intro cells _
        simp [Cell.blend, Cell.map, Function.comp_def, List.any_map]
      exact congrArg (Grid.mk first.rows first.cols) sameCells

/-- To blend is to merge two grids first, where the blend of a place can be
taken from the merged cell. -/
theorem blend?_cons_cons {combine : List α → α} (other : List α → α)
    (function : α → α → α)
    (same : ∀ first second values, other (function first second :: values) =
      combine (first :: second :: values))
    (grid next : Grid α) (rest : List (Grid α)) :
    blend? combine (grid :: next :: rest) =
      (grid.zipWith next .union function >>= fun merged =>
        blend? other (merged :: rest)) := by
  by_cases shape : grid.shape = next.shape
  · let merged : Grid α := { grid with
      cells := List.zipWith (Cell.merge function) grid.cells next.cells }
    have merges : grid.zipWith next .union function = .ok merged := if_pos shape
    have mergedShape : merged.shape = grid.shape := rfl
    have sameCell : ∀ first second cells,
        Cell.blend other (Cell.merge function first second :: cells) =
          Cell.blend combine (first :: second :: cells) := by
      intro first second cells
      simp [Cell.blend, Cell.merge, same, Bool.or_assoc]
    have sameBlend :
        blend combine (grid :: next :: rest) = blend other (merged :: rest) :=
      congrArg (Grid.mk grid.rows grid.cols)
        (SortedStack.map_columns_merge sameCell rest rfl).symm
    rw [merges]
    simp only [blend?, List.find?_cons, mergedShape, shape, bne_self_eq_false,
      Bind.bind, Except.bind, sameBlend]
  · simp [blend?, shape, zipWith, Bind.bind, Except.bind]

theorem blend?_singleton {combine : List α → α}
    (same : ∀ value, combine [value] = value) (grid : Grid α) :
    blend? combine [grid] = .ok grid := by
  have sameCell : ∀ cell : Cell α, Cell.blend combine [cell] = cell := by
    intro cell
    simp [Cell.blend, same]
  simp [blend?, blend, columns, Function.comp_def, sameCell]

/-- A function may be applied to the first grid beforehand. -/
theorem blend_map_cons {combine other : List α → α} (function : α → α)
    (same : ∀ value values, other (function value :: values) =
      combine (value :: values)) (first : Grid α) (rest : List (Grid α)) :
    blend other (first.map function :: rest) = blend combine (first :: rest) := by
  have sameCell : ∀ cell cells,
      Cell.blend other (Cell.map function cell :: cells) =
        Cell.blend combine (cell :: cells) := by
    intro cell cells
    simp [Cell.blend, Cell.map, same]
  have sameCells : (columns (first.map function :: rest)).map (Cell.blend other) =
      (columns (first :: rest)).map (Cell.blend combine) := by
    cases rest with
    | nil => simp [columns, map, sameCell]
    | cons next others =>
        simp [columns, map, List.zipWith_map_left, List.map_zipWith, sameCell]
  exact congrArg (Grid.mk first.rows first.cols) sameCells

theorem blend?_map_cons {combine other : List α → α} (function : α → α)
    (same : ∀ value values, other (function value :: values) =
      combine (value :: values)) (first : Grid α) (rest : List (Grid α)) :
    blend? other (first.map function :: rest) = blend? combine (first :: rest) := by
  have sameShape : (first.map function).shape = first.shape := rfl
  simp only [blend?, blend_map_cons function same, sameShape]

/-! ## Folds, weighted sums and stacks -/

section

variable [Scalar α] (origin : Origin) (arg : String)

def foldValues (function : α → α → α) : List α → α
  | [] => Scalar.emptySum
  | first :: rest => rest.foldl function first

/-- Weighted values added to the first one. -/
def addWeights (weights : List α) : List α → α
  | [] => Scalar.emptySum
  | first :: rest =>
    (rest.zip weights).foldl (fun sum pair => sum + pair.1 * pair.2) first

/-- The weighted sum of the values of one place. -/
def weighValues (weights values : List α) : α :=
  match weights, values with
  | weight :: others, first :: rest => addWeights others (first * weight :: rest)
  | _, _ => Scalar.emptySum

omit [Scalar α] in
theorem blame_eq_ok_iff {outcome : Except ShapeMismatch (Grid α)} {grid : Grid α} :
    blame origin arg outcome = .ok grid ↔ outcome = .ok grid := by
  cases outcome <;> simp [blame]

omit [Scalar α] in
theorem blame_bind (outcome : Except ShapeMismatch (Grid α))
    (next : Grid α → Except ShapeMismatch (Grid α)) :
    blame origin arg (outcome >>= next) =
      (blame origin arg outcome >>= fun grid => blame origin arg (next grid)) := by
  cases outcome <;> rfl

theorem foldOnto_eq (function : α → α → α) (grid : Grid α)
    (rest : List (Grid α)) :
    foldOnto origin arg function grid rest =
      blame origin arg (blend? (foldValues function) (grid :: rest)) := by
  induction rest generalizing grid with
  | nil => rw [foldOnto, blend?_singleton (fun _ => rfl), blame]
  | cons next rest induction =>
      rw [blend?_cons_cons (foldValues function) function (fun _ _ _ => rfl),
        blame_bind, foldOnto]
      cases blame origin arg (grid.zipWith next .union function) with
      | error fault => rfl
      | ok merged => exact induction merged

theorem fold_eq (function : α → α → α) (first : Grid α)
    (rest : List (Grid α)) :
    fold origin arg function (first :: rest) =
      blame origin arg (blend? (foldValues function) (first :: rest)) :=
  foldOnto_eq origin arg function first rest

theorem addWeighted_eq (grid : Grid α) {rest : List (Grid α)}
    {weights : List α} (length : weights.length = rest.length) :
    addWeighted origin arg grid rest weights =
      blame origin arg (blend? (addWeights weights) (grid :: rest)) := by
  induction rest generalizing grid weights with
  | nil =>
      cases List.length_eq_zero_iff.mp length
      rw [addWeighted, blend?_singleton (fun _ => rfl), blame]
      exact fun _ _ _ _ _ => nofun
  | cons next rest induction =>
      obtain ⟨weight, others, rfl⟩ := List.exists_cons_of_length_eq_add_one length
      rw [blend?_cons_cons (addWeights others)
        (fun sum value => sum + value * weight) (fun _ _ _ => rfl), blame_bind,
        addWeighted]
      cases blame origin arg
          (grid.zipWith next .union fun sum value => sum + value * weight) with
      | error fault => rfl
      | ok merged => exact induction merged (Nat.succ.inj length)

theorem weightedSum_eq (first : Grid α) {rest : List (Grid α)}
    {weights : List α} (length : weights.length = (first :: rest).length) :
    weightedSum origin arg (first :: rest) weights =
      blame origin arg (blend? (weighValues weights) (first :: rest)) := by
  obtain ⟨weight, others, rfl⟩ := List.exists_cons_of_length_eq_add_one length
  have weighed : blend? (addWeights others)
      (first.map (fun value => value * weight) :: rest) =
      blend? (weighValues (weight :: others)) (first :: rest) :=
    blend?_map_cons (fun value => value * weight) (fun _ _ => rfl) first rest
  rw [weightedSum, addWeighted_eq origin arg _ (Nat.succ.inj length), weighed]

/-- Reducing a stack is a blend of the values in ascending order. -/
theorem stack_reduce_eq (grids : List (Grid α)) (function : List α → α) :
    (stack origin arg grids).map (fun stack => stack.reduce function) =
      blame origin arg (blend? (function ∘ Scalar.arrange id) grids) := by
  cases grids with
  | nil => rfl
  | cons first rest =>
      cases found : rest.find? fun grid => first.shape != grid.shape with
      | some other =>
          simp [stack, SortedStack.build, blend?, found, blame, Except.map]
      | none =>
          simp [stack, SortedStack.build, blend?, found, blame, Except.map,
            SortedStack.reduce, SortedStack.ofCells, blend, Cell.blend,
            Function.comp_def]

/-- Grids of one shape can be stacked, for whichever command. -/
theorem SameShape.exists_stack {grids : List (Grid α)} (shapes : SameShape grids)
    (function : List α → α) :
    ∃ stacked, (∀ origin arg, stack origin arg grids = .ok stacked) ∧
      stacked.reduce function = blend (function ∘ Scalar.arrange id) grids := by
  have reduces := stack_reduce_eq .unknown "" grids function
  rw [shapes.blend?_eq, stack] at reduces
  cases built : SortedStack.build grids with
  | error fault =>
      rw [built] at reduces
      cases reduces
  | ok stacked =>
      rw [built] at reduces
      refine ⟨stacked, fun origin arg => ?_, Except.ok.inj reduces⟩
      rw [stack, built]

end

/-! ## Masked places -/

def MaskedAt (grid : Grid α) (place : Nat) : Prop :=
  grid.mask[place]? = some true

theorem length_columns {count : Nat} {grids : List (Grid α)} (some : grids ≠ [])
    (sizes : ∀ grid ∈ grids, grid.size = count) :
    (columns grids).length = count := by
  induction grids with
  | nil => exact absurd rfl some
  | cons grid rest induction =>
      have own : grid.cells.length = count := sizes grid List.mem_cons_self
      by_cases none_ : rest = []
      · subst rest
        simpa [columns] using own
      · have others := induction none_ fun other member =>
          sizes other (List.mem_cons_of_mem _ member)
        rw [SortedStack.columns_cons none_, List.length_zipWith, others, own,
          Nat.min_self]

private theorem any_masked_columns_iff {count place : Nat}
    {grids : List (Grid α)} (some_ : grids ≠ [])
    (sizes : ∀ grid ∈ grids, grid.size = count) :
    ((columns grids).map fun cells => cells.any Cell.masked)[place]? =
        some true ↔
      ∃ grid ∈ grids, grid.MaskedAt place := by
  induction grids with
  | nil => exact absurd rfl some_
  | cons grid rest induction =>
      have own : grid.cells.length = count := sizes grid List.mem_cons_self
      by_cases none_ : rest = []
      · subst rest
        simp [columns, MaskedAt, mask]
      · have otherSizes : ∀ other ∈ rest, other.size = count :=
          fun other member => sizes other (List.mem_cons_of_mem _ member)
        have length := length_columns none_ otherSizes
        have parts : (∃ other ∈ grid :: rest, other.MaskedAt place) ↔
            grid.MaskedAt place ∨ ∃ other ∈ rest, other.MaskedAt place := by
          simp
        rw [parts, ← induction none_ otherSizes, SortedStack.columns_cons none_]
        unfold MaskedAt mask
        rw [List.getElem?_map, List.getElem?_zipWith, List.getElem?_map,
          List.getElem?_map]
        by_cases inside : place < count
        · have here : place < grid.cells.length := own ▸ inside
          have there : place < (columns rest).length := length ▸ inside
          simp [here, there]
        · have beyond : grid.cells.length ≤ place := own ▸ Nat.le_of_not_lt inside
          have beyondRest : (columns rest).length ≤ place :=
            length ▸ Nat.le_of_not_lt inside
          simp [beyond, beyondRest]

theorem size_blend (combine : List α → α) {count : Nat} {grids : List (Grid α)}
    (some : grids ≠ []) (sizes : ∀ grid ∈ grids, grid.size = count) :
    (blend combine grids).size = count := by
  cases grids with
  | nil => exact absurd rfl some
  | cons first rest => simpa [blend, size] using length_columns some sizes

/-- A blend of grids of one size is masked where one of them is. -/
theorem maskedAt_blend_iff (combine : List α → α) {count place : Nat}
    {grids : List (Grid α)} (some : grids ≠ [])
    (sizes : ∀ grid ∈ grids, grid.size = count) :
    (blend combine grids).MaskedAt place ↔
      ∃ grid ∈ grids, grid.MaskedAt place := by
  rw [← any_masked_columns_iff some sizes]
  cases grids with
  | nil => exact absurd rfl some
  | cons first rest => simp [MaskedAt, mask, blend, Cell.blend, Function.comp_def]

end Grid

end FuzzyGrid
