import Mathlib.Data.List.Basic
import Mathlib.Data.List.Forall2
import FuzzyGrid.Proofs.Number.Exact

/-!
# The layout of input layers

An input layer is written down as nested rows, and as nested rows of mask bits
if any cell is masked.  A grid flattens both of them apart from each other, and
printing it cuts its cells into rows again.  All of this is read here from one
nested arrangement of cells, in which every value stands with the mask bit at
its own row and column.
-/

namespace FuzzyGrid

open List (Forall₂)

variable {α : Type}

namespace Grid

/-! ## Rows of one length -/

/-- Nested rows that differ in nothing but their entries. -/
def SameLengths {β : Type} (rows : List (List β)) : Prop :=
  ∀ row ∈ rows, ∀ other ∈ rows, row.length = other.length

theorem length_eq_columnCount {rows : List (List α)} (same : SameLengths rows)
    {row : List α} (member : row ∈ rows) : row.length = columnCount rows := by
  cases rows with
  | nil => cases member
  | cons first rest => exact same row member first List.mem_cons_self

theorem sameLengths_of_columnCount {rows : List (List α)} {count : Nat}
    (lengths : ∀ row ∈ rows, row.length = count) : SameLengths rows := by
  intro row member other otherMember
  exact (lengths row member).trans (lengths other otherMember).symm

theorem length_flatten_of_lengths {β : Type} {rows : List (List β)} {count : Nat}
    (lengths : ∀ row ∈ rows, row.length = count) :
    rows.flatten.length = rows.length * count := by
  have each : rows.map List.length = List.replicate rows.length count := by
    simpa [List.eq_replicate_iff] using lengths
  rw [List.length_flatten, each, List.sum_replicate_nat]

theorem cellsOf_unmasked (values : List α) :
    cellsOf values (values.map fun _ => false) =
      values.map fun value => ⟨value, false⟩ := by
  rw [cellsOf, List.zipWith_map_right, List.zipWith_self]

theorem cellsOf_eq_mapIdx {values : List α} {mask : List Bool}
    (length : mask.length = values.length) :
    cellsOf values mask = values.mapIdx fun column value =>
      ⟨value, mask[column]?.getD false⟩ := by
  symm
  rw [List.mapIdx_eq_iff]
  intro column
  rw [cellsOf, List.getElem?_zipWith]
  cases isValue : values[column]? with
  | none => rfl
  | some value =>
      have bound : column < mask.length :=
        length ▸ (List.getElem?_eq_some_iff.mp isValue).1
      rw [List.getElem?_eq_getElem bound]
      rfl

theorem replaceMask_unmasked {rows cols : Nat} {values : List α} {mask : List Bool}
    (length : mask.length = values.length) :
    replaceMask ⟨rows, cols, values.map fun value => ⟨value, false⟩⟩ mask =
      .ok ⟨rows, cols, cellsOf values mask⟩ := by
  have stored : (values.map fun value => Cell.mk value false).map Cell.value =
      values := by
    rw [List.map_map]
    exact List.map_id _
  rw [replaceMask, if_pos (by rwa [size, List.length_map]), Grid.values, stored]

/-- Rows of one length make a grid; their number of values is never more than
a word can tell from that of the shape. -/
theorem ofRows_eq {rows : List (List α)} (same : SameLengths rows) :
    ofRows rows =
      .ok ⟨rows.length, columnCount rows,
        rows.flatten.map fun value => ⟨value, false⟩⟩ := by
  have lengths : ∀ row ∈ rows, row.length = columnCount rows :=
    fun _ member => length_eq_columnCount same member
  have even : ¬(rows.any fun row => row.length != columnCount rows) = true := by
    simpa using lengths
  have count := length_flatten_of_lengths lengths
  rw [ofRows, if_neg even, ofValues, withMask, if_neg, if_neg, cellsOf_unmasked]
  · rw [not_ne_iff, List.length_map]
  · rw [not_ne_iff, count, wordCount]

theorem sameLengths_of_ofRows {rows : List (List α)} {grid : Grid α}
    (made : ofRows rows = .ok grid) : SameLengths rows := by
  by_cases uneven : (rows.any fun row => row.length != columnCount rows) = true
  · rw [ofRows, if_pos uneven] at made
    cases made
  · apply sameLengths_of_columnCount
    simpa using uneven

/-! ## Rows and columns of a flat list -/

theorem cellRows_flatten {cols : Nat} {nested : List (List (Cell α))}
    (lengths : ∀ row ∈ nested, row.length = cols) :
    cellRows cols nested.length nested.flatten = nested := by
  induction nested with
  | nil => rfl
  | cons row rest induction =>
      have ⟨length, others⟩ := List.forall_mem_cons.mp lengths
      rw [List.length_cons, List.flatten_cons, cellRows, List.take_left' length,
        List.drop_left' length, induction others]

/-- The entry of a row and a column comes after those of all rows before. -/
theorem getElem?_flatten_of_lengths {β : Type} {cols : Nat} {nested : List (List β)}
    (lengths : ∀ row ∈ nested, row.length = cols) {row column : Nat}
    {entries : List β} {entry : β} (isRow : nested[row]? = some entries)
    (isEntry : entries[column]? = some entry) :
    nested.flatten[row * cols + column]? = some entry := by
  induction nested generalizing row with
  | nil => cases isRow
  | cons first rest induction =>
      have ⟨length, others⟩ := List.forall_mem_cons.mp lengths
      rw [List.flatten_cons]
      cases row with
      | zero =>
          cases isRow
          rw [Nat.zero_mul, Nat.zero_add]
          exact List.getElem?_append_left (List.getElem?_eq_some_iff.mp isEntry).1
            |>.trans isEntry
      | succ row =>
          have shift : (row + 1) * cols + column - first.length =
              row * cols + column := by
            rw [length, Nat.succ_mul]
            omega
          have beyond : first.length ≤ (row + 1) * cols + column := by
            rw [length, Nat.succ_mul]
            omega
          rw [List.getElem?_append_right beyond, shift]
          exact induction others isRow

/-- Two nested lists of one layout flatten place by place. -/
theorem zipWith_flatten {β γ δ : Type} (function : β → γ → δ)
    {left : List (List β)} {right : List (List γ)}
    (layout : Forall₂ (fun first second => first.length = second.length) left right) :
    List.zipWith function left.flatten right.flatten =
      (List.zipWith (List.zipWith function) left right).flatten := by
  induction layout with
  | nil => rfl
  | cons length _ induction =>
      rw [List.flatten_cons, List.flatten_cons, List.zipWith_append length, induction,
        List.zipWith_cons_cons, List.flatten_cons]

end Grid

/-! ## Input layers -/

namespace InputLayer

/-- Whether the nested mask of an input covers a place.  Without a mask no
place is covered. -/
def maskedAt (input : InputLayer α) (row column : Nat) : Bool :=
  match input.mask with
  | none => false
  | some mask => ((mask[row]?.getD [])[column]?).getD false

/-- Nested rows of one length, and a mask of their nested shape if there is
one. -/
structure WellShaped (input : InputLayer α) : Prop where
  rows : Grid.SameLengths input.rows
  mask : ∀ mask, input.mask = some mask →
    Forall₂ (fun bits values => bits.length = values.length) mask input.rows

/-- Every value with the mask bit of its row and column. -/
def nestedCells (input : InputLayer α) : List (List (Cell α)) :=
  input.rows.mapIdx fun row values =>
    values.mapIdx fun column value => ⟨value, input.maskedAt row column⟩

theorem fits_iff {rows : List (List α)} {mask : List (List Bool)} :
    fits rows mask = true ↔
      Forall₂ (fun bits values => bits.length = values.length) mask rows := by
  rw [fits, beq_iff_eq, ← List.forall₂_eq_eq_eq, List.forall₂_map_left_iff,
    List.forall₂_map_right_iff]

theorem exists_bits {rows : List (List α)} {mask : List (List Bool)}
    (layout : Forall₂ (fun bits values => bits.length = values.length) mask rows)
    {row : Nat} {values : List α} (isRow : rows[row]? = some values) :
    ∃ bits, mask[row]? = some bits ∧ bits.length = values.length := by
  have lengths : mask.map List.length = rows.map List.length :=
    beq_iff_eq.mp (fits_iff.mpr layout)
  have here := congrArg (·[row]?) lengths
  simpa [isRow] using here

theorem length_nestedCells (input : InputLayer α) :
    input.nestedCells.length = input.rows.length :=
  List.length_mapIdx

theorem nestedCells_lengths {input : InputLayer α}
    (same : Grid.SameLengths input.rows) :
    ∀ cells ∈ input.nestedCells, cells.length = Grid.columnCount input.rows := by
  intro cells member
  obtain ⟨row, bound, rfl⟩ := List.mem_mapIdx.mp member
  rw [List.length_mapIdx]
  exact Grid.length_eq_columnCount same (List.getElem_mem bound)

theorem nestedCells_unmasked {input : InputLayer α} (none_ : input.mask = none) :
    input.nestedCells = input.rows.map fun values =>
      values.map fun value => ⟨value, false⟩ := by
  rw [nestedCells, List.mapIdx_eq_iff]
  intro row
  rw [List.getElem?_map]
  congr 1
  funext values
  symm
  rw [List.mapIdx_eq_iff]
  intro column
  rw [List.getElem?_map, maskedAt, none_]

theorem nestedCells_masked {input : InputLayer α} {mask : List (List Bool)}
    (given : input.mask = some mask)
    (layout : Forall₂ (fun bits values => bits.length = values.length) mask
      input.rows) :
    input.nestedCells = List.zipWith Grid.cellsOf input.rows mask := by
  rw [nestedCells, List.mapIdx_eq_iff]
  intro row
  rw [List.getElem?_zipWith]
  cases isRow : input.rows[row]? with
  | none => rfl
  | some values =>
      obtain ⟨bits, isBits, length⟩ := exists_bits layout isRow
      rw [isBits]
      apply congrArg some
      rw [Grid.cellsOf_eq_mapIdx length]
      simp [maskedAt, given, isBits]

/-- Whatever flattening does to values and mask bits, it does alike. -/
theorem toGrid_eq {input : InputLayer α} (well : input.WellShaped) :
    input.toGrid = .ok ⟨input.rows.length, Grid.columnCount input.rows,
      input.nestedCells.flatten⟩ := by
  unfold toGrid
  rw [Grid.ofRows_eq well.rows]
  cases given : input.mask with
  | none =>
      rw [nestedCells_unmasked given, List.map_flatten]
  | some mask =>
      have layout := well.mask mask given
      have fit := fits_iff.mpr layout
      have flat : Grid.cellsOf input.rows.flatten mask.flatten =
          (List.zipWith Grid.cellsOf input.rows mask).flatten :=
        Grid.zipWith_flatten Cell.mk (layout.flip.imp fun _ _ => Eq.symm)
      have count : mask.flatten.length = input.rows.flatten.length := by
        rw [List.length_flatten, List.length_flatten, beq_iff_eq.mp fit]
      simp only [if_pos fit]
      rw [Grid.replaceMask_unmasked count, flat, nestedCells_masked given layout]

theorem wellShaped_of_toGrid {input : InputLayer α} {grid : Grid α}
    (made : input.toGrid = .ok grid) : input.WellShaped := by
  unfold toGrid at made
  split at made
  · cases made
  · rename_i unmasked ofRows
    refine ⟨Grid.sameLengths_of_ofRows ofRows, ?_⟩
    intro mask given
    rw [given] at made
    by_cases fit : fits input.rows mask = true
    · exact fits_iff.mp fit
    · simp only [if_neg fit] at made
      cases made

theorem toLayer_eq_ok_iff {input : InputLayer α} {layer : String × Result α} :
    input.toLayer = .ok layer ↔
      input.WellShaped ∧
        layer = (input.name, .layer ⟨input.rows.length,
          Grid.columnCount input.rows, input.nestedCells.flatten⟩ input.dataType) := by
  constructor
  · intro made
    cases read : input.toGrid with
    | error fault =>
        rw [toLayer, read] at made
        cases made
    | ok grid =>
        have well := wellShaped_of_toGrid read
        rw [toLayer, toGrid_eq well] at made
        cases made
        exact ⟨well, rfl⟩
  · rintro ⟨well, rfl⟩
    rw [toLayer, toGrid_eq well]
    rfl

/-! ## The whole layout -/

variable [Scalar α]

/-- The printed cell of a row and a column. -/
def token (input : InputLayer α) (row column : Nat) (value : α) : String :=
  if input.maskedAt row column then "--" else Scalar.cellText value

/-- A printed row: its tokens in brackets, apart by single spaces. -/
def rowText (input : InputLayer α) (row : Nat) (values : List α) : String :=
  "[" ++ " ".intercalate (values.mapIdx (input.token row)) ++ "]"

/-- The printed rows of an input, one to a line and all in brackets. -/
def text (input : InputLayer α) : String :=
  "[" ++ "\n ".intercalate (input.rows.mapIdx input.rowText) ++ "]"

/-- A grid that has kept the layout of an input. -/
structure LaidOut (input : InputLayer α) (grid : Grid α) : Prop where
  shape : grid.shape = (input.rows.length, Grid.columnCount input.rows)
  size : grid.size = input.rows.length * Grid.columnCount input.rows
  /-- What stands in a row and a column stands at one place of the grid. -/
  cell : ∀ row values column value, input.rows[row]? = some values →
    values[column]? = some value →
    grid.cells[row * Grid.columnCount input.rows + column]? =
      some ⟨value, input.maskedAt row column⟩
  text : grid.text = input.text

theorem cellText_eq_token (input : InputLayer α) (row column : Nat) (value : α) :
    Grid.cellText ⟨value, input.maskedAt row column⟩ =
      input.token row column value := by
  rw [token]
  cases input.maskedAt row column with
  | false => rfl
  | true => rfl

theorem rowText_eq (input : InputLayer α) (row : Nat) (values : List α) :
    Grid.rowText (values.mapIdx fun column value =>
      ⟨value, input.maskedAt row column⟩) = input.rowText row values := by
  have tokens : values.mapIdx (input.token row) =
      (values.mapIdx fun column value =>
        Cell.mk value (input.maskedAt row column)).map Grid.cellText := by
    rw [List.mapIdx_eq_iff]
    intro column
    rw [List.getElem?_map, List.getElem?_mapIdx, Option.map_map]
    apply congrArg (Option.map · values[column]?)
    funext value
    exact input.cellText_eq_token row column value
  rw [Grid.rowText, rowText, tokens]

theorem map_rowText_nestedCells (input : InputLayer α) :
    input.nestedCells.map Grid.rowText = input.rows.mapIdx input.rowText := by
  symm
  rw [List.mapIdx_eq_iff]
  intro row
  rw [nestedCells, List.getElem?_map, List.getElem?_mapIdx, Option.map_map]
  apply congrArg (Option.map · input.rows[row]?)
  funext values
  exact input.rowText_eq row values

theorem laidOut {input : InputLayer α} (well : input.WellShaped) :
    input.LaidOut ⟨input.rows.length, Grid.columnCount input.rows,
      input.nestedCells.flatten⟩ where
  shape := rfl
  size := by
    rw [Grid.size, Grid.length_flatten_of_lengths (nestedCells_lengths well.rows),
      length_nestedCells]
  cell := by
    intro row values column value isRow isValue
    apply Grid.getElem?_flatten_of_lengths (nestedCells_lengths well.rows)
    · rw [nestedCells, List.getElem?_mapIdx, isRow]
      rfl
    · rw [List.getElem?_mapIdx, isValue]
      rfl
  text := by
    rw [Grid.text, text, ← map_rowText_nestedCells]
    have nested := Grid.cellRows_flatten (nestedCells_lengths well.rows)
    rw [length_nestedCells] at nested
    rw [nested]

/-- Input layers keep their layout.  A layer is made exactly of rows of one
length with a mask, if there is one, of their nested shape, and then every
value and mask bit stands at its row and column, in the grid and in print. -/
theorem toLayer_keeps_layout (input : InputLayer α) :
    ((∃ layer, input.toLayer = .ok layer) ↔ input.WellShaped) ∧
      ∀ name result, input.toLayer = .ok (name, result) →
        name = input.name ∧ ∃ grid,
          result = .layer grid input.dataType ∧ input.LaidOut grid := by
  constructor
  · constructor
    · rintro ⟨layer, made⟩
      exact (toLayer_eq_ok_iff.mp made).1
    · intro well
      exact ⟨_, toLayer_eq_ok_iff.mpr ⟨well, rfl⟩⟩
  · intro name result made
    obtain ⟨well, same⟩ := toLayer_eq_ok_iff.mp made
    obtain ⟨rfl, rfl⟩ := Prod.mk.inj same
    exact ⟨rfl, _, rfl, laidOut well⟩

end InputLayer

end FuzzyGrid
