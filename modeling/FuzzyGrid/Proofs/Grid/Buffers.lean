import FuzzyGrid.Proofs.Grid.Calls
import FuzzyGrid.Proofs.Grid.Layout
import FuzzyGrid.Proofs.Grid.Places
import FuzzyGrid.Proofs.Masking.Provenance

/-!
# Grids as buffers

A machine stores a grid as two buffers, one of scalars and one for the mask, and
its shape as two words.  Every operation makes or edits the buffers on their own,
and the number of scalars is compared with the product of the words, which wraps
around.  Whatever is called, the buffers stay of one length and hold the cells of
the grid.  That length is the number of rows and columns as a word; it is their
product unless a shape was given whose product does not fit.
-/

namespace FuzzyGrid

open List (Forall₂)

/-! ## Buffers -/

/-- A grid as it is stored. -/
structure Buffers (α : Type) where
  rows : UInt64
  cols : UInt64
  /-- The scalars, row after row. -/
  values : List α
  /-- Whether they are masked. -/
  mask : List Bool
  deriving Repr, DecidableEq

/-- A sorted stack as it is stored. -/
structure StackBuffers (α : Type) where
  rows : UInt64
  cols : UInt64
  /-- The values of all layers in ascending order, place by place. -/
  cells : List (List α)
  mask : List Bool
  deriving Repr, DecidableEq

/-- Change every entry along with the item at its place.  Entries without an item
stay. -/
def editAlong {β γ : Type} (change : β → γ → γ) : List β → List γ → List γ
  | item :: items, entry :: entries =>
    change item entry :: editAlong change items entries
  | _, entries => entries

/-- The entry at a place of a buffer. -/
def entryAt {β : Type} (buffer : List β) (place : Nat) : Except GridRefusal β :=
  match buffer[place]? with
  | some entry => .ok entry
  | none => .error (.outside place)

namespace Buffers

variable {α : Type}

def shape (buffers : Buffers α) : Nat × Nat :=
  (buffers.rows.toNat, buffers.cols.toNat)

/-- Buffers of given values and mask.  The product of the words wraps around. -/
def withMask (rows cols : UInt64) (values : List α) (mask : List Bool) :
    Except GridRefusal (Buffers α) :=
  if UInt64.ofNat values.length ≠ rows * cols then
    .error (.grid (.valueCount rows.toNat cols.toNat values.length))
  else if mask.length ≠ values.length then
    .error (.grid (.maskLength mask.length values.length))
  else
    .ok ⟨rows, cols, values, mask⟩

def ofValues (rows cols : UInt64) (values : List α) :
    Except GridRefusal (Buffers α) :=
  withMask rows cols values (List.replicate values.length false)

def ofRow (values : List α) : Buffers α :=
  ⟨1, UInt64.ofNat values.length, values, List.replicate values.length false⟩

def ofRows (rows : List (List α)) : Except GridRefusal (Buffers α) :=
  if rows.any fun row => row.length != Grid.columnCount rows then
    .error (.grid (.raggedRows (Grid.columnCount rows)))
  else
    ofValues (UInt64.ofNat rows.length) (UInt64.ofNat (Grid.columnCount rows))
      rows.flatten

def filled (rows cols : UInt64) (value : α) (mask : List Bool) :
    Except GridRefusal (Buffers α) :=
  withMask rows cols (List.replicate (rows * cols).toNat value) mask

def map (function : α → α) (buffers : Buffers α) : Buffers α :=
  { buffers with values := buffers.values.map function }

/-- Combine values with values and mask with mask. -/
def zipWith (rule : MaskRule) (function : α → α → α) (left right : Buffers α) :
    Except GridRefusal (Buffers α) :=
  if left.shape ≠ right.shape then
    .error (.shape ⟨left.shape, right.shape⟩)
  else
    .ok { left with
      values := List.zipWith function left.values right.values
      mask := match rule with
        | .union => List.zipWith or left.mask right.mask
        | .keepLeft => left.mask }

def maskWhere (test : α → Bool) (buffers : Buffers α) : Buffers α :=
  { buffers with
    mask := editAlong (fun value masked => if test value then true else masked)
      buffers.values buffers.mask }

def replaceMask (mask : List Bool) (buffers : Buffers α) :
    Buffers α × Except GridRefusal Unit :=
  if mask.length ≠ buffers.mask.length then
    (buffers, .error (.shape ⟨buffers.shape, (1, mask.length)⟩))
  else
    ({ buffers with mask := mask }, .ok ())

def clampUnmasked [Scalar α] (low high : α) (buffers : Buffers α) : Buffers α :=
  { buffers with
    values := editAlong
      (fun masked value => if masked then value else Scalar.clamp low high value)
      buffers.mask buffers.values }

/-- Values in ascending order, if the sort does not give up. -/
def arranged [Scalar α] (values : List α) : Except GridRefusal (List α) :=
  match Scalar.arrange? id values with
  | some ascending => .ok ascending
  | none => .error .unsorted

/-- The values of all layers at a place in ascending order, and whether one of
the layers is masked there. -/
def cellAt [Scalar α] (layers : List (Buffers α)) (place : Nat) :
    Except GridRefusal (List α × Bool) := do
  let values ← readAll (fun layer => entryAt layer.values place) layers
  let masks ← readAll (fun layer => entryAt layer.mask place) layers
  return (← arranged values, masks.any id)

/-- Stack layers on the first one, for as many places as it has values. -/
def build [Scalar α] : List (Buffers α) → Except GridRefusal (StackBuffers α)
  | [] => .ok ⟨0, 0, [], []⟩
  | first :: rest =>
    match (rest.map shape).find? fun other => first.shape != other with
    | some other => .error (.shape ⟨first.shape, other⟩)
    | none => do
      let cells ← readAll (cellAt (first :: rest)) (List.range first.values.length)
      return ⟨first.rows, first.cols, cells.map Prod.fst, cells.map Prod.snd⟩

end Buffers

def StackBuffers.reduce {α : Type} (function : List α → α)
    (stack : StackBuffers α) : Buffers α :=
  ⟨stack.rows, stack.cols, stack.cells.map function, stack.mask⟩

section

variable {α : Type} [Scalar α]

def bufferTools : GridTools α (Buffers α) (StackBuffers α) where
  withMask := Buffers.withMask
  ofValues := Buffers.ofValues
  ofRow := Buffers.ofRow
  ofRows := Buffers.ofRows
  filled := Buffers.filled
  map := Buffers.map
  zipWith := Buffers.zipWith
  maskWhere := Buffers.maskWhere
  replaceMask := Buffers.replaceMask
  clampUnmasked := Buffers.clampUnmasked
  build := Buffers.build
  reduce := StackBuffers.reduce

/-- The operations on grids made of cells. -/
def cellTools : GridTools α (Grid α) (SortedStack α) where
  withMask rows cols values mask :=
    (Grid.withMask rows.toNat cols.toNat values mask).mapError .grid
  ofValues rows cols values :=
    (Grid.ofValues rows.toNat cols.toNat values).mapError .grid
  ofRow := Grid.ofRow
  ofRows rows := (Grid.ofRows rows).mapError .grid
  filled rows cols value mask :=
    (Grid.filled rows.toNat cols.toNat value mask).mapError .grid
  map function grid := grid.map function
  zipWith rule function left right :=
    (left.zipWith right rule function).mapError .shape
  maskWhere test grid := grid.maskWhere test
  replaceMask mask grid :=
    match grid.replaceMask mask with
    | .ok masked => (masked, .ok ())
    | .error mismatch => (grid, .error (.shape mismatch))
  clampUnmasked low high grid := grid.clampUnmasked low high
  build grids :=
    match SortedStack.build? grids with
    | some outcome => outcome.mapError .shape
    | none => .error .unsorted
  reduce function stack := stack.reduce function

theorem careful_bufferTools : (bufferTools (α := α)).Careful := by
  intro mask buffers refusal fails
  dsimp only [bufferTools, Buffers.replaceMask] at fails ⊢
  split at fails
  · rename_i differs
    rw [if_pos differs]
  · cases fails

theorem careful_cellTools : (cellTools (α := α)).Careful := by
  intro mask grid refusal fails
  dsimp only [cellTools] at fails ⊢
  cases replaced : grid.replaceMask mask with
  | ok masked =>
      rw [replaced] at fails
      cases fails
  | error mismatch => rfl

theorem inside_cellTools : (cellTools (α := α)).Inside where
  withMask _ _ _ _ := StaysInside.mapError _ fun _ _ => nofun
  ofValues _ _ _ := StaysInside.mapError _ fun _ _ => nofun
  ofRows _ := StaysInside.mapError _ fun _ _ => nofun
  filled _ _ _ _ := StaysInside.mapError _ fun _ _ => nofun
  zipWith _ _ _ _ := StaysInside.mapError _ fun _ _ => nofun
  replaceMask mask grid := by
    dsimp only [cellTools]
    cases grid.replaceMask mask with
    | ok masked => exact StaysInside.ok ()
    | error mismatch => exact fun _ => nofun
  build grids := by
    dsimp only [cellTools]
    split
    · exact StaysInside.mapError _ fun _ _ => nofun
    · exact fun _ => nofun

end

/-! ## Grids and their buffers -/

section

variable {α : Type}

/-- Buffers that hold the shape, the scalars and the mask of a grid. -/
structure Grid.StoredAs (grid : Grid α) (buffers : Buffers α) : Prop where
  rows : buffers.rows.toNat = grid.rows
  cols : buffers.cols.toNat = grid.cols
  values : buffers.values = grid.values
  mask : buffers.mask = grid.mask

/-- Buffers that hold the shape, the ascending values and the mask of a stack. -/
structure SortedStack.StoredAs (stack : SortedStack α) (buffers : StackBuffers α) :
    Prop where
  rows : buffers.rows.toNat = stack.rows
  cols : buffers.cols.toNat = stack.cols
  cells : buffers.cells = stack.cells.map CellStack.ascending
  mask : buffers.mask = stack.cells.map CellStack.masked

/-- As many entries as rows and columns make, as far as a word can tell, and
just as many if they are counted exactly. -/
structure Counted (exact : Prop) (rows cols count : Nat) : Prop where
  word : count = Grid.wordCount rows cols
  product : exact → count = rows * cols

/-- Buffers that hold a grid, the cells being counted. -/
structure Grid.KeptAs (exact : Prop) (grid : Grid α) (buffers : Buffers α) : Prop
    extends grid.StoredAs buffers where
  counted : Counted exact grid.rows grid.cols grid.size

/-- Buffers that hold a stack, the places being counted. -/
structure SortedStack.KeptAs (exact : Prop) (stack : SortedStack α)
    (buffers : StackBuffers α) : Prop extends stack.StoredAs buffers where
  counted : Counted exact stack.rows stack.cols stack.cells.length

/-- The product of a shape that a call brings along fits a word. -/
def GridCall.Fits : GridCall α → Prop
  | withMask rows cols _ _ | ofValues rows cols _ | filled rows cols _ _ =>
    rows.toNat * cols.toNat < UInt64.size
  | _ => True

/-- A call that brings along countable values, for a shape that fits if cells are
counted exactly. -/
def GridCall.Admitted (exact : Prop) (call : GridCall α) : Prop :=
  call.Addressable ∧ (exact → call.Fits)

end

theorem toNat_mul_eq_wordCount (rows cols : UInt64) :
    (rows * cols).toNat = Grid.wordCount rows.toNat cols.toNat :=
  UInt64.toNat_mul rows cols

/-- Comparing the count of values with a product of words. -/
theorem ofNat_eq_mul_iff {rows cols : UInt64} {count : Nat} :
    UInt64.ofNat count = rows * cols ↔
      count % UInt64.size = Grid.wordCount rows.toNat cols.toNat := by
  rw [← UInt64.toNat_inj, toNat_mul_eq_wordCount, UInt64.toNat_ofNat']

theorem Counted.of_word {exact : Prop} {rows cols count : Nat}
    (word : count = Grid.wordCount rows cols)
    (fits : exact → rows * cols < UInt64.size) : Counted exact rows cols count where
  word := word
  product isExact := by rw [word, Grid.wordCount, Nat.mod_eq_of_lt (fits isExact)]

/-- What is counted as a product that fits a word is counted exactly. -/
theorem Counted.of_product {exact : Prop} {rows cols count : Nat}
    (product : count = rows * cols) (fits : count < UInt64.size) :
    Counted exact rows cols count where
  word := by rw [Grid.wordCount, ← product, Nat.mod_eq_of_lt fits]
  product _ := product

/-! ## Entries side by side -/

private theorem zipWith_left {β γ δ : Type} (function : β → δ) {left : List β}
    {right : List γ} (enough : left.length ≤ right.length) :
    List.zipWith (fun entry _ => function entry) left right = left.map function :=
  calc List.zipWith (fun entry _ => function entry) left right
    _ = (left.zip right).map (function ∘ Prod.fst) :=
        List.map_uncurry_zip_eq_zipWith.symm
    _ = left.map function := by rw [← List.map_map, List.map_fst_zip enough]

/-- Two buffers that hold two parts of every item are edited item by item. -/
theorem editAlong_map {ι β γ : Type} (change : β → γ → γ) (key : ι → β)
    (entry : ι → γ) (items : List ι) :
    editAlong change (items.map key) (items.map entry) =
      items.map fun item => change (key item) (entry item) := by
  induction items with
  | nil => rfl
  | cons item rest induction =>
      simp only [List.map_cons, editAlong, induction]

theorem entryAt_eq_ok_iff {β : Type} {buffer : List β} {place : Nat} {entry : β} :
    entryAt buffer place = .ok entry ↔ buffer[place]? = some entry := by
  unfold entryAt
  cases buffer[place]? with
  | none => simp
  | some other => simp

namespace Grid

variable {α : Type} {exact : Prop}

theorem values_cellsOf {values : List α} {mask : List Bool}
    (length : mask.length = values.length) :
    (cellsOf values mask).map Cell.value = values := by
  rw [cellsOf, List.map_zipWith]
  exact (zipWith_left id length.ge).trans (List.map_id _)

theorem mask_cellsOf {values : List α} {mask : List Bool}
    (length : mask.length = values.length) :
    (cellsOf values mask).map Cell.masked = mask := by
  rw [cellsOf, List.map_zipWith, List.zipWith_comm]
  exact (zipWith_left id length.le).trans (List.map_id _)

/-! ## Making grids -/

theorem keptAs_withMask {rows cols : UInt64} {values : List α} {mask : List Bool}
    (few : values.length < UInt64.size)
    (fits : exact → rows.toNat * cols.toNat < UInt64.size) :
    MatchedOutcomes (KeptAs exact)
      ((withMask rows.toNat cols.toNat values mask).mapError .grid)
      (Buffers.withMask rows cols values mask) := by
  unfold withMask Buffers.withMask
  simp only [ne_eq, ofNat_eq_mul_iff]
  split
  · exact .error _
  · rename_i counted
    split
    · exact .error _
    · rename_i length
      rw [Decidable.not_not] at counted length
      rw [Nat.mod_eq_of_lt few] at counted
      have size : (cellsOf values mask).length = values.length := by
        simp [cellsOf, length]
      exact .ok {
        rows := rfl
        cols := rfl
        values := (values_cellsOf length).symm
        mask := (mask_cellsOf length).symm
        counted := .of_word (size.trans counted) fits }

theorem keptAs_ofValues {rows cols : UInt64} {values : List α}
    (few : values.length < UInt64.size)
    (fits : exact → rows.toNat * cols.toNat < UInt64.size) :
    MatchedOutcomes (KeptAs exact)
      ((ofValues rows.toNat cols.toNat values).mapError .grid)
      (Buffers.ofValues rows cols values) := by
  rw [ofValues, Buffers.ofValues, List.map_const']
  exact keptAs_withMask few fits

theorem keptAs_filled {rows cols : UInt64} {value : α} {mask : List Bool}
    (fits : exact → rows.toNat * cols.toNat < UInt64.size) :
    MatchedOutcomes (KeptAs exact)
      ((filled rows.toNat cols.toNat value mask).mapError .grid)
      (Buffers.filled rows cols value mask) := by
  rw [filled, Buffers.filled, toNat_mul_eq_wordCount]
  apply keptAs_withMask _ fits
  rw [List.length_replicate]
  exact Nat.mod_lt _ (by decide)

theorem keptAs_ofRow {values : List α} (few : values.length < UInt64.size) :
    KeptAs exact (ofRow values) (Buffers.ofRow values) where
  rows := rfl
  cols := UInt64.toNat_ofNat_of_lt' few
  values := by simp [Buffers.ofRow, ofRow, Grid.values, Function.comp_def]
  mask := by simp [Buffers.ofRow, ofRow, Grid.mask, Function.comp_def]
  counted := .of_product (by simp [ofRow, size]) (by simpa [ofRow, size] using few)

theorem columnCount_le_length_flatten (rows : List (List α)) :
    columnCount rows ≤ rows.flatten.length := by
  cases rows with
  | nil => exact Nat.le_refl 0
  | cons first rest =>
      rw [List.flatten_cons, List.length_append]
      exact Nat.le_add_right _ _

/-- The words for the shape of nested rows do not wrap around. -/
theorem keptAs_ofRows {rows : List (List α)} (fewRows : rows.length < UInt64.size)
    (few : rows.flatten.length < UInt64.size) :
    MatchedOutcomes (KeptAs exact) ((ofRows rows).mapError .grid)
      (Buffers.ofRows rows) := by
  -- The first row is among the values, so its length fits a word as well.
  have fewCols := Nat.lt_of_le_of_lt (columnCount_le_length_flatten rows) few
  have rowWord := UInt64.toNat_ofNat_of_lt' fewRows
  have colWord := UInt64.toNat_ofNat_of_lt' fewCols
  unfold ofRows Buffers.ofRows
  split
  · exact .error _
  · rename_i even
    have lengths : ∀ row ∈ rows, row.length = columnCount rows := by
      simpa using even
    have product := length_flatten_of_lengths lengths
    have fits : (UInt64.ofNat rows.length).toNat *
        (UInt64.ofNat (columnCount rows)).toNat < UInt64.size := by
      rwa [rowWord, colWord, ← product]
    have made : MatchedOutcomes (KeptAs exact) _ _ :=
      keptAs_ofValues few fun _ => fits
    rwa [rowWord, colWord] at made

/-! ## Combining and editing grids -/

namespace StoredAs

variable {grid : Grid α} {buffers : Buffers α}

theorem shape (stored : grid.StoredAs buffers) : buffers.shape = grid.shape :=
  congrArg₂ Prod.mk stored.rows stored.cols

theorem length_values (stored : grid.StoredAs buffers) :
    buffers.values.length = grid.size := by
  rw [stored.values, Grid.values, List.length_map, size]

theorem length_mask (stored : grid.StoredAs buffers) :
    buffers.mask.length = grid.size := by
  rw [stored.mask, Grid.length_mask]

end StoredAs

namespace KeptAs

variable {grid other : Grid α} {buffers others : Buffers α}

theorem map (kept : KeptAs exact grid buffers) (function : α → α) :
    KeptAs exact (grid.map function) (buffers.map function) where
  rows := kept.rows
  cols := kept.cols
  values := by
    simp [Buffers.map, kept.values, Grid.map, Grid.values, Cell.map,
      Function.comp_def]
  mask := kept.mask.trans (mask_map grid function).symm
  counted := by simpa [Grid.map, size] using kept.counted

theorem maskWhere (kept : KeptAs exact grid buffers) (test : α → Bool) :
    KeptAs exact (grid.maskWhere test) (buffers.maskWhere test) where
  rows := kept.rows
  cols := kept.cols
  values := by
    simp [Buffers.maskWhere, kept.values, Grid.maskWhere, Grid.values,
      Function.comp_def]
  mask := by
    dsimp only [Buffers.maskWhere]
    rw [kept.values, kept.mask, Grid.values, Grid.mask, editAlong_map]
    simp [Grid.maskWhere, Grid.mask, Bool.or_comm, Function.comp_def]
  counted := by simpa [Grid.maskWhere, size] using kept.counted

theorem clampUnmasked [Scalar α] (kept : KeptAs exact grid buffers) (low high : α) :
    KeptAs exact (grid.clampUnmasked low high) (buffers.clampUnmasked low high) where
  rows := kept.rows
  cols := kept.cols
  values := by
    dsimp only [Buffers.clampUnmasked]
    rw [kept.values, kept.mask, Grid.values, Grid.mask, editAlong_map]
    simp only [Grid.clampUnmasked, Grid.values, List.map_map]
    apply List.map_congr_left
    intro cell _
    by_cases masked : cell.masked <;> simp [masked]
  mask := kept.mask.trans (mask_clampUnmasked grid low high).symm
  counted := by simpa [Grid.clampUnmasked, size] using kept.counted

theorem size_eq (kept : KeptAs exact grid buffers)
    (keptOther : KeptAs exact other others) (shape : grid.shape = other.shape) :
    grid.size = other.size :=
  Sized.size_eq kept.counted.word keptOther.counted.word shape

theorem zipWith (kept : KeptAs exact grid buffers)
    (keptOther : KeptAs exact other others) (rule : MaskRule)
    (function : α → α → α) :
    MatchedOutcomes (KeptAs exact) ((grid.zipWith other rule function).mapError .shape)
      (buffers.zipWith rule function others) := by
  unfold Grid.zipWith Buffers.zipWith
  rw [kept.shape, keptOther.shape]
  by_cases shape : grid.shape = other.shape
  · have sizes : grid.cells.length = other.cells.length :=
      kept.size_eq keptOther shape
    rw [if_pos shape, if_neg (not_ne_iff.mpr shape)]
    refine .ok ⟨⟨kept.rows, kept.cols, ?_, ?_⟩, ?_⟩
    · simp only [kept.values, keptOther.values, Grid.values, List.zipWith_map,
        List.map_zipWith]
    · cases rule with
      | union =>
          simp only [kept.mask, keptOther.mask, Grid.mask, List.zipWith_map,
            List.map_zipWith, MaskRule.combine]
      | keepLeft =>
          simp only [kept.mask, Grid.mask, List.map_zipWith, MaskRule.combine]
          exact (zipWith_left Cell.masked sizes.le).symm
    · simpa [size, sizes] using kept.counted
  · rw [if_neg shape, if_pos shape]
    exact .error _

theorem replaceMask [Scalar α] (kept : KeptAs exact grid buffers) (mask : List Bool) :
    KeptAs exact (cellTools.replaceMask mask grid).1 (buffers.replaceMask mask).1 ∧
      (cellTools.replaceMask mask grid).2 = (buffers.replaceMask mask).2 := by
  dsimp only [cellTools]
  unfold Grid.replaceMask Buffers.replaceMask
  rw [kept.shape, kept.length_mask]
  by_cases fits : mask.length = grid.size
  · have length : mask.length = grid.values.length := by
      rw [fits, Grid.values, List.length_map, size]
    rw [if_pos fits, if_neg (not_ne_iff.mpr fits)]
    refine ⟨⟨⟨kept.rows, kept.cols, ?_, ?_⟩, ?_⟩, rfl⟩
    · exact kept.values.trans (values_cellsOf length).symm
    · exact (mask_cellsOf length).symm
    · simpa [size, cellsOf, length, Grid.values] using kept.counted
  · rw [if_neg fits, if_pos fits]
    exact ⟨kept, rfl⟩

end KeptAs

end Grid

/-! ## Stacking grids -/

namespace SortedStack

variable {α : Type} {exact : Prop} {grids : List (Grid α)} {layers : List (Buffers α)}

theorem readAll_entryAt {β : Type} {buffer : Buffers α → List β}
    {part : Cell α → β} (kept : Forall₂ (Grid.KeptAs exact) grids layers)
    (holds : ∀ grid layer, Grid.KeptAs exact grid layer →
      buffer layer = grid.cells.map part)
    {place : Nat} {cells : List (Cell α)} (here : Grid.CellsAt place grids cells) :
    readAll (fun layer => entryAt (buffer layer) place) layers =
      .ok (cells.map part) := by
  rw [readAll_eq_ok_iff, List.forall₂_map_right_iff]
  induction kept generalizing cells with
  | nil =>
      cases here
      exact .nil
  | cons head tail induction =>
      cases here with
      | cons found others =>
          refine .cons ?_ (induction others)
          rw [entryAt_eq_ok_iff, holds _ _ head, List.getElem?_map, found]
          rfl

variable [Scalar α]

/-- The stack of a place, unless the sort gives up. -/
def gather (cells : List (Cell α)) : Except GridRefusal (List α × Bool) := do
  return (← Buffers.arranged (cells.map Cell.value), cells.any Cell.masked)

/-- The stack of a place is read off the buffers. -/
theorem cellAt_eq (kept : Forall₂ (Grid.KeptAs exact) grids layers) {place : Nat}
    {cells : List (Cell α)} (here : Grid.CellsAt place grids cells) :
    Buffers.cellAt layers place = gather cells := by
  have values := readAll_entryAt kept (fun _ _ stored => stored.values) here
  have masks := readAll_entryAt kept (fun _ _ stored => stored.mask) here
  unfold Buffers.cellAt gather
  rw [values, masks]
  simp [bind, Except.bind]

/-- The places of grids of one shape are read off their buffers, none of them
outside. -/
theorem readAll_cellAt_eq (kept : Forall₂ (Grid.KeptAs exact) grids layers)
    (some_ : grids ≠ []) {count : Nat} (sizes : ∀ grid ∈ grids, grid.size = count) :
    readAll (Buffers.cellAt layers) (List.range count) =
      readAll gather (columns grids) := by
  have length := Grid.length_columns some_ sizes
  apply readAll_eq_of_forall₂
  rw [List.forall₂_iff_get]
  refine ⟨by rw [List.length_range, length], ?_⟩
  intro place inside here
  have cells := (getElem?_columns_iff some_).mp (List.getElem?_eq_getElem here)
  simpa using cellAt_eq kept cells

/-- Stacks are gathered at all places, or the sort gives up at one. -/
theorem readAll_gather (cells : List (List (Cell α))) :
    readAll gather cells =
      if (cells.any fun stored =>
          (Scalar.arrange? id (stored.map Cell.value)).isNone) then .error .unsorted
      else .ok (cells.map fun stored =>
        ((ofCells stored).ascending, (ofCells stored).masked)) := by
  induction cells with
  | nil => rfl
  | cons first rest induction =>
      rw [readAll, List.any_cons, List.map_cons, induction]
      cases arranges : Scalar.arrange? id (first.map Cell.value) with
      | none =>
          simp [gather, Buffers.arranged, arranges, bind, Except.bind]
      | some ascending =>
          have sorted : (ofCells first).ascending = ascending :=
            Scalar.arrange_of_arrange? arranges
          rw [sorted]
          simp only [gather, Buffers.arranged, arranges, bind, Except.bind, pure,
            Except.pure, Option.isNone_some, Bool.false_or]
          cases rest.any fun stored =>
            (Scalar.arrange? id (stored.map Cell.value)).isNone
          · rfl
          · rfl

omit [Scalar α] in
private theorem map_shape_eq (kept : Forall₂ (Grid.KeptAs exact) grids layers) :
    layers.map Buffers.shape = grids.map Grid.shape := by
  rw [← List.forall₂_eq_eq_eq, List.forall₂_map_left_iff, List.forall₂_map_right_iff]
  exact kept.flip.imp fun _ _ stored => stored.shape

theorem keptAs_build (kept : Forall₂ (Grid.KeptAs exact) grids layers) :
    MatchedOutcomes (KeptAs exact) (cellTools.build grids) (Buffers.build layers) := by
  dsimp only [cellTools]
  cases kept with
  | nil =>
      exact .ok ⟨⟨rfl, rfl, rfl, rfl⟩, .of_product (Nat.zero_mul 0).symm (by simp)⟩
  | @cons first layer rest others head tail =>
      -- Both look for another shape, and the shapes are the same.
      rw [build?, givesUp, build, Buffers.build, map_shape_eq tail, head.shape,
        head.length_values, List.find?_map]
      cases found : rest.find? fun grid => first.shape != grid.shape with
      | some other =>
          simp only [Function.comp_def, found, Option.map_some]
          exact .error _
      | none =>
          have sizes : ∀ grid ∈ first :: rest, grid.size = first.size := by
            intro grid member
            rcases List.mem_cons.mp member with rfl | later
            · rfl
            · have shape : first.shape = grid.shape := by
                simpa using List.find?_eq_none.mp found grid later
              obtain ⟨_, _, stored⟩ := exists_right_of_forall₂ tail later
              exact stored.size_eq head shape.symm
          have some_ : first :: rest ≠ [] := List.cons_ne_nil _ _
          have gathered := readAll_cellAt_eq (.cons head tail) some_ sizes
          rw [readAll_gather] at gathered
          simp only [Function.comp_def, found, Option.map_none, gathered]
          cases (columns (first :: rest)).any fun stored =>
            (Scalar.arrange? id (stored.map Cell.value)).isNone with
          | true => exact .error _
          | false =>
              refine .ok ⟨⟨head.rows, head.cols, ?_, ?_⟩, ?_⟩
              · simp [Function.comp_def]
              · simp [Function.comp_def]
              · simpa [Grid.length_columns some_ sizes] using head.counted

omit [Scalar α] in
theorem KeptAs.reduce {stack : SortedStack α} {buffers : StackBuffers α}
    (kept : KeptAs exact stack buffers) (function : List α → α) :
    Grid.KeptAs exact (stack.reduce function) (buffers.reduce function) where
  rows := kept.rows
  cols := kept.cols
  values := by
    simp [StackBuffers.reduce, kept.cells, SortedStack.reduce, Grid.values]
  mask := by
    simp [StackBuffers.reduce, kept.mask, SortedStack.reduce, Grid.mask]
  counted := by simpa [SortedStack.reduce, Grid.size] using kept.counted

end SortedStack

/-! ## Runs of calls -/

section

variable {α : Type} [Scalar α]

/-- The buffers keep up with the grids, operation by operation. -/
theorem cellTools_agree (exact : Prop) :
    GridTools.Agree (GridCall.Admitted exact) (cellTools (α := α)) bufferTools
      (Grid.KeptAs exact) (SortedStack.KeptAs exact) where
  withMask _ _ _ _ admitted := Grid.keptAs_withMask admitted.1 admitted.2
  ofValues _ _ _ admitted := Grid.keptAs_ofValues admitted.1 admitted.2
  ofRow _ admitted := Grid.keptAs_ofRow admitted.1
  ofRows _ admitted := Grid.keptAs_ofRows admitted.1.1 admitted.1.2
  filled _ _ _ _ admitted := Grid.keptAs_filled admitted.2
  map function _ _ kept := kept.map function
  zipWith rule function _ _ _ _ kept keptOther := kept.zipWith keptOther rule function
  maskWhere test _ _ kept := kept.maskWhere test
  replaceMask mask _ _ kept := kept.replaceMask mask
  clampUnmasked low high _ _ kept := kept.clampUnmasked low high
  build _ _ kept := SortedStack.keptAs_build kept
  reduce function _ _ kept := kept.reduce function

variable {calls : List (GridCall α)} (addressable : ∀ call ∈ calls, call.Addressable)

include addressable

/-- After any calls the buffers hold the grids, counted exactly if all shapes that
were given fit. -/
theorem keptAs_of_calls :
    Bench.Alike (Grid.KeptAs (∀ call ∈ calls, call.Fits))
      (SortedStack.KeptAs (∀ call ∈ calls, call.Fits))
      (cellTools.reach calls) (bufferTools.reach calls) :=
  (cellTools_agree _).reach fun call member =>
    ⟨addressable call member, fun fits => fits call member⟩

theorem outcome_eq_of_calls {call : GridCall α} (also : call.Addressable) :
    (cellTools.perform (cellTools.reach calls) call).2 =
      (bufferTools.perform (bufferTools.reach calls) call).2 := by
  have alike := (cellTools_agree False).reach fun call member =>
    ⟨addressable call member, nofun⟩
  exact ((cellTools_agree False).perform alike ⟨also, nofun⟩).outcome

/-- Whatever is called, two buffers of one length hold every grid.  The length is
the product of the rows and columns as a word, which is the product itself just
if that fits, and so if every shape that was given fits.  A call that fails
changes nothing, and none fails for a place outside of a buffer. -/
theorem buffers_of_calls :
    Bench.Alike Grid.StoredAs SortedStack.StoredAs (cellTools.reach calls)
        (bufferTools.reach calls) ∧
      (∀ buffers ∈ (bufferTools.reach calls).grids,
        buffers.mask.length = buffers.values.length ∧
          buffers.values.length =
            buffers.rows.toNat * buffers.cols.toNat % UInt64.size ∧
          (buffers.values.length = buffers.rows.toNat * buffers.cols.toNat ↔
            buffers.rows.toNat * buffers.cols.toNat < UInt64.size) ∧
          ((∀ call ∈ calls, call.Fits) →
            buffers.values.length = buffers.rows.toNat * buffers.cols.toNat)) ∧
      ∀ call, call.Addressable →
        (cellTools.perform (cellTools.reach calls) call).2 =
            (bufferTools.perform (bufferTools.reach calls) call).2 ∧
          ∀ refusal,
            (bufferTools.perform (bufferTools.reach calls) call).2 = .error refusal →
              (∀ place, refusal ≠ .outside place) ∧
                (bufferTools.perform (bufferTools.reach calls) call).1 =
                  bufferTools.reach calls ∧
                (cellTools.perform (cellTools.reach calls) call).1 =
                  cellTools.reach calls := by
  have kept := keptAs_of_calls addressable
  refine ⟨⟨kept.grids.imp fun _ _ stored => stored.toStoredAs,
    kept.stacked.imp fun _ _ stored => stored.toStoredAs⟩, ?_, ?_⟩
  · intro buffers member
    obtain ⟨grid, _, stored⟩ := exists_left_of_forall₂ kept.grids member
    have ⟨word, product⟩ := stored.counted
    rw [stored.length_mask, stored.length_values, stored.rows, stored.cols]
    refine ⟨rfl, word, ?_, product⟩
    constructor
    · intro counted
      rw [← counted, word]
      exact Nat.mod_lt _ (by simp)
    · intro fits
      rw [word, Grid.wordCount, Nat.mod_eq_of_lt fits]
  · intro call also
    have same := outcome_eq_of_calls addressable also
    refine ⟨same, fun refusal fails => ⟨?_, ?_, ?_⟩⟩
    · -- The buffers fail as the cells do, and those are never read by place.
      rintro place rfl
      exact inside_cellTools.perform _ call place (same.trans fails)
    · exact GridTools.perform_of_error careful_bufferTools fails
    · exact GridTools.perform_of_error careful_cellTools (same.trans fails)

end

namespace Sample

/-- A call for a square whose number of cells is nought as a word. -/
def unfilled {α : Type} : GridCall α :=
  .ofValues 4294967296 4294967296 []

/-- The square is made without any cells. -/
theorem unfilled_made :
    (cellTools.reach [unfilled]).grids =
        [(⟨4294967296, 4294967296, []⟩ : Grid Float)] ∧
      (bufferTools.reach [unfilled]).grids =
        [(⟨4294967296, 4294967296, [], []⟩ : Buffers Float)] ∧
      ([] : List Float).length ≠ 4294967296 * 4294967296 :=
  ⟨rfl, rfl, by decide⟩

/-- A row that is masked, stacked on itself and reduced, and the square. -/
def rowAndSquare : List (GridCall ℚ) :=
  [.ofRow [2, 5], .replaceMask 0 [true, false], .build [0, 0],
    .reduce 0 fun ascending => ascending.headD 0, unfilled]

theorem buffers_of_calls_rowAndSquare :
    (∀ call ∈ rowAndSquare, call.Addressable) ∧
      (bufferTools.reach rowAndSquare).grids =
        [⟨1, 2, [2, 5], [true, false]⟩, ⟨1, 2, [2, 5], [true, false]⟩,
          ⟨4294967296, 4294967296, [], []⟩] ∧
      (∀ buffers ∈ (bufferTools.reach rowAndSquare).grids,
        (buffers.values.length = buffers.rows.toNat * buffers.cols.toNat ↔
          buffers.rows.toNat * buffers.cols.toNat < UInt64.size)) ∧
      (bufferTools.perform (bufferTools.reach rowAndSquare)
        (.replaceMask 1 [true])).1 = bufferTools.reach rowAndSquare := by
  have addressable : ∀ call ∈ rowAndSquare, call.Addressable := by
    simp [rowAndSquare, unfilled, GridCall.Addressable, UInt64.size]
  obtain ⟨_, counted, fails⟩ := buffers_of_calls addressable
  have refused : (bufferTools.perform (bufferTools.reach rowAndSquare)
      (.replaceMask 1 [true])).2 = .error (.shape ⟨(1, 2), (1, 1)⟩) := by
    decide
  exact ⟨addressable, by decide, fun buffers member => (counted buffers member).2.2.1,
    ((fails (.replaceMask 1 [true]) trivial).2 _ refused).2.1⟩

end Sample

end FuzzyGrid
