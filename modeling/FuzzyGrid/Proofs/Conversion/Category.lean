import FuzzyGrid.Proofs.Command.Arguments
import FuzzyGrid.Proofs.Conversion.Layers
import FuzzyGrid.Proofs.Grid.Places
import FuzzyGrid.Proofs.Masking.Provenance
import FuzzyGrid.Proofs.Number.Machine
import FuzzyGrid.Proofs.Operator.Admission

/-!
# Category lookups

A category conversion compares its raw values in two ways: with each other, when
it looks for one that is repeated, and with the cells, when it looks these up.
Both take a raw value as the scalar nearest to it.  So a table that is let
through gives each cell at most one entry, whatever the order of its entries.
-/

namespace FuzzyGrid

/-- Where at most one item passes a test, the order does not count. -/
theorem find?_eq_of_perm {β : Type} {test : β → Bool} {others items : List β}
    (perm : others.Perm items) (alone : items.Pairwise fun item later =>
      ¬(test item = true ∧ test later = true)) :
    others.find? test = items.find? test := by
  have othersAlone := (perm.pairwise_iff fun apart both => apart both.symm).mpr alone
  rw [← List.head?_filter, ← List.head?_filter]
  apply congrArg List.head?
  apply List.Perm.eq_of_pairwise _ (othersAlone.filter test) (alone.filter test)
    (perm.filter test)
  intro item other isItem isOther apart _
  exact absurd ⟨List.of_mem_filter isItem, List.of_mem_filter isOther⟩ apart

variable {α : Type} [Scalar α]

/-- What cells are looked up in: raw values, fuzzy values to go with them, and
one for all cells that are none of them. -/
structure CategoryTable (α : Type) where
  raw : List Int
  fuzzy : List α
  other : α

/-- The table that a command gives, and the layer it is for. -/
structure Command.GivesTable (command : Command α) (field : String)
    (table : CategoryTable α) : Prop where
  field : command.Holds "InFieldName" ArgValue.text? field
  raw : command.Lists "RawValues" ArgValue.integer? table.raw
  fuzzy : command.Lists "FuzzyValues" ArgValue.scalar? table.fuzzy
  other : command.Holds "DefaultFuzzyValue" ArgValue.scalar? table.other

theorem Operator.read_toFuzzyCategory_iff {command : Command α}
    {operation : Operation α} :
    toFuzzyCategory.read command = .ok operation ↔
      ∃ field table, command.GivesTable field table ∧ operation =
        .layer field (.toFuzzyCategory table.raw table.fuzzy table.other) := by
  simp only [read, bind_eq_ok, Command.fieldName, Command.text, Command.integers,
    Command.scalars, Command.scalar, Command.readOne_eq_ok_iff,
    Command.readMany_eq_ok_iff]
  constructor
  · rintro ⟨field, isField, raw, isRaw, fuzzy, isFuzzy, other, isOther, same⟩
    exact ⟨field, ⟨raw, fuzzy, other⟩, ⟨isField, isRaw, isFuzzy, isOther⟩,
      (Except.ok.inj same).symm⟩
  · rintro ⟨field, table, gives, rfl⟩
    exact ⟨field, gives.field, table.raw, gives.raw, table.fuzzy, gives.fuzzy,
      table.other, gives.other, rfl⟩

namespace CategoryTable

variable {table others : CategoryTable α} {value : α}

/-- As many fuzzy values as raw ones, and no raw value twice, two of them being
the same that become equal scalars. -/
structure Proper (table : CategoryTable α) : Prop where
  paired : table.raw.length = table.fuzzy.length
  apart : table.raw.Pairwise fun raw later =>
    ¬Scalar.eq (Scalar.ofInt raw : α) (Scalar.ofInt later) = true

/-- A place in the list of raw values where a scalar stands. -/
def Hits (table : CategoryTable α) (value : α) (place : Nat) : Prop :=
  ∃ raw, table.raw[place]? = some raw ∧ Scalar.eq (Scalar.ofInt raw) value = true

/-- What a table gives for a scalar: the fuzzy value at the one place where it
stands, or the one for all others. -/
inductive Gives (table : CategoryTable α) (value : α) : α → Prop where
  | listed {place : Nat} {fuzzy : α} (hit : table.Hits value place)
      (only : ∀ another, table.Hits value another → another = place)
      (isFuzzy : table.fuzzy[place]? = some fuzzy) : Gives table value fuzzy
  | unlisted (missed : ∀ place, ¬table.Hits value place) :
      Gives table value table.other

/-- The entries of a table are the pairs of another one in some order. -/
structure Reorders (others table : CategoryTable α) : Prop where
  otherPaired : others.raw.length = others.fuzzy.length
  paired : table.raw.length = table.fuzzy.length
  pairs : (others.raw.zip others.fuzzy).Perm (table.raw.zip table.fuzzy)
  sameOther : others.other = table.other

omit [Scalar α] in
theorem Reorders.symm (reorders : others.Reorders table) : table.Reorders others :=
  ⟨reorders.paired, reorders.otherPaired, reorders.pairs.symm,
    reorders.sameOther.symm⟩

def entries (table : CategoryTable α) : List (α × α) :=
  (table.raw.map Scalar.ofInt).zip table.fuzzy

theorem getElem?_entries {place : Nat} {entry : α × α} :
    table.entries[place]? = some entry ↔
      (∃ raw, table.raw[place]? = some raw ∧ Scalar.ofInt raw = entry.1) ∧
        table.fuzzy[place]? = some entry.2 := by
  rw [entries, List.getElem?_zip_eq_some, List.getElem?_map, Option.map_eq_some_iff]

theorem Proper.entries_apart (proper : table.Proper) :
    table.entries.Pairwise fun entry later => ¬Scalar.eq entry.1 later.1 = true := by
  have firsts : table.entries.map Prod.fst = table.raw.map Scalar.ofInt := by
    apply List.map_fst_zip
    rw [List.length_map, proper.paired]
  have apart : (table.entries.map Prod.fst).Pairwise fun first second =>
      ¬Scalar.eq first second = true := by
    rw [firsts, List.pairwise_map]
    exact proper.apart
  exact List.pairwise_map.mp apart

/-- What the first entry that equals a scalar comes to. -/
def lookUp (table : CategoryTable α) : α → α :=
  LayerOperation.categoryValue table.entries table.other

section

variable [Discerning α] {origin : Origin}

theorem checkDistinct_eq_ok_iff {arg : String} :
    Fault.checkDistinct (α := α) origin arg
        (table.raw.map fun value => .number (.whole value)) = .ok () ↔
      table.raw.Pairwise fun raw later =>
        ¬Scalar.eq (Scalar.ofInt raw : α) (Scalar.ofInt later) = true := by
  have same (raw later : Int) :
      ArgValue.sameEntry (α := α) (.number (.whole raw)) (.number (.whole later)) =
          true ↔
        Scalar.eq (Scalar.ofInt raw : α) (Scalar.ofInt later) = true :=
    Discerning.identical_iff (Discerning.isNumber_ofInt raw)
      (Discerning.isNumber_ofInt later)
  rw [Fault.checkDistinct_eq_ok_iff, List.pairwise_map]
  simp only [same]

/-- A conversion goes through if its table is proper. -/
theorem applyToFuzzyCategory_eq_ok_iff {range : FuzzyRange α} {grid : Grid α}
    {result : Result α} :
    LayerOperation.applyToFuzzyCategory origin range table.raw table.fuzzy table.other
        grid = .ok result ↔
      table.Proper ∧ fuzzyLayer range (grid.map table.lookUp) = result := by
  simp only [LayerOperation.applyToFuzzyCategory, bind_eq_ok]
  constructor
  · rintro ⟨_, counted, _, unrepeated, same⟩
    exact ⟨⟨(Fault.checkEqualLengths_eq_ok_iff.mp counted).symm,
      checkDistinct_eq_ok_iff.mp unrepeated⟩, Except.ok.inj same⟩
  · rintro ⟨⟨paired, apart⟩, rfl⟩
    exact ⟨(), Fault.checkEqualLengths_eq_ok_iff.mpr paired.symm, (),
      checkDistinct_eq_ok_iff.mpr apart, rfl⟩

/-! ## What a proper table gives -/

theorem Proper.not_hits_later (proper : table.Proper) {place later : Nat}
    (before : place < later) (hit : table.Hits value place) :
    ¬table.Hits value later := by
  rintro ⟨raw, isRaw, same⟩
  obtain ⟨earlier, isEarlier, sameToo⟩ := hit
  obtain ⟨inside, rfl⟩ := List.getElem?_eq_some_iff.mp isRaw
  obtain ⟨earlierInside, rfl⟩ := List.getElem?_eq_some_iff.mp isEarlier
  -- Raw values that equal the scalar sought equal each other.
  apply List.pairwise_iff_getElem.mp proper.apart _ _ earlierInside inside before
  exact Scalar.eq_trans sameToo (Scalar.eq_symm same)

theorem Proper.hits_unique (proper : table.Proper) {place another : Nat}
    (hit : table.Hits value place) (hitToo : table.Hits value another) :
    another = place := by
  apply Nat.le_antisymm
  · exact Nat.not_lt.mp fun before => proper.not_hits_later before hit hitToo
  · exact Nat.not_lt.mp fun before => proper.not_hits_later before hitToo hit

/-- Raw values that become equal scalars are one. -/
theorem Proper.eq_of_eq (proper : table.Proper) {raw other : Int}
    (isRaw : raw ∈ table.raw) (isOther : other ∈ table.raw)
    (same : Scalar.eq (Scalar.ofInt raw : α) (Scalar.ofInt other) = true) :
    raw = other := by
  obtain ⟨place, here⟩ := List.mem_iff_getElem?.mp isRaw
  obtain ⟨another, there⟩ := List.mem_iff_getElem?.mp isOther
  have hit : table.Hits (Scalar.ofInt other) place := ⟨raw, here, same⟩
  obtain rfl := proper.hits_unique hit
    ⟨other, there, Discerning.isNumber_ofInt other⟩
  exact Option.some.inj (here.symm.trans there)

/-- What is looked up is what the table gives. -/
theorem Proper.gives (proper : table.Proper) (value : α) :
    table.Gives value (table.lookUp value) := by
  rw [lookUp, LayerOperation.categoryValue]
  cases found : table.entries.find? fun entry => Scalar.eq entry.1 value with
  | some entry =>
      obtain ⟨place, here⟩ :=
        List.mem_iff_getElem?.mp (List.mem_of_find?_eq_some found)
      obtain ⟨⟨raw, isRaw, isFirst⟩, isFuzzy⟩ := getElem?_entries.mp here
      have same := List.find?_some found
      have hit : table.Hits value place := ⟨raw, isRaw, isFirst ▸ same⟩
      exact .listed hit (fun _ => proper.hits_unique hit) isFuzzy
  | none =>
      apply Gives.unlisted
      rintro place ⟨raw, isRaw, same⟩
      have inside : place < table.fuzzy.length :=
        proper.paired ▸ (List.getElem?_eq_some_iff.mp isRaw).1
      have here : table.entries[place]? =
          some (Scalar.ofInt raw, table.fuzzy[place]) :=
        getElem?_entries.mpr
          ⟨⟨raw, isRaw, rfl⟩, List.getElem?_eq_getElem inside⟩
      exact List.find?_eq_none.mp found _ (List.mem_of_getElem? here) same

/-! ## The order of the entries -/

theorem Reorders.proper (reorders : others.Reorders table)
    (proper : table.Proper) : others.Proper := by
  have raws : others.raw.Perm table.raw := by
    have firsts := reorders.pairs.map Prod.fst
    rwa [List.map_fst_zip reorders.otherPaired.le,
      List.map_fst_zip reorders.paired.le] at firsts
  refine ⟨reorders.otherPaired, (raws.pairwise_iff ?_).mpr proper.apart⟩
  intro raw later apart same
  exact apart (Scalar.eq_symm same)

theorem Reorders.proper_iff (reorders : others.Reorders table) :
    others.Proper ↔ table.Proper :=
  ⟨reorders.symm.proper, reorders.proper⟩

theorem Reorders.lookUp_eq (reorders : others.Reorders table)
    (proper : table.Proper) : others.lookUp = table.lookUp := by
  have entries : others.entries.Perm table.entries := by
    rw [CategoryTable.entries, CategoryTable.entries, List.zip_map_left,
      List.zip_map_left]
    exact reorders.pairs.map _
  funext value
  have alone : table.entries.Pairwise fun entry later =>
      ¬(Scalar.eq entry.1 value = true ∧ Scalar.eq later.1 value = true) := by
    apply proper.entries_apart.imp
    rintro entry later apart ⟨same, sameToo⟩
    exact apart (Scalar.eq_trans same (Scalar.eq_symm sameToo))
  rw [lookUp, lookUp, LayerOperation.categoryValue, LayerOperation.categoryValue,
    find?_eq_of_perm entries alone, reorders.sameOther]

end

/-- What the conversion of a layer by a table has to come to: it goes through
just if the table is proper, keeps shape and mask, and shows what the table
gives for each scalar. -/
structure Decides (table : CategoryTable α) (range : FuzzyRange α) (grid : Grid α)
    (outcome : Except (CommandError α) (Computed α)) : Prop where
  succeeds_iff : Succeeds outcome ↔ table.Proper
  converts {computed : Computed α} (succeeded : outcome = .ok computed) :
    ∃ output : Grid α, computed = ⟨.layer output .fuzzy, none⟩ ∧
      output.shape = grid.shape ∧ output.mask = grid.mask ∧
      ∀ place value, grid.ShowsAt place value → ∃ found, table.Gives value found ∧
        output.ShowsAt place (Scalar.clamp range.low range.high found)
  /-- Different raw values that become equal scalars are refused. -/
  collides {raw other : Int} (isRaw : raw ∈ table.raw) (isOther : other ∈ table.raw)
    (different : raw ≠ other)
    (same : Scalar.eq (Scalar.ofInt raw : α) (Scalar.ofInt other) = true) :
    ¬Succeeds outcome

end CategoryTable

theorem Grid.ShowsAt.mapInto {grid : Grid α} {place : Nat} {value : α}
    (shows_ : grid.ShowsAt place value) (range : FuzzyRange α) (function : α → α) :
    (grid.mapInto range function).ShowsAt place
      (Scalar.clamp range.low range.high (function value)) := by
  rw [ShowsAt] at shows_ ⊢
  simp [Grid.mapInto, map, clampUnmasked, shows_, Cell.map]

namespace Node

variable {node : Node α} {field : String} {table : CategoryTable α}

/-- A node performs the conversion by the table that its command gives. -/
theorem operation_of_givesTable (isLookup : node.operator = .toFuzzyCategory)
    (gives : node.command.GivesTable field table) : node.operation =
      .layer field (.toFuzzyCategory table.raw table.fuzzy table.other) := by
  have reads := (Command.checked_of_interpret node.interpreted).2
  rw [isLookup] at reads
  have readsTable : Operator.toFuzzyCategory.read node.command = .ok _ :=
    Operator.read_toFuzzyCategory_iff.mpr ⟨field, table, gives, rfl⟩
  exact Except.ok.inj (reads.symm.trans readsTable)

variable [Discerning α]

section

variable (isLookup : node.operator = .toFuzzyCategory)
  (gives : node.command.GivesTable field table) {context : ResultContext α}
  {grid : Grid α} {dataType : DataType}
  (held : context.get? field = some (.layer grid dataType))
  (accepted : dataType.satisfies DataType.integers = true)

include isLookup gives held accepted

theorem compute_table_eq_ok_iff {computed : Computed α} :
    node.compute context = .ok computed ↔
      table.Proper ∧
        ⟨.layer (grid.mapInto context.range table.lookUp) .fuzzy, none⟩ =
          computed := by
  have read : context.layer node.command.origin DataType.integers field =
      .ok ⟨grid, dataType⟩ := by
    rw [ResultContext.layer_of_held held, if_pos accepted]
  rw [compute, operation_of_givesTable isLookup gives,
    LayerOperation.compute_of_layer read, map_eq_ok]
  simp only [LayerOperation.apply, CategoryTable.applyToFuzzyCategory_eq_ok_iff]
  constructor
  · rintro ⟨_, ⟨proper, rfl⟩, same⟩
    exact ⟨proper, same⟩
  · rintro ⟨proper, same⟩
    exact ⟨_, ⟨proper, rfl⟩, same⟩

theorem decides_compute : table.Decides context.range grid (node.compute context) := by
  have outcome {computed : Computed α} : node.compute context = .ok computed ↔ _ :=
    compute_table_eq_ok_iff isLookup gives held accepted
  have succeeds_iff : Succeeds (node.compute context) ↔ table.Proper := by
    constructor
    · rintro ⟨_, succeeded⟩
      exact (outcome.mp succeeded).1
    · intro proper
      exact ⟨_, outcome.mpr ⟨proper, rfl⟩⟩
  refine ⟨succeeds_iff, ?_, ?_⟩
  · intro computed succeeded
    obtain ⟨proper, rfl⟩ := outcome.mp succeeded
    refine ⟨_, rfl, rfl, ?_, ?_⟩
    · rw [Grid.mapInto, Grid.mask_clampUnmasked, Grid.mask_map]
    · intro place value shows_
      exact ⟨_, proper.gives value, shows_.mapInto _ _⟩
  · intro raw other isRaw isOther different same succeeded
    exact different ((succeeds_iff.mp succeeded).eq_of_eq isRaw isOther same)

end

/-- A category conversion goes through just if its two lists are of one length
and no two raw values become equal scalars.  It then shows for each scalar what
its table gives, in whatever order the entries of the table are. -/
theorem toFuzzyCategory_decides (isLookup : node.operator = .toFuzzyCategory) :
    (∃ field table, node.command.GivesTable field table) ∧
      ∀ field table, node.command.GivesTable field table →
      ∀ (context : ResultContext α) (grid : Grid α) (dataType : DataType),
        context.get? field = some (.layer grid dataType) →
        dataType.satisfies DataType.integers = true →
        table.Decides context.range grid (node.compute context) ∧
        ∀ (reordered : Node α) (others : CategoryTable α),
          reordered.operator = .toFuzzyCategory →
          reordered.command.GivesTable field others → others.Reorders table →
          ∀ computed, reordered.compute context = .ok computed ↔
            node.compute context = .ok computed := by
  have reads := (Command.checked_of_interpret node.interpreted).2
  rw [isLookup] at reads
  obtain ⟨field, table, given, _⟩ := Operator.read_toFuzzyCategory_iff.mp reads
  refine ⟨⟨field, table, given⟩, ?_⟩
  intro field table gives context grid dataType held accepted
  refine ⟨decides_compute isLookup gives held accepted, ?_⟩
  intro reordered others isLookupToo givesToo reorders computed
  rw [compute_table_eq_ok_iff isLookup gives held accepted,
    compute_table_eq_ok_iff isLookupToo givesToo held accepted,
    reorders.proper_iff]
  apply and_congr_right
  intro proper
  rw [reorders.lookUp_eq proper]

end Node

/-! ## Soils by number -/

namespace Sample

theorem ascending_names :
    ["DefaultFuzzyValue", "FuzzyValues", "InFieldName", "RawValues"].Pairwise
      fun first second => first < second := by
  decide

/-- A lookup of soils by their numbers. -/
def byNumber (raw fuzzy : ArgValue Float) : Command Float :=
  ⟨"Wet", "CvtToFuzzyCat",
    ⟨[("DefaultFuzzyValue", .number (.whole 0)), ("FuzzyValues", fuzzy),
      ("InFieldName", .text "Soil"), ("RawValues", raw)],
      List.pairwise_map.mp ascending_names⟩,
    ⟨"soil.mpt", 3, "Wet = CvtToFuzzyCat(...)"⟩⟩

theorem givesTable_byNumber {raw fuzzy : ArgValue Float} {raws : List Int}
    {fuzzies : List Float} (isRaw : raw.items.map ArgValue.integer? = raws.map some)
    (isFuzzy : fuzzy.items.map ArgValue.scalar? = fuzzies.map some) :
    (byNumber raw fuzzy).GivesTable "Soil" ⟨raws, fuzzies, Scalar.ofInt 0⟩ :=
  ⟨⟨.text "Soil", rfl, rfl⟩, ⟨raw, rfl, isRaw⟩, ⟨fuzzy, rfl, isFuzzy⟩,
    ⟨.number (.whole 0), rfl, rfl⟩⟩

def wholes (values : List Int) : ArgValue Float :=
  .list (values.map fun value => .number (.whole value))

def soils : Node Float where
  command := byNumber (wholes [1, 9007199254740993]) (wholes [0, 1])
  operator := .toFuzzyCategory
  operation := .layer "Soil" (.toFuzzyCategory [1, 9007199254740993]
    [Scalar.ofInt 0, Scalar.ofInt 1] (Scalar.ofInt 0))
  interpreted := rfl

/-- The same soils the other way round. -/
def turned : Node Float where
  command := byNumber (wholes [9007199254740993, 1]) (wholes [1, 0])
  operator := .toFuzzyCategory
  operation := .layer "Soil" (.toFuzzyCategory [9007199254740993, 1]
    [Scalar.ofInt 1, Scalar.ofInt 0] (Scalar.ofInt 0))
  interpreted := rfl

/-- Two soils whose numbers become one float. -/
def merged : Node Float where
  command := byNumber (wholes [9007199254740992, 9007199254740993]) (wholes [0, 1])
  operator := .toFuzzyCategory
  operation := .layer "Soil" (.toFuzzyCategory [9007199254740992, 9007199254740993]
    [Scalar.ofInt 0, Scalar.ofInt 1] (Scalar.ofInt 0))
  interpreted := rfl

/-- One soil, not in a list. -/
def lone : Node Float where
  command := byNumber (.number (.whole 1)) (wholes [1])
  operator := .toFuzzyCategory
  operation := .layer "Soil"
    (.toFuzzyCategory [1] [Scalar.ofInt 1] (Scalar.ofInt 0))
  interpreted := rfl

/-- A lookup is made of two soils in either order and of a single one, but not
of two that would be one. -/
theorem toFuzzyCategory_decides_soils :
    let grid : Grid Float := ⟨1, 2, [⟨Scalar.ofInt 1, false⟩, ⟨Scalar.ofInt 2, true⟩]⟩
    let context : ResultContext Float :=
      ⟨.standard, .ofList [("Soil", .layer grid .integer)]⟩
    Succeeds (soils.compute context) ∧
      (∀ computed, turned.compute context = .ok computed ↔
        soils.compute context = .ok computed) ∧
      Succeeds (lone.compute context) ∧ ¬Succeeds (merged.compute context) := by
  intro grid context
  have held : context.get? "Soil" = some (.layer grid .integer) := rfl
  have isSoils : soils.operator = .toFuzzyCategory := rfl
  have isLone : lone.operator = .toFuzzyCategory := rfl
  have isMerged : merged.operator = .toFuzzyCategory := rfl
  have soilsGive : soils.command.GivesTable "Soil"
      ⟨[1, 9007199254740993], [Scalar.ofInt 0, Scalar.ofInt 1], Scalar.ofInt 0⟩ :=
    givesTable_byNumber rfl rfl
  have turnedGives : turned.command.GivesTable "Soil"
      ⟨[9007199254740993, 1], [Scalar.ofInt 1, Scalar.ofInt 0], Scalar.ofInt 0⟩ :=
    givesTable_byNumber rfl rfl
  have loneGives : lone.command.GivesTable "Soil"
      ⟨[1], [Scalar.ofInt 1], Scalar.ofInt 0⟩ :=
    givesTable_byNumber rfl rfl
  have mergedGives : merged.command.GivesTable "Soil"
      ⟨[9007199254740992, 9007199254740993], [Scalar.ofInt 0, Scalar.ofInt 1],
        Scalar.ofInt 0⟩ :=
    givesTable_byNumber rfl rfl
  obtain ⟨decides, sameOutcome⟩ := (Node.toFuzzyCategory_decides isSoils).2
    _ _ soilsGive context grid .integer held rfl
  obtain ⟨single, _⟩ := (Node.toFuzzyCategory_decides isLone).2
    _ _ loneGives context grid .integer held rfl
  obtain ⟨refuses, _⟩ := (Node.toFuzzyCategory_decides isMerged).2
    _ _ mergedGives context grid .integer held rfl
  refine ⟨decides.succeeds_iff.mpr ⟨rfl, by decide +kernel⟩, ?_,
    single.succeeds_iff.mpr ⟨rfl, List.pairwise_singleton _ _⟩, ?_⟩
  · exact sameOutcome turned _ rfl turnedGives ⟨rfl, rfl, .swap _ _ _, rfl⟩
  · have different : (9007199254740992 : Int) ≠ 9007199254740993 := by decide
    exact refuses.collides List.mem_cons_self
      (List.mem_cons_of_mem _ List.mem_cons_self) different (by decide +kernel)

end Sample

end FuzzyGrid
