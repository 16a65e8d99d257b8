import FuzzyGrid.Proofs.Evaluation.Lockstep
import FuzzyGrid.Proofs.Lists.Blending
import FuzzyGrid.Proofs.Masking.Alike
import FuzzyGrid.Proofs.Operator.Cellwise

/-!
# Operations on alike layers

Contexts are alike if they hold alike results under the same names, which may
differ under their masks only.  Such contexts let an operation come to alike results
or to one error: no statistic, threshold, tag or printed text depends on a masked
scalar.
-/

namespace FuzzyGrid

open List (Forall₂)

variable {α : Type}

/-- Two outcomes that are one failure, or related values. -/
inductive SameOutcome {ε β : Type} (related : β → β → Prop) :
    Except ε β → Except ε β → Prop where
  | error (fault : ε) : SameOutcome related (.error fault) (.error fault)
  | ok {first second : β} (same : related first second) :
      SameOutcome related (.ok first) (.ok second)

namespace SameOutcome

variable {ε β γ δ : Type} {related : β → β → Prop} {others : γ → γ → Prop}

theorem exists_eq {first second : Except ε β}
    (same : SameOutcome related first second) :
    (∃ fault, first = .error fault ∧ second = .error fault) ∨
      ∃ one other, first = .ok one ∧ second = .ok other ∧ related one other := by
  cases same with
  | error fault => exact .inl ⟨fault, rfl, rfl⟩
  | ok same => exact .inr ⟨_, _, rfl, rfl, same⟩

theorem bind {first second : Except ε β} {next after : β → Except ε γ}
    (same : SameOutcome related first second)
    (rest : ∀ one other, related one other →
      SameOutcome others (next one) (after other)) :
    SameOutcome others (first >>= next) (second >>= after) := by
  cases same with
  | error fault => exact .error fault
  | ok alike => exact rest _ _ alike

/-- A step that both take alike. -/
theorem step (outcome : Except ε β) {next after : β → Except ε γ}
    (rest : ∀ value, outcome = .ok value →
      SameOutcome others (next value) (after value)) :
    SameOutcome others (outcome >>= next) (outcome >>= after) := by
  cases outcome with
  | error fault => exact .error fault
  | ok value => exact rest value rfl

theorem map {first second : Except ε β} {next after : β → γ}
    (same : SameOutcome related first second)
    (rest : ∀ one other, related one other → others (next one) (after other)) :
    SameOutcome others (first.map next) (second.map after) := by
  cases same with
  | error fault => exact .error fault
  | ok alike => exact .ok (rest _ _ alike)

theorem readAll {read other : δ → Except ε β}
    (same : ∀ item, SameOutcome related (read item) (other item))
    (items : List δ) :
    SameOutcome (Forall₂ related) (FuzzyGrid.readAll read items)
      (FuzzyGrid.readAll other items) := by
  induction items with
  | nil => exact .ok .nil
  | cons item rest induction =>
      rcases (same item).exists_eq with
        ⟨fault, failed, failedToo⟩ | ⟨one, twin, read, readToo, alike⟩
      · simp only [FuzzyGrid.readAll, failed, failedToo]
        exact .error fault
      · simp only [FuzzyGrid.readAll, read, readToo]
        rcases induction.exists_eq with
          ⟨fault, failed, failedToo⟩ | ⟨ones, twins, read, readToo, others⟩
        · rw [failed, failedToo]
          exact .error fault
        · rw [read, readToo]
          exact .ok (.cons alike others)

end SameOutcome

/-! ## Results and contexts -/

/-- Values that are alike grids or the same flag. -/
inductive ResultValue.Alike : ResultValue α → ResultValue α → Prop where
  | grid {first second : Grid α} (alike : first.Alike second) :
      Alike (.grid first) (.grid second)
  | flag (value : Bool) : Alike (.flag value) (.flag value)

/-- Results with one tag that are both layers of data or both not, and whose
values are alike. -/
structure Result.Alike (first second : Result α) : Prop where
  value : first.value.Alike second.value
  dataType : first.dataType = second.dataType
  isDataLayer : first.isDataLayer = second.isDataLayer

theorem ResultValue.Alike.refl (value : ResultValue α) : value.Alike value := by
  cases value with
  | grid layer => exact .grid (.refl layer)
  | flag value => exact .flag value

theorem Result.Alike.refl (result : Result α) : result.Alike result :=
  ⟨.refl result.value, rfl, rfl⟩

theorem ResultValue.Alike.symm {first second : ResultValue α}
    (alike : first.Alike second) : second.Alike first := by
  cases alike with
  | grid same => exact .grid same.symm
  | flag value => exact .flag value

theorem Result.Alike.symm {first second : Result α} (alike : first.Alike second) :
    second.Alike first :=
  ⟨alike.value.symm, alike.dataType.symm, alike.isDataLayer.symm⟩

theorem ResultValue.Alike.text_eq [Scalar α] {first second : ResultValue α}
    (alike : first.Alike second) : first.text = second.text := by
  cases alike with
  | grid alike => exact Grid.text_eq alike.shape alike.seen
  | flag value => rfl

theorem Grid.Alike.layer {first second : Grid α} (alike : first.Alike second)
    (dataType : DataType) :
    (Result.layer first dataType).Alike (Result.layer second dataType) :=
  ⟨.grid alike, rfl, rfl⟩

theorem Result.Alike.layerGrid? {first second : Result α}
    (alike : first.Alike second) :
    Option.Rel Grid.Alike first.layerGrid? second.layerGrid? := by
  obtain ⟨value, dataType, isDataLayer⟩ := first
  obtain ⟨other, otherType, otherLayer⟩ := second
  obtain ⟨same, _, sameLayer⟩ := alike
  cases sameLayer
  cases isDataLayer with
  | false => exact .none
  | true =>
      cases same with
      | grid grids => exact .some grids
      | flag _ => exact .none

/-- Contexts of one range that hold alike results under the same names. -/
structure ResultContext.Alike (first second : ResultContext α) : Prop where
  range : first.range = second.range
  results : ∀ name,
    Option.Rel Result.Alike (first.get? name) (second.get? name)

theorem ResultContext.alike_iff_related {first second : ResultContext α} :
    first.Alike second ↔ first.Related Result.Alike second :=
  ⟨fun alike => ⟨alike.range, alike.results⟩,
    fun related => ⟨related.range, related.results⟩⟩

theorem ResultContext.Alike.refl (context : ResultContext α) :
    context.Alike context :=
  alike_iff_related.mpr (.refl Result.Alike.refl context)

/-- Input layers with one tag and alike grids. -/
structure InputGrid.Alike (first second : InputGrid α) : Prop where
  grid : first.grid.Alike second.grid
  dataType : first.dataType = second.dataType

namespace ResultContext.Alike

variable {first second : ResultContext α}

theorem get? (alike : first.Alike second) (name : String) :
    (first.get? name = none ∧ second.get? name = none) ∨
      ∃ result twin, first.get? name = some result ∧
        second.get? name = some twin ∧ result.Alike twin :=
  (alike_iff_related.mp alike).get? name

theorem symm (alike : first.Alike second) : second.Alike first := by
  refine ⟨alike.range.symm, fun name => ?_⟩
  rcases alike.get? name with
    ⟨absent, absentToo⟩ | ⟨result, twin, held, heldToo, same⟩
  · rw [absent, absentToo]
    exact .none
  · rw [held, heldToo]
    exact .some same.symm

theorem fetch (alike : first.Alike second) (origin : Origin) (name : String) :
    SameOutcome Result.Alike (first.fetch origin name)
      (second.fetch origin name) := by
  unfold ResultContext.fetch
  rcases alike.get? name with
    ⟨absent, absentToo⟩ | ⟨result, twin, held, heldToo, same⟩
  · rw [absent, absentToo]
    exact .error _
  · rw [held, heldToo]
    exact .ok same

theorem layer (alike : first.Alike second) (origin : Origin)
    (allowed : List DataType) (field : String) :
    SameOutcome InputGrid.Alike (first.layer origin allowed field)
      (second.layer origin allowed field) := by
  unfold ResultContext.layer
  rcases (alike.fetch origin field).exists_eq with
    ⟨fault, failed, failedToo⟩ | ⟨result, twin, found, foundToo, same⟩
  · rw [failed, failedToo]
    exact .error fault
  · rw [found, foundToo]
    have layers := same.layerGrid?
    dsimp only
    generalize result.layerGrid? = one at layers ⊢
    generalize twin.layerGrid? = other at layers ⊢
    cases layers with
    | none => exact .error _
    | some grids =>
        dsimp only
        rw [same.dataType]
        split
        · exact .ok ⟨grids, rfl⟩
        · exact .error _

theorem layers (alike : first.Alike second) (origin : Origin)
    (allowed : List DataType) (fields : List String) :
    SameOutcome (Forall₂ InputGrid.Alike) (first.layers origin allowed fields)
      (second.layers origin allowed fields) :=
  .readAll (alike.layer origin allowed) fields

end ResultContext.Alike

theorem InputGrid.forall₂_grid {inputs others : List (InputGrid α)}
    (alike : Forall₂ InputGrid.Alike inputs others) :
    Forall₂ Grid.Alike (inputs.map InputGrid.grid) (others.map InputGrid.grid) := by
  simp only [List.forall₂_map_left_iff, List.forall₂_map_right_iff]
  exact alike.imp fun _ _ same => same.grid

/-! ## Operations -/

variable [Scalar α]

omit [Scalar α] in
/-- The first grids of another shape are alike. -/
theorem Grid.Alike.find?_shape {grids others : List (Grid α)}
    (alike : Forall₂ Grid.Alike grids others) (shape : Nat × Nat) :
    Option.Rel Grid.Alike (grids.find? fun grid => shape != grid.shape)
      (others.find? fun grid => shape != grid.shape) := by
  induction alike with
  | nil => exact .none
  | cons same _ induction =>
      rw [List.find?_cons, List.find?_cons, ← same.shape]
      split
      · exact .some same
      · exact induction

omit [Scalar α] in
theorem Grid.Alike.blend? (combine : List α → α) {first second : List (Grid α)}
    (alike : Forall₂ Grid.Alike first second) :
    SameOutcome Grid.Alike (Grid.blend? combine first)
      (Grid.blend? combine second) := by
  have blended := Grid.Alike.blend combine alike
  cases alike with
  | nil => exact .ok blended
  | @cons grid twin rest others same tail =>
      have found := Grid.Alike.find?_shape tail grid.shape
      simp only [Grid.blend?, ← same.shape]
      generalize (rest.find? _) = one at found ⊢
      generalize (others.find? _) = other at found ⊢
      cases found with
      | none => exact .ok blended
      | some also =>
          dsimp only
          rw [also.shape]
          exact .error _

omit [Scalar α] in
theorem Grid.Alike.blame {first second : Except ShapeMismatch (Grid α)}
    (origin : Origin) (arg : String) (same : SameOutcome Grid.Alike first second) :
    SameOutcome Grid.Alike (Grid.blame origin arg first)
      (Grid.blame origin arg second) := by
  cases same with
  | error mismatch => exact .error _
  | ok alike => exact .ok alike

variable (origin : Origin) {first second : Grid α}

theorem Grid.Alike.fuzzyLayer (range : FuzzyRange α)
    (alike : first.Alike second) :
    (fuzzyLayer range first).Alike (fuzzyLayer range second) :=
  (alike.clampUnmasked range.low range.high).layer .fuzzy

theorem LayerOperation.apply_alike (range : FuzzyRange α)
    (operation : LayerOperation α) (alike : first.Alike second) :
    SameOutcome Result.Alike (operation.apply origin range first)
      (operation.apply origin range second) := by
  obtain ⟨choice, one, other⟩ := operation.apply_isConversion origin range first second
    alike.validValues_eq
  rw [one, other]
  cases choice with
  | error fault => exact .error fault
  | ok function =>
      have mapped := alike.map function
      cases operation with
      | normalize start stop => exact .ok (mapped.layer .float)
      | fromFuzzy trueAt falseAt => exact .ok (mapped.layer .float)
      | _ => exact .ok (mapped.fuzzyLayer range)

theorem PairOperation.cell_alike (operation : PairOperation)
    (one two other another : Cell α) (same : one.Alike other)
    (also : two.Alike another) :
    (operation.cell one two).Alike (operation.cell other another) := by
  obtain ⟨sameMask, sameValue⟩ := Cell.alike_iff.mp same
  obtain ⟨alsoMask, alsoValue⟩ := Cell.alike_iff.mp also
  rw [Cell.alike_iff]
  cases operation with
  | subtract =>
      refine ⟨by simp [cell, Cell.merge, sameMask, alsoMask], ?_⟩
      intro unmasked
      obtain ⟨here, there⟩ := Bool.or_eq_false_iff.mp unmasked
      simp [cell, Cell.merge, sameValue here, alsoValue there]
  | divide =>
      constructor
      -- A masked divisor is compared with zero, too, but the quotient is then
      -- masked anyway.
      · simp only [cell, sameMask]
        cases masked : two.masked with
        | true => simp [← alsoMask, masked]
        | false => rw [← alsoMask, masked, alsoValue masked]
      · intro unmasked
        obtain ⟨unmasked, _⟩ := Bool.or_eq_false_iff.mp unmasked
        obtain ⟨here, there⟩ := Bool.or_eq_false_iff.mp unmasked
        simp [cell, sameValue here, alsoValue there]

theorem PairOperation.apply_alike (operation : PairOperation)
    {left right other another : Grid α} (same : left.Alike other)
    (also : right.Alike another) :
    SameOutcome Result.Alike (operation.apply origin left right)
      (operation.apply origin other another) := by
  have merged : (operation.merge left right).Alike
      (operation.merge other another) :=
    ⟨same.shape, Grid.seen_zipWith_eq operation.cell_alike same.seen also.seen⟩
  rw [apply_eq, apply_eq, same.shape, also.shape]
  split
  · rw [DataType.floatFor, DataType.floatFor, merged.isPositive_eq]
    exact .ok (merged.layer _)
  · exact .error _

theorem ListOperation.finish_alike (range : FuzzyRange α)
    (operation : ListOperation α) (types : List DataType)
    (alike : first.Alike second) :
    (operation.finish range types first).Alike
      (operation.finish range types second) := by
  have propagated : DataType.propagate types first =
      DataType.propagate types second := by
    rw [DataType.propagate, DataType.propagate, alike.isPositive_eq]
  have measured : DataType.floatFor first = DataType.floatFor second := by
    rw [DataType.floatFor, DataType.floatFor, alike.isPositive_eq]
  cases operation with
  | sum | multiply | minimum | maximum =>
      rw [finish, finish, propagated]
      exact alike.layer _
  | weightedSum weights =>
      rw [finish, finish, measured]
      exact alike.layer _
  | mean | weightedMean => exact alike.layer _
  | _ => exact alike.fuzzyLayer range

theorem ListOperation.blendLayers_alike (range : FuzzyRange α)
    (operation : ListOperation α) {grids others : List (Grid α)}
    (alike : Forall₂ Grid.Alike grids others) :
    SameOutcome Grid.Alike (operation.blendLayers origin range grids)
      (operation.blendLayers origin range others) := by
  unfold blendLayers
  apply SameOutcome.step
  intro _ _
  apply (Grid.Alike.blame origin argument (Grid.Alike.blend? _ alike)).bind
  intro grid other same
  apply SameOutcome.step
  intro _ _
  exact .ok same

theorem ListOperation.apply_alike (range : FuzzyRange α)
    {operation : ListOperation α} {inputs others : List (InputGrid α)}
    (alike : Forall₂ InputGrid.Alike inputs others)
    (checked : operation.checkCounts origin inputs.length = .ok ()) :
    SameOutcome Result.Alike (operation.apply origin range inputs)
      (operation.apply origin range others) := by
  have types : inputs.map InputGrid.dataType =
      others.map InputGrid.dataType := by
    rw [← List.forall₂_eq_eq_eq]
    simp only [List.forall₂_map_left_iff, List.forall₂_map_right_iff]
    exact alike.imp fun _ _ same => same.dataType
  have checkedToo : operation.checkCounts origin others.length = .ok () :=
    alike.length_eq ▸ checked
  rw [apply_eq range checked, apply_eq range checkedToo, types]
  apply (operation.blendLayers_alike origin range (InputGrid.forall₂_grid alike)).map
  intro grid other same
  exact operation.finish_alike range _ same

/-- Computations with alike results and the same report. -/
structure Computed.Alike (first second : Computed α) : Prop where
  result : first.result.Alike second.result
  report : first.report = second.report

omit [Scalar α] in
/-- Fuzzy layers are the same outcome just if they are alike. -/
theorem sameOutcome_layers_iff :
    SameOutcome (ε := CommandError α) Computed.Alike (.ok ⟨.layer first .fuzzy, none⟩)
      (.ok ⟨.layer second .fuzzy, none⟩) ↔ first.Alike second := by
  constructor
  · intro same
    cases same with
    | ok alike =>
        cases alike.result.value with
        | grid grids => exact grids
  · intro alike
    exact .ok ⟨alike.layer .fuzzy, rfl⟩

/-- From alike contexts an operation comes to alike results or to the same
fault. -/
theorem Operation.compute_alike (operation : Operation α)
    {first second : ResultContext α} (alike : first.Alike second) :
    SameOutcome Computed.Alike (operation.compute origin first)
      (operation.compute origin second) := by
  cases operation with
  | copy field =>
      exact (alike.fetch origin field).bind fun _ _ same => .ok ⟨same, rfl⟩
  | report fields destination =>
      have lines : ∀ field, SameOutcome Eq (reportLine origin first field)
          (reportLine origin second field) := by
        intro field
        apply (alike.fetch origin field).bind
        intro result twin same
        rw [same.value.text_eq]
        exact .ok rfl
      apply (SameOutcome.readAll lines fields).bind
      intro texts others same
      rw [List.forall₂_eq_eq_eq] at same
      rw [same]
      exact .ok ⟨.refl _, rfl⟩
  | layer field operation =>
      apply (alike.layer origin operation.accepted field).bind
      intro input twin same
      rw [alike.range]
      exact (operation.apply_alike origin second.range same.grid).bind
        fun _ _ same => .ok ⟨same, rfl⟩
  | pair left right operation =>
      apply (alike.layer origin DataType.numerics left).bind
      intro leftInput leftTwin sameLeft
      apply (alike.layer origin DataType.numerics right).bind
      intro rightInput rightTwin sameRight
      exact (operation.apply_alike origin sameLeft.grid sameRight.grid).bind
        fun _ _ same => .ok ⟨same, rfl⟩
  | list fields operation =>
      apply SameOutcome.step (operation.checkCounts origin fields.length)
      intro _ checked
      rcases (alike.layers origin operation.accepted fields).exists_eq with
        ⟨fault, failed, failedToo⟩ | ⟨inputs, twins, read, readToo, same⟩
      · rw [failed, failedToo]
        exact .error fault
      · rw [read, readToo, alike.range]
        have count := (readAll_eq_ok_iff.mp read).length_eq
        rw [count] at checked
        exact (ListOperation.apply_alike origin second.range same checked).bind
          fun _ _ same => .ok ⟨same, rfl⟩

end FuzzyGrid
