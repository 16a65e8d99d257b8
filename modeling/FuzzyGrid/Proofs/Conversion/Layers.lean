import FuzzyGrid.Proofs.Command.Arguments
import FuzzyGrid.Proofs.Conversion.Curve
import FuzzyGrid.Proofs.Grid.Spread
import FuzzyGrid.Proofs.Masking.Alike
import FuzzyGrid.Proofs.Operator.Cellwise

/-!
# Conversions of layers

What a conversion makes of a layer does not depend on where it is held.  In
exact arithmetic each conversion that goes through maps the layer by one
function, a line or a curve, and most of them then move the unmasked cells into
the range.
-/

namespace FuzzyGrid

section

variable {α : Type} [Scalar α]

/-- What an operation makes of a layer, wherever it is held and for whichever
command. -/
def LayerOperation.Turns (range : FuzzyRange α) (operation : LayerOperation α)
    (input output : InputGrid α) : Prop :=
  ∀ (origin : Origin) (context : ResultContext α) (field : String),
    context.range = range →
    context.get? field = some (.layer input.grid input.dataType) →
      (Operation.layer field operation).compute origin context =
        .ok ⟨.layer output.grid output.dataType, none⟩

omit [Scalar α] in
/-- A layer that is held is read where its type is allowed. -/
theorem ResultContext.layer_of_held {context : ResultContext α} {origin : Origin}
    {field : String} {grid : Grid α} {dataType : DataType}
    (held : context.get? field = some (.layer grid dataType)) (allowed : List DataType) :
    context.layer origin allowed field =
      if dataType.satisfies allowed then .ok ⟨grid, dataType⟩
      else .error ⟨.typeMismatch field dataType allowed, origin⟩ := by
  unfold layer fetch
  rw [held]
  rfl

/-- What an operation on a layer that is read comes to. -/
theorem LayerOperation.compute_of_layer {context : ResultContext α}
    {origin : Origin} {field : String} {operation : LayerOperation α}
    {input : InputGrid α}
    (read : context.layer origin operation.accepted field = .ok input) :
    (Operation.layer field operation).compute origin context =
      (operation.apply origin context.range input.grid).map fun result =>
        ⟨result, none⟩ := by
  simp only [Operation.compute, read, Bind.bind, Except.bind]
  cases operation.apply origin context.range input.grid <;> rfl

theorem LayerOperation.turns_of_apply {range : FuzzyRange α}
    {operation : LayerOperation α} {input output : InputGrid α}
    (accepted : input.dataType.satisfies operation.accepted = true)
    (applied : ∀ origin, operation.apply origin range input.grid =
      .ok (.layer output.grid output.dataType)) :
    operation.Turns range input output := by
  rintro origin context field rfl held
  exact compute_of_apply
    (ResultContext.layer_eq_ok_iff.mpr ⟨_, held, rfl, rfl, accepted⟩) (applied origin)

theorem LayerOperation.applyLine_of_eq {origin : Origin} {trueAt falseAt : α}
    (same : Scalar.eq trueAt falseAt = true) (range : FuzzyRange α)
    (blamed : String) (grid : Grid α) :
    applyLine origin range blamed trueAt falseAt grid =
      .error ⟨.degenerateThreshold blamed, origin⟩ :=
  if_pos same

theorem LayerOperation.applyLine_of_ne {origin : Origin} {trueAt falseAt : α}
    (apart : ¬Scalar.eq trueAt falseAt = true) (range : FuzzyRange α)
    (blamed : String) (grid : Grid α) :
    applyLine origin range blamed trueAt falseAt grid = .ok (fuzzyLayer range
      (grid.map (lineThrough trueAt range.high falseAt range.low))) :=
  if_neg apart

/-! ## Mapped grids -/

namespace Grid

/-- A function that takes one range to another one. -/
theorem map_clampUnmasked {low high bottom top : α} {function : α → α}
    (moves : ∀ value, function (Scalar.clamp low high value) =
      Scalar.clamp bottom top (function value)) (grid : Grid α) :
    (grid.clampUnmasked low high).map function =
      (grid.map function).clampUnmasked bottom top := by
  simp only [clampUnmasked, map, List.map_map, mk.injEq, true_and]
  apply List.map_congr_left
  intro cell _
  cases masked : cell.masked with
  | true => simp [Cell.map, masked]
  | false => simp [Cell.map, masked, moves]

/-- A function applied to a grid, its unmasked cells then moved into a range. -/
def mapInto (range : FuzzyRange α) (function : α → α) (grid : Grid α) : Grid α :=
  (grid.map function).clampUnmasked range.low range.high

theorem mapInto_alike (range : FuzzyRange α) (function : α → α) (grid : Grid α) :
    (grid.mapInto range function).Alike
      (grid.map fun value => Scalar.clamp range.low range.high (function value)) := by
  refine (clampUnmasked_alike _ _ _).trans ?_
  rw [map_map]
  exact .refl _

theorem mapInto_alike_iff {range : FuzzyRange α} {function other : α → α}
    {grid : Grid α} :
    (grid.mapInto range function).Alike (grid.mapInto range other) ↔
      ∀ value ∈ grid.validValues,
        Scalar.clamp range.low range.high (function value) =
          Scalar.clamp range.low range.high (other value) := by
  rw [← map_alike_iff]
  constructor
  · intro alike
    exact (mapInto_alike _ _ _).symm.trans (alike.trans (mapInto_alike _ _ _))
  · intro alike
    exact (mapInto_alike _ _ _).trans (alike.trans (mapInto_alike _ _ _).symm)

end Grid

end

/-- Control points from the lists of their positions and heights. -/
theorem Curve.zip_eq {β γ δ : Type} (position : β → δ) (points : List (β × γ)) :
    ((points.map Prod.fst).map position).zip (points.map Prod.snd) =
      points.map fun point => (position point.1, point.2) := by
  rw [List.map_map, List.zip_map']
  rfl

theorem DataType.numericOrFuzzy_of_numeric {dataType : DataType}
    (numeric : dataType.satisfies numerics = true) :
    dataType.satisfies numericsOrFuzzy = true := by
  revert numeric
  cases dataType <;> decide

variable {K : Type} [ExactNumber K] {range : FuzzyRange K} {input : InputGrid K}

/-! ## Lists of control points -/

theorem Fault.checkDistinct_numbers {origin : Origin} {arg : String}
    {numerals : List (Numeral K)} :
    checkDistinct origin arg (numerals.map ArgValue.number) = .ok () ↔
      (numerals.map Numeral.value).Nodup := by
  rw [checkDistinct_eq_ok_iff, List.pairwise_map, List.Nodup, List.pairwise_map]
  simp only [ArgValue.sameEntry_number, Scalar.identical, decide_eq_true_eq, ne_eq]

namespace LayerOperation

/-- Enough control points at different positions pass the checks. -/
theorem checkCurve_eq (origin : Origin) (positions : String)
    {points : List (Numeral K × K)}
    (enough : 2 ≤ points.length)
    (distinct : (points.map fun point => point.1.value).Nodup) :
    checkCurve origin positions (points.map Prod.fst) (points.map Prod.snd) =
      .ok () := by
  have counted : Fault.checkMinLength (α := K) origin positions 2
      (points.map Prod.fst).length = .ok () := by
    rwa [Fault.checkMinLength_eq_ok_iff, List.length_map]
  have equal : Fault.checkEqualLengths (α := K) origin
      [(positions, (points.map Prod.fst).length),
        ("FuzzyValues", (points.map Prod.snd).length)] = .ok () := by
    rw [Fault.checkEqualLengths_eq_ok_iff, List.length_map, List.length_map]
  have unrepeated : Fault.checkDistinct origin positions
      ((points.map Prod.fst).map ArgValue.number) = .ok () := by
    rwa [Fault.checkDistinct_numbers, List.map_map]
  rw [checkCurve, counted, equal, unrepeated]
  rfl

section

variable {origin : Origin} {positions : String} {raw : List (Numeral K)}
  {fuzzy : List K}

theorem length_of_checkCurve (checked : checkCurve origin positions raw fuzzy = .ok ()) :
    2 ≤ raw.length ∧ raw.length = fuzzy.length := by
  obtain ⟨_, counted, rest⟩ := bind_eq_ok.mp checked
  obtain ⟨_, equal, _⟩ := bind_eq_ok.mp rest
  exact ⟨Fault.checkMinLength_eq_ok_iff.mp counted,
    Fault.checkEqualLengths_eq_ok_iff.mp equal⟩

/-- A curve that has passed the checks has control points. -/
theorem ascendingPoints_of_checkCurve
    (checked : checkCurve origin positions raw fuzzy = .ok ())
    (position : Numeral K → K) :
    Curve.ascendingPoints (raw.map position) fuzzy ≠ [] := by
  obtain ⟨enough, equal⟩ := length_of_checkCurve checked
  apply List.ne_nil_of_length_pos
  rw [Curve.ascendingPoints, Scalar.length_arrange, List.length_zip, List.length_map,
    ← equal, min_self]
  exact Nat.lt_of_lt_of_le two_pos enough

end

/-! ## Curves -/

theorem toFuzzyCurve_turns {points : List (Numeral K × K)}
    {ascending : List (K × K)} (enough : 2 ≤ points.length)
    (orders : Curve.Orders
      (points.map fun point => (point.1.value, point.2)) ascending)
    (accepted : input.dataType.satisfies DataType.numericsOrFuzzy = true) :
    (toFuzzyCurve (points.map Prod.fst) (points.map Prod.snd)).Turns range input
      ⟨input.grid.mapInto range (Curve.height ascending), .fuzzy⟩ := by
  have distinct := orders.distinct
  rw [List.map_map] at distinct
  rw [← Curve.zip_eq] at orders
  apply turns_of_apply accepted
  intro origin
  rw [apply, applyToFuzzyCurve, checkCurve_eq _ _ enough distinct,
    orders.ascendingPoints_eq]
  rfl

/-- The curve through control points at numbers of deviations from the mean of
a layer. -/
def scoreCurve (points : List (Numeral K × K)) (grid : Grid K) : K → K :=
  Curve.height (Curve.ascendingPoints
    ((points.map Prod.fst).map fun score => grid.atScore score.value)
    (points.map Prod.snd))

theorem scoreCurve_eq {points : List (Numeral K × K)} {grid : Grid K}
    {ascending : List (K × K)} (orders : Curve.Orders
      (points.map fun point => (grid.atScore point.1.value, point.2)) ascending) :
    scoreCurve points grid = Curve.height ascending := by
  rw [← Curve.zip_eq fun score : Numeral K => grid.atScore score.value] at orders
  rw [scoreCurve, orders.ascendingPoints_eq]

/-- Where there is a spread, points at different scores lie at different
positions. -/
theorem exists_orders_atScore {points : List (Numeral K × K)} {grid : Grid K}
    (varied : grid.Varied) (root : Scalar.HasRoot grid.variance)
    (distinct : (points.map fun point => point.1.value).Nodup) :
    ∃ ascending, Curve.Orders
      (points.map fun point => (grid.atScore point.1.value, point.2)) ascending := by
  apply Curve.exists_orders
  have apart := distinct.map (varied.atScore_injective root)
  rw [List.map_map] at apart ⊢
  exact apart

section

variable {origin : Origin} {scores : List (Numeral K)} {fuzzy : List K}
  {grid : Grid K} (checked : checkCurve origin "ZScoreValues" scores fuzzy = .ok ())

include checked

theorem applyToFuzzyCurveZScore_eq (some_ : grid.validValues ≠ []) :
    applyToFuzzyCurveZScore origin range scores fuzzy grid =
      .ok (fuzzyLayer range (grid.map (Curve.height (Curve.ascendingPoints
        (scores.map fun score => grid.atScore score.value) fuzzy)))) := by
  rw [applyToFuzzyCurveZScore, checked, Grid.mean?_eq some_, Grid.deviation?_eq some_]
  rfl

theorem applyToFuzzyCurveZScore_of_masked (none_ : grid.validValues = []) :
    applyToFuzzyCurveZScore origin range scores fuzzy grid =
      .ok (fuzzyLayer range grid) := by
  rw [applyToFuzzyCurveZScore, checked, Grid.mean?_eq_none none_]
  rfl

end

theorem apply_toFuzzyCurveZScore (origin : Origin) {points : List (Numeral K × K)}
    {grid : Grid K}
    (enough : 2 ≤ points.length)
    (distinct : (points.map fun point => point.1.value).Nodup)
    (some_ : grid.validValues ≠ []) :
    (toFuzzyCurveZScore (points.map Prod.fst) (points.map Prod.snd)).apply origin range
        grid =
      .ok (.layer (grid.mapInto range (scoreCurve points grid)) .fuzzy) :=
  applyToFuzzyCurveZScore_eq (checkCurve_eq _ _ enough distinct) some_

theorem apply_toFuzzyCurveZScore_of_masked (origin : Origin)
    {points : List (Numeral K × K)} {grid : Grid K} (enough : 2 ≤ points.length)
    (distinct : (points.map fun point => point.1.value).Nodup)
    (none_ : grid.validValues = []) :
    (toFuzzyCurveZScore (points.map Prod.fst) (points.map Prod.snd)).apply origin range
        grid =
      .ok (fuzzyLayer range grid) :=
  applyToFuzzyCurveZScore_of_masked (checkCurve_eq _ _ enough distinct) none_

/-! ## Lines -/

variable {origin : Origin} {trueAt falseAt : K}

theorem applyLine_eq (apart : trueAt ≠ falseAt) (blamed : String) (grid : Grid K) :
    applyLine origin range blamed trueAt falseAt grid =
      .ok (.layer (grid.mapInto range
        (lineThrough trueAt range.high falseAt range.low)) .fuzzy) :=
  applyLine_of_ne (mt Scalar.eq_iff.mp apart) range blamed grid

/-- Thresholds at scores lie at these numbers of deviations from the mean. -/
theorem applyToFuzzyZScore_eq (apart : trueAt ≠ falseAt) {grid : Grid K}
    (some_ : grid.validValues ≠ []) :
    applyToFuzzyZScore origin range trueAt falseAt grid =
      applyLine origin range "InFieldName" (grid.atScore trueAt) (grid.atScore falseAt)
        grid := by
  have thresholds (score : K) :
      grid.mean + Scalar.sqrt grid.variance * score = grid.atScore score :=
    congrArg (grid.mean + ·) (mul_comm _ _)
  rw [applyToFuzzyZScore, if_neg (mt Scalar.eq_iff.mp apart), Grid.mean?_eq some_,
    Grid.deviation?_eq some_]
  dsimp only
  rw [thresholds, thresholds]

theorem applyToFuzzyZScore_of_masked (apart : trueAt ≠ falseAt) {grid : Grid K}
    (none_ : grid.validValues = []) :
    applyToFuzzyZScore origin range trueAt falseAt grid =
      .ok (fuzzyLayer range grid) := by
  rw [applyToFuzzyZScore, if_neg (mt Scalar.eq_iff.mp apart), Grid.mean?_eq_none none_]

theorem toFuzzy_turns (apart : trueAt ≠ falseAt)
    (accepted : input.dataType.satisfies DataType.numericsOrFuzzy = true) :
    (toFuzzy (some trueAt) (some falseAt) none).Turns range input
      ⟨input.grid.mapInto range (lineThrough trueAt range.high falseAt range.low),
        .fuzzy⟩ :=
  turns_of_apply accepted fun _ => applyLine_eq apart _ _

theorem fromFuzzy_turns (apart : trueAt ≠ falseAt) (grid : Grid K) :
    (fromFuzzy trueAt falseAt).Turns range ⟨grid, .fuzzy⟩
      ⟨grid.map (lineThrough range.high trueAt range.low falseAt), .float⟩ := by
  apply turns_of_apply rfl
  intro origin
  rw [apply, applyFromFuzzy, if_neg (mt Scalar.eq_iff.mp apart)]

end LayerOperation

namespace Sample

/-- A context that holds one layer. -/
def holdingOne (range : FuzzyRange ℚ) (field : String) (grid : Grid ℚ)
    (dataType : DataType) : ResultContext ℚ :=
  ⟨range, .ofList [(field, .layer grid dataType)]⟩

theorem holdingOne_get? (range : FuzzyRange ℚ) (field : String) (grid : Grid ℚ)
    (dataType : DataType) :
    (holdingOne range field grid dataType).get? field =
      some (.layer grid dataType) :=
  (NameTable.get?_insert _ _ _ _).trans (if_pos rfl)

theorem holdingOne_layer (range : FuzzyRange ℚ) (origin : Origin) (field : String)
    (grid : Grid ℚ) {dataType : DataType} {types : List DataType}
    (accepted : dataType.satisfies types = true) :
    (holdingOne range field grid dataType).layer origin types field =
      .ok ⟨grid, dataType⟩ :=
  ResultContext.layer_eq_ok_iff.mpr
    ⟨_, holdingOne_get? range field grid dataType, rfl, rfl, accepted⟩

end Sample

end FuzzyGrid
