import FuzzyGrid.Proofs.Conversion.Thresholds
import FuzzyGrid.Proofs.Fuzzy.Layers
import FuzzyGrid.Proofs.Operator.Placement

/-!
# Complements of conversions

A conversion to fuzzy values is told which values stand for true and which for
false.  Exchanging the two reflects the height of its line or curve at every
position, within the range and outside of it, so what it makes is the complement
of what it made before.  Where one of the two conversions is refused so is the
other, since no check tells true from false.
-/

namespace FuzzyGrid

variable {K : Type} [ExactNumber K] {range : FuzzyRange K}

/-! ## Reflected heights -/

/-- The line with exchanged thresholds. -/
theorem lineThrough_complement {trueAt falseAt : K} (apart : trueAt ≠ falseAt)
    (x : K) :
    lineThrough falseAt range.high trueAt range.low x =
      range.complement (lineThrough trueAt range.high falseAt range.low x) := by
  rw [← lineThrough_comm apart.symm]
  unfold lineThrough FuzzyRange.complement
  ring

namespace Curve

/-- Control points with their heights reflected. -/
def reflect (range : FuzzyRange K) (points : List (K × K)) : List (K × K) :=
  points.map (Prod.map id range.complement)

theorem segment_complement (left right : K × K) (x : K) :
    segment (Prod.map id range.complement left)
        (Prod.map id range.complement right) x =
      range.complement (segment left right x) := by
  rw [segment_eq, segment_eq]
  simp only [Prod.map_fst, Prod.map_snd, id_eq, FuzzyRange.complement]
  ring

theorem onSegments?_reflect (points : List (K × K)) (x : K) :
    onSegments? x (reflect range points) =
      (onSegments? x points).map range.complement := by
  induction points with
  | nil => rfl
  | cons left rest induction =>
      cases rest with
      | nil => rfl
      | cons right others =>
          simp only [reflect, List.map_cons, onSegments?] at induction ⊢
          rw [segment_complement, induction, apply_ite (Option.map range.complement)]
          rfl

theorem height_reflect {points : List (K × K)} (some_ : points ≠ []) (x : K) :
    height (reflect range points) x = range.complement (height points x) := by
  have isFirst := List.head?_eq_some_head some_
  have isLast := List.getLast?_eq_some_getLast some_
  simp only [height, onSegments?_reflect]
  simp only [reflect, List.head?_map, List.getLast?_map, isFirst, isLast,
    Option.map_some, Prod.map_fst, Prod.map_snd, id_eq, Option.getD_map]
  split_ifs <;> rfl

/-- Sorting looks at positions only. -/
theorem ascendingPoints_complement (positions heights : List K) :
    ascendingPoints positions (heights.map range.complement) =
      reflect range (ascendingPoints positions heights) := by
  rw [ascendingPoints_eq_insertionSort, ascendingPoints_eq_insertionSort,
    List.zip_map_right, reflect]
  symm
  apply List.map_insertionSort
  intro _ _ _ _
  exact Iff.rfl

end Curve

/-! ## Exchanged conversions -/

namespace LayerOperation

/-- Conversions of which one takes for true what the other takes for false. -/
inductive Opposite (range : FuzzyRange K) :
    LayerOperation K → LayerOperation K → Prop where
  /-- Both thresholds, exchanged. -/
  | thresholds (trueAt falseAt : K) (direction : Option (ArgValue K)) :
      Opposite range (.toFuzzy (some trueAt) (some falseAt) direction)
        (.toFuzzy (some falseAt) (some trueAt) direction)
  /-- Without a direction a threshold can be missing on either side. -/
  | undirected (trueAt falseAt : Option K) :
      Opposite range (.toFuzzy trueAt falseAt none) (.toFuzzy falseAt trueAt none)
  /-- The two directions, where each threshold that is given is exchanged too. -/
  | directions (trueAt falseAt : Option K) {value other : ArgValue K}
      {direction opposite : Direction} {origin : Origin}
      (reads : Direction.ofArgument origin "Direction" value = .ok direction)
      (readsOther : Direction.ofArgument origin "Direction" other = .ok opposite)
      (exchanged : direction ≠ opposite) :
      Opposite range (.toFuzzy trueAt falseAt (some value))
        (.toFuzzy falseAt trueAt (some other))
  | scores (trueAt falseAt : K) :
      Opposite range (.toFuzzyZScore trueAt falseAt)
        (.toFuzzyZScore falseAt trueAt)
  | categories (raw : List Int) (fuzzy : List K) (other : K) :
      Opposite range (.toFuzzyCategory raw fuzzy other)
        (.toFuzzyCategory raw (fuzzy.map range.complement) (range.complement other))
  | curve (raw : List (Numeral K)) (fuzzy : List K) :
      Opposite range (.toFuzzyCurve raw fuzzy)
        (.toFuzzyCurve raw (fuzzy.map range.complement))
  | scoreCurve (scores : List (Numeral K)) (fuzzy : List K) :
      Opposite range (.toFuzzyCurveZScore scores fuzzy)
        (.toFuzzyCurveZScore scores (fuzzy.map range.complement))

/-- Conversions of a grid that both fail, that map it by functions of which one
reflects the other, or that both pass a grid without unmasked cells. -/
inductive Reflects (range : FuzzyRange K) (grid : Grid K) :
    Except (CommandError K) (Result K) → Except (CommandError K) (Result K) → Prop where
  | failed (error other : CommandError K) :
      Reflects range grid (.error error) (.error other)
  | mapped {function other : K → K}
      (reflects : ∀ value, other value = range.complement (function value)) :
      Reflects range grid (.ok (fuzzyLayer range (grid.map function)))
        (.ok (fuzzyLayer range (grid.map other)))
  | masked (none_ : grid.validValues = []) :
      Reflects range grid (.ok (fuzzyLayer range grid)) (.ok (fuzzyLayer range grid))

section

variable (range) (origin : Origin) (grid : Grid K)

theorem applyLine_reflects (blamed : String) (trueAt falseAt : K) :
    Reflects range grid (applyLine origin range blamed trueAt falseAt grid)
      (applyLine origin range blamed falseAt trueAt grid) := by
  by_cases same : trueAt = falseAt
  · subst same
    rw [applyLine_of_eq (Scalar.eq_iff.mpr rfl)]
    exact .failed _ _
  · rw [applyLine_of_ne (mt Scalar.eq_iff.mp same),
      applyLine_of_ne (mt Scalar.eq_iff.mp (Ne.symm same))]
    exact .mapped (lineThrough_complement same)

theorem applyThresholds_reflects (trueAt falseAt : Option K) :
    Reflects range grid (applyThresholds origin range trueAt falseAt grid)
      (applyThresholds origin range falseAt trueAt grid) := by
  cases trueAt with
  | none => cases falseAt <;> exact .failed _ _
  | some trueAt =>
      cases falseAt with
      | none => exact .failed _ _
      | some falseAt => exact applyLine_reflects range origin grid _ trueAt falseAt

theorem applyToFuzzy_given_reflects (trueAt falseAt : K)
    (direction : Option (ArgValue K)) :
    Reflects range grid
      (applyToFuzzy origin range (some trueAt) (some falseAt) direction grid)
      (applyToFuzzy origin range (some falseAt) (some trueAt) direction grid) := by
  cases direction with
  | none => exact applyThresholds_reflects range origin grid (some trueAt) (some falseAt)
  | some value =>
      cases reads : Direction.ofArgument origin "Direction" value with
      | error fault =>
          simp only [applyToFuzzy, reads]
          exact .failed fault fault
      | ok direction =>
          by_cases none_ : grid.validValues = []
          · rw [applyToFuzzy_of_masked reads _ _ none_,
              applyToFuzzy_of_masked reads _ _ none_]
            exact .masked none_
          · rw [applyToFuzzy_of_given reads _ _ none_,
              applyToFuzzy_of_given reads _ _ none_]
            exact applyLine_reflects range origin grid _ trueAt falseAt

/-- A threshold that is missing is taken from the same end of the extent on both
sides. -/
theorem applyToFuzzy_directions_reflects (trueAt falseAt : Option K)
    {value other : ArgValue K} {direction opposite : Direction}
    (reads : Direction.ofArgument origin "Direction" value = .ok direction)
    (readsOther : Direction.ofArgument origin "Direction" other = .ok opposite)
    (exchanged : direction ≠ opposite) :
    Reflects range grid (applyToFuzzy origin range trueAt falseAt (some value) grid)
      (applyToFuzzy origin range falseAt trueAt (some other) grid) := by
  by_cases none_ : grid.validValues = []
  · rw [applyToFuzzy_of_masked reads _ _ none_,
      applyToFuzzy_of_masked readsOther _ _ none_]
    exact .masked none_
  · obtain ⟨least, greatest, isLeast, isGreatest⟩ := Grid.exists_extent none_
    simp only [applyToFuzzy, reads, readsOther, isLeast, isGreatest]
    cases direction with
    | lowToHigh =>
        cases opposite with
        | lowToHigh => exact absurd rfl exchanged
        | highToLow => exact applyThresholds_reflects range origin grid _ _
    | highToLow =>
        cases opposite with
        | lowToHigh => exact applyThresholds_reflects range origin grid _ _
        | highToLow => exact absurd rfl exchanged

theorem applyToFuzzyZScore_reflects (trueAt falseAt : K) :
    Reflects range grid (applyToFuzzyZScore origin range trueAt falseAt grid)
      (applyToFuzzyZScore origin range falseAt trueAt grid) := by
  by_cases same : trueAt = falseAt
  · subst same
    rw [applyToFuzzyZScore, if_pos (Scalar.eq_iff.mpr rfl)]
    exact .failed _ _
  · rw [applyToFuzzyZScore, applyToFuzzyZScore, if_neg (mt Scalar.eq_iff.mp same),
      if_neg (mt Scalar.eq_iff.mp (Ne.symm same))]
    by_cases none_ : grid.validValues = []
    · rw [Grid.mean?_eq_none none_]
      exact .masked none_
    · rw [Grid.mean?_eq none_, Grid.deviation?_eq none_]
      exact applyLine_reflects range origin grid _ _ _

theorem categoryValue_complement (raw fuzzy : List K) (other value : K) :
    categoryValue (raw.zip (fuzzy.map range.complement)) (range.complement other)
        value =
      range.complement (categoryValue (raw.zip fuzzy) other value) := by
  simp only [categoryValue, List.zip_map_right, List.find?_map,
    Function.comp_def, Prod.map_fst, id_eq]
  cases (raw.zip fuzzy).find? fun entry => Scalar.eq entry.1 value <;> rfl

theorem applyToFuzzyCategory_reflects (raw : List Int) (fuzzy : List K) (other : K) :
    Reflects range grid (applyToFuzzyCategory origin range raw fuzzy other grid)
      (applyToFuzzyCategory origin range raw (fuzzy.map range.complement)
        (range.complement other) grid) := by
  unfold applyToFuzzyCategory
  rw [List.length_map]
  cases Fault.checkEqualLengths origin [("FuzzyValues", fuzzy.length),
      ("RawValues", raw.length)] with
  | error fault => exact .failed fault fault
  | ok _ =>
      cases Fault.checkDistinct origin "RawValues" (raw.map fun value =>
          ArgValue.number (α := K) (Numeral.whole value)) with
      | error fault => exact .failed fault fault
      | ok _ => exact .mapped (categoryValue_complement range _ fuzzy other)

/-! ### Curves -/

variable (positions : String) (raw : List (Numeral K)) (fuzzy : List K)

/-- The check of a curve does not look at the heights. -/
theorem checkCurve_map (function : K → K) :
    checkCurve origin positions raw (fuzzy.map function) =
      checkCurve origin positions raw fuzzy := by
  rw [checkCurve, checkCurve, List.length_map]

variable {positions raw fuzzy}

theorem curve_reflects (checked : checkCurve origin positions raw fuzzy = .ok ())
    (position : Numeral K → K) :
    let converted (fuzzy : List K) : Result K := fuzzyLayer range (grid.map
      (Curve.height (Curve.ascendingPoints (raw.map position) fuzzy)))
    Reflects range grid (.ok (converted fuzzy))
      (.ok (converted (fuzzy.map range.complement))) := by
  refine .mapped fun value => ?_
  rw [Curve.ascendingPoints_complement,
    Curve.height_reflect (ascendingPoints_of_checkCurve checked position)]

theorem applyToFuzzyCurve_reflects :
    Reflects range grid (applyToFuzzyCurve origin range raw fuzzy grid)
      (applyToFuzzyCurve origin range raw (fuzzy.map range.complement) grid) := by
  unfold applyToFuzzyCurve
  rw [checkCurve_map]
  cases checked : checkCurve origin "RawValues" raw fuzzy with
  | error fault => exact .failed fault fault
  | ok _ => exact curve_reflects range origin grid checked Numeral.value

theorem applyToFuzzyCurveZScore_reflects :
    Reflects range grid (applyToFuzzyCurveZScore origin range raw fuzzy grid)
      (applyToFuzzyCurveZScore origin range raw (fuzzy.map range.complement) grid) := by
  unfold applyToFuzzyCurveZScore
  rw [checkCurve_map]
  cases checked : checkCurve origin "ZScoreValues" raw fuzzy with
  | error fault => exact .failed fault fault
  | ok _ =>
      by_cases none_ : grid.validValues = []
      · rw [Grid.mean?_eq_none none_]
        exact .masked none_
      · rw [Grid.mean?_eq none_, Grid.deviation?_eq none_]
        exact curve_reflects range origin grid checked _

end

variable {operation opposite : LayerOperation K}

theorem Opposite.apply_reflects (exchanged : Opposite range operation opposite)
    (origin : Origin) (grid : Grid K) :
    Reflects range grid (operation.apply origin range grid)
      (opposite.apply origin range grid) := by
  cases exchanged with
  | thresholds trueAt falseAt direction =>
      exact applyToFuzzy_given_reflects range origin grid trueAt falseAt direction
  | undirected trueAt falseAt =>
      exact applyThresholds_reflects range origin grid trueAt falseAt
  | directions trueAt falseAt reads readsOther exchanged =>
      exact applyToFuzzy_directions_reflects range origin grid trueAt falseAt
        (Direction.ofArgument_carries _ _ _ _ _ reads)
        (Direction.ofArgument_carries _ _ _ _ _ readsOther) exchanged
  | scores trueAt falseAt =>
      exact applyToFuzzyZScore_reflects range origin grid trueAt falseAt
  | categories raw fuzzy other =>
      exact applyToFuzzyCategory_reflects range origin grid raw fuzzy other
  | curve raw fuzzy => exact applyToFuzzyCurve_reflects range origin grid
  | scoreCurve scores fuzzy => exact applyToFuzzyCurveZScore_reflects range origin grid

theorem Opposite.accepted_eq (exchanged : Opposite range operation opposite) :
    operation.accepted = opposite.accepted := by
  cases exchanged <;> rfl

/-! ## Complements -/

/-- Outcomes that both fail, or of which one is a fuzzy layer and the other is
what the fuzzy complement makes of it.  Only where all cells are masked the scalars
under the mask can be others. -/
inductive Negates (range : FuzzyRange K) :
    Except (CommandError K) (Computed K) → Except (CommandError K) (Computed K) →
      Prop where
  | failed (error other : CommandError K) : Negates range (.error error) (.error other)
  | made {made negated opposite : Grid K} (makes : fuzzyNot.Makes range made negated)
      (alike : opposite.Alike negated)
      (same : made.validValues ≠ [] → opposite = negated) :
      Negates range (.ok ⟨.layer made .fuzzy, none⟩) (.ok ⟨.layer opposite .fuzzy, none⟩)

theorem Reflects.negates (wide : range.low < range.high) {grid : Grid K}
    {outcome other : Except (CommandError K) (Result K)}
    (reflects : Reflects range grid outcome other) :
    Negates range (outcome.map fun result => ⟨result, none⟩)
      (other.map fun result => ⟨result, none⟩) := by
  have complement (grid : Grid K) : fuzzyNot.Makes range
      (grid.clampUnmasked range.low range.high)
        (grid.mapInto range range.complement) := by
    rw [Grid.mapInto, ← Grid.clampUnmasked_complement grid wide.le]
    exact fuzzyNot_makes range _
  cases reflects with
  | failed fault other => exact .failed fault other
  | @mapped function other reflects =>
      have same : (grid.map other).clampUnmasked range.low range.high =
          (grid.map function).mapInto range range.complement := by
        rw [Grid.mapInto, Grid.map_map, funext reflects]
        rfl
      exact .made (complement _) (same ▸ .refl _) fun _ => same
  | masked none_ =>
      refine .made (complement grid) (Grid.clampUnmasked_alike_mapInto none_ _) ?_
      intro some_
      rw [(Grid.clampUnmasked_alike _ _ _).validValues_eq, Grid.validValues_map,
        none_] at some_
      exact absurd rfl some_

/-- In a range with a width, exchanging true and false in a conversion makes of
every layer the complement of what was made before, and fails for the layers for
which it failed before. -/
theorem fuzzification_dual {context : ResultContext K}
    (wide : context.range.low < context.range.high)
    (exchanged : Opposite context.range operation opposite) (field : String)
    (origin : Origin) :
    Negates context.range ((Operation.layer field operation).compute origin context)
      ((Operation.layer field opposite).compute origin context) := by
  have sameAccepted := exchanged.accepted_eq
  cases read : context.layer origin operation.accepted field with
  | error fault =>
      have readToo := sameAccepted ▸ read
      simp only [Operation.compute, read, readToo]
      exact .failed fault fault
  | ok input =>
      rw [compute_of_layer read, compute_of_layer (sameAccepted ▸ read)]
      exact (exchanged.apply_reflects origin input.grid).negates wide

end LayerOperation

namespace Sample

/-- The complement of a layer that has been evaluated. -/
theorem makes_of_negates {outcome other : Except (CommandError K) (Computed K)}
    (negates : LayerOperation.Negates range outcome other) {made opposite : Grid K}
    (evaluated : outcome.toOption = some ⟨.layer made .fuzzy, none⟩)
    (evaluatedToo : other.toOption = some ⟨.layer opposite .fuzzy, none⟩)
    (shown : made.validValues ≠ []) :
    LayerOperation.fuzzyNot.Makes range made opposite := by
  cases negates with
  | failed _ _ => cases evaluated
  | made makes _ same =>
      cases eq_of_evaluated rfl evaluated
      cases eq_of_evaluated rfl evaluatedToo
      rwa [same shown]

/-- Thresholds, and a curve that leaves an uneven range, for depths of which one
is masked. -/
theorem fuzzification_dual_depths :
    let range : FuzzyRange ℚ := ⟨-1 / 2, 1⟩
    let depths : Grid ℚ := ⟨1, 3, [⟨2, false⟩, ⟨70, true⟩, ⟨4, false⟩]⟩
    let context := holdingOne range "Depth" depths .float
    let converts (operation : LayerOperation ℚ) :=
      ((Operation.layer "Depth" operation).compute .unknown context).toOption
    let line : Grid ℚ := ⟨1, 3, [⟨1, false⟩, ⟨-65 / 2, true⟩, ⟨1 / 2, false⟩]⟩
    let opposite : Grid ℚ := ⟨1, 3, [⟨-1 / 2, false⟩, ⟨33, true⟩, ⟨0, false⟩]⟩
    let curve : Grid ℚ := ⟨1, 3, [⟨1, false⟩, ⟨0, true⟩, ⟨0, false⟩]⟩
    let reflected : Grid ℚ := ⟨1, 3, [⟨-1 / 2, false⟩, ⟨1 / 2, true⟩, ⟨1 / 2, false⟩]⟩
    let scores : List (Numeral ℚ) := [.real 1, .whole (-1)]
    let heights : List ℚ := [0, 2]
    range.low < range.high ∧
      converts (.toFuzzy (some 3) (some 6) none) = some ⟨.layer line .fuzzy, none⟩ ∧
      converts (.toFuzzy (some 6) (some 3) none) =
        some ⟨.layer opposite .fuzzy, none⟩ ∧
      LayerOperation.fuzzyNot.Makes range line opposite ∧
      converts (.toFuzzyCurveZScore scores heights) =
        some ⟨.layer curve .fuzzy, none⟩ ∧
      converts (.toFuzzyCurveZScore scores (heights.map range.complement)) =
        some ⟨.layer reflected .fuzzy, none⟩ ∧
      LayerOperation.fuzzyNot.Makes range curve reflected := by
  intro range depths context converts line opposite curve reflected scores heights
  have wide : context.range.low < context.range.high := by decide +kernel
  have byLine : converts (.toFuzzy (some 3) (some 6) none) =
      some ⟨.layer line .fuzzy, none⟩ := by decide +kernel
  have byOpposite : converts (.toFuzzy (some 6) (some 3) none) =
      some ⟨.layer opposite .fuzzy, none⟩ := by decide +kernel
  have byCurve : converts (.toFuzzyCurveZScore scores heights) =
      some ⟨.layer curve .fuzzy, none⟩ := by decide +kernel
  have byReflected : converts
      (.toFuzzyCurveZScore scores (heights.map range.complement)) =
      some ⟨.layer reflected .fuzzy, none⟩ := by decide +kernel
  have negates :=
    LayerOperation.fuzzification_dual wide (.thresholds 3 6 none) "Depth" .unknown
  have negatesCurve :=
    LayerOperation.fuzzification_dual wide (.scoreCurve scores heights) "Depth" .unknown
  exact ⟨wide, byLine, byOpposite,
    makes_of_negates negates byLine byOpposite (by decide +kernel), byCurve, byReflected,
    makes_of_negates negatesCurve byCurve byReflected (by decide +kernel)⟩

end Sample

end FuzzyGrid
