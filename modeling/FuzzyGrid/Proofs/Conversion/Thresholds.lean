import FuzzyGrid.Proofs.Conversion.Layers
import FuzzyGrid.Proofs.Masking.Operations

/-!
# Given thresholds

A conversion that is given both thresholds needs none from the extent of its
layer.  With a direction it still looks for that extent, and a layer that is
masked throughout has none: such a layer passes before its thresholds are
compared.  Everywhere else the direction makes no difference.
-/

namespace FuzzyGrid

variable {α : Type} [Scalar α] {range : FuzzyRange α} {grid : Grid α}

namespace Grid

theorem exists_extent (some_ : grid.validValues ≠ []) :
    ∃ least greatest, grid.least? = some least ∧ grid.greatest? = some greatest := by
  obtain ⟨least, isLeast⟩ :=
    Option.ne_none_iff_exists'.mp (mt Scalar.least?_eq_none_iff.mp some_)
  obtain ⟨greatest, isGreatest⟩ :=
    Option.ne_none_iff_exists'.mp (mt Scalar.greatest?_eq_none_iff.mp some_)
  exact ⟨least, greatest, isLeast, isGreatest⟩

/-- Nothing is seen of what a function does to a layer that is masked
throughout. -/
theorem clampUnmasked_alike_mapInto (none_ : grid.validValues = [])
    (function : α → α) :
    (grid.clampUnmasked range.low range.high).Alike (grid.mapInto range function) := by
  have mapped : (grid.mapInto range id).Alike (grid.mapInto range function) := by
    rw [mapInto_alike_iff, none_]
    exact nofun
  rwa [mapInto, map_id] at mapped

end Grid

namespace LayerOperation

variable {origin : Origin}

section

variable {value : ArgValue α} {direction : Direction}
  (reads : Direction.ofArgument origin "Direction" value = .ok direction)

include reads

theorem applyToFuzzy_of_masked (trueAt falseAt : Option α)
    (none_ : grid.validValues = []) :
    applyToFuzzy origin range trueAt falseAt (some value) grid =
      .ok (fuzzyLayer range grid) := by
  have noLeast : grid.least? = none := Scalar.least?_eq_none_iff.mpr none_
  simp only [applyToFuzzy, reads, noLeast]

theorem applyToFuzzy_of_given (trueAt falseAt : α)
    (some_ : grid.validValues ≠ []) :
    applyToFuzzy origin range (some trueAt) (some falseAt) (some value) grid =
      applyLine origin range "TrueThreshold" trueAt falseAt grid := by
  obtain ⟨least, greatest, isLeast, isGreatest⟩ := Grid.exists_extent some_
  simp only [applyToFuzzy, reads, isLeast, isGreatest]
  cases direction <;> rfl

end

/-- A layer that is masked throughout looks the same whether it passes or is
converted, but it passes also where its conversion is refused. -/
theorem passed_sameOutcome_applyLine_iff (none_ : grid.validValues = [])
    (blamed : String) (trueAt falseAt : α) :
    SameOutcome Computed.Alike (.ok ⟨fuzzyLayer range grid, none⟩)
        ((applyLine origin range blamed trueAt falseAt grid).map fun result =>
          ⟨result, none⟩) ↔
      Scalar.eq trueAt falseAt = false := by
  cases same : Scalar.eq trueAt falseAt with
  | true =>
      rw [applyLine_of_eq same]
      refine iff_of_false ?_ Bool.noConfusion
      intro outcomes
      cases outcomes
  | false =>
      rw [applyLine_of_ne (Bool.eq_false_iff.mp same)]
      exact iff_of_true (sameOutcome_layers_iff.mpr
        (Grid.clampUnmasked_alike_mapInto none_ _)) rfl

/-- With both thresholds given, equal ones are refused and others are converted
by their line, whatever the direction and whether or not there is one.  Only a
layer that is masked throughout passes unchanged where there is a direction, so
that equal thresholds are refused there without a direction and not refused with
one. -/
theorem toFuzzy_given_thresholds {context : ResultContext α} {origin : Origin}
    {field : String} {input : InputGrid α}
    (read : context.layer origin DataType.numericsOrFuzzy field = .ok input)
    (trueAt falseAt : α) :
    let converts (direction : Option String) :=
      (Operation.layer field (.toFuzzy (some trueAt) (some falseAt)
        (direction.map .text))).compute origin context
    converts (some "LowToHigh") = converts (some "HighToLow") ∧
    (Scalar.eq trueAt falseAt = true →
      converts none = .error ⟨.degenerateThreshold "TrueThreshold", origin⟩) ∧
    (Scalar.eq trueAt falseAt = false →
      converts none = .ok ⟨fuzzyLayer context.range (input.grid.map
        (lineThrough trueAt context.range.high falseAt context.range.low)), none⟩) ∧
    (input.grid.validValues ≠ [] →
      converts (some "LowToHigh") = converts none) ∧
    (input.grid.validValues = [] →
      converts (some "LowToHigh") =
        .ok ⟨fuzzyLayer context.range input.grid, none⟩) ∧
    (SameOutcome Computed.Alike (converts (some "LowToHigh")) (converts none) ↔
      Scalar.eq trueAt falseAt = false ∨ input.grid.validValues ≠ []) := by
  intro converts
  have comes (direction : Option String) : converts direction =
      (applyToFuzzy origin context.range (some trueAt) (some falseAt)
        (direction.map .text) input.grid).map fun result => ⟨result, none⟩ :=
    compute_of_layer read
  have without : converts none = (applyLine origin context.range "TrueThreshold" trueAt
      falseAt input.grid).map fun result => ⟨result, none⟩ := comes none
  have refused (same : Scalar.eq trueAt falseAt = true) :
      converts none = .error ⟨.degenerateThreshold "TrueThreshold", origin⟩ := by
    rw [without, applyLine_of_eq same]
    rfl
  have converted (apart : Scalar.eq trueAt falseAt = false) :
      converts none = .ok ⟨fuzzyLayer context.range (input.grid.map
        (lineThrough trueAt context.range.high falseAt context.range.low)), none⟩ := by
    rw [without, applyLine_of_ne (Bool.eq_false_iff.mp apart)]
    rfl
  have shown (some_ : input.grid.validValues ≠ []) {text : String}
      {direction : Direction}
      (reads : Direction.ofArgument (α := α) origin "Direction" (.text text) =
        .ok direction) : converts (some text) = converts none := by
    rw [comes, without]
    exact congrArg _ (applyToFuzzy_of_given reads trueAt falseAt some_)
  have masked (none_ : input.grid.validValues = []) {text : String}
      {direction : Direction}
      (reads : Direction.ofArgument (α := α) origin "Direction" (.text text) =
        .ok direction) :
      converts (some text) = .ok ⟨fuzzyLayer context.range input.grid, none⟩ := by
    rw [comes]
    exact congrArg _ (applyToFuzzy_of_masked reads (some trueAt) (some falseAt) none_)
  refine ⟨?_, refused, converted, fun some_ => shown some_ rfl,
    fun none_ => masked none_ rfl, ?_⟩
  · by_cases none_ : input.grid.validValues = []
    · rw [masked none_ rfl, masked none_ rfl]
    · rw [shown none_ rfl, shown none_ rfl]
  · by_cases none_ : input.grid.validValues = []
    · rw [masked none_ rfl, without, passed_sameOutcome_applyLine_iff none_,
        or_iff_left (not_not_intro none_)]
    · rw [shown none_ rfl]
      exact iff_of_true (Operation.compute_alike origin _ (.refl context)) (.inr none_)

end LayerOperation

namespace Sample

/-- Falling thresholds for depths of which one is masked, with a direction that
they do not follow. -/
theorem toFuzzy_given_thresholds_depths :
    let depths : Grid ℚ := ⟨1, 3, [⟨2, false⟩, ⟨70, true⟩, ⟨5, false⟩]⟩
    let fuzzy : Grid ℚ := ⟨1, 3, [⟨1 / 3, false⟩, ⟨-67 / 3, true⟩, ⟨-2 / 3, false⟩]⟩
    let context := holdingOne .standard "Depth" depths .float
    let converts (direction : Option String) :=
      (Operation.layer "Depth" (.toFuzzy (some 0) (some (6 : ℚ))
        (direction.map .text))).compute .unknown context
    context.layer .unknown DataType.numericsOrFuzzy "Depth" = .ok ⟨depths, .float⟩ ∧
      depths.validValues ≠ [] ∧ Scalar.eq (0 : ℚ) 6 = false ∧
      converts none = .ok ⟨.layer fuzzy .fuzzy, none⟩ ∧
      converts (some "LowToHigh") = converts none ∧
      converts (some "HighToLow") = converts none := by
  intro depths fuzzy context converts
  have read : context.layer .unknown DataType.numericsOrFuzzy "Depth" =
      .ok ⟨depths, .float⟩ :=
    holdingOne_layer _ _ _ _ rfl
  have shown : depths.validValues ≠ [] := by decide +kernel
  have apart : Scalar.eq (0 : ℚ) 6 = false := by decide +kernel
  obtain ⟨either, _, converted, same, _⟩ :=
    LayerOperation.toFuzzy_given_thresholds read 0 6
  have made : fuzzyLayer context.range (depths.map (lineThrough 0 context.range.high 6
      context.range.low)) = .layer fuzzy .fuzzy := by decide +kernel
  refine ⟨read, shown, apart, ?_, same shown, either.symm.trans (same shown)⟩
  exact (converted apart).trans (by rw [made])

/-- Equal thresholds for depths that are all masked. -/
theorem toFuzzy_masked_depths :
    let masked : Grid ℚ := ⟨1, 2, [⟨1, true⟩, ⟨2, true⟩]⟩
    let converts (direction : Option String) :=
      (Operation.layer "Depth" (.toFuzzy (some 3) (some (3 : ℚ))
        (direction.map .text))).compute .unknown
          (holdingOne .standard "Depth" masked .float)
    converts none = .error ⟨.degenerateThreshold "TrueThreshold", .unknown⟩ ∧
      (converts (some "LowToHigh")).toOption = some ⟨.layer masked .fuzzy, none⟩ ∧
      (converts (some "HighToLow")).toOption = some ⟨.layer masked .fuzzy, none⟩ ∧
      ¬SameOutcome Computed.Alike (converts (some "LowToHigh")) (converts none) := by
  intro masked converts
  have refused : converts none =
      .error ⟨.degenerateThreshold "TrueThreshold", .unknown⟩ := rfl
  have passed : (converts (some "LowToHigh")).toOption =
      some ⟨.layer masked .fuzzy, none⟩ := by decide +kernel
  refine ⟨refused, passed, by decide +kernel, ?_⟩
  intro same
  rcases same.exists_eq with ⟨_, failed, _⟩ | ⟨_, _, _, made, _⟩
  · rw [failed] at passed
    cases passed
  · rw [refused] at made
    cases made

end Sample

end FuzzyGrid
