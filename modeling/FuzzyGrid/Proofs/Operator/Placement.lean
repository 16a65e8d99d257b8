import FuzzyGrid.Proofs.Operator.Cellwise
import FuzzyGrid.Proofs.Operator.Essential

/-!
# Operations wherever they are written

The place of a command goes into the errors that are raised for it and into
nothing else.  What an operation computes for one place it computes for every
other.
-/

namespace FuzzyGrid

variable {α : Type}

theorem Carries.ofError {ε β : Type} (error : ε) (outcome : Except ε β) :
    Carries (.error error) outcome :=
  fun _ => nofun

section

variable (first second : Origin)

/-! ## Checks -/

theorem Fault.checkMinLength_carries (arg : String) (required found : Nat) :
    Carries (Fault.checkMinLength (α := α) first arg required found)
      (Fault.checkMinLength second arg required found) := by
  unfold checkMinLength
  split
  · exact .ofError _ _
  · exact .refl _

theorem Fault.checkEqualLengths_carries (lists : List (String × Nat)) :
    Carries (Fault.checkEqualLengths (α := α) first lists)
      (Fault.checkEqualLengths second lists) := by
  unfold checkEqualLengths
  split
  · exact .refl _
  · exact .ofError _ _

theorem Fault.checkDistinct_carries [Scalar α] (arg : String)
    (items : List (ArgValue α)) :
    Carries (Fault.checkDistinct first arg items)
      (Fault.checkDistinct second arg items) := by
  unfold checkDistinct
  split
  · exact .ofError _ _
  · exact .refl _

theorem Direction.ofArgument_carries (arg : String) (value : ArgValue α) :
    Carries (Direction.ofArgument first arg value)
      (Direction.ofArgument second arg value) := by
  unfold ofArgument
  split
  · exact .refl _
  · exact .refl _
  · exact .ofError _ _

theorem ResultContext.layer_carries (context : ResultContext α)
    (allowed : List DataType) (field : String) :
    Carries (context.layer first allowed field)
      (context.layer second allowed field) :=
  fun _ read => layer_eq_ok_iff.mpr (layer_eq_ok_iff.mp read)

/-! ## Conversions -/

namespace LayerOperation

variable [Scalar α]

theorem applyNormalize_carries (start stop : α) (grid : Grid α) :
    Carries (applyNormalize first start stop grid)
      (applyNormalize second start stop grid) := by
  unfold applyNormalize
  split
  · split
    · exact .ofError _ _
    · exact .refl _
  · exact .ofError _ _

variable (range : FuzzyRange α)

theorem applyLine_carries (blamed : String) (trueAt falseAt : α) (grid : Grid α) :
    Carries (applyLine first range blamed trueAt falseAt grid)
      (applyLine second range blamed trueAt falseAt grid) := by
  unfold applyLine
  split
  · exact .ofError _ _
  · exact .refl _

theorem applyThresholds_carries (trueAt falseAt : Option α) (grid : Grid α) :
    Carries (applyThresholds first range trueAt falseAt grid)
      (applyThresholds second range trueAt falseAt grid) := by
  unfold applyThresholds
  split
  · exact .ofError _ _
  · exact .ofError _ _
  · exact applyLine_carries first second range _ _ _ grid

theorem applyToFuzzy_carries (trueAt falseAt : Option α)
    (direction : Option (ArgValue α)) (grid : Grid α) :
    Carries (applyToFuzzy first range trueAt falseAt direction grid)
      (applyToFuzzy second range trueAt falseAt direction grid) := by
  cases direction with
  | none => exact applyThresholds_carries first second range _ _ grid
  | some value =>
      intro result success
      unfold applyToFuzzy at success ⊢
      cases read : Direction.ofArgument first "Direction" value with
      | error error => simp only [read, reduceCtorEq] at success
      | ok direction =>
          have readToo := Direction.ofArgument_carries first second _ _ _ read
          simp only [read] at success
          simp only [readToo]
          split at success
          · exact applyThresholds_carries first second range _ _ grid _ success
          · exact applyThresholds_carries first second range _ _ grid _ success
          · exact success

theorem applyToFuzzyZScore_carries (trueAt falseAt : α) (grid : Grid α) :
    Carries (applyToFuzzyZScore first range trueAt falseAt grid)
      (applyToFuzzyZScore second range trueAt falseAt grid) := by
  unfold applyToFuzzyZScore
  split
  · exact .ofError _ _
  · split
    · exact applyLine_carries first second range _ _ _ grid
    · exact .refl _

theorem checkCurve_carries (positions : String) (raw : List (Numeral α))
    (fuzzy : List α) :
    Carries (checkCurve first positions raw fuzzy)
      (checkCurve second positions raw fuzzy) := by
  apply Carries.bind (Fault.checkMinLength_carries first second _ _ _)
  intro _
  apply Carries.bind (Fault.checkEqualLengths_carries first second _)
  intro _
  exact Fault.checkDistinct_carries first second _ _

theorem applyToFuzzyCategory_carries (raw : List Int) (fuzzy : List α) (other : α)
    (grid : Grid α) :
    Carries (applyToFuzzyCategory first range raw fuzzy other grid)
      (applyToFuzzyCategory second range raw fuzzy other grid) := by
  apply Carries.bind (Fault.checkEqualLengths_carries first second _)
  intro _
  exact (Fault.checkDistinct_carries first second _ _).followedBy _

theorem applyFromFuzzy_carries (trueAt falseAt : α) (grid : Grid α) :
    Carries (applyFromFuzzy first range trueAt falseAt grid)
      (applyFromFuzzy second range trueAt falseAt grid) := by
  unfold applyFromFuzzy
  split
  · exact .ofError _ _
  · exact .refl _

theorem apply_carries (operation : LayerOperation α) (grid : Grid α) :
    Carries (operation.apply first range grid)
      (operation.apply second range grid) := by
  cases operation with
  | normalize start stop => exact applyNormalize_carries first second _ _ grid
  | toFuzzy trueAt falseAt direction =>
      exact applyToFuzzy_carries first second range _ _ _ grid
  | toFuzzyZScore trueAt falseAt =>
      exact applyToFuzzyZScore_carries first second range _ _ grid
  | toFuzzyCategory raw fuzzy other =>
      exact applyToFuzzyCategory_carries first second range _ _ _ grid
  | toFuzzyCurve raw fuzzy =>
      exact (checkCurve_carries first second _ _ _).followedBy _
  | toFuzzyCurveZScore scores fuzzy =>
      exact (checkCurve_carries first second _ _ _).followedBy _
  | toBinary threshold direction =>
      exact (Direction.ofArgument_carries first second _ _).followedBy _
  | fromFuzzy trueAt falseAt =>
      exact applyFromFuzzy_carries first second range _ _ grid
  | fuzzyNot => exact .refl _

end LayerOperation

/-! ## Operations -/

variable [Scalar α]

theorem PairOperation.apply_carries (operation : PairOperation) (left right : Grid α) :
    Carries (operation.apply first left right) (operation.apply second left right) := by
  rw [apply_eq, apply_eq]
  split
  · exact .refl _
  · exact .ofError _ _

/-- The weights of a list can be summed and divided by wherever they are given. -/
theorem ListOperation.checkWeightSum_carries (weights : List α) :
    Carries (checkWeightSum first weights) (checkWeightSum second weights) := by
  unfold checkWeightSum
  split
  · exact .ofError _ _
  · exact .refl _

theorem ListOperation.Blends.moved {first second : Origin} {context : ResultContext α}
    {operation : ListOperation α} {fields : List String}
    {inputs : List (InputGrid α)}
    (blends : operation.Blends first context fields inputs) :
    operation.Blends second context fields inputs := by
  have counted := checkCounts_eq_ok_iff.mp blends.counted
  refine ⟨checkCounts_eq_ok_iff.mpr counted, ?_, ?_, ?_, blends.shapes⟩
  · have before := blends.before
    cases operation with
    | fuzzyWeightedUnion weights => exact checkWeightSum_carries first second _ _ before
    | _ => rfl
  · have after := blends.after
    cases operation with
    | weightedMean weights => exact checkWeightSum_carries first second _ _ after
    | _ => rfl
  · exact blends.read.imp fun field input read =>
      context.layer_carries first second _ field input read

/-- What an operation computes for one place it computes for any other. -/
theorem Operation.compute_carries (operation : Operation α)
    (context : ResultContext α) :
    Carries (operation.compute first context) (operation.compute second context) := by
  have fetches : ∀ field,
      Carries (context.fetch first field) (context.fetch second field) := by
    intro field
    unfold ResultContext.fetch
    split
    · exact .refl _
    · exact .ofError _ _
  cases operation with
  | copy field => exact (fetches field).followedBy _
  | report fields destination =>
      refine Carries.followedBy ?_ _
      intro lines read
      refine readAll_eq_ok_iff.mpr ((readAll_eq_ok_iff.mp read).imp ?_)
      intro field line found
      exact (fetches field).followedBy _ line found
  | layer field operation =>
      apply Carries.bind (context.layer_carries first second _ _)
      intro input
      exact (operation.apply_carries first second context.range input.grid).followedBy _
  | pair left right operation =>
      apply Carries.bind (context.layer_carries first second _ _)
      intro leftInput
      apply Carries.bind (context.layer_carries first second _ _)
      intro rightInput
      exact (operation.apply_carries first second _ _).followedBy _
  | list fields operation =>
      intro computed success
      obtain ⟨inputs, blends, rfl⟩ := ListOperation.compute_eq_ok_iff.mp success
      exact ListOperation.compute_eq_ok_iff.mpr ⟨inputs, blends.moved, rfl⟩

theorem Operation.compute_ok_iff_elsewhere (operation : Operation α)
    (context : ResultContext α) (computed : Computed α) :
    operation.compute first context = .ok computed ↔
      operation.compute second context = .ok computed :=
  ⟨operation.compute_carries first second context computed,
    operation.compute_carries second first context computed⟩

end

variable [Scalar α]

namespace Node

variable {node twin : Node α} {context : ResultContext α}

/-- Nodes of one operation compute the same. -/
theorem compute_of_operation {computed : Computed α}
    (same : node.operation = twin.operation)
    (computes : node.compute context = .ok computed) :
    twin.compute context = .ok computed := by
  unfold compute at computes ⊢
  rw [← same]
  exact node.operation.compute_carries _ _ _ _ computes

theorem computed_unique {computed other : Computed α}
    (same : node.operation = twin.operation)
    (computes : node.compute context = .ok computed)
    (computesToo : twin.compute context = .ok other) : computed = other := by
  rw [compute_of_operation same computes] at computesToo
  exact Except.ok.inj computesToo

end Node

end FuzzyGrid
