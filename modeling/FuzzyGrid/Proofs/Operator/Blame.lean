import FuzzyGrid.Proofs.Operator.ReadSet

/-!
# What an operation can be blamed for

Once its layers are there, an operation fails for one of its own arguments
only.  The faults of the store, a result that is missing or written twice, do
not come from computing.  Every check along the way raises its error for the
place that it is given.
-/

namespace FuzzyGrid

variable {α : Type}

namespace Fault

/-- Whether a fault is one of looking up or publishing results. -/
def isOfStore : Fault α → Bool
  | missingResult _ | duplicateResult _ => true
  | _ => false

end Fault

/-- An error is raised for the command at a place, about one of the given
arguments and not of the store. -/
structure CommandError.Blames (origin : Origin) (args : List String)
    (error : CommandError α) : Prop where
  subject : error.fault.subject ∈ args
  own : error.fault.isOfStore = false
  raised : error.origin = origin

theorem CommandError.Blames.mono {origin : Origin} {args others : List String}
    {error : CommandError α} (blames : error.Blames origin args)
    (among : args ⊆ others) : error.Blames origin others :=
  ⟨among blames.subject, blames.own, blames.raised⟩

/-- Every error of an outcome is raised for the command at a place, about one of
the given arguments. -/
def FailsFor {β : Type} (origin : Origin) (args : List String)
    (outcome : Except (CommandError α) β) : Prop :=
  ∀ error, outcome = .error error → error.Blames origin args

namespace FailsFor

variable {β γ : Type} {origin : Origin} {args : List String}

theorem ok (value : β) :
    FailsFor origin args (.ok value : Except (CommandError α) β) := by
  intro _ failed
  cases failed

theorem error {failure : CommandError α} (blames : failure.Blames origin args) :
    FailsFor origin args (.error failure : Except (CommandError α) β) := by
  intro other failed
  cases failed
  exact blames

theorem bind {outcome : Except (CommandError α) β} {next : β → Except (CommandError α) γ}
    (first : FailsFor origin args outcome)
    (rest : ∀ value, FailsFor origin args (next value)) :
    FailsFor origin args (outcome >>= next) := by
  cases outcome with
  | error failure => exact error (first failure rfl)
  | ok value => exact rest value

/-- Returning a value after a step adds no errors. -/
theorem map {outcome : Except (CommandError α) β} {next : β → γ}
    (first : FailsFor origin args outcome) :
    FailsFor origin args (outcome >>= fun value => pure (next value)) :=
  bind first fun value => ok (next value)

end FailsFor

variable {origin : Origin} {args : List String} {arg : String}

theorem Fault.checkMinLength_failsFor (listed : arg ∈ args)
    (required found : Nat) :
    FailsFor (α := α) origin args (Fault.checkMinLength origin arg required found) := by
  unfold Fault.checkMinLength
  split
  · exact .error ⟨listed, rfl, rfl⟩
  · exact .ok ()

theorem Fault.checkEqualLengths_failsFor (listed : arg ∈ args) (length : Nat)
    (others : List (String × Nat)) :
    FailsFor (α := α) origin args
      (Fault.checkEqualLengths origin ((arg, length) :: others)) := by
  unfold Fault.checkEqualLengths
  split
  · exact .ok ()
  · exact .error ⟨listed, rfl, rfl⟩

theorem Fault.checkDistinct_failsFor [Scalar α] (listed : arg ∈ args)
    (items : List (ArgValue α)) :
    FailsFor origin args (Fault.checkDistinct origin arg items) := by
  unfold Fault.checkDistinct
  split
  · exact .error ⟨listed, rfl, rfl⟩
  · exact .ok ()

theorem Direction.ofArgument_failsFor (listed : arg ∈ args)
    (value : ArgValue α) :
    FailsFor origin args (Direction.ofArgument origin arg value) := by
  unfold Direction.ofArgument
  split
  · exact .ok _
  · exact .ok _
  · exact .error ⟨listed, rfl, rfl⟩

namespace Grid

theorem blame_failsFor (listed : arg ∈ args)
    (outcome : Except ShapeMismatch (Grid α)) :
    FailsFor origin args (blame origin arg outcome) := by
  cases outcome with
  | ok grid => exact .ok grid
  | error mismatch => exact .error ⟨listed, rfl, rfl⟩

theorem foldOnto_failsFor (listed : arg ∈ args) (function : α → α → α)
    (grid : Grid α) (grids : List (Grid α)) :
    FailsFor origin args (foldOnto origin arg function grid grids) := by
  induction grids generalizing grid with
  | nil => exact .ok grid
  | cons next rest induction =>
      unfold foldOnto
      have blamed : FailsFor origin args
          (blame origin arg (grid.zipWith next .union function)) :=
        blame_failsFor listed _
      split
      · rename_i error failed
        exact .error (blamed error failed)
      · exact induction _

theorem fold_failsFor (listed : arg ∈ args) (function : α → α → α)
    (grids : List (Grid α)) : FailsFor origin args (fold origin arg function grids) := by
  cases grids with
  | nil => exact .error ⟨listed, rfl, rfl⟩
  | cons first rest => exact foldOnto_failsFor listed function first rest

variable [Scalar α]

theorem addWeighted_failsFor (listed : arg ∈ args) (grid : Grid α)
    (grids : List (Grid α)) (weights : List α) :
    FailsFor origin args (addWeighted origin arg grid grids weights) := by
  induction grids generalizing grid weights with
  | nil => simp only [addWeighted]; exact .ok grid
  | cons next rest induction =>
      cases weights with
      | nil => exact .ok grid
      | cons weight others =>
          unfold addWeighted
          have blamed : FailsFor origin args (blame origin arg
              (grid.zipWith next .union fun sum value => sum + value * weight)) :=
            blame_failsFor listed _
          split
          · rename_i error failed
            exact .error (blamed error failed)
          · exact induction _ others

theorem weightedSum_failsFor (listed : arg ∈ args) (grids : List (Grid α))
    (weights : List α) : FailsFor origin args (weightedSum origin arg grids weights) := by
  unfold weightedSum
  split
  · exact .error ⟨listed, rfl, rfl⟩
  · exact .error ⟨listed, rfl, rfl⟩
  · exact addWeighted_failsFor listed _ _ _

theorem stack_failsFor (listed : arg ∈ args) (grids : List (Grid α)) :
    FailsFor origin args (stack origin arg grids) := by
  unfold stack
  split
  · exact .ok _
  · exact .error ⟨listed, rfl, rfl⟩

end Grid

namespace ListOperation

theorem checkCounts_failsFor (listed : argument ∈ args)
    (operation : ListOperation α) (count : Nat) :
    FailsFor origin args (operation.checkCounts origin count) := by
  unfold checkCounts
  have enough : FailsFor origin args
      (Fault.checkMinLength (α := α) origin argument operation.least count) :=
    Fault.checkMinLength_failsFor listed operation.least count
  split
  · rename_i error failed
    exact .error (enough error failed)
  · split
    · exact Fault.checkEqualLengths_failsFor listed _ _
    · exact .ok ()

end ListOperation

variable [Scalar α]

namespace LayerOperation

/-- The arguments for which a conversion of a layer can fail. -/
def blamed : LayerOperation α → List String
  | normalize _ _ => ["InFieldName"]
  | toFuzzy _ _ _ => ["TrueThreshold", "FalseThreshold", "Direction"]
  | toFuzzyZScore _ _ => ["TrueThresholdZScore", "InFieldName"]
  | toFuzzyCategory _ _ _ => ["FuzzyValues", "RawValues"]
  | toFuzzyCurve _ _ => ["RawValues"]
  | toFuzzyCurveZScore _ _ => ["ZScoreValues"]
  | toBinary _ _ => ["Direction"]
  | fromFuzzy _ _ => ["TrueThreshold"]
  | fuzzyNot => []

theorem applyNormalize_failsFor (listed : "InFieldName" ∈ args)
    (start stop : α) (grid : Grid α) :
    FailsFor origin args (applyNormalize origin start stop grid) := by
  unfold applyNormalize
  split
  · split
    · exact .error ⟨listed, rfl, rfl⟩
    · exact .ok _
  · exact .error ⟨listed, rfl, rfl⟩

theorem applyLine_failsFor (listed : arg ∈ args) (range : FuzzyRange α)
    (trueAt falseAt : α) (grid : Grid α) :
    FailsFor origin args (applyLine origin range arg trueAt falseAt grid) := by
  unfold applyLine
  split
  · exact .error ⟨listed, rfl, rfl⟩
  · exact .ok _

theorem applyThresholds_failsFor (upperListed : "TrueThreshold" ∈ args)
    (lowerListed : "FalseThreshold" ∈ args) (range : FuzzyRange α)
    (trueAt falseAt : Option α) (grid : Grid α) :
    FailsFor origin args (applyThresholds origin range trueAt falseAt grid) := by
  unfold applyThresholds
  split
  · exact .error ⟨upperListed, rfl, rfl⟩
  · exact .error ⟨lowerListed, rfl, rfl⟩
  · exact applyLine_failsFor upperListed range _ _ grid

theorem applyToFuzzy_failsFor (range : FuzzyRange α)
    (trueAt falseAt : Option α) (direction : Option (ArgValue α))
    (grid : Grid α) :
    FailsFor origin ["TrueThreshold", "FalseThreshold", "Direction"]
      (applyToFuzzy origin range trueAt falseAt direction grid) := by
  have thresholds : ∀ trueAt falseAt,
      FailsFor origin ["TrueThreshold", "FalseThreshold", "Direction"]
        (applyThresholds origin range trueAt falseAt grid) :=
    fun trueAt falseAt =>
      applyThresholds_failsFor (by simp) (by simp) range trueAt falseAt grid
  unfold applyToFuzzy
  split
  · exact thresholds _ _
  · rename_i value
    have read :
        FailsFor origin ["TrueThreshold", "FalseThreshold", "Direction"]
          (Direction.ofArgument origin "Direction" value) :=
      Direction.ofArgument_failsFor (by simp) value
    split
    · rename_i error failed
      exact .error (read error failed)
    · split
      · exact thresholds _ _
      · exact thresholds _ _
      · exact .ok _

theorem applyToFuzzyZScore_failsFor (range : FuzzyRange α)
    (trueAt falseAt : α) (grid : Grid α) :
    FailsFor origin ["TrueThresholdZScore", "InFieldName"]
      (applyToFuzzyZScore origin range trueAt falseAt grid) := by
  unfold applyToFuzzyZScore
  split
  · exact .error ⟨by simp [Fault.subject], rfl, rfl⟩
  · split
    · exact applyLine_failsFor (by simp) range _ _ grid
    · exact .ok _

theorem applyToFuzzyCategory_failsFor (range : FuzzyRange α)
    (raw : List Int) (fuzzy : List α) (other : α) (grid : Grid α) :
    FailsFor origin ["FuzzyValues", "RawValues"]
      (applyToFuzzyCategory origin range raw fuzzy other grid) := by
  apply FailsFor.bind (Fault.checkEqualLengths_failsFor (by simp) _ _)
  intro _
  exact FailsFor.map (Fault.checkDistinct_failsFor (by simp) _)

theorem checkCurve_failsFor (positions : String) (raw : List (Numeral α))
    (fuzzy : List α) :
    FailsFor origin [positions] (checkCurve origin positions raw fuzzy) := by
  apply FailsFor.bind (Fault.checkMinLength_failsFor (by simp) _ _)
  intro _
  apply FailsFor.bind (Fault.checkEqualLengths_failsFor (by simp) _ _)
  intro _
  exact Fault.checkDistinct_failsFor (by simp) _

theorem applyToFuzzyCurveZScore_failsFor (range : FuzzyRange α)
    (scores : List (Numeral α)) (fuzzy : List α) (grid : Grid α) :
    FailsFor origin ["ZScoreValues"]
      (applyToFuzzyCurveZScore origin range scores fuzzy grid) := by
  apply FailsFor.bind (checkCurve_failsFor "ZScoreValues" scores fuzzy)
  intro _
  split
  · exact .ok _
  · exact .ok _

theorem applyFromFuzzy_failsFor (range : FuzzyRange α) (trueAt falseAt : α)
    (grid : Grid α) :
    FailsFor origin ["TrueThreshold"]
      (applyFromFuzzy origin range trueAt falseAt grid) := by
  unfold applyFromFuzzy
  split
  · exact .error ⟨by simp [Fault.subject], rfl, rfl⟩
  · exact .ok _

theorem apply_failsFor (range : FuzzyRange α) (operation : LayerOperation α)
    (grid : Grid α) :
    FailsFor origin operation.blamed (operation.apply origin range grid) := by
  cases operation with
  | normalize start stop =>
      exact applyNormalize_failsFor (by simp [blamed]) start stop grid
  | toFuzzy trueAt falseAt direction =>
      exact applyToFuzzy_failsFor range trueAt falseAt direction grid
  | toFuzzyZScore trueAt falseAt =>
      exact applyToFuzzyZScore_failsFor range trueAt falseAt grid
  | toFuzzyCategory raw fuzzy other =>
      exact applyToFuzzyCategory_failsFor range raw fuzzy other grid
  | toFuzzyCurve raw fuzzy =>
      exact FailsFor.map (checkCurve_failsFor "RawValues" raw fuzzy)
  | toFuzzyCurveZScore scores fuzzy =>
      exact applyToFuzzyCurveZScore_failsFor range scores fuzzy grid
  | toBinary threshold direction =>
      exact FailsFor.map (Direction.ofArgument_failsFor (by simp [blamed]) _)
  | fromFuzzy trueAt falseAt =>
      exact applyFromFuzzy_failsFor range trueAt falseAt grid
  | fuzzyNot => exact .ok _

end LayerOperation

namespace PairOperation

theorem quotient_failsFor (listed : "B" ∈ args) (first second : Grid α) :
    FailsFor origin args (quotient origin first second) := by
  apply FailsFor.bind (Grid.blame_failsFor listed _)
  intro divided
  exact Grid.blame_failsFor listed _

theorem apply_failsFor (operation : PairOperation) (first second : Grid α) :
    FailsFor origin ["B"] (operation.apply origin first second) := by
  cases operation with
  | subtract => exact FailsFor.map (Grid.blame_failsFor (by simp) _)
  | divide => exact FailsFor.map (quotient_failsFor (by simp) first second)

end PairOperation

namespace ListOperation

/-- The arguments for which an operation on a list of layers can fail. -/
def blamed (operation : ListOperation α) : List String :=
  if operation.weights?.isSome then [argument, "Weights"] else [argument]

omit [Scalar α] in
theorem argument_mem_blamed (operation : ListOperation α) :
    argument ∈ operation.blamed := by
  cases operation <;> exact List.mem_cons_self

theorem checkWeightSum_failsFor (listed : "Weights" ∈ args) (weights : List α) :
    FailsFor origin args (checkWeightSum origin weights) := by
  unfold checkWeightSum
  split
  · exact .error ⟨listed, rfl, rfl⟩
  · exact .ok ()

theorem apply_failsFor (range : FuzzyRange α) (operation : ListOperation α)
    (inputs : List (InputGrid α)) :
    FailsFor origin operation.blamed (operation.apply origin range inputs) := by
  have listed := operation.argument_mem_blamed
  have fold (function : α → α → α) (grids : List (Grid α)) :
      FailsFor origin operation.blamed (Grid.fold origin argument function grids) :=
    Grid.fold_failsFor listed function grids
  have mean (grids : List (Grid α)) : FailsFor origin operation.blamed
      (meanGrid origin grids) :=
    FailsFor.map (fold _ grids)
  have sum (grids : List (Grid α)) (weights : List α) :
      FailsFor origin operation.blamed (Grid.weightedSum origin argument grids weights) :=
    Grid.weightedSum_failsFor listed grids weights
  have stack (grids : List (Grid α)) :
      FailsFor origin operation.blamed (Grid.stack origin argument grids) :=
    Grid.stack_failsFor listed grids
  cases operation with
  | sum => exact FailsFor.map (fold _ _)
  | multiply => exact FailsFor.map (fold _ _)
  | minimum => exact FailsFor.map (fold _ _)
  | maximum => exact FailsFor.map (fold _ _)
  | mean => exact FailsFor.map (mean _)
  | weightedSum weights => exact FailsFor.map (sum _ weights)
  | weightedMean weights =>
      apply FailsFor.bind (sum _ weights)
      intro grid
      exact FailsFor.map (checkWeightSum_failsFor (by simp [blamed, weights?]) weights)
  | fuzzyUnion => exact FailsFor.map (mean _)
  | fuzzyWeightedUnion weights =>
      apply FailsFor.bind (checkWeightSum_failsFor (by simp [blamed, weights?]) weights)
      intro _
      exact FailsFor.map (sum _ weights)
  | fuzzySelectedUnion selection count => exact FailsFor.map (stack _)
  | fuzzyOr => exact FailsFor.map (fold _ _)
  | fuzzyAnd => exact FailsFor.map (fold _ _)
  | fuzzyXor => exact FailsFor.map (stack _)

end ListOperation

/-- The arguments and results for which an operation can fail, apart from
results that are not there. -/
def Operation.blamed : Operation α → List String
  | .copy _ | .report _ _ => []
  | .layer field operation => field :: operation.blamed
  | .pair first second _ => [first, second, "B"]
  | .list fields operation => operation.blamed ++ fields

end FuzzyGrid
