import FuzzyGrid.Proofs.Command.Arguments
import FuzzyGrid.Proofs.Operator.Admission

/-!
# The arguments an operation comes from

An operator reads the arguments that it declares of its own, and of the shared
ones no more than a report its file name.  What else a command says, the names
of precursors and the metadata, are remarks: commands that differ in remarks
alone are read as the same operation, wherever they were written.
-/

namespace FuzzyGrid

variable {α : Type}

/-! ## Accessors -/

/-- Outcomes of which the second is every value that the first is.  What they fail
with may differ, since an error tells where a command was written. -/
def Carries {ε β : Type} (first second : Except ε β) : Prop :=
  ∀ value, first = .ok value → second = .ok value

namespace Carries

variable {ε β γ : Type} {first second : Except ε β}

theorem refl (outcome : Except ε β) : Carries outcome outcome :=
  fun _ success => success

theorem bind {next other : β → Except ε γ} (start : Carries first second)
    (rest : ∀ value, Carries (next value) (other value)) :
    Carries (first >>= next) (second >>= other) := by
  intro result success
  obtain ⟨value, found, ends⟩ := bind_eq_ok.mp success
  exact bind_eq_ok.mpr ⟨value, start value found, rest value result ends⟩

/-- Outcomes that are finished in one way. -/
theorem followedBy (start : Carries first second) (next : β → Except ε γ) :
    Carries (first >>= next) (second >>= next) :=
  start.bind fun value => refl (next value)

end Carries

/-- Commands that hold the same under some arguments. -/
def Command.SameOn (args : List String) (first second : Command α) : Prop :=
  ∀ arg ∈ args, first.get? arg = second.get? arg

namespace Command

variable {β : Type} {first second : Command α} {arg : String}

theorem require_congr (same : first.get? arg = second.get? arg) :
    Carries (first.require arg) (second.require arg) := by
  intro value success
  rw [require_eq_ok] at success ⊢
  rw [← same, success]

theorem readOne_congr (same : first.get? arg = second.get? arg)
    (read? : ArgValue α → Option β) (reason : ArgValue α → ArgReason α) :
    Carries (first.readOne arg read? reason) (second.readOne arg read? reason) := by
  intro value success
  rw [readOne_eq_ok_iff, Holds] at success ⊢
  rwa [← same]

theorem readMany_congr (same : first.get? arg = second.get? arg)
    (read? : ArgValue α → Option β) (reason : ArgValue α → ArgReason α) :
    Carries (first.readMany arg read? reason) (second.readMany arg read? reason) := by
  intro values success
  rw [readMany_eq_ok_iff, Lists] at success ⊢
  rwa [← same]

theorem ifPresent_congr (same : first.get? arg = second.get? arg)
    {read other : String → Except (CommandError α) β}
    (sameRead : Carries (read arg) (other arg)) :
    Carries (first.ifPresent arg read) (second.ifPresent arg other) := by
  have has_eq : first.has arg = second.has arg := congrArg Option.isSome same
  rw [ifPresent, ifPresent, has_eq]
  split
  · intro found success
    obtain ⟨value, isRead, rfl⟩ := map_eq_ok.mp success
    exact map_eq_ok.mpr ⟨value, sameRead value isRead, rfl⟩
  · exact .refl _

theorem fieldName_congr (same : first.get? arg = second.get? arg) :
    Carries (first.fieldName arg) (second.fieldName arg) :=
  readOne_congr same _ _

theorem fieldNames_congr (same : first.get? arg = second.get? arg) :
    Carries (first.fieldNames arg) (second.fieldNames arg) :=
  readMany_congr same _ _

variable [Scalar α]

theorem scalar_congr (same : first.get? arg = second.get? arg) :
    Carries (first.scalar arg) (second.scalar arg) :=
  readOne_congr same _ _

theorem scalars_congr (same : first.get? arg = second.get? arg) :
    Carries (first.scalars arg) (second.scalars arg) :=
  readMany_congr same _ _

theorem optionalScalar_congr (same : first.get? arg = second.get? arg) :
    Carries (first.optionalScalar arg) (second.optionalScalar arg) :=
  ifPresent_congr same (scalar_congr same)

end Command

/-! ## Operations -/

/-- A selection is read from its text, whatever the place. -/
theorem Selection.ofText_congr (first second : Origin) (arg text : String) :
    Carries (Selection.ofText (α := α) first arg text)
      (Selection.ofText second arg text) := by
  intro selection success
  unfold ofText at success ⊢
  split at success
  · exact success
  · exact success
  · cases success

namespace Operator

/-- The arguments that an operator reads. -/
def readArguments (operator : Operator) : List String :=
  (operator.required ++ operator.ownOptional).map ArgSpec.name ++
    if operator = printVariables then ["OutFileName"] else []

variable {first second : Command α}

theorem readList_congr
    (same : first.get? "InFieldNames" = second.get? "InFieldNames")
    (operation : ListOperation α) :
    Carries (readList first operation) (readList second operation) :=
  (Command.fieldNames_congr same).followedBy _

theorem readPair_congr (same : Command.SameOn ["A", "B"] first second)
    (operation : PairOperation) :
    Carries (readPair first operation) (readPair second operation) := by
  apply Carries.bind (Command.fieldName_congr (same "A" (by simp)))
  intro left
  exact (Command.fieldName_congr (same "B" (by simp))).followedBy _

variable [Scalar α]

theorem readWeighted_congr
    (same : Command.SameOn ["InFieldNames", "Weights"] first second)
    (operation : List α → ListOperation α) :
    Carries (readWeighted first operation) (readWeighted second operation) := by
  apply Carries.bind (Command.fieldNames_congr (same "InFieldNames" (by simp)))
  intro fields
  exact (Command.scalars_congr (same "Weights" (by simp))).followedBy _

theorem readCurve_congr {positions : String}
    (same : Command.SameOn ["InFieldName", positions, "FuzzyValues"]
      first second)
    (operation : List (Numeral α) → List α → LayerOperation α) :
    Carries (readCurve first positions operation)
      (readCurve second positions operation) := by
  apply Carries.bind (Command.fieldName_congr (same "InFieldName" (by simp)))
  intro field
  apply Carries.bind (Command.readMany_congr (same positions (by simp)) _ _)
  intro raw
  exact (Command.scalars_congr (same "FuzzyValues" (by simp))).followedBy _

theorem readThresholds_congr {trueAt falseAt : String}
    (same : Command.SameOn ["InFieldName", trueAt, falseAt] first second)
    (operation : α → α → LayerOperation α) :
    Carries (readThresholds first trueAt falseAt operation)
      (readThresholds second trueAt falseAt operation) := by
  apply Carries.bind (Command.fieldName_congr (same "InFieldName" (by simp)))
  intro field
  apply Carries.bind (Command.scalar_congr (same trueAt (by simp)))
  intro upper
  exact (Command.scalar_congr (same falseAt (by simp))).followedBy _

/-- What is read from a command is read from every command that holds the same
under the arguments of the operator. -/
theorem read_congr (operator : Operator)
    (same : Command.SameOn operator.readArguments first second) :
    Carries (operator.read first) (operator.read second) := by
  cases operator with
  | copy | fuzzyNot =>
      exact (Command.fieldName_congr (same "InFieldName" (by decide))).followedBy _
  | subtract | divide => exact readPair_congr same _
  | sum | multiply | minimum | maximum | mean | fuzzyUnion | fuzzyOr | fuzzyAnd
  | fuzzyXor => exact readList_congr (same "InFieldNames" (by decide)) _
  | weightedSum | weightedMean | fuzzyWeightedUnion =>
      exact readWeighted_congr same _
  | normalize =>
      apply Carries.bind (Command.fieldName_congr (same "InFieldName" (by decide)))
      intro field
      apply Carries.bind (Command.optionalScalar_congr (same "StartVal" (by decide)))
      intro start
      exact (Command.optionalScalar_congr (same "EndVal" (by decide))).followedBy _
  | printVariables =>
      have file := same "OutFileName" (by decide)
      apply Carries.bind (Command.fieldNames_congr (same "InFieldNames" (by decide)))
      intro fields
      have destination : Carries (first.optionalText "OutFileName")
          (second.optionalText "OutFileName") :=
        Command.ifPresent_congr file (Command.readOne_congr file _ _)
      exact destination.followedBy _
  | toFuzzy =>
      rw [read, read, same "Direction" (by decide)]
      apply Carries.bind (Command.fieldName_congr (same "InFieldName" (by decide)))
      intro field
      apply Carries.bind
        (Command.optionalScalar_congr (same "TrueThreshold" (by decide)))
      intro trueAt
      exact (Command.optionalScalar_congr
        (same "FalseThreshold" (by decide))).followedBy _
  | toFuzzyZScore | fromFuzzy => exact readThresholds_congr same _
  | toFuzzyCategory =>
      apply Carries.bind (Command.fieldName_congr (same "InFieldName" (by decide)))
      intro field
      apply Carries.bind (Command.readMany_congr (same "RawValues" (by decide)) _ _)
      intro raw
      apply Carries.bind (Command.scalars_congr (same "FuzzyValues" (by decide)))
      intro fuzzy
      exact (Command.scalar_congr
        (same "DefaultFuzzyValue" (by decide))).followedBy _
  | toFuzzyCurve | toFuzzyCurveZScore => exact readCurve_congr same _
  | toBinary =>
      apply Carries.bind (Command.fieldName_congr (same "InFieldName" (by decide)))
      intro field
      apply Carries.bind (Command.scalar_congr (same "Threshold" (by decide)))
      intro threshold
      exact (Command.require_congr (same "Direction" (by decide))).followedBy _
  | fuzzySelectedUnion =>
      apply Carries.bind (Command.fieldNames_congr (same "InFieldNames" (by decide)))
      intro fields
      apply Carries.bind
        (Command.readOne_congr (same "TruestOrFalsest" (by decide)) _ _)
      intro text
      apply Carries.bind (Selection.ofText_congr _ _ _ _)
      intro selection
      exact (Command.readOne_congr
        (same "NumberToConsider" (by decide)) _ _).followedBy _

end Operator

/-! ## Remarks -/

namespace Command

/-- Whether an argument is a remark: precursors and metadata of any operator,
and the file name of any but a report. -/
def isRemark (operator arg : String) : Bool :=
  arg == "PrecursorFieldNames" || arg == "Metadata" ||
    (arg == "OutFileName" && operator != "PrintVars")

/-- Commands that say the same but for remarks and where they were written. -/
structure SameButRemarks (first second : Command α) : Prop where
  result : first.result = second.result
  operator : first.operator = second.operator
  args : ∀ arg, isRemark first.operator arg = false →
    first.get? arg = second.get? arg

theorem SameButRemarks.symm {first second : Command α}
    (same : first.SameButRemarks second) : second.SameButRemarks first := by
  refine ⟨same.result.symm, same.operator.symm, ?_⟩
  intro arg essential
  rw [← same.operator] at essential
  exact (same.args arg essential).symm

end Command

theorem Operator.not_isRemark (operator : Operator) :
    ∀ arg ∈ operator.readArguments,
      Command.isRemark operator.name arg = false := by
  cases operator <;> decide

namespace Node

variable [Scalar α] {node twin : Node α}

theorem operator_name (node : Node α) :
    node.operator.name = node.command.operator :=
  (Command.buildable_of_interpret node.interpreted).registered

theorem operator_eq_of_command
    (same : node.command.operator = twin.command.operator) :
    node.operator = twin.operator := by
  have registered := Operator.ofName?_name node.operator
  rw [operator_name, same, ← operator_name, Operator.ofName?_name,
    Option.some.injEq] at registered
  exact registered.symm

/-- Nodes whose commands differ in remarks alone have one operation. -/
theorem operation_eq_of_sameButRemarks
    (same : node.command.SameButRemarks twin.command) :
    node.operation = twin.operation := by
  have sameOperator := operator_eq_of_command same.operator
  have sameOn : Command.SameOn node.operator.readArguments node.command
      twin.command := by
    intro arg member
    apply same.args
    rw [← operator_name]
    exact node.operator.not_isRemark arg member
  have read := (Command.checked_of_interpret node.interpreted).2
  have readToo := (Command.checked_of_interpret twin.interpreted).2
  rw [← sameOperator, Operator.read_congr _ sameOn _ read] at readToo
  exact Except.ok.inj readToo

end Node

end FuzzyGrid
