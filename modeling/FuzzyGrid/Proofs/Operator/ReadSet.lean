import FuzzyGrid.Node

/-!
# What a node reads

The names that a node refers to come from the signature of its operator and
from the argument values, without the operation being looked at.  The
operation in turn reads its own arguments.  Both go over the same command, and
the names that the operation reads are those of the required references, which
are among the names that the node refers to.
-/

namespace FuzzyGrid

variable {α : Type}

theorem bind_eq_ok {ε β γ : Type} {outcome : Except ε β}
    {next : β → Except ε γ} {result : γ} :
    (outcome >>= next) = .ok result ↔
      ∃ value, outcome = .ok value ∧ next value = .ok result := by
  cases outcome with
  | error fault => simp [bind, Except.bind]
  | ok value => simp [bind, Except.bind]

theorem map_eq_ok {ε β γ : Type} {outcome : Except ε β} {function : β → γ}
    {result : γ} :
    outcome.map function = .ok result ↔
      ∃ value, outcome = .ok value ∧ function value = result := by
  cases outcome with
  | error fault => simp [Except.map]
  | ok value => simp [Except.map]

namespace Command

/-- The texts among the items of an argument; an absent one has none. -/
def textsOf (command : Command α) (arg : String) : List String :=
  match command.get? arg with
  | some value => value.items.filterMap ArgValue.text?
  | none => []

theorem readValue_eq_ok {β : Type} {command : Command α} {arg : String}
    {read? : ArgValue α → Option β} {reason : ArgValue α → ArgReason α}
    {value : ArgValue α} {result : β} :
    command.readValue arg read? reason value = .ok result ↔
      read? value = some result := by
  cases found : read? value with
  | none => simp [readValue, found]
  | some other => simp [readValue, found]

theorem require_eq_ok {command : Command α} {arg : String}
    {value : ArgValue α} :
    command.require arg = .ok value ↔ command.get? arg = some value := by
  cases found : command.get? arg with
  | none => simp [require, found]
  | some other => simp [require, found]

theorem readAll_readValue {β : Type} {command : Command α} {arg : String}
    {read? : ArgValue α → Option β} {reason : ArgValue α → ArgReason α}
    {items : List (ArgValue α)} {values : List β}
    (success : readAll (command.readValue arg read? reason) items = .ok values) :
    items.filterMap read? = values := by
  induction items generalizing values with
  | nil =>
      cases success
      rfl
  | cons item rest induction =>
      unfold readAll at success
      split at success
      · cases success
      · rename_i value read
        split at success
        · cases success
        · rename_i others readOthers
          cases success
          rw [List.filterMap_cons, readValue_eq_ok.mp read, induction readOthers]

theorem textsOf_of_fieldName {command : Command α} {arg name : String}
    (success : command.fieldName arg = .ok name) :
    command.textsOf arg = [name] := by
  obtain ⟨value, present, isText⟩ := bind_eq_ok.mp success
  rw [require_eq_ok] at present
  rw [readValue_eq_ok] at isText
  rw [textsOf, present]
  cases value with
  | text found =>
      cases isText
      rfl
  | flag _ => cases isText
  | number _ => cases isText
  | list _ => cases isText

theorem textsOf_of_fieldNames {command : Command α} {arg : String}
    {names : List String} (success : command.fieldNames arg = .ok names) :
    command.textsOf arg = names := by
  obtain ⟨value, present, readItems⟩ := bind_eq_ok.mp success
  rw [require_eq_ok] at present
  rw [textsOf, present]
  exact readAll_readValue readItems

end Command

/-! ## Operations by their operators -/

/-- The operator that a conversion is read for. -/
def LayerOperation.operator : LayerOperation α → Operator
  | normalize _ _ => .normalize
  | toFuzzy _ _ _ => .toFuzzy
  | toFuzzyZScore _ _ => .toFuzzyZScore
  | toFuzzyCategory _ _ _ => .toFuzzyCategory
  | toFuzzyCurve _ _ => .toFuzzyCurve
  | toFuzzyCurveZScore _ _ => .toFuzzyCurveZScore
  | toBinary _ _ => .toBinary
  | fromFuzzy _ _ => .fromFuzzy
  | fuzzyNot => .fuzzyNot

def PairOperation.operator : PairOperation → Operator
  | subtract => .subtract
  | divide => .divide

def ListOperation.operator : ListOperation α → Operator
  | sum => .sum
  | multiply => .multiply
  | minimum => .minimum
  | maximum => .maximum
  | mean => .mean
  | weightedSum _ => .weightedSum
  | weightedMean _ => .weightedMean
  | fuzzyUnion => .fuzzyUnion
  | fuzzyWeightedUnion _ => .fuzzyWeightedUnion
  | fuzzySelectedUnion _ _ => .fuzzySelectedUnion
  | fuzzyOr => .fuzzyOr
  | fuzzyAnd => .fuzzyAnd
  | fuzzyXor => .fuzzyXor

def Operation.operator : Operation α → Operator
  | copy _ => .copy
  | report _ _ => .printVariables
  | layer _ operation => operation.operator
  | pair _ _ operation => operation.operator
  | list _ operation => operation.operator

/-- Every operation that can be read from a command is one of the operator and
looks up the texts of the given arguments. -/
def ReadsAs (command : Command α) (operator : Operator) (args : List String)
    (outcome : Except (CommandError α) (Operation α)) : Prop :=
  ∀ operation, outcome = .ok operation →
    operation.operator = operator ∧
      operation.fields = args.flatMap command.textsOf

namespace ReadsAs

variable {command : Command α} {operator : Operator}

/-- What is read after the single field of an operation adds no fields. -/
theorem layer (arg : String) {next : String → Except (CommandError α) (Operation α)}
    (only : ∀ field operation, next field = .ok operation →
      operation.operator = operator ∧ operation.fields = [field]) :
    ReadsAs command operator [arg] (command.fieldName arg >>= next) := by
  intro operation success
  obtain ⟨field, found, rest⟩ := bind_eq_ok.mp success
  obtain ⟨same, fields⟩ := only field operation rest
  refine ⟨same, ?_⟩
  rw [fields, List.flatMap_singleton, Command.textsOf_of_fieldName found]

/-- What is read after the list of fields of an operation adds no fields. -/
theorem list (arg : String)
    {next : List String → Except (CommandError α) (Operation α)}
    (only : ∀ fields operation, next fields = .ok operation →
      operation.operator = operator ∧ operation.fields = fields) :
    ReadsAs command operator [arg] (command.fieldNames arg >>= next) := by
  intro operation success
  obtain ⟨fields, found, rest⟩ := bind_eq_ok.mp success
  obtain ⟨same, rfl⟩ := only fields operation rest
  refine ⟨same, ?_⟩
  rw [List.flatMap_singleton, Command.textsOf_of_fieldNames found]

end ReadsAs

namespace Operator

/-- The arguments whose texts an operator reads results under. -/
def valueArguments (operator : Operator) : List String :=
  (operator.required.filter ArgSpec.isFieldReference).map ArgSpec.name

section

variable {command : Command α}

theorem readList_readsAs (operation : ListOperation α) :
    ReadsAs command operation.operator ["InFieldNames"]
      (readList command operation) := by
  apply ReadsAs.list
  intro fields operation success
  cases success
  exact ⟨rfl, rfl⟩

theorem readPair_readsAs (operation : PairOperation) :
    ReadsAs command operation.operator ["A", "B"]
      (readPair command operation) := by
  intro operation success
  obtain ⟨first, foundFirst, rest⟩ := bind_eq_ok.mp success
  obtain ⟨second, foundSecond, same⟩ := bind_eq_ok.mp rest
  cases same
  refine ⟨rfl, ?_⟩
  rw [List.flatMap_cons, List.flatMap_singleton,
    Command.textsOf_of_fieldName foundFirst,
    Command.textsOf_of_fieldName foundSecond]
  rfl

variable [Scalar α]

theorem readWeighted_readsAs {operator : Operator}
    (operation : List α → ListOperation α)
    (same : ∀ weights, (operation weights).operator = operator) :
    ReadsAs command operator ["InFieldNames"]
      (readWeighted command operation) := by
  apply ReadsAs.list
  intro fields operation success
  obtain ⟨weights, _, returned⟩ := bind_eq_ok.mp success
  cases returned
  exact ⟨same weights, rfl⟩

theorem readCurve_readsAs {operator : Operator} (positions : String)
    (operation : List (Numeral α) → List α → LayerOperation α)
    (same : ∀ raw fuzzy, (operation raw fuzzy).operator = operator) :
    ReadsAs command operator ["InFieldName"]
      (readCurve command positions operation) := by
  apply ReadsAs.layer
  intro field operation success
  obtain ⟨raw, _, rest⟩ := bind_eq_ok.mp success
  obtain ⟨fuzzy, _, returned⟩ := bind_eq_ok.mp rest
  cases returned
  exact ⟨same raw fuzzy, rfl⟩

theorem readThresholds_readsAs {operator : Operator} (trueAt falseAt : String)
    (operation : α → α → LayerOperation α)
    (same : ∀ upper lower, (operation upper lower).operator = operator) :
    ReadsAs command operator ["InFieldName"]
      (readThresholds command trueAt falseAt operation) := by
  apply ReadsAs.layer
  intro field operation success
  obtain ⟨upper, _, rest⟩ := bind_eq_ok.mp success
  obtain ⟨lower, _, returned⟩ := bind_eq_ok.mp rest
  cases returned
  exact ⟨same upper lower, rfl⟩

end

/-- Whatever a command says, an operation read from it looks up the names that
stand in the required references of its operator and no others. -/
theorem read_readsAs [Scalar α] (operator : Operator) (command : Command α) :
    ReadsAs command operator operator.valueArguments
      (operator.read command) := by
  cases operator with
  | copy | fuzzyNot =>
      apply ReadsAs.layer
      intro field operation success
      cases success
      exact ⟨rfl, rfl⟩
  | subtract | divide => exact readPair_readsAs _
  | sum | multiply | minimum | maximum | mean | fuzzyUnion | fuzzyOr | fuzzyAnd
  | fuzzyXor => exact readList_readsAs _
  | weightedSum | weightedMean | fuzzyWeightedUnion =>
      exact readWeighted_readsAs _ fun _ => rfl
  | normalize =>
      apply ReadsAs.layer
      intro field operation success
      obtain ⟨start, _, rest⟩ := bind_eq_ok.mp success
      obtain ⟨stop, _, same⟩ := bind_eq_ok.mp rest
      cases same
      exact ⟨rfl, rfl⟩
  | printVariables =>
      apply ReadsAs.list
      intro fields operation success
      obtain ⟨destination, _, same⟩ := bind_eq_ok.mp success
      cases same
      exact ⟨rfl, rfl⟩
  | toFuzzy =>
      apply ReadsAs.layer
      intro field operation success
      obtain ⟨trueAt, _, rest⟩ := bind_eq_ok.mp success
      obtain ⟨falseAt, _, same⟩ := bind_eq_ok.mp rest
      cases same
      exact ⟨rfl, rfl⟩
  | toFuzzyZScore | fromFuzzy =>
      exact readThresholds_readsAs _ _ _ fun _ _ => rfl
  | toFuzzyCategory =>
      apply ReadsAs.layer
      intro field operation success
      obtain ⟨raw, _, rest⟩ := bind_eq_ok.mp success
      obtain ⟨fuzzy, _, last⟩ := bind_eq_ok.mp rest
      obtain ⟨other, _, same⟩ := bind_eq_ok.mp last
      cases same
      exact ⟨rfl, rfl⟩
  | toFuzzyCurve | toFuzzyCurveZScore =>
      exact readCurve_readsAs _ _ fun _ _ => rfl
  | toBinary =>
      apply ReadsAs.layer
      intro field operation success
      obtain ⟨threshold, _, rest⟩ := bind_eq_ok.mp success
      obtain ⟨direction, _, same⟩ := bind_eq_ok.mp rest
      cases same
      exact ⟨rfl, rfl⟩
  | fuzzySelectedUnion =>
      apply ReadsAs.list
      intro fields operation success
      obtain ⟨spelling, _, rest⟩ := bind_eq_ok.mp success
      obtain ⟨selection, _, more⟩ := bind_eq_ok.mp rest
      obtain ⟨count, _, same⟩ := bind_eq_ok.mp more
      cases same
      exact ⟨rfl, rfl⟩

end Operator

section

variable [Scalar α]

/-- A command that has been interpreted has passed the check of its signature,
and the operation has been read from it. -/
theorem Command.checked_of_interpret {command : Command α}
    {operator : Operator} {operation : Operation α}
    (interpreted : command.interpret = .ok (operator, operation)) :
    operator.signature.check command = .ok () ∧
      operator.read command = .ok operation := by
  unfold Command.interpret at interpreted
  split at interpreted
  · cases interpreted
  · split at interpreted
    · cases interpreted
    · rename_i checked
      split at interpreted
      · cases interpreted
      · rename_i read
        cases interpreted
        exact ⟨checked, read⟩

theorem Node.fields_eq (node : Node α) :
    node.operation.fields =
      node.operator.valueArguments.flatMap node.command.textsOf :=
  (node.operator.read_readsAs node.command node.operation
    (Command.checked_of_interpret node.interpreted).2).2

theorem Node.operator_eq (node : Node α) :
    node.operation.operator = node.operator :=
  (node.operator.read_readsAs node.command node.operation
    (Command.checked_of_interpret node.interpreted).2).1

/-- The names that the operation of a node looks up are among those that the
node refers to. -/
theorem Node.mem_dependencies_of_mem_fields (node : Node α) {name : String}
    (member : name ∈ node.operation.fields) : name ∈ node.dependencies := by
  rw [node.fields_eq] at member
  obtain ⟨arg, isArgument, isText⟩ := List.mem_flatMap.mp member
  obtain ⟨spec, isSpec, rfl⟩ := List.mem_map.mp isArgument
  have ⟨required, reference⟩ := List.mem_filter.mp isSpec
  have declared : spec ∈ node.operator.signature.specs :=
    List.mem_append_left _ required
  exact List.mem_flatMap.mpr
    ⟨spec, List.mem_filter.mpr ⟨declared, reference⟩, isText⟩

end

end FuzzyGrid
