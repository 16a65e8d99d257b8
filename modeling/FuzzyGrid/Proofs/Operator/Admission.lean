import FuzzyGrid.Proofs.Operator.ReadSet
import FuzzyGrid.Proofs.Operator.Signature

/-!
# Which commands become nodes

A command is checked against a signature before its arguments are read.  What
the check lets through can be read: of all that an operator reads after it, the
spelling of an end of the fuzzy range is the only thing that can still be
wrong.  So a command becomes a node unless it is refused for one of three
reasons, and each of them has its own fault.
-/

namespace FuzzyGrid

variable {α : Type}

/-! ## Accessors -/

/-- What the items of a value have to be for a kind to accept it. -/
def ArgKind.acceptsItem : ArgKind → ArgValue α → Bool
  | fieldName, item | fieldNameList, item | fileName, item
  | truestOrFalsest, item => item.text?.isSome
  | float, item | floatList, item | fuzzyValue, item | fuzzyValueList, item =>
    item.numeral?.isSome
  | integer, item | integerList, item | positiveInteger, item =>
    item.integer?.isSome
  | direction, item => !item.isList
  | any, _ => true

/-- Single values are accepted as their own only item, lists item by item. -/
theorem ArgKind.acceptsItem_of_accepts {kind : ArgKind} {value : ArgValue α}
    (accepted : kind.accepts value) :
    ∀ item ∈ value.items, kind.acceptsItem item := by
  have ofList : ∀ {test : ArgValue α → Bool}, acceptsList test value →
      ∀ item ∈ value.items, test item := by
    intro test passed
    cases value with
    | list items => simpa [acceptsList, ArgValue.items] using passed
    | flag _ | number _ | text _ => cases passed
  have ofSingle : value.isList = false → kind.acceptsItem value →
      ∀ item ∈ value.items, kind.acceptsItem item := by
    intro single passed
    cases value with
    | list items => cases single
    | flag _ | number _ | text _ => simpa [ArgValue.items] using passed
  cases kind with
  | fieldNameList | floatList | integerList | fuzzyValueList =>
      exact ofList accepted
  | any => exact fun _ _ => rfl
  | fieldName | fileName | truestOrFalsest | float | fuzzyValue | integer =>
      refine ofSingle ?_ accepted
      cases value <;> first | rfl | cases accepted
  | positiveInteger =>
      obtain ⟨number, whole, _⟩ := (Option.any_eq_true _ _).mp accepted
      refine ofSingle ?_ (by simp [acceptsItem, whole])
      cases value <;> first | rfl | cases whole
  | direction =>
      refine ofSingle ?_ accepted
      simpa [accepts] using accepted

/-- An outcome that is no fault. -/
def Succeeds {ε β : Type} (outcome : Except ε β) : Prop :=
  ∃ value, outcome = .ok value

namespace Succeeds

variable {ε β γ : Type} {outcome : Except ε β}

theorem ok (value : β) : Succeeds (.ok value : Except ε β) :=
  ⟨value, rfl⟩

theorem bind {next : β → Except ε γ} (first : Succeeds outcome)
    (rest : ∀ value, Succeeds (next value)) : Succeeds (outcome >>= next) := by
  obtain ⟨value, rfl⟩ := first
  exact rest value

theorem map {function : β → γ} (first : Succeeds outcome) :
    Succeeds (outcome.map function) := by
  obtain ⟨value, rfl⟩ := first
  exact .ok _

end Succeeds

namespace Command

variable {β : Type} {command : Command α} {arg : String} {value : ArgValue α}
  {read? : ArgValue α → Option β} {reason : ArgValue α → ArgReason α}

theorem readValue_succeeds (command : Command α) (arg : String)
    (reason : ArgValue α → ArgReason α) (readable : (read? value).isSome) :
    Succeeds (command.readValue arg read? reason value) := by
  obtain ⟨result, found⟩ := Option.isSome_iff_exists.mp readable
  exact ⟨result, readValue_eq_ok.mpr found⟩

theorem require_succeeds (held : command.get? arg = some value) :
    Succeeds (command.require arg) :=
  ⟨value, require_eq_ok.mpr held⟩

theorem readOne_succeeds (held : command.get? arg = some value)
    (readable : (read? value).isSome) :
    Succeeds (command.readOne arg read? reason) := by
  obtain ⟨result, read⟩ := command.readValue_succeeds arg reason readable
  exact ⟨result, bind_eq_ok.mpr ⟨value, require_eq_ok.mpr held, read⟩⟩

theorem readAll_succeeds (command : Command α) (arg : String)
    (reason : ArgValue α → ArgReason α) {items : List (ArgValue α)}
    (readable : ∀ item ∈ items, (read? item).isSome) :
    Succeeds (readAll (command.readValue arg read? reason) items) := by
  induction items with
  | nil => exact .ok []
  | cons item rest induction =>
      have ⟨itemReadable, restReadable⟩ := List.forall_mem_cons.mp readable
      obtain ⟨result, readItem⟩ :=
        command.readValue_succeeds arg reason itemReadable
      obtain ⟨results, readRest⟩ := induction restReadable
      exact ⟨result :: results, by simp only [readAll, readItem, readRest]⟩

theorem readMany_succeeds (held : command.get? arg = some value)
    (readable : ∀ item ∈ value.items, (read? item).isSome) :
    Succeeds (command.readMany arg read? reason) := by
  obtain ⟨results, read⟩ :=
    command.readAll_succeeds arg reason readable
  exact ⟨results, bind_eq_ok.mpr ⟨value, require_eq_ok.mpr held, read⟩⟩

theorem ifPresent_succeeds {read : String → Except (CommandError α) β}
    (readable : ∀ value, command.get? arg = some value →
      Succeeds (read arg)) :
    Succeeds (command.ifPresent arg read) := by
  have has_eq : command.has arg = (command.get? arg).isSome := rfl
  rw [ifPresent, has_eq]
  cases held : command.get? arg with
  | none => exact .ok none
  | some value => exact (readable value held).map

end Command

/-! ## Reading admitted commands -/

namespace Operator

variable {operator : Operator} {command : Command α} {spec : ArgSpec}
  {β : Type} {read? : ArgValue α → Option β}
  {reason : ArgValue α → ArgReason α}

theorem declared_of_required (required : spec ∈ operator.required) :
    spec ∈ operator.signature.specs :=
  List.mem_append_left _ required

theorem exists_kind (admitted : operator.signature.Admits command)
    (declared : spec ∈ operator.signature.specs) {value : ArgValue α}
    (held : command.get? spec.name = some value) :
    ∃ kind ∈ spec.kinds, kind.accepts value := by
  obtain ⟨other, isDeclared, sameName, accepted⟩ :=
    admitted.taken spec.name value held
  rw [List.inj_on_of_nodup_map operator.distinct_signature isDeclared declared
    sameName] at accepted
  exact accepted

theorem exists_accepted (spec : ArgSpec)
    (admitted : operator.signature.Admits command)
    (required : spec ∈ operator.required) :
    ∃ value, command.get? spec.name = some value ∧
      ∃ kind ∈ spec.kinds, kind.accepts value := by
  obtain ⟨value, held⟩ :=
    Option.isSome_iff_exists.mp (admitted.required spec required)
  exact ⟨value, held, exists_kind admitted (declared_of_required required) held⟩

/-- A required argument of an admitted command can be read as one value if
all that its kinds accept can. -/
theorem readOne_succeeds (spec : ArgSpec)
    (admitted : operator.signature.Admits command)
    (required : spec ∈ operator.required)
    (readable : ∀ kind ∈ spec.kinds, ∀ value : ArgValue α,
      kind.accepts value → (read? value).isSome) :
    Succeeds (command.readOne spec.name read? reason) := by
  obtain ⟨value, held, kind, isKind, accepted⟩ :=
    exists_accepted spec admitted required
  exact Command.readOne_succeeds held (readable kind isKind value accepted)

/-- It can be read as a list if all items that its kinds accept can. -/
theorem readMany_succeeds (spec : ArgSpec)
    (admitted : operator.signature.Admits command)
    (required : spec ∈ operator.required)
    (readable : ∀ kind ∈ spec.kinds, ∀ item : ArgValue α,
      kind.acceptsItem item → (read? item).isSome) :
    Succeeds (command.readMany spec.name read? reason) := by
  obtain ⟨value, held, kind, isKind, accepted⟩ :=
    exists_accepted spec admitted required
  exact Command.readMany_succeeds held fun item member =>
    readable kind isKind item
      (ArgKind.acceptsItem_of_accepts accepted item member)

theorem fieldName_succeeds {arg : String}
    (admitted : operator.signature.Admits command)
    (required : field arg ∈ operator.required) :
    Succeeds (command.fieldName arg) :=
  readOne_succeeds _ admitted required (by simp [field, ArgKind.accepts])

theorem fieldNames_succeeds (admitted : operator.signature.Admits command)
    (required : fields ∈ operator.required) :
    Succeeds (command.fieldNames "InFieldNames") :=
  readMany_succeeds _ admitted required (by simp [fields, ArgKind.acceptsItem])

theorem readList_succeeds (operation : ListOperation α)
    (admitted : operator.signature.Admits command)
    (required : fields ∈ operator.required) :
    Succeeds (readList command operation) :=
  (fieldNames_succeeds admitted required).bind fun _ => .ok _

theorem readPair_succeeds (operation : PairOperation)
    (admitted : operator.signature.Admits command)
    (requiredFirst : field "A" ∈ operator.required)
    (requiredSecond : field "B" ∈ operator.required) :
    Succeeds (readPair command operation) :=
  (fieldName_succeeds admitted requiredFirst).bind fun _ =>
    (fieldName_succeeds admitted requiredSecond).bind fun _ => .ok _

variable [Scalar α]

private theorem isSome_scalar? (value : ArgValue α)
    (isNumber : value.numeral?.isSome) : value.scalar?.isSome := by
  simpa [ArgValue.scalar?] using isNumber

theorem scalar_succeeds {arg : String}
    (admitted : operator.signature.Admits command)
    (required : number arg ∈ operator.required) :
    Succeeds (command.scalar arg) :=
  readOne_succeeds _ admitted required
    (by simpa [number, ArgKind.accepts] using isSome_scalar?)

theorem optionalScalar_succeeds (arg : String)
    (admitted : operator.signature.Admits command)
    (declared : number arg ∈ operator.signature.specs) :
    Succeeds (command.optionalScalar arg) := by
  apply Command.ifPresent_succeeds
  intro value held
  obtain ⟨kind, isKind, accepted⟩ := exists_kind admitted declared held
  rw [List.mem_singleton.mp isKind] at accepted
  exact Command.readOne_succeeds held (isSome_scalar? value accepted)

/-- An argument can be read as a list of numbers if its kinds are of
numbers. -/
theorem scalars_succeeds (spec : ArgSpec)
    (admitted : operator.signature.Admits command)
    (required : spec ∈ operator.required)
    (numbers : ∀ kind ∈ spec.kinds, ∀ item : ArgValue α,
      kind.acceptsItem item → item.numeral?.isSome) :
    Succeeds (command.scalars spec.name) :=
  readMany_succeeds spec admitted required fun kind isKind item accepted =>
    isSome_scalar? item (numbers kind isKind item accepted)

theorem readWeighted_succeeds (operation : List α → ListOperation α)
    (admitted : operator.signature.Admits command)
    (required : fields ∈ operator.required)
    (weighted : weights ∈ operator.required) :
    Succeeds (readWeighted command operation) := by
  refine (fieldNames_succeeds admitted required).bind fun _ => ?_
  refine Succeeds.bind ?_ fun _ => .ok _
  exact scalars_succeeds _ admitted weighted
    (by simp [weights, ArgKind.acceptsItem])

theorem readCurve_succeeds {positions : String}
    (operation : List (Numeral α) → List α → LayerOperation α)
    (admitted : operator.signature.Admits command)
    (required : field "InFieldName" ∈ operator.required)
    (positioned : ⟨positions, [.floatList]⟩ ∈ operator.required)
    (valued : ⟨"FuzzyValues", [.fuzzyValueList]⟩ ∈ operator.required) :
    Succeeds (readCurve command positions operation) := by
  refine (fieldName_succeeds admitted required).bind fun _ => ?_
  refine Succeeds.bind ?_ fun _ => Succeeds.bind ?_ fun _ => .ok _
  · exact readMany_succeeds _ admitted positioned
      (by simp [ArgKind.acceptsItem])
  · exact scalars_succeeds _ admitted valued (by simp [ArgKind.acceptsItem])

theorem readThresholds_succeeds {trueAt falseAt : String}
    (operation : α → α → LayerOperation α)
    (admitted : operator.signature.Admits command)
    (required : field "InFieldName" ∈ operator.required)
    (requiredTrue : number trueAt ∈ operator.required)
    (requiredFalse : number falseAt ∈ operator.required) :
    Succeeds (readThresholds command trueAt falseAt operation) :=
  (fieldName_succeeds admitted required).bind fun _ =>
    (scalar_succeeds admitted requiredTrue).bind fun _ =>
      (scalar_succeeds admitted requiredFalse).bind fun _ => .ok _

/-- Every operator but one can be read from the commands that its signature
admits. -/
theorem read_succeeds (other : operator ≠ .fuzzySelectedUnion)
    (admitted : operator.signature.Admits command) :
    Succeeds (operator.read command) := by
  cases operator with
  | copy | fuzzyNot =>
      exact (fieldName_succeeds admitted List.mem_cons_self).bind fun _ => .ok _
  | subtract | divide =>
      exact readPair_succeeds _ admitted (by simp [required])
        (by simp [required])
  | sum | multiply | minimum | maximum | mean | fuzzyUnion | fuzzyOr | fuzzyAnd
  | fuzzyXor => exact readList_succeeds _ admitted List.mem_cons_self
  | weightedSum | weightedMean | fuzzyWeightedUnion =>
      exact readWeighted_succeeds _ admitted (by simp [required])
        (by simp [required])
  | normalize =>
      refine (fieldName_succeeds admitted List.mem_cons_self).bind fun _ => ?_
      exact (optionalScalar_succeeds "StartVal" admitted (by decide)).bind
        fun _ => (optionalScalar_succeeds "EndVal" admitted (by decide)).bind
          fun _ => .ok _
  | printVariables =>
      refine (fieldNames_succeeds admitted List.mem_cons_self).bind fun _ => ?_
      refine Succeeds.bind (Command.ifPresent_succeeds ?_) fun _ => .ok _
      intro value held
      have declared : ⟨"OutFileName", [.fileName]⟩ ∈
          printVariables.signature.specs := by decide
      obtain ⟨kind, isKind, accepted⟩ := exists_kind admitted declared held
      rw [List.mem_singleton.mp isKind] at accepted
      exact Command.readOne_succeeds held accepted
  | toFuzzy =>
      refine (fieldName_succeeds admitted List.mem_cons_self).bind fun _ => ?_
      exact (optionalScalar_succeeds "TrueThreshold" admitted
        (by decide)).bind fun _ =>
          (optionalScalar_succeeds "FalseThreshold" admitted
            (by decide)).bind fun _ => .ok _
  | toFuzzyZScore | fromFuzzy =>
      exact readThresholds_succeeds _ admitted (by simp [required])
        (by simp [required]) (by simp [required])
  | toFuzzyCategory =>
      refine (fieldName_succeeds admitted List.mem_cons_self).bind fun _ => ?_
      refine Succeeds.bind ?_ fun _ => Succeeds.bind ?_ fun _ =>
        Succeeds.bind ?_ fun _ => .ok _
      · exact readMany_succeeds ⟨"RawValues", [.integer, .integerList]⟩ admitted
          (by simp [required]) (by simp [ArgKind.acceptsItem])
      · exact scalars_succeeds
          ⟨"FuzzyValues", [.fuzzyValue, .fuzzyValueList]⟩ admitted
          (by simp [required]) (by simp [ArgKind.acceptsItem])
      · exact readOne_succeeds ⟨"DefaultFuzzyValue", [.fuzzyValue]⟩
          admitted (by simp [required])
          (by simpa [ArgKind.accepts] using isSome_scalar?)
  | toFuzzyCurve | toFuzzyCurveZScore =>
      exact readCurve_succeeds _ admitted (by simp [required])
        (by simp [required]) (by simp [required])
  | toBinary =>
      refine (fieldName_succeeds admitted List.mem_cons_self).bind fun _ => ?_
      refine (scalar_succeeds admitted (by simp [required])).bind fun _ => ?_
      obtain ⟨direction, held, _⟩ := exists_accepted
        ⟨"Direction", [.direction]⟩ admitted (by simp [required])
      exact (Command.require_succeeds held).bind fun _ => .ok _
  | fuzzySelectedUnion => exact absurd rfl other

end Operator

/-! ## Selected unions -/

theorem Selection.ofText_cases (origin : Origin) (arg text : String) :
    (text = "Truest" ∨ text = "Falsest") ∧
        Succeeds (Selection.ofText (α := α) origin arg text) ∨
      (text ≠ "Truest" ∧ text ≠ "Falsest") ∧
        Selection.ofText origin arg text =
          .error ⟨.invalidArgument (α := α) arg (.notAnEnd text), origin⟩ := by
  unfold Selection.ofText
  split
  · exact Or.inl ⟨Or.inl rfl, .ok _⟩
  · exact Or.inl ⟨Or.inr rfl, .ok _⟩
  · rename_i notTruest notFalsest
    exact Or.inr ⟨⟨notTruest, notFalsest⟩, rfl⟩

section Build

variable [Scalar α] {command : Command α} {operator : Operator}

/-- What a selected union reads from an admitted command: names, a spelling
and a number above zero.  It can only fail for the spelling. -/
theorem Operator.read_fuzzySelectedUnion
    (admitted : fuzzySelectedUnion.signature.Admits command) :
    ∃ names text count,
      command.fieldNames "InFieldNames" = .ok names ∧
      command.get? "TruestOrFalsest" = some (.text text) ∧
      command.text "TruestOrFalsest" = .ok text ∧
      command.integer "NumberToConsider" = .ok count ∧ 0 < count ∧
      fuzzySelectedUnion.read command =
        (Selection.ofText command.origin "TruestOrFalsest" text).map fun selection =>
          .list names (.fuzzySelectedUnion selection count.toNat) := by
  obtain ⟨names, foundNames⟩ :=
    fieldNames_succeeds admitted List.mem_cons_self
  obtain ⟨ending, heldEnding, _, isEndKind, endAccepted⟩ := exists_accepted
    ⟨"TruestOrFalsest", [.truestOrFalsest]⟩ admitted (by simp [required])
  obtain ⟨number, heldNumber, _, isNumberKind, numberAccepted⟩ :=
    exists_accepted ⟨"NumberToConsider", [.positiveInteger]⟩ admitted
      (by simp [required])
  rw [List.mem_singleton.mp isEndKind] at endAccepted
  rw [List.mem_singleton.mp isNumberKind] at numberAccepted
  obtain ⟨text, isText⟩ := Option.isSome_iff_exists.mp endAccepted
  obtain ⟨count, isInteger, positive⟩ :=
    (Option.any_eq_true _ _).mp numberAccepted
  have foundText : command.text "TruestOrFalsest" = .ok text :=
    bind_eq_ok.mpr ⟨ending, Command.require_eq_ok.mpr heldEnding,
      Command.readValue_eq_ok.mpr isText⟩
  have foundCount : command.integer "NumberToConsider" = .ok count :=
    bind_eq_ok.mpr ⟨number, Command.require_eq_ok.mpr heldNumber,
      Command.readValue_eq_ok.mpr isInteger⟩
  have sameValue : ending = .text text := by
    cases ending with
    | text other =>
        cases isText
        rfl
    | flag _ | number _ | list _ => cases isText
  refine ⟨names, text, count, foundNames, sameValue ▸ heldEnding, foundText,
    foundCount, of_decide_eq_true positive, ?_⟩
  simp only [read, foundNames, foundText, foundCount, bind, Except.bind]
  cases Selection.ofText (α := α) command.origin "TruestOrFalsest" text with
  | error fault => rfl
  | ok selection => rfl

/-! ## Nodes -/

namespace Command

/-- What makes a command a node: a known operator, a passed check, and for a
selected union one of the two spellings. -/
structure Buildable (command : Command α) (operator : Operator) : Prop where
  registered : operator.name = command.operator
  admitted : operator.signature.Admits command
  spelled : operator = .fuzzySelectedUnion →
    ∃ text, command.get? "TruestOrFalsest" = some (.text text) ∧
      (text = "Truest" ∨ text = "Falsest")

/-- The fault of a command that is not a node. -/
inductive Refused (command : Command α) : Fault α → Prop where
  | unknown
      (unregistered : ∀ operator : Operator, operator.name ≠ command.operator) :
      Refused command (.unknownOperator command.operator)
  | rejected {operator : Operator} {fault : Fault α}
      (registered : operator.name = command.operator)
      (rejects : operator.signature.Rejects command fault) :
      Refused command fault
  | misspelled {text : String}
      (registered : Operator.fuzzySelectedUnion.name = command.operator)
      (admitted : Operator.fuzzySelectedUnion.signature.Admits command)
      (held : command.get? "TruestOrFalsest" = some (.text text))
      (neither : text ≠ "Truest" ∧ text ≠ "Falsest") :
      Refused command (.invalidArgument "TruestOrFalsest" (.notAnEnd text))

theorem interpret_eq (registered : operator.name = command.operator) :
    command.interpret =
      match operator.signature.check command with
      | .error error => .error error
      | .ok () => (operator.read command).map fun operation =>
          (operator, operation) := by
  unfold interpret
  rw [Operator.ofName?_eq_some_iff.mpr registered]
  dsimp only
  cases operator.signature.check command with
  | error fault => rfl
  | ok _ => cases operator.read command <;> rfl

theorem interpret_succeeds (buildable : command.Buildable operator) :
    Succeeds command.interpret := by
  obtain ⟨registered, admitted, spelled⟩ := buildable
  have passed := (Signature.check_eq_ok_iff operator.distinct_signature).mpr
    admitted
  rw [interpret_eq registered, passed]
  apply Succeeds.map
  by_cases selects : operator = .fuzzySelectedUnion
  · subst selects
    obtain ⟨names, text, count, _, held, _, _, _, reads⟩ :=
      Operator.read_fuzzySelectedUnion admitted
    obtain ⟨other, heldToo, isEnd⟩ := spelled rfl
    rw [held] at heldToo
    cases heldToo
    rw [reads]
    rcases Selection.ofText_cases (α := α) command.origin
        "TruestOrFalsest" text with
      ⟨_, selected⟩ | ⟨neither, _⟩
    · exact selected.map
    · exact absurd isEnd (not_or.mpr neither)
  · exact Operator.read_succeeds selects admitted

theorem buildable_of_interpret {operation : Operation α}
    (interpreted : command.interpret = .ok (operator, operation)) :
    command.Buildable operator := by
  have ⟨checked, reads⟩ := checked_of_interpret interpreted
  have admitted := (Signature.check_eq_ok_iff operator.distinct_signature).mp
    checked
  refine ⟨?_, admitted, ?_⟩
  · unfold interpret at interpreted
    split at interpreted
    · cases interpreted
    · rename_i found
      split at interpreted
      · cases interpreted
      · split at interpreted
        · cases interpreted
        · cases interpreted
          exact Operator.ofName?_eq_some_iff.mp found
  · intro selects
    subst selects
    obtain ⟨names, text, count, _, held, _, _, _, readsToo⟩ :=
      Operator.read_fuzzySelectedUnion admitted
    refine ⟨text, held, ?_⟩
    rcases Selection.ofText_cases (α := α) command.origin
        "TruestOrFalsest" text with
      ⟨isEnd, _⟩ | ⟨_, refused⟩
    · exact isEnd
    · rw [readsToo, refused] at reads
      cases reads

theorem refused_of_interpret {error : CommandError α}
    (failed : command.interpret = .error error) :
    error.origin = command.origin ∧ command.Refused error.fault := by
  cases found : Operator.ofName? command.operator with
  | none =>
      simp only [interpret, found] at failed
      cases failed
      exact ⟨rfl, .unknown (Operator.ofName?_eq_none_iff.mp found)⟩
  | some operator =>
      have registered := Operator.ofName?_eq_some_iff.mp found
      have distinct := operator.distinct_signature
      rw [interpret_eq registered] at failed
      cases checked : operator.signature.check command with
      | error other =>
          rw [checked] at failed
          cases failed
          obtain ⟨raised, rejects⟩ :=
            (Signature.check_eq_error_iff distinct).mp checked
          exact ⟨raised, .rejected registered rejects⟩
      | ok _ =>
          rw [checked] at failed
          have admitted := (Signature.check_eq_ok_iff distinct).mp checked
          by_cases selects : operator = .fuzzySelectedUnion
          · subst selects
            obtain ⟨names, text, count, _, held, _, _, _, reads⟩ :=
              Operator.read_fuzzySelectedUnion admitted
            rw [reads] at failed
            rcases Selection.ofText_cases (α := α) command.origin
                "TruestOrFalsest" text with
              ⟨_, selection, selected⟩ | ⟨neither, refused⟩
            · rw [selected] at failed
              cases failed
            · rw [refused] at failed
              cases failed
              exact ⟨rfl, .misspelled registered admitted held neither⟩
          · obtain ⟨operation, reads⟩ :=
              Operator.read_succeeds selects admitted
            rw [reads] at failed
            cases failed

theorem interpret_of_refused {fault : Fault α}
    (refused : command.Refused fault) :
    command.interpret = .error ⟨fault, command.origin⟩ := by
  cases refused with
  | unknown unregistered =>
      simp only [interpret, Operator.ofName?_eq_none_iff.mpr unregistered]
  | @rejected operator _ registered rejects =>
      have stopped : operator.signature.check command =
          .error ⟨fault, command.origin⟩ :=
        (Signature.check_eq_error_iff operator.distinct_signature).mpr
          ⟨rfl, rejects⟩
      rw [interpret_eq registered, stopped]
  | misspelled registered admitted held neither =>
      have passed := (Signature.check_eq_ok_iff
        Operator.fuzzySelectedUnion.distinct_signature).mpr admitted
      obtain ⟨names, text, count, _, heldToo, _, _, _, reads⟩ :=
        Operator.read_fuzzySelectedUnion admitted
      rw [held] at heldToo
      cases heldToo
      rw [interpret_eq registered, passed]
      dsimp only
      rw [reads]
      rcases Selection.ofText_cases (α := α) command.origin
          "TruestOrFalsest" _ with
        ⟨isEnd, _⟩ | ⟨_, failed⟩
      · exact absurd isEnd (not_or.mpr neither)
      · rw [failed]
        rfl

end Command

namespace Node

theorem build_succeeds_iff :
    Succeeds (build command) ↔ Succeeds command.interpret := by
  constructor
  · intro built
    obtain ⟨node, built⟩ := built
    unfold build at built
    split at built
    · rename_i interpreted
      exact ⟨_, interpreted⟩
    · cases built
  · intro interpreted
    obtain ⟨⟨operator, operation⟩, interpreted⟩ := interpreted
    unfold build
    split
    · exact .ok _
    · rename_i failed
      rw [interpreted] at failed
      cases failed

theorem build_eq_error_iff {error : CommandError α} :
    build command = .error error ↔ command.interpret = .error error := by
  constructor
  · intro failed
    unfold build at failed
    split at failed
    · cases failed
    · rename_i other interpreted
      cases failed
      exact interpreted
  · intro failed
    unfold build
    split
    · rename_i interpreted
      rw [interpreted] at failed
      cases failed
    · rename_i interpreted
      rw [interpreted] at failed
      cases failed
      rfl

theorem build_eq_ok_iff {node : Node α} :
    build command = .ok node ↔ node.command = command := by
  obtain ⟨own, operator, operation, interpreted⟩ := node
  unfold build
  split
  · rename_i other otherOperation otherwise
    constructor
    · intro same
      exact (congrArg Node.command (Except.ok.inj same)).symm
    · rintro rfl
      rw [interpreted] at otherwise
      cases otherwise
      rfl
  · rename_i uninterpreted
    refine iff_of_false nofun ?_
    rintro rfl
    rw [interpreted] at uninterpreted
    cases uninterpreted

/-- Which commands are built into nodes, and how the others fail.  After a
check has been passed everything can be read but a misspelled end of the fuzzy
range. -/
theorem build_outcome (command : Command α) :
    ((∃ node, build command = .ok node) ↔
      ∃ operator, command.Buildable operator) ∧
    (∀ error, build command = .error error ↔
      error.origin = command.origin ∧ command.Refused error.fault) ∧
    ∀ operator : Operator, operator.signature.check command = .ok () →
      Succeeds (operator.read command) ∨
      operator = .fuzzySelectedUnion ∧
        Succeeds (command.fieldNames "InFieldNames") ∧
        Succeeds (command.text "TruestOrFalsest") ∧
        Succeeds (command.integer "NumberToConsider") ∧
        ∃ text, operator.read command =
          .error ⟨.invalidArgument "TruestOrFalsest" (.notAnEnd text),
            command.origin⟩ := by
  refine ⟨?_, ?_, ?_⟩
  · constructor
    · intro built
      obtain ⟨⟨operator, operation⟩, interpreted⟩ :=
        build_succeeds_iff.mp built
      exact ⟨operator, Command.buildable_of_interpret interpreted⟩
    · intro buildable
      obtain ⟨operator, buildable⟩ := buildable
      exact build_succeeds_iff.mpr (Command.interpret_succeeds buildable)
  · intro error
    rw [build_eq_error_iff]
    constructor
    · exact Command.refused_of_interpret
    · obtain ⟨fault, origin⟩ := error
      rintro ⟨rfl, refused⟩
      exact Command.interpret_of_refused refused
  · intro operator passed
    have admitted :=
      (Signature.check_eq_ok_iff operator.distinct_signature).mp passed
    by_cases selects : operator = .fuzzySelectedUnion
    · subst selects
      obtain ⟨names, text, count, foundNames, _, foundText, foundCount, _,
        reads⟩ := Operator.read_fuzzySelectedUnion admitted
      rw [reads]
      rcases Selection.ofText_cases (α := α) command.origin
          "TruestOrFalsest" text with
        ⟨_, selected⟩ | ⟨_, refused⟩
      · exact Or.inl selected.map
      · exact Or.inr ⟨rfl, ⟨names, foundNames⟩, ⟨text, foundText⟩,
          ⟨count, foundCount⟩, text, by rw [refused]; rfl⟩
    · exact Or.inl (Operator.read_succeeds selects admitted)

end Node

end Build

end FuzzyGrid
