import FuzzyGrid.Operator.Catalog
import FuzzyGrid.Proofs.Evaluation.Context
import FuzzyGrid.Proofs.Text.ByteOrder

/-!
# What a signature admits

A command passes the check of a signature when the required arguments are there
and every argument is declared and of a declared kind.  Otherwise the fault
depends on nothing but the order of the declarations and the order of the
names: it is that of the first required argument that is missing, or else of
the argument with the smallest name that is not taken.
-/

namespace FuzzyGrid

variable {α : Type}

section CheckAll

variable {β ε : Type} {check : β → Except ε Unit} {items : List β}

theorem checkAll_eq_ok_iff :
    checkAll check items = .ok () ↔ ∀ item ∈ items, check item = .ok () := by
  induction items with
  | nil => simp [checkAll]
  | cons item rest induction =>
      cases first : check item with
      | error fault => simp [checkAll, first]
      | ok _ => simp [checkAll, first, induction]

/-- A check fails at the first item that does not pass it. -/
theorem checkAll_eq_error_iff {fault : ε} :
    checkAll check items = .error fault ↔
      ∃ before item after, items = before ++ item :: after ∧
        (∀ earlier ∈ before, check earlier = .ok ()) ∧
        check item = .error fault := by
  constructor
  · intro failed
    induction items with
    | nil => cases failed
    | cons item rest induction =>
        cases first : check item with
        | error other =>
            simp only [checkAll, first] at failed
            exact ⟨[], item, rest, rfl, by simp, failed ▸ first⟩
        | ok _ =>
            simp only [checkAll, first] at failed
            obtain ⟨before, failing, after, rfl, passed, fails⟩ :=
              induction failed
            exact ⟨item :: before, failing, after, rfl,
              List.forall_mem_cons.mpr ⟨first, passed⟩, fails⟩
  · intro split
    obtain ⟨before, item, after, rfl, passed, fails⟩ := split
    induction before with
    | nil => simp [checkAll, fails]
    | cons first rest induction =>
        have ⟨firstPassed, restPassed⟩ := List.forall_mem_cons.mp passed
        simp only [List.cons_append, checkAll, firstPassed]
        exact induction restPassed

end CheckAll

/-! ## Signatures -/

namespace Signature

/-- No argument is declared twice. -/
def Distinct (signature : Signature) : Prop :=
  (signature.specs.map ArgSpec.name).Nodup

instance (signature : Signature) : Decidable signature.Distinct :=
  inferInstanceAs (Decidable (List.Nodup _))

/-- A declared argument with a value of one of the declared kinds. -/
def Takes (signature : Signature) (arg : String) (value : ArgValue α) : Prop :=
  ∃ spec ∈ signature.specs, spec.name = arg ∧
    ∃ kind ∈ spec.kinds, kind.accepts value

/-- What is wrong with an argument that is not taken. -/
inductive Refuses (signature : Signature) (arg : String) (value : ArgValue α) :
    ArgReason α → Prop where
  | undeclared (absent : ∀ spec ∈ signature.specs, spec.name ≠ arg) :
      Refuses signature arg value (.undeclared signature.operator)
  | unexpected {spec : ArgSpec} (declared : spec ∈ signature.specs)
      (named : spec.name = arg)
      (refused : ∀ kind ∈ spec.kinds, ¬kind.accepts value) :
      Refuses signature arg value (.unexpected spec.kinds value)

/-- A command with all required arguments whose arguments are all taken. -/
structure Admits (signature : Signature) (command : Command α) : Prop where
  required : ∀ spec ∈ signature.required, (command.get? spec.name).isSome
  taken : ∀ arg value, command.get? arg = some value →
    signature.Takes arg value

/-- The fault of a command that is not admitted: the first required argument
that is absent, or else the argument of the smallest name that is not taken. -/
inductive Rejects (signature : Signature) (command : Command α) :
    Fault α → Prop where
  | missing {before after : List ArgSpec} {spec : ArgSpec}
      (split : signature.required = before ++ spec :: after)
      (present : ∀ earlier ∈ before, (command.get? earlier.name).isSome)
      (absent : command.get? spec.name = none) :
      Rejects signature command (.missingArgument spec.name)
  | argument {arg : String} {value : ArgValue α} {reason : ArgReason α}
      (required : ∀ spec ∈ signature.required,
        (command.get? spec.name).isSome)
      (held : command.get? arg = some value)
      (refused : signature.Refuses arg value reason)
      (smallest : ∀ other content, command.get? other = some content →
        bytesOf other < bytesOf arg → signature.Takes other content) :
      Rejects signature command (.invalidArgument arg reason)

variable {signature : Signature} {command : Command α} {arg : String}
  {value : ArgValue α}

theorem spec?_eq_none_iff :
    signature.spec? arg = none ↔ ∀ spec ∈ signature.specs, spec.name ≠ arg := by
  simp [spec?]

theorem declared_of_spec? {spec : ArgSpec}
    (found : signature.spec? arg = some spec) :
    spec ∈ signature.specs ∧ spec.name = arg := by
  unfold spec? at found
  have named := List.find?_some found
  exact ⟨List.mem_of_find?_eq_some found, eq_of_beq named⟩

theorem spec?_eq_some_iff (distinct : signature.Distinct) {spec : ArgSpec} :
    signature.spec? arg = some spec ↔
      spec ∈ signature.specs ∧ spec.name = arg := by
  refine ⟨declared_of_spec?, ?_⟩
  intro declared
  obtain ⟨member, rfl⟩ := declared
  cases found : signature.spec? spec.name with
  | none => exact absurd rfl (spec?_eq_none_iff.mp found spec member)
  | some other =>
      obtain ⟨otherMember, same⟩ := declared_of_spec? found
      rw [List.inj_on_of_nodup_map distinct otherMember member same]

theorem checkArgument_eq_ok_iff (distinct : signature.Distinct) :
    signature.checkArgument command (arg, value) = .ok () ↔
      signature.Takes arg value := by
  unfold checkArgument
  cases found : signature.spec? arg with
  | none =>
      have absent := spec?_eq_none_iff.mp found
      constructor
      · intro passed
        cases passed
      · intro taken
        obtain ⟨spec, declared, named, _⟩ := taken
        exact absurd named (absent spec declared)
  | some spec =>
      obtain ⟨declared, named⟩ := (spec?_eq_some_iff distinct).mp found
      have accepts_iff : spec.accepts value ↔ signature.Takes arg value := by
        rw [ArgSpec.accepts, List.any_eq_true]
        constructor
        · intro accepted
          exact ⟨spec, declared, named, accepted⟩
        · intro taken
          obtain ⟨other, isDeclared, sameName, accepted⟩ := taken
          rw [List.inj_on_of_nodup_map distinct isDeclared declared
            (sameName.trans named.symm)] at accepted
          exact accepted
      rw [← accepts_iff]
      by_cases accepted : spec.accepts value <;> simp [accepted]

theorem checkArgument_eq_error_iff (distinct : signature.Distinct)
    {error : CommandError α} :
    signature.checkArgument command (arg, value) = .error error ↔
      ∃ reason, error = ⟨.invalidArgument arg reason, command.origin⟩ ∧
        signature.Refuses arg value reason := by
  unfold checkArgument
  constructor
  · intro failed
    split at failed
    · rename_i found
      cases failed
      exact ⟨_, rfl, .undeclared (spec?_eq_none_iff.mp found)⟩
    · rename_i spec found
      obtain ⟨declared, named⟩ := (spec?_eq_some_iff distinct).mp found
      split at failed
      · cases failed
      · rename_i refused
        cases failed
        refine ⟨_, rfl, .unexpected declared named ?_⟩
        simpa [ArgSpec.accepts] using refused
  · intro refusal
    obtain ⟨reason, rfl, refuses⟩ := refusal
    cases refuses with
    | undeclared absent =>
        simp only [spec?_eq_none_iff.mpr absent]
    | @unexpected spec declared named refused =>
        have notAccepted : ¬spec.accepts value := by
          simpa [ArgSpec.accepts] using refused
        simp only [(spec?_eq_some_iff distinct).mpr ⟨declared, named⟩,
          if_neg notAccepted]

theorem checkPresent_eq_ok_iff {spec : ArgSpec} :
    checkPresent command spec = .ok () ↔
      (command.get? spec.name).isSome := by
  have has_eq : command.has spec.name = (command.get? spec.name).isSome := rfl
  rw [checkPresent, has_eq]
  cases command.get? spec.name <;> simp

theorem checkPresent_eq_error_iff {spec : ArgSpec} {error : CommandError α} :
    checkPresent command spec = .error error ↔
      command.get? spec.name = none ∧
        error = ⟨.missingArgument spec.name, command.origin⟩ := by
  have has_eq : command.has spec.name = (command.get? spec.name).isSome := rfl
  rw [checkPresent, has_eq]
  cases command.get? spec.name <;> simp [eq_comm]

theorem checkRequired_eq_ok_iff :
    checkAll (checkPresent command) signature.required = .ok () ↔
      ∀ spec ∈ signature.required, (command.get? spec.name).isSome := by
  simp only [checkAll_eq_ok_iff, checkPresent_eq_ok_iff]

/-- The check passes exactly the commands that are admitted. -/
theorem check_eq_ok_iff (distinct : signature.Distinct) :
    signature.check command = .ok () ↔ signature.Admits command := by
  have taken_iff :
      checkAll (signature.checkArgument command) command.args.entries = .ok () ↔
        ∀ arg value, command.get? arg = some value →
          signature.Takes arg value := by
    rw [checkAll_eq_ok_iff]
    constructor
    · intro passed arg value held
      exact (checkArgument_eq_ok_iff distinct).mp
        (passed (arg, value) (NameTable.mem_entries_iff.mpr held))
    · intro taken entry member
      exact (checkArgument_eq_ok_iff distinct).mpr
        (taken entry.1 entry.2 (NameTable.mem_entries_iff.mp member))
  unfold check
  constructor
  · intro passed
    split at passed
    · cases passed
    · rename_i complete
      exact ⟨checkRequired_eq_ok_iff.mp complete, taken_iff.mp passed⟩
  · intro admitted
    rw [checkRequired_eq_ok_iff.mpr admitted.required]
    exact taken_iff.mpr admitted.taken

/-- Of the arguments that are not taken the check reports the one whose name
has the smallest bytes. -/
theorem checkArguments_eq_error_iff (distinct : signature.Distinct)
    {error : CommandError α} :
    checkAll (signature.checkArgument command) command.args.entries = .error error ↔
      ∃ arg value reason, error = ⟨.invalidArgument arg reason, command.origin⟩ ∧
        command.get? arg = some value ∧ signature.Refuses arg value reason ∧
        ∀ other content, command.get? other = some content →
          bytesOf other < bytesOf arg → signature.Takes other content := by
  have ascending := command.args.ascending
  rw [checkAll_eq_error_iff]
  constructor
  · intro split
    obtain ⟨before, ⟨arg, value⟩, after, split, passed, fails⟩ := split
    obtain ⟨reason, rfl, refused⟩ :=
      (checkArgument_eq_error_iff distinct).mp fails
    have held : command.get? arg = some value :=
      NameTable.mem_entries_iff.mp (by simp [split])
    refine ⟨arg, value, reason, rfl, held, refused, ?_⟩
    intro other content present below
    rw [bytesOf_lt_iff] at below
    have member := NameTable.mem_entries_iff.mpr present
    rw [split] at member ascending
    rcases List.mem_append.mp member with earlier | later
    · exact (checkArgument_eq_ok_iff distinct).mp
        (passed (other, content) earlier)
    · have restAscending := (List.pairwise_append.mp ascending).2.1
      rcases List.mem_cons.mp later with same | behind
      · cases same
        exact absurd below (String.lt_irrefl _)
      · have above := (List.pairwise_cons.mp restAscending).1 _ behind
        exact absurd below (String.lt_asymm above)
  · intro refusal
    obtain ⟨arg, value, reason, rfl, held, refused, smallest⟩ := refusal
    obtain ⟨before, after, split⟩ :=
      List.append_of_mem (NameTable.mem_entries_iff.mpr held)
    refine ⟨before, (arg, value), after, split, ?_,
      (checkArgument_eq_error_iff distinct).mpr ⟨reason, rfl, refused⟩⟩
    intro earlier member
    have present : command.get? earlier.1 = some earlier.2 := by
      apply NameTable.mem_entries_iff.mp
      rw [split]
      exact List.mem_append_left _ member
    rw [split] at ascending
    have below := (List.pairwise_append.mp ascending).2.2 _ member _
      List.mem_cons_self
    exact (checkArgument_eq_ok_iff distinct).mpr
      (smallest earlier.1 earlier.2 present (bytesOf_lt_iff.mpr below))

theorem check_eq_error_iff (distinct : signature.Distinct)
    {error : CommandError α} :
    signature.check command = .error error ↔
      error.origin = command.origin ∧ signature.Rejects command error.fault := by
  unfold check
  constructor
  · intro failed
    split at failed
    · rename_i other incomplete
      cases failed
      obtain ⟨before, spec, after, split, passed, fails⟩ :=
        checkAll_eq_error_iff.mp incomplete
      obtain ⟨absent, rfl⟩ := checkPresent_eq_error_iff.mp fails
      exact ⟨rfl, .missing split
        (fun earlier member => checkPresent_eq_ok_iff.mp (passed earlier member))
        absent⟩
    · rename_i complete
      obtain ⟨arg, value, reason, rfl, held, refused, smallest⟩ :=
        (checkArguments_eq_error_iff distinct).mp failed
      exact ⟨rfl,
        .argument (checkRequired_eq_ok_iff.mp complete) held refused smallest⟩
  · obtain ⟨fault, origin⟩ := error
    rintro ⟨rfl, rejects⟩
    cases rejects with
    | missing split present absent =>
        have incomplete := checkAll_eq_error_iff.mpr
          ⟨_, _, _, split,
            fun earlier member =>
              checkPresent_eq_ok_iff.mpr (present earlier member),
            checkPresent_eq_error_iff.mpr ⟨absent, rfl⟩⟩
        rw [incomplete]
    | argument required held refused smallest =>
        rw [checkRequired_eq_ok_iff.mpr required]
        exact (checkArguments_eq_error_iff distinct).mpr
          ⟨_, _, _, rfl, held, refused, smallest⟩

end Signature

/-! ## Operators -/

namespace Operator

theorem distinct_signature (operator : Operator) :
    operator.signature.Distinct := by
  cases operator <;> decide

theorem ofName?_name (operator : Operator) :
    ofName? operator.name = some operator := by
  cases operator <;> rfl

theorem ofName?_eq_some_iff {name : String} {operator : Operator} :
    ofName? name = some operator ↔ operator.name = name := by
  constructor
  · intro found
    unfold ofName? at found
    have named := List.find?_some found
    exact eq_of_beq named
  · intro named
    rw [← named, ofName?_name]

theorem ofName?_eq_none_iff {name : String} :
    ofName? name = none ↔ ∀ operator : Operator, operator.name ≠ name := by
  constructor
  · intro unknown operator named
    rw [ofName?_eq_some_iff.mpr named] at unknown
    cases unknown
  · intro unnamed
    cases found : ofName? name with
    | none => rfl
    | some operator =>
        exact absurd (ofName?_eq_some_iff.mp found) (unnamed operator)

end Operator

end FuzzyGrid
