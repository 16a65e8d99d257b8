import FuzzyGrid.Proofs.Evaluation.Execution
import FuzzyGrid.Proofs.Operator.Admission
import FuzzyGrid.Proofs.Operator.Reading

/-!
# What errors are about

An error has the place of a command and is about one name.  Whatever a command
fails in, being built, computed or executed, the place is its own and the name
is one that can be found there: its operator, an argument, or a result.
-/

namespace FuzzyGrid

variable {α : Type}

namespace Command

/-- The names that can be found at a command: those in it and those that its
operator declares. -/
inductive Concerns (command : Command α) : String → Prop where
  | operator : Concerns command command.operator
  | declared {operator : Operator} {spec : ArgSpec}
      (registered : operator.name = command.operator)
      (isDeclared : spec ∈ operator.signature.specs) : Concerns command spec.name
  | given {arg : String} (has : command.has arg = true) : Concerns command arg
  | dependency {operator : Operator} {name : String}
      (registered : operator.name = command.operator)
      (refers : name ∈ operator.signature.fieldReferences command) :
      Concerns command name
  | result : Concerns command command.result

/-- An error that leads to a command: it has the place of the command and is
about one of its names. -/
structure Owns (command : Command α) (error : CommandError α) : Prop where
  origin : error.origin = command.origin
  subject : command.Concerns error.fault.subject

theorem Concerns.of_held {command : Command α} {arg : String} {value : ArgValue α}
    (held : command.get? arg = some value) : command.Concerns arg := by
  have has_eq : command.has arg = (command.get? arg).isSome := rfl
  exact .given (has_eq.trans (held ▸ rfl))

end Command

/-! ## Commands that are not built -/

theorem Signature.Rejects.concerns {operator : Operator} {command : Command α}
    {fault : Fault α} (registered : operator.name = command.operator)
    (rejects : operator.signature.Rejects command fault) :
    command.Concerns fault.subject := by
  cases rejects with
  | @missing before after spec split _ _ =>
      have required : spec ∈ operator.signature.required :=
        split ▸ List.mem_append_right _ List.mem_cons_self
      exact .declared registered (List.mem_append_left _ required)
  | argument _ held _ _ => exact .of_held held

theorem Command.Refused.concerns {command : Command α} {fault : Fault α}
    (refused : command.Refused fault) : command.Concerns fault.subject := by
  cases refused with
  | unknown _ => exact .operator
  | rejected registered rejects => exact rejects.concerns registered
  | misspelled _ _ held _ => exact .of_held held

/-! ## Arguments that operations fail for -/

/-- The names of all declared arguments. -/
def Operator.arguments (operator : Operator) : List String :=
  operator.signature.specs.map ArgSpec.name

section

variable {name : String}

theorem Operator.declared_of_all {operator : Operator} {names : List String}
    (declared : names.all operator.arguments.contains = true) (member : name ∈ names) :
    name ∈ operator.arguments :=
  List.contains_iff_mem.mp (List.all_eq_true.mp declared name member)

theorem LayerOperation.declared_of_blamed {operation : LayerOperation α}
    (blamed : name ∈ operation.blamed) : name ∈ operation.operator.arguments := by
  refine Operator.declared_of_all ?_ blamed
  cases operation <;> rfl

theorem PairOperation.declared (operation : PairOperation) :
    "B" ∈ operation.operator.arguments := by
  cases operation <;> decide

theorem ListOperation.declared_of_blamed {operation : ListOperation α}
    (blamed : name ∈ operation.blamed) : name ∈ operation.operator.arguments := by
  refine Operator.declared_of_all ?_ blamed
  cases operation <;> rfl

/-- What an operation fails for its operator declares, or the operation looks
it up. -/
theorem Operation.declared_or_field {operation : Operation α}
    (blamed : name ∈ operation.blamed) :
    name ∈ operation.operator.arguments ∨ name ∈ operation.fields := by
  cases operation with
  | copy field => cases blamed
  | report fields destination => cases blamed
  | layer field operation =>
      rcases List.mem_cons.mp blamed with rfl | own
      · exact Or.inr List.mem_cons_self
      · exact Or.inl (LayerOperation.declared_of_blamed own)
  | pair first second operation =>
      rcases List.mem_cons.mp blamed with rfl | rest
      · exact Or.inr List.mem_cons_self
      · rcases List.mem_cons.mp rest with rfl | own
        · exact Or.inr (List.mem_cons_of_mem _ List.mem_cons_self)
        · rw [List.mem_singleton.mp own]
          exact Or.inl operation.declared
  | list fields operation =>
      rcases List.mem_append.mp blamed with own | isField
      · exact Or.inl (ListOperation.declared_of_blamed own)
      · exact Or.inr isField

end

theorem Operator.file_declared (operator : Operator) :
    "OutFileName" ∈ operator.arguments := by
  cases operator <;> decide

/-! ## Nodes -/

variable [Scalar α]

theorem Command.owns_of_build {command : Command α} {error : CommandError α}
    (failed : Node.build command = .error error) : command.Owns error := by
  obtain ⟨origin, refused⟩ := refused_of_interpret (Node.build_eq_error_iff.mp failed)
  exact ⟨origin, refused.concerns⟩

namespace Node

variable {node : Node α} {error : CommandError α}

theorem concerns_argument {name : String} (declared : name ∈ node.operator.arguments) :
    node.command.Concerns name := by
  obtain ⟨spec, isDeclared, rfl⟩ := List.mem_map.mp declared
  exact .declared (Command.buildable_of_interpret node.interpreted).registered isDeclared

theorem concerns_dependency {name : String} (refers : name ∈ node.dependencies) :
    node.command.Concerns name :=
  .dependency (Command.buildable_of_interpret node.interpreted).registered refers

theorem concerns_blamed {name : String} (blamed : name ∈ node.operation.blamed) :
    node.command.Concerns name := by
  rcases Operation.declared_or_field blamed with declared | isField
  · rw [node.operator_eq] at declared
    exact concerns_argument declared
  · exact concerns_dependency (node.mem_dependencies_of_mem_fields isField)

theorem owns_of_compute {context : ResultContext α}
    (failed : node.compute context = .error error) : node.command.Owns error := by
  rw [← run_reading] at failed
  obtain ⟨origin, subject⟩ := (node.reading_confined context.range).of_run_error failed
  refine ⟨origin, ?_⟩
  rcases subject with refers | blamed
  · exact concerns_dependency refers
  · exact concerns_blamed blamed

/-- Only a report is written, so what its operator declares is blamed for it. -/
theorem owns_of_deliverAny {context : ResultContext α} {computed : Computed α}
    {workspace after : Workspace} (success : node.compute context = .ok computed)
    (failed : workspace.deliverAny node.command.origin computed.report =
      (after, .error error)) : node.command.Owns error := by
  have listed : "InFieldNames" ∈ node.operator.arguments := by
    rcases Operation.report_of_compute success with
      ⟨unreported, _⟩ | ⟨fields, destination, _, reports, _⟩
    · rw [unreported] at failed
      cases failed
    · rw [← node.operator_eq, reports]
      exact (by decide : "InFieldNames" ∈ Operator.printVariables.arguments)
  have ways := Workspace.delivered (α := α) workspace node.command.origin computed.report
  generalize computed.report = report at ways failed
  rw [failed] at ways
  cases ways with
  | notPrinted _ => exact ⟨rfl, concerns_argument listed⟩
  | notCreated _ => exact ⟨rfl, concerns_argument node.operator.file_declared⟩
  | notWritten _ _ => exact ⟨rfl, concerns_argument node.operator.file_declared⟩

theorem owns_of_publish {context : ResultContext α} {result : Result α}
    (refused : context.publish node.command.origin node.name result =
      .error error) : node.command.Owns error := by
  obtain ⟨_, rfl⟩ := ResultContext.publish_error_iff.mp refused
  exact ⟨rfl, .result⟩

theorem owns_of_perform {session after : Session α}
    (failed : node.perform session = (after, .error error)) :
    node.command.Owns error := by
  rw [perform_eq] at failed
  split at failed
  · rename_i uncomputed
    cases failed
    exact owns_of_compute uncomputed
  · rename_i computes
    split at failed
    · rename_i undelivered
      cases failed
      exact owns_of_deliverAny computes undelivered
    · cases failed

theorem owns_of_execute {session after : Session α}
    (failed : node.execute session = (after, .error error)) :
    node.command.Owns error := by
  have ways := node.executed session
  rw [failed] at ways
  cases ways with
  | failed uncomputed => exact owns_of_compute uncomputed
  | undelivered computes undelivered => exact owns_of_deliverAny computes undelivered
  | refused _ _ refused => exact owns_of_publish refused

end Node

end FuzzyGrid
