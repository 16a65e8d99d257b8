import FuzzyGrid.Model
import FuzzyGrid.Proofs.Evaluation.Context
import FuzzyGrid.Proofs.Operator.ReadSet

/-!
# What executing comes to

`Node.Executed` lists the ways in which the execution of one node can end, and
everything about longer runs is taken from it.  A run that fails does so at one
node, after all the nodes before it have been executed.
-/

namespace FuzzyGrid

variable {α : Type} [Scalar α]

/-- Where an operation reports to, if it reports: a file or the printed text. -/
def Operation.destination? : Operation α → Option (Option String)
  | report _ destination => some destination
  | _ => none

/-- An operation that reports has read a line for each field, and no other one
has a report. -/
theorem Operation.report_of_compute {origin : Origin} {operation : Operation α}
    {context : ResultContext α} {computed : Computed α}
    (computes : operation.compute origin context = .ok computed) :
    (computed.report = none ∧ operation.destination? = none) ∨
      ∃ fields destination lines, operation = .report fields destination ∧
        readAll (reportLine origin context) fields = .ok lines ∧
        computed.report = some ⟨destination, lines⟩ := by
  cases operation with
  | copy field =>
      obtain ⟨_, _, returned⟩ := bind_eq_ok.mp computes
      cases returned
      exact .inl ⟨rfl, rfl⟩
  | report fields destination =>
      obtain ⟨lines, read, returned⟩ := bind_eq_ok.mp computes
      cases returned
      exact .inr ⟨fields, destination, lines, rfl, read, rfl⟩
  | layer field operation =>
      obtain ⟨_, _, rest⟩ := bind_eq_ok.mp computes
      obtain ⟨_, _, returned⟩ := bind_eq_ok.mp rest
      cases returned
      exact .inl ⟨rfl, rfl⟩
  | pair first second operation =>
      obtain ⟨_, _, rest⟩ := bind_eq_ok.mp computes
      obtain ⟨_, _, more⟩ := bind_eq_ok.mp rest
      obtain ⟨_, _, returned⟩ := bind_eq_ok.mp more
      cases returned
      exact .inl ⟨rfl, rfl⟩
  | list fields operation =>
      obtain ⟨_, _, rest⟩ := bind_eq_ok.mp computes
      obtain ⟨_, _, more⟩ := bind_eq_ok.mp rest
      obtain ⟨_, _, returned⟩ := bind_eq_ok.mp more
      cases returned
      exact .inl ⟨rfl, rfl⟩

/-- Where a computed report goes is said by the operation. -/
theorem Operation.destination_report {origin : Origin} {operation : Operation α}
    {context : ResultContext α} {computed : Computed α}
    (computes : operation.compute origin context = .ok computed) :
    computed.report.map Report.destination = operation.destination? := by
  rcases operation.report_of_compute computes with
    ⟨none_, nowhere⟩ | ⟨_, _, _, rfl, _, reports⟩
  · rw [none_, nowhere]
    rfl
  · rw [reports]
    rfl

/-- Write a report if there is one. -/
def Workspace.deliverAny (workspace : Workspace) (origin : Origin) :
    Option Report → Workspace × Except (CommandError α) Unit
  | none => (workspace, .ok ())
  | some report => workspace.deliver origin report

/-- Whether a fault is that of a report that cannot be written as a whole. -/
def Fault.isOfDelivery : Fault α → Bool
  | .invalidArgument _ (.notCreated _ _) => true
  | .invalidArgument _ (.notWritten _ _) => true
  | .invalidArgument _ (.notPrinted _) => true
  | _ => false

namespace Workspace

variable {workspace : Workspace} {origin : Origin}

omit [Scalar α]

/-- The ways in which the writing of a report can end. -/
inductive Delivered (workspace : Workspace) (origin : Origin) :
    Option Report → Workspace × Except (CommandError α) Unit → Prop where
  | unreported : Delivered workspace origin none (workspace, .ok ())
  | printed {lines : List String} {text : String}
      (passed : workspace.passed none (Report.text ⟨none, lines⟩) = (text, .ok ())) :
      Delivered workspace origin (some ⟨none, lines⟩) (workspace.print text, .ok ())
  | notPrinted {lines : List String} {text reason : String}
      (passed : workspace.passed none (Report.text ⟨none, lines⟩) =
        (text, .error reason)) :
      Delivered workspace origin (some ⟨none, lines⟩)
        (workspace.print text,
          .error ⟨.invalidArgument "InFieldNames" (.notPrinted reason), origin⟩)
  | notCreated {path : String} {lines : List String} {fault : FileFault}
      (located : workspace.locate path = .error fault) :
      Delivered workspace origin (some ⟨some path, lines⟩)
        (workspace,
          .error ⟨.invalidArgument "OutFileName" (.notCreated path fault), origin⟩)
  | written {path file : String} {lines : List String} {text : String}
      (located : workspace.locate path = .ok file)
      (passed : workspace.passed (some file) (Report.text ⟨some path, lines⟩) =
        (text, .ok ())) :
      Delivered workspace origin (some ⟨some path, lines⟩)
        (workspace.put file text, .ok ())
  | notWritten {path file : String} {lines : List String} {text reason : String}
      (located : workspace.locate path = .ok file)
      (passed : workspace.passed (some file) (Report.text ⟨some path, lines⟩) =
        (text, .error reason)) :
      Delivered workspace origin (some ⟨some path, lines⟩)
        (workspace.put file text,
          .error ⟨.invalidArgument "OutFileName" (.notWritten path reason), origin⟩)

theorem delivered (workspace : Workspace) (origin : Origin) (report : Option Report) :
    Delivered workspace origin report
      (workspace.deliverAny (α := α) origin report) := by
  match report with
  | none => exact .unreported
  | some ⟨none, lines⟩ =>
      unfold deliverAny deliver
      dsimp only
      split
      · rename_i passed
        exact .printed passed
      · rename_i passed
        exact .notPrinted passed
  | some ⟨some path, lines⟩ =>
      unfold deliverAny deliver
      dsimp only
      split
      · rename_i located
        exact .notCreated located
      · rename_i located
        split
        · rename_i passed
          exact .written located passed
        · rename_i passed
          exact .notWritten located passed

variable {report : Option Report} {after : Workspace} {error : CommandError α}

theorem origin_of_deliverAny
    (failed : workspace.deliverAny origin report = (after, .error error)) :
    error.origin = origin := by
  have ways := delivered (α := α) workspace origin report
  rw [failed] at ways
  cases ways <;> rfl

theorem deliverAny_error
    (failed : workspace.deliverAny origin report = (after, .error error)) :
    error.fault.isOfDelivery = true := by
  have ways := delivered (α := α) workspace origin report
  rw [failed] at ways
  cases ways <;> rfl

end Workspace

namespace Node

/-- The ways in which the execution of a node can end. -/
inductive Executed (node : Node α) (session : Session α) :
    Session α × Except (CommandError α) Unit → Prop where
  | failed {error : CommandError α}
      (failure : node.compute session.context = .error error) :
      Executed node session (session, .error error)
  | undelivered {computed : Computed α} {workspace : Workspace}
      {error : CommandError α}
      (success : node.compute session.context = .ok computed)
      (failure : session.workspace.deliverAny node.command.origin computed.report =
        (workspace, .error error)) :
      Executed node session (⟨session.context, workspace⟩, .error error)
  | refused {computed : Computed α} {workspace : Workspace} {error : CommandError α}
      (success : node.compute session.context = .ok computed)
      (delivered : session.workspace.deliverAny (α := α) node.command.origin
        computed.report = (workspace, .ok ()))
      (failure : session.context.publish node.command.origin node.name
        computed.result = .error error) :
      Executed node session (⟨session.context, workspace⟩, .error error)
  | published {computed : Computed α} {workspace : Workspace}
      {context : ResultContext α}
      (success : node.compute session.context = .ok computed)
      (delivered : session.workspace.deliverAny (α := α) node.command.origin
        computed.report = (workspace, .ok ()))
      (publishes : session.context.publish node.command.origin node.name
        computed.result = .ok context) :
      Executed node session (⟨context, workspace⟩, .ok ())

theorem perform_eq (node : Node α) (session : Session α) :
    node.perform session =
      match node.compute session.context with
      | .error error => (session, .error error)
      | .ok computed =>
        match session.workspace.deliverAny node.command.origin computed.report with
        | (workspace, .error error) => (⟨session.context, workspace⟩, .error error)
        | (workspace, .ok ()) =>
          (⟨session.context, workspace⟩, .ok computed.result) := by
  unfold perform
  cases node.compute session.context with
  | error error => rfl
  | ok computed =>
      obtain ⟨result, report⟩ := computed
      cases report with
      | none => rfl
      | some report => rfl

theorem executed (node : Node α) (session : Session α) :
    node.Executed session (node.execute session) := by
  unfold execute
  rw [perform_eq]
  cases success : node.compute session.context with
  | error error => exact .failed success
  | ok computed =>
      dsimp only
      rcases delivered : session.workspace.deliverAny (α := α) node.command.origin
        computed.report with ⟨workspace, error | _⟩
      · exact .undelivered success delivered
      · dsimp only
        cases publishes : session.context.publish node.command.origin node.name
            computed.result with
        | error error => exact .refused success delivered publishes
        | ok context => exact .published success delivered publishes

theorem execute_ok {node : Node α} {session after : Session α}
    (run : node.execute session = (after, .ok ())) :
    ∃ computed, node.compute session.context = .ok computed ∧
      session.context.publish node.command.origin node.name computed.result =
        .ok after.context := by
  have ways := node.executed session
  rw [run] at ways
  cases ways with
  | published success _ publishes => exact ⟨_, success, publishes⟩

theorem executeAll_append (first second : List (Node α)) (session : Session α) :
    executeAll (first ++ second) session =
      match executeAll first session with
      | (after, .error error) => (after, .error error)
      | (after, .ok ()) => executeAll second after := by
  induction first generalizing session with
  | nil => rfl
  | cons node rest induction =>
      simp only [List.cons_append, executeAll]
      split
      · rfl
      · rw [induction]

/-- A run that fails does so at one node after all the nodes before it. -/
theorem executeAll_error {nodes : List (Node α)} {session stopped : Session α}
    {error : CommandError α}
    (run : executeAll nodes session = (stopped, .error error)) :
    ∃ before node after middle, nodes = before ++ node :: after ∧
      executeAll before session = (middle, .ok ()) ∧
      node.execute middle = (stopped, .error error) := by
  induction nodes generalizing session with
  | nil => cases run
  | cons first rest induction =>
      unfold executeAll at run
      split at run
      · rename_i failed
        cases run
        exact ⟨[], first, rest, session, rfl, rfl, failed⟩
      · rename_i next executed
        obtain ⟨before, node, after, middle, rfl, ranBefore, failed⟩ :=
          induction run
        refine ⟨first :: before, node, after, middle, rfl, ?_, failed⟩
        simp only [executeAll, executed, ranBefore]

end Node

namespace Model

/-- A context that holds what an earlier one holds and the given inputs. -/
structure Injected (inputs : List (String × Result α))
    (start context : ResultContext α) : Prop where
  range : context.range = start.range
  holds : ∀ input ∈ inputs, context.get? input.1 = some input.2
  kept : ∀ name ∉ inputs.map Prod.fst, context.get? name = start.get? name

omit [Scalar α] in
/-- Inputs of distinct names that nothing is held under can be published. -/
theorem inject_injected {inputs : List (String × Result α)}
    {session : Session α} (distinct : (inputs.map Prod.fst).Nodup)
    (fresh : ∀ input ∈ inputs, session.context.get? input.1 = none) :
    ∃ after, inject inputs session = (after, .ok ()) ∧
      Injected inputs session.context after.context := by
  induction inputs generalizing session with
  | nil => exact ⟨session, rfl, rfl, by simp, fun _ _ => rfl⟩
  | cons input rest induction =>
      obtain ⟨name, result⟩ := input
      have ⟨notLater, restDistinct⟩ := List.nodup_cons.mp distinct
      have absent := fresh (name, result) List.mem_cons_self
      have publishes : session.context.publish Origin.unknown name result = .ok _ :=
        ResultContext.publish_ok_iff.mpr ⟨absent, rfl⟩
      generalize ResultContext.mk session.context.range
        (session.context.results.insert name result) = grown at publishes
      have holds := ResultContext.get?_publish publishes
      have restFresh : ∀ input ∈ rest, grown.get? input.1 = none := by
        intro input member
        have inRest : input.1 ∈ rest.map Prod.fst :=
          List.mem_map_of_mem member
        have different : input.1 ≠ name := by
          intro same
          exact notLater (same ▸ inRest)
        rw [holds, if_neg different]
        exact fresh input (List.mem_cons_of_mem _ member)
      obtain ⟨after, run, injected⟩ :=
        @induction (session.withContext grown) restDistinct restFresh
      refine ⟨after, ?_, ?_, ?_, ?_⟩
      · simp only [inject, publishes]
        exact run
      · exact injected.range.trans (ResultContext.range_publish publishes)
      · intro input member
        rcases List.mem_cons.mp member with same | later
        · subst input
          rw [injected.kept name notLater]
          exact (holds name).trans (if_pos rfl)
        · exact injected.holds input later
      · intro sought outside
        rw [List.map_cons, List.mem_cons, not_or] at outside
        rw [injected.kept sought outside.2]
        exact (holds sought).trans (if_neg outside.1)

end Model

end FuzzyGrid
