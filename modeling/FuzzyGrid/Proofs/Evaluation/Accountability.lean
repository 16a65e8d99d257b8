import FuzzyGrid.Proofs.Evaluation.FailFast
import FuzzyGrid.Proofs.Evaluation.Refinement
import FuzzyGrid.Proofs.Operator.Subjects

/-!
# Errors lead to their commands

While a node is read, all that it can still fail for is known from its command.
So whenever one fails, on its own or among the nodes of a level that are worked
on side by side, the error leads to the command of the node that has failed.
-/

namespace FuzzyGrid

open Relation (ReflTransGen)

variable {α : Type} [Scalar α]

namespace Parallel

open Reading (Confined)

variable {node : Node α} {nodes : List (Node α)} {state next : State α}

/-- A job that fails for nothing but what leads to the command of its node. -/
inductive Job.Accountable : Job α → Prop where
  | waiting {node : Node α} : Accountable ⟨node, .waiting⟩
  | reading {node : Node α} {rest : Reading α (Computed α)}
      (confined : Confined node.command.origin node.dependencies
        node.operation.blamed rest) :
      Accountable ⟨node, .reading rest⟩
  | published {node : Node α} : Accountable ⟨node, .published⟩
  | failed {node : Node α} {error : CommandError α}
      (owns : node.command.Owns error) : Accountable ⟨node, .failed error⟩
  | skipped {node : Node α} : Accountable ⟨node, .skipped⟩

theorem Advances.accountable {context grown : ResultContext α}
    {current next : Work α} (advances : Advances node context current grown next)
    (accountable : Job.Accountable ⟨node, current⟩) :
    Job.Accountable ⟨node, next⟩ := by
  cases advances with
  | begin => exact .reading (node.reading_confined _)
  | fetch _ =>
      cases accountable with
      | reading confined =>
          cases confined with
          | fetch _ rest => exact .reading (rest _)
  | miss _ =>
      cases accountable with
      | reading confined =>
          cases confined with
          | fetch listed _ => exact .failed ⟨rfl, Node.concerns_dependency listed⟩
  | fail =>
      cases accountable with
      | reading confined =>
          cases confined with
          | fail blames =>
              exact .failed ⟨blames.raised, Node.concerns_blamed blames.subject⟩
  | publish _ => exact .published
  | refuse refused => exact .failed (Node.owns_of_publish refused)

/-- A state of work on given nodes in which every job is accountable. -/
structure State.Accountable (nodes : List (Node α)) (state : State α) : Prop where
  jobs : ∀ job ∈ state.jobs, job.node ∈ nodes ∧ job.Accountable
  later : ∀ level ∈ state.later, ∀ node ∈ level, node ∈ nodes

theorem State.Accountable.start {stages : List (List (Node α))}
    (among : ∀ level ∈ stages, ∀ node ∈ level, node ∈ nodes)
    (context : ResultContext α) :
    State.Accountable nodes (.start context stages) := by
  refine ⟨?_, among⟩
  intro job member
  cases member

/-- One job may be replaced by an accountable one of the same node. -/
theorem State.Accountable.replace {context grown : ResultContext α}
    {before after : List (Job α)} {later : List (List (Node α))}
    {current next : Work α}
    (accountable : State.Accountable nodes
      ⟨context, before ++ ⟨node, current⟩ :: after, later⟩)
    (own : Job.Accountable ⟨node, current⟩ → Job.Accountable ⟨node, next⟩) :
    State.Accountable nodes ⟨grown, before ++ ⟨node, next⟩ :: after, later⟩ := by
  obtain ⟨jobs, ofLater⟩ := accountable
  obtain ⟨ofBefore, rest⟩ := List.forall_mem_append.mp jobs
  obtain ⟨⟨isNode, ofJob⟩, ofAfter⟩ := List.forall_mem_cons.mp rest
  refine ⟨List.forall_mem_append.mpr ⟨ofBefore, ?_⟩, ofLater⟩
  exact List.forall_mem_cons.mpr ⟨⟨isNode, own ofJob⟩, ofAfter⟩

theorem State.Accountable.step (accountable : state.Accountable nodes)
    (step : Step state next) : next.Accountable nodes := by
  cases step with
  | work advances => exact accountable.replace advances.accountable
  | skip _ => exact accountable.replace fun _ => .skipped
  | turn _ =>
      obtain ⟨ofLevel, ofLater⟩ := List.forall_mem_cons.mp accountable.later
      refine ⟨?_, ofLater⟩
      intro job member
      obtain ⟨node, inLevel, rfl⟩ := List.mem_map.mp member
      exact ⟨ofLevel node inLevel, .waiting⟩

theorem State.Accountable.steps (accountable : state.Accountable nodes)
    (steps : ReflTransGen Step state next) : next.Accountable nodes := by
  induction steps with
  | refl => exact accountable
  | tail _ step induction => exact induction.step step

end Parallel

namespace Model

open Parallel

variable {model : Model α} {session : Session α}

theorem FailsAt.mem_nodes {earlier later : List Nat} {node : Node α}
    {stopped : Session α} {failure : CommandError α}
    (failsAt : model.FailsAt session earlier node later stopped failure) :
    node ∈ model.nodes := by
  obtain ⟨position, _, found⟩ := failsAt.turn
  exact List.mem_of_getElem? found

theorem mem_nodes_of_mem_stages {levels : List (List Nat)}
    {level : List (Node α)} (isLevel : level ∈ model.stages levels) {node : Node α}
    (member : node ∈ level) : node ∈ model.nodes := by
  obtain ⟨positions, _, rfl⟩ := List.mem_map.mp isLevel
  exact model.nodesAt_subset positions member

theorem InParallel.accountable {state : State α}
    (reached : model.InParallel session state) : state.Accountable model.nodes := by
  obtain ⟨levels, after, _, _, steps⟩ := reached
  refine State.Accountable.steps (.start ?_ after.context) steps
  intro level isLevel node member
  exact mem_nodes_of_mem_stages isLevel member

/-- A node that fails when its model is evaluated, with the error that is
returned. -/
theorem exists_failing_of_evaluate {stopped : Session α} {error : CommandError α}
    (failed : model.evaluate session = (stopped, .error (.aborted error))) :
    ∃ node ∈ model.nodes, ∃ turn, node.execute turn = (stopped, .error error) := by
  rcases evaluate_error failed with ⟨_, _, other⟩ | ⟨_, _, _, other⟩ |
    ⟨_, node, _, failure, failsAt, same⟩
  · cases other
  · cases other
  · cases same
    obtain ⟨_, turn, _, _, fails⟩ := failsAt.fails
    exact ⟨node, failsAt.mem_nodes, turn, fails⟩

end Model

/-- Every error leads to a command, to the one that cannot be built, to that of
the node that is computed, performed or executed, and where a model is evaluated
to that of the node that has failed, be it one after another or in parallel. -/
theorem errors_lead_to_commands :
    (∀ (command : Command α) (error : CommandError α),
      Node.build command = .error error → command.Owns error) ∧
    (∀ (command : Command α) (node : Node α), Node.build command = .ok node →
      (∀ context error, node.compute context = .error error → command.Owns error) ∧
      (∀ session after error, node.perform session = (after, .error error) →
        command.Owns error) ∧
      ∀ session after error, node.execute session = (after, .error error) →
        command.Owns error) ∧
    ∀ (model : Model α) (session : Session α),
      (∀ stopped error,
        model.evaluate session = (stopped, .error (.aborted error)) →
        ∃ node ∈ model.nodes, node.command.Owns error ∧
          ∃ turn, node.execute turn = (stopped, .error error)) ∧
      ∀ (state : Parallel.State α) (error : CommandError α),
        model.InParallel session state → state.Returns (.error error) →
        ∃ node ∈ model.nodes, node.command.Owns error ∧
          ⟨node, .failed error⟩ ∈ state.jobs := by
  refine ⟨fun _ _ => Command.owns_of_build, ?_, ?_⟩
  · intro command node built
    obtain rfl := Node.build_eq_ok_iff.mp built
    exact ⟨fun _ _ => Node.owns_of_compute, fun _ _ _ => Node.owns_of_perform,
      fun _ _ _ => Node.owns_of_execute⟩
  · intro model session
    constructor
    · intro stopped error failed
      obtain ⟨node, isNode, turn, fails⟩ := Model.exists_failing_of_evaluate failed
      exact ⟨node, isNode, Node.owns_of_execute fails, turn, fails⟩
    · intro state error reached returns
      cases returns with
      | @failure job _ member failed =>
          obtain ⟨node, work⟩ := job
          cases failed
          obtain ⟨isNode, accountable⟩ := reached.accountable.jobs _ member
          cases accountable with
          | failed owns => exact ⟨node, isNode, owns, member⟩

namespace Sample

/-- A command with an operator that there is not. -/
def misnamed : Command Float :=
  ⟨"Steep", "FuzzyNott", ⟨[("InFieldName", .text "Slope")], by decide⟩,
    ⟨"model.mpt", 7, "Steep = FuzzyNott(Slope)"⟩⟩

/-- The misnamed command owns the error of its own building, and a node of the
faulty model the error that its evaluation ends with. -/
theorem errors_lead_to_commands_faulty :
    misnamed.Owns ⟨.unknownOperator "FuzzyNott", ⟨"model.mpt", 7,
      "Steep = FuzzyNott(Slope)"⟩⟩ ∧
    ∃ stopped, ∃ node ∈ faulty.nodes,
      node.command.Owns ⟨.tooFewInputs "InFieldNames" 2 1,
        ⟨"model.mpt", 4, "Alone = FuzzyXOr([Dry])"⟩⟩ ∧
      ∃ turn, node.execute turn = (stopped, .error ⟨.tooFewInputs "InFieldNames" 2 1,
        ⟨"model.mpt", 4, "Alone = FuzzyXOr([Dry])"⟩⟩) := by
  obtain ⟨building, _, evaluating⟩ := errors_lead_to_commands (α := Float)
  have unbuilt : Node.build misnamed = .error _ := rfl
  have aborts : (faulty.evaluate session).2 = .error (.aborted
      ⟨.tooFewInputs "InFieldNames" 2 1,
        ⟨"model.mpt", 4, "Alone = FuzzyXOr([Dry])"⟩⟩) := rfl
  exact ⟨building _ _ unbuilt, _, (evaluating faulty session).1 _ _
    (Prod.ext rfl aborts)⟩

end Sample

end FuzzyGrid
