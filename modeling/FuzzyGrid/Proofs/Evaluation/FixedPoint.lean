import FuzzyGrid.Proofs.Evaluation.Execution
import FuzzyGrid.Proofs.Operator.Reading
import FuzzyGrid.Proofs.Schedule.Layered

/-!
# Results as the solution of equations

Every node is an equation: its result is what it computes from the results
around it.  A run of nodes in order ends in a context that solves all of their
equations, although each of them has only seen a part of it, and no other
context over the same start does.  The run cannot miss a result or write one
twice.
-/

namespace FuzzyGrid

variable {α : Type} [Scalar α]

namespace Node

/-- The result of the node is what it computes from the context. -/
def SolvedBy (node : Node α) (context : ResultContext α) : Prop :=
  ∃ computed, node.compute context = .ok computed ∧
    context.get? node.name = some computed.result

/-- Everything that the node refers to has a result. -/
def Closed (node : Node α) (context : ResultContext α) : Prop :=
  ∀ name ∈ node.dependencies, (context.get? name).isSome

theorem compute_of_extends {node : Node α} {earlier later : ResultContext α}
    (closed : node.Closed earlier) (grows : later.Extends earlier) :
    node.compute later = node.compute earlier :=
  node.compute_congr grows.range fun name member =>
    grows.kept name (closed name member)

theorem SolvedBy.of_extends {node : Node α} {earlier later : ResultContext α}
    (solved : node.SolvedBy earlier) (closed : node.Closed earlier)
    (grows : later.Extends earlier) : node.SolvedBy later := by
  obtain ⟨computed, computes, holds⟩ := solved
  refine ⟨computed, ?_, ?_⟩
  · rw [compute_of_extends closed grows, computes]
  · rw [grows.kept node.name (by simp [holds]), holds]

theorem SolvedBy.present {node : Node α} {context : ResultContext α}
    (solved : node.SolvedBy context) : (context.get? node.name).isSome := by
  obtain ⟨computed, _, holds⟩ := solved
  simp [holds]

end Node

/-- A context that solves nodes over an earlier one: it holds their results
and otherwise what was held. -/
structure Solves (nodes : List (Node α)) (start context : ResultContext α) :
    Prop where
  range : context.range = start.range
  kept : ∀ name ∉ nodes.map Node.name, context.get? name = start.get? name
  solved : ∀ node ∈ nodes, node.SolvedBy context

theorem Solves.extends {nodes : List (Node α)}
    {start context : ResultContext α} (solves : Solves nodes start context)
    (fresh : ∀ node ∈ nodes, start.get? node.name = none) :
    context.Extends start := by
  refine ⟨solves.range, ?_⟩
  intro name held
  apply solves.kept
  intro member
  obtain ⟨node, isNode, rfl⟩ := List.mem_map.mp member
  simp [fresh node isNode] at held

/-- Nodes that are computed from one context solve what holds their results
beside it. -/
theorem solves_of_computed {nodes : List (Node α)}
    {start context : ResultContext α}
    (closed : ∀ node ∈ nodes, node.Closed start)
    (grows : context.Extends start)
    (kept : ∀ name ∉ nodes.map Node.name, context.get? name = start.get? name)
    (computed : ∀ node ∈ nodes, ∃ computed, node.compute start = .ok computed ∧
      context.get? node.name = some computed.result) :
    Solves nodes start context := by
  refine ⟨grows.range, kept, ?_⟩
  intro node member
  obtain ⟨value, computes, holds⟩ := computed node member
  refine ⟨value, ?_, holds⟩
  rw [Node.compute_of_extends (closed node member) grows, computes]

/-! ## Uniqueness -/

theorem Ordered.dependencies_subset {known : List String}
    {nodes : List (Node α)} (ordered : Ordered known nodes) :
    ∀ node ∈ nodes, node.dependencies ⊆ known ++ nodes.map Node.name := by
  induction nodes generalizing known with
  | nil => simp
  | cons first rest induction =>
      intro node member
      rcases List.mem_cons.mp member with same | later
      · subst node
        exact List.subset_append_of_subset_left _ ordered.1
      · have subset := induction ordered.2 node later
        rw [List.append_assoc] at subset
        exact subset

/-- Contexts that agree on what is known and solve the same nodes agree on
their results. -/
theorem get?_eq_of_solvedBy {known : List String} {nodes : List (Node α)}
    {first second : ResultContext α} (ordered : Ordered known nodes)
    (sameRange : first.range = second.range)
    (agree : ∀ name ∈ known, first.get? name = second.get? name)
    (solvesFirst : ∀ node ∈ nodes, node.SolvedBy first)
    (solvesSecond : ∀ node ∈ nodes, node.SolvedBy second) :
    ∀ name ∈ known ++ nodes.map Node.name,
      first.get? name = second.get? name := by
  apply ordered.forall_names agree
  intro node member agreeBelow
  obtain ⟨one, computesOne, holdsOne⟩ := solvesFirst node member
  obtain ⟨other, computesOther, holdsOther⟩ := solvesSecond node member
  have sameCompute : node.compute first = node.compute second :=
    node.compute_congr sameRange agreeBelow
  rw [computesOne, computesOther, Except.ok.injEq] at sameCompute
  rw [holdsOne, holdsOther, sameCompute]

/-! ## Runs -/

/-- Nodes that can run from a context: what they refer to is held or comes
from an earlier node, and nothing is held under their own names. -/
structure Runnable (known : List String) (nodes : List (Node α))
    (context : ResultContext α) : Prop where
  ordered : Ordered known nodes
  distinct : (nodes.map Node.name).Nodup
  present : ∀ name ∈ known, (context.get? name).isSome
  fresh : ∀ node ∈ nodes, context.get? node.name = none

namespace Runnable

variable {known : List String} {first second : List (Node α)}
  {start middle final : ResultContext α}

theorem left (runnable : Runnable known (first ++ second) start) :
    Runnable known first start := by
  have distinct := runnable.distinct
  rw [List.map_append] at distinct
  exact ⟨(ordered_append_iff.mp runnable.ordered).1,
    (List.nodup_append.mp distinct).1, runnable.present,
    fun node member => runnable.fresh node (List.mem_append_left _ member)⟩

theorem closed_head {node : Node α}
    (runnable : Runnable known (node :: second) start) : node.Closed start :=
  fun name member => runnable.present name (runnable.ordered.1 member)

/-- Once the first nodes have their results the others can run. -/
theorem advance (runnable : Runnable known (first ++ second) start)
    (solves : Solves first start middle) :
    Runnable (known ++ first.map Node.name) second middle := by
  have grows := solves.extends runnable.left.fresh
  have distinct := runnable.distinct
  rw [List.map_append] at distinct
  obtain ⟨_, secondDistinct, apart⟩ := List.nodup_append.mp distinct
  refine ⟨(ordered_append_iff.mp runnable.ordered).2, secondDistinct, ?_, ?_⟩
  · intro name member
    rcases List.mem_append.mp member with old | new
    · exact grows.present (runnable.present name old)
    · obtain ⟨node, isNode, rfl⟩ := List.mem_map.mp new
      exact (solves.solved node isNode).present
  · intro node member
    rw [solves.kept node.name fun inFirst =>
      apart _ inFirst _ (List.mem_map_of_mem member) rfl]
    exact runnable.fresh node (List.mem_append_right _ member)

theorem closed (runnable : Runnable known first start)
    (solves : Solves first start middle) :
    ∀ node ∈ first, node.Closed middle := by
  intro node member name required
  rcases List.mem_append.mp
    (runnable.ordered.dependencies_subset node member required) with old | new
  · exact (solves.extends runnable.fresh).present (runnable.present name old)
  · obtain ⟨producer, isNode, rfl⟩ := List.mem_map.mp new
    exact (solves.solved producer isNode).present

/-- Solutions one over the other make up one. -/
theorem solves_append (runnable : Runnable known (first ++ second) start)
    (solvesFirst : Solves first start middle)
    (solvesSecond : Solves second middle final) :
    Solves (first ++ second) start final := by
  have grows : final.Extends middle :=
    solvesSecond.extends (runnable.advance solvesFirst).fresh
  refine ⟨solvesSecond.range.trans solvesFirst.range, ?_, ?_⟩
  · intro name outside
    rw [List.map_append, List.mem_append, not_or] at outside
    rw [solvesSecond.kept name outside.2, solvesFirst.kept name outside.1]
  · intro node member
    rcases List.mem_append.mp member with inFirst | inSecond
    · exact (solvesFirst.solved node inFirst).of_extends
        (runnable.left.closed solvesFirst node inFirst) grows
    · exact solvesSecond.solved node inSecond

/-- Two solutions of nodes that can run are one. -/
theorem solves_unique (runnable : Runnable known first start)
    (solvesMiddle : Solves first start middle)
    (solvesFinal : Solves first start final) : middle = final := by
  have sameRange := solvesMiddle.range.trans solvesFinal.range.symm
  have growsMiddle := solvesMiddle.extends runnable.fresh
  have growsFinal := solvesFinal.extends runnable.fresh
  have agreeKnown : ∀ name ∈ known, middle.get? name = final.get? name := by
    intro name member
    have held := runnable.present name member
    rw [growsMiddle.kept name held, growsFinal.kept name held]
  have agree := get?_eq_of_solvedBy runnable.ordered sameRange agreeKnown
    solvesMiddle.solved solvesFinal.solved
  apply ResultContext.ext_get? sameRange
  intro name
  by_cases produced : name ∈ first.map Node.name
  · exact agree name (List.mem_append_right _ produced)
  · rw [solvesMiddle.kept name produced, solvesFinal.kept name produced]

/-- A node that has been executed solves its equation. -/
theorem solves_execute {node : Node α} {session after : Session α}
    (runnable : Runnable known (node :: second) session.context)
    (run : node.execute session = (after, .ok ())) :
    Solves [node] session.context after.context := by
  obtain ⟨computed, computes, publishes⟩ := Node.execute_ok run
  have absent := (ResultContext.publish_ok_iff.mp publishes).1
  have holds := ResultContext.get?_publish publishes
  have kept : ∀ name ∉ [node].map Node.name,
      after.context.get? name = session.context.get? name := by
    intro name outside
    rw [holds, if_neg (by simpa using outside)]
  apply solves_of_computed
  · intro other member
    rw [List.mem_singleton.mp member]
    exact runnable.closed_head
  · refine ⟨ResultContext.range_publish publishes, ?_⟩
    intro name held
    apply kept
    intro same
    rw [List.map_singleton, List.mem_singleton] at same
    simp [same, absent] at held
  · exact kept
  · intro other member
    rw [List.mem_singleton.mp member]
    exact ⟨computed, computes, by simp [holds]⟩

/-- A run in order ends in a solution. -/
theorem solves_executeAll {nodes : List (Node α)}
    {session finished : Session α}
    (runnable : Runnable known nodes session.context)
    (run : Node.executeAll nodes session = (finished, .ok ())) :
    Solves nodes session.context finished.context := by
  induction nodes generalizing known session with
  | nil =>
      cases run
      exact ⟨rfl, fun _ _ => rfl, by simp⟩
  | cons node rest induction =>
      unfold Node.executeAll at run
      split at run
      · cases run
      · rename_i after executed
        have solvesNode := runnable.solves_execute executed
        have whole : Runnable known ([node] ++ rest) session.context :=
          runnable
        exact whole.solves_append solvesNode
          (induction (whole.advance solvesNode) run)

/-- Where a run in order fails, the node that fails has all that it refers
to and is not held yet. -/
theorem exists_failing {nodes : List (Node α)} {session stopped : Session α}
    {error : CommandError α}
    (runnable : Runnable known nodes session.context)
    (run : Node.executeAll nodes session = (stopped, .error error)) :
    ∃ before node after middle, nodes = before ++ node :: after ∧
      Node.executeAll before session = (middle, .ok ()) ∧
      Runnable (known ++ before.map Node.name) (node :: after)
        middle.context ∧
      node.execute middle = (stopped, .error error) := by
  obtain ⟨before, node, after, middle, rfl, ranBefore, failed⟩ :=
    Node.executeAll_error run
  have solvesBefore := runnable.left.solves_executeAll ranBefore
  exact ⟨before, node, after, middle, rfl, ranBefore,
    runnable.advance solvesBefore, failed⟩

/-- A node whose turn has come fails while computing or while its report is
delivered. -/
theorem execute_error {node : Node α} {session stopped : Session α}
    {error : CommandError α}
    (runnable : Runnable known (node :: second) session.context)
    (run : node.execute session = (stopped, .error error)) :
    node.compute session.context = .error error ∨
      error.fault.isOfDelivery = true := by
  have ways := node.executed session
  rw [run] at ways
  cases ways with
  | failed failure => exact Or.inl failure
  | undelivered _ failure => exact Or.inr (Workspace.deliverAny_error failure)
  | refused _ _ failure =>
      have held := (ResultContext.publish_error_iff.mp failure).1
      simp [runnable.fresh node List.mem_cons_self] at held

theorem executeAll_error_own {nodes : List (Node α)}
    {session stopped : Session α} {error : CommandError α}
    (runnable : Runnable known nodes session.context)
    (run : Node.executeAll nodes session = (stopped, .error error)) :
    error.fault.isOfStore = false := by
  obtain ⟨_, node, _, middle, _, _, turn, failed⟩ :=
    runnable.exists_failing run
  rcases turn.execute_error failed with computing | delivering
  · exact (Node.compute_error turn.closed_head computing).own
  · cases fault : error.fault with
    | missingResult name => simp [fault, Fault.isOfDelivery] at delivering
    | duplicateResult name => simp [fault, Fault.isOfDelivery] at delivering
    | _ => rfl

end Runnable

/-! ## Models -/

namespace Model

/-- A context that holds nothing under the names of a model. -/
def Fresh (model : Model α) (context : ResultContext α) : Prop :=
  ∀ name, name ∈ model.inputNames ∨ name ∈ model.nodeNames →
    context.get? name = none

/-- A context that holds the inputs of a model beside what was held before,
and solves the equations of its nodes. -/
structure Solution (model : Model α) (start context : ResultContext α) :
    Prop where
  range : context.range = start.range
  inputs : ∀ input ∈ model.inputs, context.get? input.1 = some input.2
  nodes : ∀ node ∈ model.nodes, node.SolvedBy context
  others : ∀ name, name ∉ model.inputNames → name ∉ model.nodeNames →
    context.get? name = start.get? name

variable {model : Model α} {levels : List (List Nat)}
  {stages : List (List (Node α))} {session : Session α}

theorem Staged.mem_names_iff (staged : model.Staged stages) {name : String} :
    name ∈ stages.flatten.map Node.name ↔ name ∈ model.nodeNames :=
  (staged.perm.map Node.name).mem_iff

/-- Over the inputs, the solutions for a model are those for its nodes in
order. -/
theorem Staged.solution_iff (staged : model.Staged stages)
    {start middle context : ResultContext α}
    (injected : Injected model.inputs start middle) :
    model.Solution start context ↔
      Solves stages.flatten middle context := by
  constructor
  · intro solution
    refine ⟨solution.range.trans injected.range.symm, ?_, ?_⟩
    · intro name outside
      rw [staged.mem_names_iff] at outside
      by_cases input : name ∈ model.inputNames
      · obtain ⟨entry, isInput, rfl⟩ := List.mem_map.mp input
        rw [solution.inputs entry isInput, injected.holds entry isInput]
      · rw [solution.others name input outside, injected.kept name input]
    · intro node member
      exact solution.nodes node (staged.perm.mem_iff.mp member)
  · intro solves
    refine ⟨solves.range.trans injected.range, ?_, ?_, ?_⟩
    · intro input member
      rw [← injected.holds input member]
      apply solves.kept
      intro produced
      exact staged.apart _ (staged.mem_names_iff.mp produced)
        (List.mem_map_of_mem member)
    · intro node member
      exact solves.solved node (staged.perm.mem_iff.mpr member)
    · intro name notInput notNode
      rw [solves.kept name (fun produced =>
        notNode (staged.mem_names_iff.mp produced))]
      exact injected.kept name notInput

/-- From a fresh context the inputs can be published, and the nodes can then
run in the order of the levels. -/
theorem Staged.exists_injected (staged : model.Staged stages)
    (fresh : model.Fresh session.context) :
    ∃ after, inject model.inputs session = (after, .ok ()) ∧
      Injected model.inputs session.context after.context ∧
      Runnable model.inputNames stages.flatten after.context := by
  obtain ⟨after, run, injected⟩ := inject_injected staged.inputsDistinct
    fun input member =>
      fresh input.1 (Or.inl (List.mem_map_of_mem member))
  refine ⟨after, run, injected, staged.layered.ordered,
    staged.distinct_flatten, ?_, ?_⟩
  · intro name member
    obtain ⟨input, isInput, rfl⟩ := List.mem_map.mp member
    simp [injected.holds input isInput]
  · intro node member
    have isNode : node.name ∈ model.nodeNames :=
      staged.mem_names_iff.mp (List.mem_map_of_mem member)
    rw [injected.kept node.name (staged.apart _ isNode)]
    exact fresh node.name (Or.inr isNode)

theorem evaluate_eq {after : Session α} (ordered : model.levels = .ok levels)
    (injects : inject model.inputs session = (after, .ok ())) :
    model.evaluate session =
      match Node.executeAll (model.stages levels).flatten after with
      | (stopped, .error error) => (stopped, .error (.aborted error))
      | (finished, .ok ()) =>
        (finished,
          .ok ⟨model.inputs.length, model.nodes.length, levels.length⟩) := by
  rw [← nodesAt_flatten]
  cases run : Node.executeAll (model.nodesAt levels.flatten) after with
  | mk last outcome =>
      cases outcome with
      | error error => simp [evaluate, ordered, injects, run]
      | ok done => simp [evaluate, ordered, injects, run]

/-- Where a model has levels and its names are free, evaluating it never
misses a result nor writes one twice.  When it succeeds it ends in the one
context that holds what was there before, the inputs, and for every node what
the node computes from this very context. -/
theorem evaluate_unique_solution (ordered : model.levels = .ok levels)
    (fresh : model.Fresh session.context) :
    (∀ stopped error, model.evaluate session = (stopped, .error error) →
      ∃ failure, error = .aborted failure ∧
        failure.fault.isOfStore = false) ∧
    ∀ finished summary, model.evaluate session = (finished, .ok summary) →
      model.Solution session.context finished.context ∧
      ∀ other, model.Solution session.context other →
        other = finished.context := by
  have staged := staged_of_levels ordered
  obtain ⟨after, injects, injected, runnable⟩ := staged.exists_injected fresh
  have evaluates := evaluate_eq ordered injects
  cases run : Node.executeAll (model.stages levels).flatten after with
  | mk last outcome =>
      rw [run] at evaluates
      cases outcome with
      | error failure =>
          dsimp only at evaluates
          constructor
          · intro stopped error failed
            rw [evaluates] at failed
            cases failed
            exact ⟨failure, rfl, runnable.executeAll_error_own run⟩
          · intro finished summary succeeded
            rw [evaluates] at succeeded
            cases succeeded
      | ok done =>
          dsimp only at evaluates
          constructor
          · intro stopped error failed
            rw [evaluates] at failed
            cases failed
          · intro finished summary succeeded
            rw [evaluates] at succeeded
            cases succeeded
            have solves := runnable.solves_executeAll run
            refine ⟨(staged.solution_iff injected).mpr solves, ?_⟩
            intro other solution
            exact runnable.solves_unique
              ((staged.solution_iff injected).mp solution) solves

end Model

namespace Sample

/-- Nothing has been computed or written yet. -/
def session : Session Float :=
  ⟨.empty .standard, .ofFiles []⟩

/-- The small model runs through, and its results solve its equations. -/
theorem evaluate_unique_solution_model :
    ∃ finished, model.evaluate session = (finished, .ok ⟨2, 3, 2⟩) ∧
      model.Solution session.context finished.context ∧
      (suitable.SolvedBy finished.context ∧ dry.SolvedBy finished.context ∧
        flat.SolvedBy finished.context) ∧
      ∀ other, model.Solution session.context other →
        other = finished.context := by
  have succeeds : (model.evaluate session).2 = .ok ⟨2, 3, 2⟩ := rfl
  have evaluates :
      model.evaluate session = ((model.evaluate session).1, .ok ⟨2, 3, 2⟩) :=
    Prod.ext rfl succeeds
  have ordered : model.levels = .ok [[1, 2], [0]] := rfl
  have fresh : model.Fresh session.context := fun _ _ => rfl
  obtain ⟨solution, unique⟩ :=
    (Model.evaluate_unique_solution ordered fresh).2 _ _ evaluates
  refine ⟨_, evaluates, solution, ⟨?_, ?_, ?_⟩, unique⟩
  · exact solution.nodes suitable (by simp [model])
  · exact solution.nodes dry (by simp [model])
  · exact solution.nodes flat (by simp [model])

end Sample

end FuzzyGrid
