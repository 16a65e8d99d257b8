import FuzzyGrid.Proofs.Evaluation.FailFast

/-!
# When evaluation succeeds

A run computes every node once and delivers its report.  Whether a report can
be delivered depends on the folders and on what the outputs take, which no run
changes, and what a node computes is fixed by the equations of the nodes.  So a
model that has levels evaluates on free names exactly when some context solves it
and each of its reports can be delivered where the run starts.
-/

namespace FuzzyGrid

variable {α : Type}

/-! ## Delivery -/

namespace Workspace

/-- Folders are entered by folders alone: files only decide which fault there
is. -/
theorem enter_of_folders {first second : Workspace}
    (same : first.folders = second.folders) {folder path : String}
    {names : List String} (entered : first.enter folder names = .ok path) :
    second.enter folder names = .ok path := by
  induction names generalizing folder with
  | nil => exact entered
  | cons name rest induction =>
      unfold enter at entered ⊢
      rw [same] at entered
      dsimp only at entered ⊢
      split_ifs at entered ⊢
      · exact induction entered
      · exact induction entered

theorem locate_of_folders {first second : Workspace}
    (same : first.folders = second.folders) {path file : String}
    (located : first.locate path = .ok file) :
    second.locate path = .ok file := by
  unfold locate locateIn at located ⊢
  rw [same] at located
  dsimp only at located ⊢
  split at located
  · cases located
  · rename_i named
    rw [if_neg named]
    split at located
    · cases located
    · rename_i noNul
      rw [if_neg noNul]
      split at located
      · cases located
      · rename_i short
        rw [if_neg short]
        cases trimmed : (path.splitOn "/").reverse.dropWhile
            (fun segment => decide (segment = "")) with
        | nil =>
            rw [trimmed] at located
            cases located
        | cons name folders =>
            rw [trimmed] at located
            obtain ⟨folder, entered, rest⟩ := bind_eq_ok.mp located
            exact bind_eq_ok.mpr ⟨folder, enter_of_folders same entered, rest⟩

/-- Whether a report to a file, or to the printed text, is written as a whole: its
file can be created, and the output takes all of the text. -/
def Accepts (workspace : Workspace) : Option String → Prop
  | none => workspace.shortWrite? none = none
  | some path => ∃ file, workspace.locate path = .ok file ∧
      workspace.shortWrite? (some file) = none

/-- Workspaces that accept the same reports: they have the same folders, and their
outputs take as much. -/
structure SameOutputs (first second : Workspace) : Prop where
  folders : first.folders = second.folders
  shortWrite? : first.shortWrite? = second.shortWrite?

namespace SameOutputs

variable {first second third : Workspace}

theorem refl (workspace : Workspace) : workspace.SameOutputs workspace :=
  ⟨rfl, rfl⟩

theorem symm (same : first.SameOutputs second) : second.SameOutputs first :=
  ⟨same.folders.symm, same.shortWrite?.symm⟩

theorem trans (same : first.SameOutputs second) (too : second.SameOutputs third) :
    first.SameOutputs third :=
  ⟨same.folders.trans too.folders, same.shortWrite?.trans too.shortWrite?⟩

theorem accepts (same : first.SameOutputs second) {destination : Option String}
    (accepted : first.Accepts destination) : second.Accepts destination := by
  cases destination with
  | none => exact (congrFun same.shortWrite? none).symm.trans accepted
  | some path =>
      obtain ⟨file, located, whole⟩ := accepted
      exact ⟨file, locate_of_folders same.folders located,
        (congrFun same.shortWrite? _).symm.trans whole⟩

end SameOutputs

variable {workspace after : Workspace} {origin : Origin} {report : Option Report}

theorem passed_ok_iff {output : Option String} {text : String} :
    (∃ taken, workspace.passed output text = (taken, .ok ())) ↔
      workspace.shortWrite? output = none := by
  unfold passed
  cases workspace.shortWrite? output with
  | none => simp
  | some short => simp

/-- A report can be delivered where the workspace accepts it. -/
theorem deliverAny_succeeds_iff :
    (∃ after, workspace.deliverAny (α := α) origin report = (after, .ok ())) ↔
      ∀ destination ∈ report.map Report.destination,
        workspace.Accepts destination := by
  have ways := delivered (α := α) workspace origin report
  generalize workspace.deliverAny (α := α) origin report = run at ways
  cases ways with
  | unreported => simp
  | printed passed => simpa [Accepts] using passed_ok_iff.mp ⟨_, passed⟩
  | notPrinted passed =>
      have cut : ¬workspace.shortWrite? none = none := by
        intro whole
        obtain ⟨taken, passes⟩ := passed_ok_iff.mpr whole
        rw [passes] at passed
        cases passed
      simpa [Accepts] using cut
  | notCreated located => simp [Accepts, located]
  | written located passed =>
      simpa [Accepts, located] using passed_ok_iff.mp ⟨_, passed⟩
  | @notWritten _ file _ _ _ located passed =>
      have cut : ¬workspace.shortWrite? (some file) = none := by
        intro whole
        obtain ⟨taken, passes⟩ := passed_ok_iff.mpr whole
        rw [passes] at passed
        cases passed
      simpa [Accepts, located] using cut

/-- No folder appears or disappears when a report is written, and the outputs go on
as they did. -/
theorem sameOutputs_of_deliverAny {outcome : Except (CommandError α) Unit}
    (delivers : workspace.deliverAny origin report = (after, outcome)) :
    after.SameOutputs workspace := by
  have ways := delivered (α := α) workspace origin report
  rw [delivers] at ways
  cases ways <;> exact ⟨rfl, rfl⟩

end Workspace

variable [Scalar α]

namespace Node

variable {node : Node α} {session after : Session α}

/-- The report of the node, if it writes one, can be delivered. -/
def DeliversIn (node : Node α) (workspace : Workspace) : Prop :=
  ∀ destination ∈ node.operation.destination?, workspace.Accepts destination

theorem DeliversIn.of_sameOutputs {first second : Workspace}
    (delivers : node.DeliversIn first) (same : first.SameOutputs second) :
    node.DeliversIn second :=
  fun destination reports => same.accepts (delivers destination reports)

theorem deliversIn_iff {context : ResultContext α} {computed : Computed α}
    (computes : node.compute context = .ok computed) {workspace : Workspace} :
    node.DeliversIn workspace ↔
      ∃ after, workspace.deliverAny (α := α) node.command.origin computed.report =
        (after, .ok ()) := by
  rw [Workspace.deliverAny_succeeds_iff, Operation.destination_report computes]
  rfl

/-! ## Outputs -/

theorem sameOutputs_execute (node : Node α) (session : Session α) :
    (node.execute session).1.workspace.SameOutputs session.workspace := by
  have ways := node.executed session
  generalize node.execute session = run at ways ⊢
  cases ways with
  | failed _ => exact .refl _
  | undelivered _ failure => exact Workspace.sameOutputs_of_deliverAny failure
  | refused _ delivered _ => exact Workspace.sameOutputs_of_deliverAny delivered
  | published _ delivered _ => exact Workspace.sameOutputs_of_deliverAny delivered

theorem sameOutputs_executeAll (nodes : List (Node α)) (session : Session α) :
    (executeAll nodes session).1.workspace.SameOutputs session.workspace := by
  induction nodes generalizing session with
  | nil => exact .refl _
  | cons node rest induction =>
      have kept := node.sameOutputs_execute session
      unfold executeAll
      split
      · rename_i ran
        rw [ran] at kept
        exact kept
      · rename_i ran
        rw [ran] at kept
        exact (induction _).trans kept

/-- Nodes that have been executed could deliver their reports. -/
theorem deliversIn_of_executeAll {nodes : List (Node α)}
    (run : executeAll nodes session = (after, .ok ())) :
    ∀ node ∈ nodes, node.DeliversIn session.workspace := by
  induction nodes generalizing session with
  | nil => simp
  | cons first rest induction =>
      have kept := first.sameOutputs_execute session
      have ways := first.executed session
      unfold executeAll at run
      split at run
      · cases run
      · rename_i middle ran
        rw [ran] at kept ways
        cases ways with
        | published computes delivered _ =>
            intro node member
            rcases List.mem_cons.mp member with same | later
            · subst node
              exact (deliversIn_iff computes).mpr ⟨_, delivered⟩
            · exact (induction run node later).of_sameOutputs kept

end Node

/-! ## Runs -/

/-- A run goes through where a context solves its nodes and their reports can
be delivered. -/
theorem Runnable.executeAll_succeeds {known : List String}
    {nodes : List (Node α)} {session : Session α} {context : ResultContext α}
    (runnable : Runnable known nodes session.context)
    (sameRange : session.context.range = context.range)
    (agree : ∀ name ∈ known, session.context.get? name = context.get? name)
    (solved : ∀ node ∈ nodes, node.SolvedBy context)
    (delivers : ∀ node ∈ nodes, node.DeliversIn session.workspace) :
    ∃ finished, Node.executeAll nodes session = (finished, .ok ()) := by
  cases run : Node.executeAll nodes session with
  | mk last outcome =>
      cases outcome with
      | ok done => exact ⟨last, rfl⟩
      | error error =>
          exfalso
          obtain ⟨before, node, after, middle, rfl, ran, turn, failed⟩ :=
            runnable.exists_failing run
          -- Up to the node that fails the run has found what the context
          -- holds, so that the node computes what it computes there.
          have solvesBefore := runnable.left.solves_executeAll ran
          have grows := solvesBefore.extends runnable.left.fresh
          have middleRange := solvesBefore.range.trans sameRange
          have middleKnown : ∀ name ∈ known,
              middle.context.get? name = context.get? name := by
            intro name member
            rw [grows.kept name (runnable.present name member), agree name member]
          have agreeMiddle := get?_eq_of_solvedBy runnable.left.ordered
            middleRange middleKnown solvesBefore.solved
            fun other member => solved other (List.mem_append_left _ member)
          have isNode : node ∈ before ++ node :: after :=
            List.mem_append_right _ List.mem_cons_self
          obtain ⟨computed, computes, _⟩ := solved node isNode
          have here : node.compute middle.context = .ok computed := by
            rw [← computes]
            exact node.compute_congr middleRange fun name member =>
              agreeMiddle name (turn.ordered.1 member)
          have kept := Node.sameOutputs_executeAll before session
          rw [ran] at kept
          obtain ⟨_, delivered⟩ := (Node.deliversIn_iff here).mp
            ((delivers node isNode).of_sameOutputs kept.symm)
          have ways := node.executed middle
          rw [failed] at ways
          cases ways with
          | failed failure =>
              rw [here] at failure
              cases failure
          | undelivered success failure =>
              rw [here] at success
              cases success
              rw [delivered] at failure
              cases failure
          | refused _ _ failure =>
              have held := (ResultContext.publish_error_iff.mp failure).1
              simp [turn.fresh node List.mem_cons_self] at held

/-! ## Models -/

namespace Model

/-- A context that holds the inputs of a model and solves its nodes. -/
structure SolvedBy (model : Model α) (context : ResultContext α) : Prop where
  inputs : ∀ input ∈ model.inputs, context.get? input.1 = some input.2
  nodes : ∀ node ∈ model.nodes, node.SolvedBy context

variable {model : Model α} {session finished : Session α} {summary : Summary}

omit [Scalar α] in
theorem workspace_inject (inputs : List (String × Result α))
    (session : Session α) :
    (inject inputs session).1.workspace = session.workspace := by
  induction inputs generalizing session with
  | nil => rfl
  | cons input rest induction =>
      unfold inject
      split
      · rfl
      · rw [induction]
        rfl

theorem sameOutputs_evaluate (model : Model α) (session : Session α) :
    (model.evaluate session).1.workspace.SameOutputs session.workspace := by
  have injected := workspace_inject model.inputs session
  unfold evaluate
  split
  · exact .refl _
  · rename_i levels _
    split
    · rename_i ran
      rw [ran] at injected
      exact injected ▸ .refl _
    · rename_i after ran
      rw [ran] at injected
      have executed :=
        Node.sameOutputs_executeAll (model.nodesAt levels.flatten) after
      rw [injected] at executed
      split
      · rename_i ran
        rw [ran] at executed
        exact executed
      · rename_i ran
        rw [ran] at executed
        exact executed

theorem Solution.solvedBy {start context : ResultContext α}
    (solution : model.Solution start context) : model.SolvedBy context :=
  ⟨solution.inputs, solution.nodes⟩

theorem solution_of_evaluate
    (succeeded : model.evaluate session = (finished, .ok summary)) :
    model.Solution session.context finished.context := by
  obtain ⟨levels, ordered, gained⟩ := gained_of_evaluate succeeded
  have staged := staged_of_levels ordered
  refine ⟨gained.range, gained.given, ?_, ?_⟩
  · intro node member
    exact gained.solved node (staged.perm.mem_iff.mpr member)
  · intro name notInput notNode
    apply gained.others
    rw [List.mem_append, staged.mem_names_iff, not_or]
    exact ⟨notInput, notNode⟩

/-- A model that has been evaluated could deliver its reports from the
start. -/
theorem deliversIn_of_evaluate
    (succeeded : model.evaluate session = (finished, .ok summary)) :
    ∀ node ∈ model.nodes, node.DeliversIn session.workspace := by
  have injected := workspace_inject model.inputs session
  unfold Model.evaluate at succeeded
  split at succeeded
  · cases succeeded
  · rename_i levels ordered
    split at succeeded
    · cases succeeded
    · rename_i injects
      split at succeeded
      · cases succeeded
      · rename_i run
        rw [injects] at injected
        rw [nodesAt_flatten] at run
        intro node member
        exact (Node.deliversIn_of_executeAll run node
          ((staged_of_levels ordered).perm.mem_iff.mpr member)).of_sameOutputs
            (injected ▸ .refl _)

/-- A model that has levels evaluates on free names exactly when some context
of the range solves it and each of its reports can be delivered. -/
theorem evaluate_succeeds_iff {levels : List (List Nat)}
    (ordered : model.levels = .ok levels)
    (fresh : model.Fresh session.context) :
    (∃ finished summary, model.evaluate session = (finished, .ok summary)) ↔
      (∃ context, context.range = session.context.range ∧
        model.SolvedBy context) ∧
      ∀ node ∈ model.nodes, node.DeliversIn session.workspace := by
  constructor
  · intro success
    obtain ⟨finished, summary, succeeded⟩ := success
    have solution := solution_of_evaluate succeeded
    exact ⟨⟨finished.context, solution.range, solution.solvedBy⟩,
      deliversIn_of_evaluate succeeded⟩
  · intro solvable
    obtain ⟨⟨context, sameRange, solved⟩, delivers⟩ := solvable
    have staged := staged_of_levels ordered
    obtain ⟨after, injects, injected, runnable⟩ := staged.exists_injected fresh
    have sameWorkspace := workspace_inject model.inputs session
    rw [injects] at sameWorkspace
    have agree : ∀ name ∈ model.inputNames,
        after.context.get? name = context.get? name := by
      intro name member
      obtain ⟨input, isInput, rfl⟩ := List.mem_map.mp member
      rw [injected.holds input isInput, solved.inputs input isInput]
    obtain ⟨finished, run⟩ := runnable.executeAll_succeeds
      (injected.range.trans sameRange.symm) agree
      (fun node member => solved.nodes node (staged.perm.mem_iff.mp member))
      (fun node member => sameWorkspace ▸
        delivers node (staged.perm.mem_iff.mp member))
    rw [evaluate_eq ordered injects, run]
    exact ⟨finished, _, rfl⟩

end Model

end FuzzyGrid
