import FuzzyGrid.Proofs.Evaluation.Frame
import FuzzyGrid.Proofs.Evaluation.Success
import FuzzyGrid.Proofs.Text.ByteOrder

/-!
# Histories of a context

A context can be used call after call: results are inserted, single nodes
executed and models evaluated, and any of this may fail on the way.  Beside
every call stands the list of entries that it inserts, also where it fails
later on.  The context is what these entries make of it: what it holds it
keeps, and a model that has once been evaluated can never be evaluated on it
again.
-/

namespace FuzzyGrid

variable {α : Type}

/-! ## Insertions -/

namespace ResultContext

/-- A context that comes from an earlier one by inserting entries in turn. -/
inductive Filled : ResultContext α → List (String × Result α) →
    ResultContext α → Prop where
  | nil {context : ResultContext α} : Filled context [] context
  | cons {start middle final : ResultContext α} {origin : Origin} {name : String}
      {result : Result α} {entries : List (String × Result α)}
      (publishes : start.publish origin name result = .ok middle)
      (rest : Filled middle entries final) :
      Filled start ((name, result) :: entries) final

namespace Filled

variable {start middle final : ResultContext α}
  {entries others : List (String × Result α)}

theorem append (filled : Filled start entries middle)
    (next : Filled middle others final) :
    Filled start (entries ++ others) final := by
  induction filled with
  | nil => exact next
  | cons publishes _ induction => exact .cons publishes (induction next)

theorem of_publish {origin : Origin} {name : String} {result : Result α}
    (publishes : start.publish origin name result = .ok final) :
    Filled start [(name, result)] final :=
  .cons publishes .nil

theorem grows (filled : Filled start entries final) : final.Extends start := by
  induction filled with
  | nil => exact ⟨rfl, fun _ _ => rfl⟩
  | cons publishes _ induction =>
      have first := extends_publish publishes
      refine ⟨induction.range.trans first.range, ?_⟩
      intro name held
      rw [induction.kept name (first.present held), first.kept name held]

theorem size_eq (filled : Filled start entries final) :
    final.size = start.size + entries.length := by
  induction filled with
  | nil => rfl
  | cons publishes _ induction =>
      rw [induction, size_publish publishes, List.length_cons]
      omega

/-- What is held was held before or has been inserted. -/
theorem get?_eq (filled : Filled start entries final) (name : String) :
    final.get? name = (start.get? name).or (entries.lookup name) := by
  induction filled with
  | nil => simp
  | @cons _ _ _ _ inserted _ _ publishes _ induction =>
      rw [induction, get?_publish publishes, NameTable.lookup_cons_eq]
      by_cases same : name = inserted
      · have absent := (publish_ok_iff.mp publishes).1
        simp [same, absent]
      · simp [same]

end Filled

/-- The entry that is inserted under a name, unless the name is taken. -/
def insertion (context : ResultContext α) (origin : Origin) (name : String)
    (result : Result α) : List (String × Result α) :=
  match context.publish origin name result with
  | .ok _ => [(name, result)]
  | .error _ => []

end ResultContext

variable [Scalar α]

namespace Node

/-- The entry that a node inserts when it is executed. -/
def insertion (node : Node α) (session : Session α) :
    List (String × Result α) :=
  match node.perform session with
  | (_, .error _) => []
  | (after, .ok result) =>
    after.context.insertion node.command.origin node.name result

/-- The entries that nodes insert one after another up to the first
failure. -/
def insertions : List (Node α) → Session α → List (String × Result α)
  | [], _ => []
  | node :: rest, session =>
    node.insertion session ++
      match node.execute session with
      | (_, .error _) => []
      | (after, .ok ()) => insertions rest after

theorem filled_execute (node : Node α) (session : Session α) :
    session.context.Filled (node.insertion session)
      (node.execute session).1.context := by
  have kept := node.perform_context session
  unfold insertion execute
  cases run : node.perform session with
  | mk after outcome =>
      rw [run] at kept
      dsimp only at kept ⊢
      cases outcome with
      | error error =>
          rw [← kept]
          exact .nil
      | ok result =>
          dsimp only [ResultContext.insertion]
          cases publishes : after.context.publish node.command.origin node.name
              result with
          | error error =>
              rw [← kept]
              exact .nil
          | ok context =>
              rw [← kept]
              exact .of_publish publishes

theorem filled_executeAll (nodes : List (Node α)) (session : Session α) :
    session.context.Filled (insertions nodes session)
      (executeAll nodes session).1.context := by
  induction nodes generalizing session with
  | nil => exact .nil
  | cons node rest induction =>
      have first := node.filled_execute session
      unfold insertions executeAll
      cases run : node.execute session with
      | mk after outcome =>
          rw [run] at first
          cases outcome with
          | error error => exact first.append .nil
          | ok done => exact first.append (induction after)

end Node

namespace Model

/-- The inputs that are published before the first whose name is taken. -/
def inputInsertions : List (String × Result α) → Session α →
    List (String × Result α)
  | [], _ => []
  | (name, result) :: rest, session =>
    session.context.insertion Origin.unknown name result ++
      match session.context.publish Origin.unknown name result with
      | .error _ => []
      | .ok context => inputInsertions rest (session.withContext context)

/-- The entries that evaluating a model inserts. -/
def insertions (model : Model α) (session : Session α) :
    List (String × Result α) :=
  match model.levels with
  | .error _ => []
  | .ok levels =>
    inputInsertions model.inputs session ++
      match inject model.inputs session with
      | (_, .error _) => []
      | (after, .ok ()) =>
        Node.insertions (model.nodesAt levels.flatten) after

omit [Scalar α] in
theorem filled_inject (inputs : List (String × Result α))
    (session : Session α) :
    session.context.Filled (inputInsertions inputs session)
      (inject inputs session).1.context := by
  induction inputs generalizing session with
  | nil => exact .nil
  | cons input rest induction =>
      obtain ⟨name, result⟩ := input
      unfold inputInsertions inject ResultContext.insertion
      cases publishes : session.context.publish Origin.unknown name result with
      | error error => exact .nil
      | ok context =>
          exact (ResultContext.Filled.of_publish publishes).append
            (induction (session.withContext context))

theorem filled_evaluate (model : Model α) (session : Session α) :
    session.context.Filled (model.insertions session)
      (model.evaluate session).1.context := by
  have injected := filled_inject model.inputs session
  unfold insertions evaluate
  cases ordered : model.levels with
  | error fault => exact .nil
  | ok levels =>
      dsimp only
      cases injects : inject model.inputs session with
      | mk after outcome =>
          rw [injects] at injected
          cases outcome with
          | error error => exact injected.append .nil
          | ok done =>
              have executed := Node.filled_executeAll
                (model.nodesAt levels.flatten) after
              dsimp only at injected ⊢
              cases run : Node.executeAll (model.nodesAt levels.flatten) after with
              | mk last result =>
                  rw [run] at executed
                  cases result with
                  | error error => exact injected.append executed
                  | ok done => exact injected.append executed

end Model

/-! ## Calls -/

/-- What can be done to a session. -/
inductive Call (α : Type) [Scalar α] where
  | insert (name : String) (result : Result α)
  | execute (node : Node α)
  | evaluate (model : Model α)

namespace Call

/-- The session after a call, which may have failed. -/
def run : Call α → Session α → Session α
  | insert name result, session =>
    match session.context.publish Origin.unknown name result with
    | .error _ => session
    | .ok context => session.withContext context
  | execute node, session => (node.execute session).1
  | evaluate model, session => (model.evaluate session).1

/-- The entries that a call inserts. -/
def insertions : Call α → Session α → List (String × Result α)
  | insert name result, session =>
    session.context.insertion Origin.unknown name result
  | execute node, session => node.insertion session
  | evaluate model, session => model.insertions session

def runAll (calls : List (Call α)) (session : Session α) : Session α :=
  calls.foldl (fun reached call => call.run reached) session

/-- The entries that all calls of a history insert. -/
def allInsertions : List (Call α) → Session α → List (String × Result α)
  | [], _ => []
  | call :: rest, session =>
    call.insertions session ++ allInsertions rest (call.run session)

/-- The results that a call has for a name: what is inserted, what a node
computes under its own name, and the inputs of a model under theirs. -/
inductive Offers : Call α → String → Result α → Prop where
  | insert {name : String} {result : Result α} :
      Offers (.insert name result) name result
  | execute {node : Node α} {context : ResultContext α} {computed : Computed α}
      (computes : node.compute context = .ok computed) :
      Offers (.execute node) node.name computed.result
  | input {model : Model α} {name : String} {result : Result α}
      (member : (name, result) ∈ model.inputs) :
      Offers (.evaluate model) name result
  | node {model : Model α} {node : Node α} {context : ResultContext α}
      {computed : Computed α} (member : node ∈ model.nodes)
      (computes : node.compute context = .ok computed) :
      Offers (.evaluate model) node.name computed.result

theorem filled_run (call : Call α) (session : Session α) :
    session.context.Filled (call.insertions session)
      (call.run session).context := by
  cases call with
  | insert name result =>
      dsimp only [insertions, run, ResultContext.insertion]
      cases publishes : session.context.publish Origin.unknown name result with
      | error error => exact .nil
      | ok context => exact .of_publish publishes
  | execute node => exact node.filled_execute session
  | evaluate model => exact model.filled_evaluate session

theorem filled_runAll (calls : List (Call α)) (session : Session α) :
    session.context.Filled (allInsertions calls session)
      (runAll calls session).context := by
  induction calls generalizing session with
  | nil => exact .nil
  | cons call rest induction =>
      exact (call.filled_run session).append (induction (call.run session))

theorem sameOutputs_run (call : Call α) (session : Session α) :
    (call.run session).workspace.SameOutputs session.workspace := by
  cases call with
  | insert name result =>
      dsimp only [run]
      cases session.context.publish Origin.unknown name result with
      | error error => exact .refl _
      | ok context => exact .refl _
  | execute node => exact node.sameOutputs_execute session
  | evaluate model => exact model.sameOutputs_evaluate session

theorem sameOutputs_runAll (calls : List (Call α)) (session : Session α) :
    (runAll calls session).workspace.SameOutputs session.workspace := by
  induction calls generalizing session with
  | nil => exact .refl _
  | cons call rest induction =>
      exact (induction (call.run session)).trans (call.sameOutputs_run session)

theorem runAll_append (first second : List (Call α)) (session : Session α) :
    runAll (first ++ second) session = runAll second (runAll first session) :=
  List.foldl_append

end Call

/-! ## Where entries come from -/

omit [Scalar α] in
theorem ResultContext.mem_insertion {context : ResultContext α} {origin : Origin}
    {name : String} {result : Result α} {entry : String × Result α}
    (member : entry ∈ context.insertion origin name result) :
    entry = (name, result) := by
  unfold insertion at member
  split at member
  · exact List.mem_singleton.mp member
  · cases member

namespace Node

theorem mem_insertion {node : Node α} {session : Session α}
    {entry : String × Result α} (member : entry ∈ node.insertion session) :
    ∃ computed, node.compute session.context = .ok computed ∧
      entry = (node.name, computed.result) := by
  unfold insertion at member
  rw [perform_eq] at member
  cases computes : node.compute session.context with
  | error error => simp [computes] at member
  | ok computed =>
      rw [computes] at member
      dsimp only at member
      rcases delivered : session.workspace.deliverAny (α := α) node.command.origin
        computed.report with ⟨workspace, error | _⟩
      · simp [delivered] at member
      · rw [delivered] at member
        exact ⟨computed, rfl, ResultContext.mem_insertion member⟩

theorem mem_insertions {nodes : List (Node α)} {session : Session α}
    {entry : String × Result α} (member : entry ∈ insertions nodes session) :
    ∃ node ∈ nodes, ∃ context computed,
      node.compute context = .ok computed ∧
        entry = (node.name, computed.result) := by
  induction nodes generalizing session with
  | nil => cases member
  | cons node rest induction =>
      unfold insertions at member
      rcases List.mem_append.mp member with own | later
      · obtain ⟨computed, computes, same⟩ := mem_insertion own
        exact ⟨node, List.mem_cons_self, _, computed, computes, same⟩
      · split at later
        · cases later
        · obtain ⟨other, isNode, found⟩ := induction later
          exact ⟨other, List.mem_cons_of_mem _ isNode, found⟩

end Node

namespace Model

omit [Scalar α] in
theorem mem_inputInsertions {inputs : List (String × Result α)}
    {session : Session α} {entry : String × Result α}
    (member : entry ∈ inputInsertions inputs session) : entry ∈ inputs := by
  induction inputs generalizing session with
  | nil => cases member
  | cons input rest induction =>
      unfold inputInsertions at member
      rcases List.mem_append.mp member with own | later
      · rw [ResultContext.mem_insertion own]
        exact List.mem_cons_self
      · split at later
        · cases later
        · exact List.mem_cons_of_mem _ (induction later)

theorem offers_of_mem_insertions {model : Model α} {session : Session α}
    {entry : String × Result α} (member : entry ∈ model.insertions session) :
    (Call.evaluate model).Offers entry.1 entry.2 := by
  unfold insertions at member
  split at member
  · cases member
  · rcases List.mem_append.mp member with given | produced
    · exact .input (mem_inputInsertions given)
    · split at produced
      · cases produced
      · obtain ⟨node, inOrder, context, computed, computes, rfl⟩ :=
          Node.mem_insertions produced
        exact .node (model.nodesAt_subset _ inOrder) computes

end Model

namespace Call

theorem offers_of_mem_insertions {call : Call α} {session : Session α}
    {entry : String × Result α} (member : entry ∈ call.insertions session) :
    call.Offers entry.1 entry.2 := by
  cases call with
  | insert name result =>
      rw [ResultContext.mem_insertion member]
      exact .insert
  | execute node =>
      obtain ⟨computed, computes, rfl⟩ := Node.mem_insertion member
      exact .execute computes
  | evaluate model => exact Model.offers_of_mem_insertions member

theorem exists_offers {calls : List (Call α)} {session : Session α}
    {entry : String × Result α} (member : entry ∈ allInsertions calls session) :
    ∃ call ∈ calls, call.Offers entry.1 entry.2 := by
  induction calls generalizing session with
  | nil => cases member
  | cons call rest induction =>
      rcases List.mem_append.mp member with own | later
      · exact ⟨call, List.mem_cons_self, offers_of_mem_insertions own⟩
      · obtain ⟨other, isCall, offers⟩ := induction later
        exact ⟨other, List.mem_cons_of_mem _ isCall, offers⟩

end Call

/-! ## Evaluating again -/

namespace Model

variable {model : Model α} {session finished again : Session α}
  {summary : Summary}

/-- The first input of a model is taken when the model is evaluated again. -/
theorem evaluate_again_of_inputs
    (succeeded : model.evaluate session = (finished, .ok summary))
    (grows : again.context.Extends finished.context)
    (hasInputs : model.inputs ≠ []) :
    ∃ stopped error name, model.evaluate again = (stopped, .error error) ∧
      error.commandError?.map CommandError.fault =
        some (.duplicateResult name) ∧
      stopped.context = again.context := by
  obtain ⟨levels, ordered, gained⟩ := gained_of_evaluate succeeded
  cases inputs : model.inputs with
  | nil => exact absurd inputs hasInputs
  | cons input rest =>
      obtain ⟨name, result⟩ := input
      have given := gained.given (name, result) (by simp [inputs])
      have held : (again.context.get? name).isSome :=
        grows.present (by simp [given])
      have refused : again.context.publish Origin.unknown name result =
          .error ⟨.duplicateResult name, Origin.unknown⟩ :=
        ResultContext.publish_error_iff.mpr ⟨held, rfl⟩
      refine ⟨again, .notInjected name ⟨.duplicateResult name, Origin.unknown⟩,
        name, ?_, rfl, rfl⟩
      simp [evaluate, ordered, inputs, inject, refused]

/-- Without inputs the first node needs no result, so that it is computed
again, and its report is delivered again, before it turns out to be held. -/
theorem evaluate_again_of_nodes
    (succeeded : model.evaluate session = (finished, .ok summary))
    (grows : again.context.Extends finished.context)
    (sameOutputs : session.workspace.SameOutputs again.workspace)
    (without : model.inputs = []) (hasNodes : model.nodes ≠ []) :
    ∃ stopped error name, model.evaluate again = (stopped, .error error) ∧
      error.commandError?.map CommandError.fault =
        some (.duplicateResult name) ∧
      stopped.context = again.context := by
  obtain ⟨levels, ordered, gained⟩ := gained_of_evaluate succeeded
  have staged := staged_of_levels ordered
  have delivers := deliversIn_of_evaluate succeeded
  cases inOrder : (model.stages levels).flatten with
  | nil =>
      have perm := staged.perm
      rw [inOrder] at perm
      exact absurd perm.nil_eq.symm hasNodes
  | cons node rest =>
      have isNode : node ∈ (model.stages levels).flatten := by simp [inOrder]
      obtain ⟨computed, computes, holds⟩ := gained.solved node isNode
      have alone : node.dependencies ⊆ model.inputNames := by
        have order := staged.layered.ordered
        rw [inOrder] at order
        exact order.1
      have computesAgain : node.compute again.context = .ok computed := by
        rw [← computes]
        refine node.compute_congr grows.range ?_
        intro name member
        have input := alone member
        simp [inputNames, without] at input
      have held : (again.context.get? node.name).isSome :=
        grows.present (by simp [holds])
      obtain ⟨written, delivered⟩ := (Node.deliversIn_iff computesAgain).mp
        ((delivers node (staged.perm.mem_iff.mp isNode)).of_sameOutputs sameOutputs)
      have refused : again.context.publish node.command.origin node.name
          computed.result =
            .error ⟨.duplicateResult node.name, node.command.origin⟩ :=
        ResultContext.publish_error_iff.mpr ⟨held, rfl⟩
      have injects : inject model.inputs again = (again, .ok ()) := by
        rw [without]
        rfl
      have fails : node.execute again = (⟨again.context, written⟩,
          .error ⟨.duplicateResult node.name, node.command.origin⟩) := by
        simp [Node.execute, Node.perform_eq, computesAgain, delivered, refused]
      refine ⟨⟨again.context, written⟩,
        .aborted ⟨.duplicateResult node.name, node.command.origin⟩, node.name,
        ?_, rfl, rfl⟩
      rw [evaluate_eq ordered injects, inOrder]
      simp [Node.executeAll, fails]

/-- A model that publishes anything cannot be evaluated twice, whatever is
done in between. -/
theorem evaluate_again
    (succeeded : model.evaluate session = (finished, .ok summary))
    (grows : again.context.Extends finished.context)
    (sameOutputs : session.workspace.SameOutputs again.workspace)
    (publishes : model.inputs ≠ [] ∨ model.nodes ≠ []) :
    ∃ stopped error name, model.evaluate again = (stopped, .error error) ∧
      error.commandError?.map CommandError.fault =
        some (.duplicateResult name) ∧
      stopped.context = again.context := by
  by_cases without : model.inputs = []
  · exact evaluate_again_of_nodes succeeded grows sameOutputs without
      (publishes.resolve_left fun hasInputs => hasInputs without)
  · exact evaluate_again_of_inputs succeeded grows without

end Model

/-! ## Histories -/

namespace Call

/-- The session that calls come to from nothing. -/
def reach (range : FuzzyRange α) (workspace : Workspace)
    (calls : List (Call α)) : Session α :=
  runAll calls ⟨.empty range, workspace⟩

/-- Whatever is done to a context and whatever of it fails, results are
written once.  What is held stays as it is; it is a result that one of the
calls had for this very name; there are as many results as have been inserted;
and their names are in the order of their bytes.  A model that has been
evaluated finds one of its names taken when it is evaluated again, and inserts
nothing. -/
theorem write_once (range : FuzzyRange α) (workspace : Workspace)
    (calls : List (Call α)) :
    (∀ earlier later, calls = earlier ++ later →
      (reach range workspace calls).context.Extends
        (reach range workspace earlier).context) ∧
    (∀ name result,
      (reach range workspace calls).context.get? name = some result →
        ∃ call ∈ calls, call.Offers name result) ∧
    (ResultContext.empty range).Filled
      (allInsertions calls ⟨.empty range, workspace⟩)
      (reach range workspace calls).context ∧
    (reach range workspace calls).context.size =
      (allInsertions calls ⟨.empty range, workspace⟩).length ∧
    ((reach range workspace calls).context.names.Pairwise
      fun first second => bytesOf first < bytesOf second) ∧
    (∀ name, name ∈ (reach range workspace calls).context.names ↔
      (reach range workspace calls).context.contains name = true) ∧
    ∀ earlier model later finished summary,
      calls = earlier ++ .evaluate model :: later →
      model.inputs ≠ [] ∨ model.nodes ≠ [] →
      model.evaluate (reach range workspace earlier) =
        (finished, .ok summary) →
      ∃ stopped error name,
        model.evaluate (reach range workspace calls) =
          (stopped, .error error) ∧
        error.commandError?.map CommandError.fault =
          some (.duplicateResult name) ∧
        stopped.context = (reach range workspace calls).context := by
  have filled := filled_runAll calls (Session.mk (.empty range) workspace)
  refine ⟨?_, ?_, filled, ?_, ?_, fun name => NameTable.mem_names_iff, ?_⟩
  · intro earlier later split
    subst split
    unfold reach
    rw [runAll_append]
    exact (filled_runAll later _).grows
  · intro name result held
    have inserted := filled.get?_eq name
    rw [reach] at held
    rw [held] at inserted
    exact exists_offers (NameTable.mem_of_lookup inserted.symm)
  · exact filled.size_eq.trans (Nat.zero_add _)
  · have ascending := (reach range workspace calls).context.results.ascending
    refine List.pairwise_map.mpr (ascending.imp ?_)
    intro first second below
    exact bytesOf_lt_iff.mpr below
  · intro earlier model later finished summary split publishes succeeded
    subst split
    have whole : reach range workspace (earlier ++ .evaluate model :: later) =
        runAll later finished := by
      unfold reach at succeeded ⊢
      rw [runAll_append]
      change runAll later (model.evaluate _).1 = _
      rw [succeeded]
    have outputs := model.sameOutputs_evaluate (reach range workspace earlier)
    rw [succeeded] at outputs
    rw [whole]
    exact Model.evaluate_again succeeded (filled_runAll later finished).grows
      ((sameOutputs_runAll later finished).trans outputs).symm publishes

end Call

namespace Sample

/-- A report of nothing. -/
def silent : Node Float where
  command := ⟨"Silent", "PrintVars", ⟨[("InFieldNames", .list [])], by simp⟩,
    ⟨"silent.mpt", 1, "Silent = PrintVars([])"⟩⟩
  operator := .printVariables
  operation := .report [] none
  interpreted := rfl

/-- A model without inputs. -/
def silence : Model Float :=
  ⟨[], [silent]⟩

/-- A model between insertions of which the second fails, and a node that
fails. -/
def calls : List (Call Float) :=
  [.insert "Height" (layer 1), .evaluate silence, .insert "Silent" (layer 0),
    .execute suitable]

/-- Two of the calls insert a result each, the others none, and the model
without inputs cannot be evaluated again. -/
theorem write_once_calls :
    (Call.reach .standard (.ofFiles []) calls).context.size = 2 ∧
    (Call.reach .standard (.ofFiles []) calls).context.names =
      ["Height", "Silent"] ∧
    (∃ call ∈ calls, call.Offers "Height" (layer 1)) ∧
    ∃ stopped error name,
      silence.evaluate (Call.reach .standard (.ofFiles []) calls) =
        (stopped, .error error) ∧
      error.commandError?.map CommandError.fault =
        some (.duplicateResult name) ∧
      stopped.context = (Call.reach .standard (.ofFiles []) calls).context := by
  obtain ⟨_, offered, _, sized, _, _, refused⟩ :=
    Call.write_once .standard (.ofFiles []) calls
  have inserted : (Call.allInsertions calls session).length = 2 := rfl
  have evaluates : silence.evaluate (Call.reach .standard (.ofFiles [])
      [.insert "Height" (layer 1)]) = (_, .ok ⟨0, 1, 1⟩) :=
    Prod.ext rfl rfl
  exact ⟨sized.trans inserted, rfl, offered "Height" (layer 1) rfl,
    refused [.insert "Height" (layer 1)] silence _ _ _ rfl (.inr (by simp [silence]))
      evaluates⟩

end Sample

end FuzzyGrid
