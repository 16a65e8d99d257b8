import FuzzyGrid.Proofs.Evaluation.Refinement
import FuzzyGrid.Proofs.Operator.Cellwise

/-!
# How contexts come about

Whatever evaluating a model leaves, it has come about from the empty context by
publishing inputs of the model and what its nodes compute from what is there.
Evaluation may stop at any point, and levels may be worked on in parallel.
What holds of all such contexts is proved by going through the three ways of
`Model.Grown`.
-/

namespace FuzzyGrid

open Relation (ReflTransGen)

variable {α : Type}

theorem ResultContext.layer_mono {earlier later : ResultContext α}
    (grows : later.Extends earlier) {origin : Origin} {allowed : List DataType}
    {field : String} {input : InputGrid α}
    (read : earlier.layer origin allowed field = .ok input) :
    later.layer origin allowed field = .ok input := by
  obtain ⟨result, held, layer⟩ := layer_eq_ok_iff.mp read
  refine layer_eq_ok_iff.mpr ⟨result, ?_, layer⟩
  rw [grows.kept field (by simp [held]), held]

theorem ResultContext.extends_publish {context grown : ResultContext α}
    {origin : Origin} {name : String} {result : Result α}
    (publishes : context.publish origin name result = .ok grown) :
    grown.Extends context := by
  refine ⟨range_publish publishes, ?_⟩
  intro sought held
  rw [get?_publish publishes]
  split
  · rename_i same
    rw [same, (publish_ok_iff.mp publishes).1] at held
    cases held
  · rfl

variable [Scalar α]

theorem Operation.Yields.mono {operation : Operation α}
    {earlier later : ResultContext α} {result : Result α}
    (yields : operation.Yields earlier result) (grows : later.Extends earlier) :
    operation.Yields later result := by
  cases yields with
  | @copy field _ held =>
      exact .copy (by rw [grows.kept field (by simp [held]), held])
  | report => exact .report
  | layer function read =>
      rw [← grows.range]
      exact .layer function (ResultContext.layer_mono grows read)
  | pair readLeft readRight shape =>
      exact .pair (ResultContext.layer_mono grows readLeft)
        (ResultContext.layer_mono grows readRight) shape
  | list some_ read shapes =>
      rw [← grows.range]
      exact .list some_ (read.imp fun _ _ => ResultContext.layer_mono grows) shapes

namespace Model

/-- Contexts that come about by publishing inputs and computed results. -/
inductive Grown (model : Model α) (range : FuzzyRange α) :
    ResultContext α → Prop where
  | empty : Grown model range (.empty range)
  | input {context grown : ResultContext α} {origin : Origin} {name : String}
      {result : Result α} (before : Grown model range context)
      (member : (name, result) ∈ model.inputs)
      (publishes : context.publish origin name result = .ok grown) :
      Grown model range grown
  | node {context grown : ResultContext α} {origin : Origin} {node : Node α}
      {computed : Computed α} (before : Grown model range context)
      (member : node ∈ model.nodes)
      (success : node.compute context = .ok computed)
      (publishes : context.publish origin node.name computed.result = .ok grown) :
      Grown model range grown

variable {model : Model α} {range : FuzzyRange α} {context : ResultContext α}
  {session : Session α}

theorem Grown.range_eq (grown : model.Grown range context) :
    context.range = range := by
  induction grown with
  | empty => rfl
  | input _ _ publishes induction =>
      exact (ResultContext.range_publish publishes).trans induction
  | node _ _ _ publishes induction =>
      exact (ResultContext.range_publish publishes).trans induction

/-- What holds of all inputs and of everything that is computed from results of
which it holds, holds of all results. -/
theorem Grown.forall_results {good : Result α → Prop}
    (grown : model.Grown range context)
    (inputs : ∀ input ∈ model.inputs, good input.2)
    (nodes : ∀ node ∈ model.nodes, ∀ context : ResultContext α,
      context.range = range →
      (∀ name result, context.get? name = some result → good result) →
      ∀ result, node.operation.Yields context result → good result) :
    ∀ name result, context.get? name = some result → good result := by
  induction grown with
  | empty =>
      intro name result held
      cases held
  | input _ member publishes induction =>
      intro sought result held
      rw [ResultContext.get?_publish publishes] at held
      split at held
      · cases held
        exact inputs _ member
      · exact induction sought result held
  | node before member success publishes induction =>
      intro sought result held
      rw [ResultContext.get?_publish publishes] at held
      split at held
      · cases held
        exact nodes _ member _ before.range_eq induction _
          (Node.compute_yields success)
      · exact induction sought result held

/-- A result is an input or what a node of its name yields. -/
def Explains (model : Model α) (context : ResultContext α) (name : String)
    (result : Result α) : Prop :=
  (name, result) ∈ model.inputs ∨
    ∃ node ∈ model.nodes, node.name = name ∧
      node.operation.Yields context result

theorem Explains.mono {later : ResultContext α} {name : String}
    {result : Result α} (explains : model.Explains context name result)
    (grows : later.Extends context) : model.Explains later name result := by
  rcases explains with input | ⟨node, member, named, yields⟩
  · exact .inl input
  · exact .inr ⟨node, member, named, yields.mono grows⟩

theorem Grown.explains (grown : model.Grown range context) {name : String}
    {result : Result α} (held : context.get? name = some result) :
    model.Explains context name result := by
  induction grown generalizing result with
  | empty => cases held
  | input _ member publishes induction =>
      rw [ResultContext.get?_publish publishes] at held
      split at held
      · rename_i same
        cases held
        exact .inl (same ▸ member)
      · exact (induction held).mono (ResultContext.extends_publish publishes)
  | @node _ _ _ node _ _ member success publishes induction =>
      have grows := ResultContext.extends_publish publishes
      rw [ResultContext.get?_publish publishes] at held
      split at held
      · rename_i same
        cases held
        exact .inr ⟨node, member, same.symm,
          (Node.compute_yields success).mono grows⟩
      · exact (induction held).mono grows

/-! ## One node at a time -/

theorem grown_execute {node : Node α} (before : model.Grown range session.context)
    (member : node ∈ model.nodes) :
    model.Grown range (node.execute session).1.context := by
  have ways := node.executed session
  generalize node.execute session = run at ways ⊢
  cases ways with
  | failed _ => exact before
  | undelivered _ _ => exact before
  | refused _ _ _ => exact before
  | published success _ publishes => exact .node before member success publishes

theorem grown_executeAll {nodes : List (Node α)}
    (before : model.Grown range session.context)
    (members : ∀ node ∈ nodes, node ∈ model.nodes) :
    model.Grown range (Node.executeAll nodes session).1.context := by
  induction nodes generalizing session with
  | nil => exact before
  | cons node rest induction =>
      have executed := grown_execute before (members node List.mem_cons_self)
      unfold Node.executeAll
      split
      · rename_i ran
        rw [ran] at executed
        exact executed
      · rename_i ran
        rw [ran] at executed
        exact induction executed fun other member =>
          members other (List.mem_cons_of_mem _ member)

theorem grown_inject {inputs : List (String × Result α)}
    (before : model.Grown range session.context)
    (members : ∀ input ∈ inputs, input ∈ model.inputs) :
    model.Grown range (inject inputs session).1.context := by
  induction inputs generalizing session with
  | nil => exact before
  | cons input rest induction =>
      obtain ⟨name, result⟩ := input
      unfold inject
      split
      · exact before
      · rename_i publishes
        exact induction (.input before (members _ List.mem_cons_self) publishes)
          fun other member => members other (List.mem_cons_of_mem _ member)

theorem grown_evaluate (model : Model α) (range : FuzzyRange α)
    (workspace : Workspace) :
    model.Grown range (model.evaluate ⟨.empty range, workspace⟩).1.context := by
  have injected : model.Grown range
      (inject model.inputs ⟨.empty range, workspace⟩).1.context :=
    grown_inject .empty fun _ member => member
  unfold evaluate
  split
  · exact .empty
  · rename_i levels _
    split
    · rename_i ran
      rw [ran] at injected
      exact injected
    · rename_i ran
      rw [ran] at injected
      have executed := grown_executeAll injected (model.nodesAt_subset levels.flatten)
      split
      · rename_i ran
        rw [ran] at executed
        exact executed
      · rename_i ran
        rw [ran] at executed
        exact executed

/-! ## In parallel -/

section

open Parallel

variable {known : List String} {stages : List (List (Node α))}
  {start : ResultContext α} {state next : State α}

theorem grown_step {done : List (List (Node α))} {level : List (Node α)}
    {base : ResultContext α} (prepared : Prepared known stages start)
    (members : ∀ node ∈ stages.flatten, node ∈ model.nodes)
    (within : state.Within stages start done level base)
    (before : model.Grown range state.context) (step : Step state next) :
    model.Grown range next.context := by
  have ready := within.ready prepared
  have sound := within.sound
  cases step with
  | skip failure => exact before
  | turn complete => exact before
  | @work context grown others after node current nextWork later advances =>
      cases advances with
      | @publish computed _ publishes =>
          -- Other jobs may have published since this one has read its fields,
          -- but the fields come from earlier levels, so that it computes the
          -- same from the context as it is now.
          have isJob : (⟨node, .reading (.done computed)⟩ : Job α) ∈
              others ++ ⟨node, .reading (.done computed)⟩ :: after :=
            List.mem_append_right _ List.mem_cons_self
          have inLevel : node ∈ level := sound.mem_level isJob
          have isNode : node ∈ model.nodes := by
            apply members
            rw [within.split]
            simp [inLevel]
          have closed := ready.closed node inLevel
          cases sound.jobs _ isJob with
          | reading _ _ computes =>
              refine .node before isNode ?_ publishes
              rw [Node.compute_of_extends closed (sound.grows ready)]
              exact computes.symm
      | _ => exact before

theorem grown_steps (prepared : Prepared known stages start)
    (members : ∀ node ∈ stages.flatten, node ∈ model.nodes)
    (before : model.Grown range start)
    (steps : ReflTransGen Step (State.start start stages) state) :
    model.Grown range state.context := by
  induction steps with
  | refl => exact before
  | tail earlier step induction =>
      rcases start_or_within prepared earlier with
        atStart | ⟨done, level, base, within⟩
      · subst atStart
        obtain ⟨level, later, _, rfl⟩ := step_start step
        exact before
      · exact grown_step prepared members within induction step

end

/-! ## Everything that evaluation leaves -/

/-- The contexts that evaluating a model on an empty one comes to: the one that
the sequential run leaves, and those of the states of all parallel schedules. -/
inductive Leaves (model : Model α) (range : FuzzyRange α) :
    ResultContext α → Prop where
  | sequential (workspace : Workspace) :
      Leaves model range (model.evaluate ⟨.empty range, workspace⟩).1.context
  | parallel {workspace : Workspace} {state : Parallel.State α}
      (reached : model.InParallel ⟨.empty range, workspace⟩ state) :
      Leaves model range state.context

namespace Leaves

theorem fresh (model : Model α) (range : FuzzyRange α) :
    model.Fresh (.empty range) :=
  fun _ _ => rfl

theorem grown (leaves : model.Leaves range context) :
    model.Grown range context := by
  cases leaves with
  | sequential workspace => exact grown_evaluate model range workspace
  | @parallel workspace state reached =>
      obtain ⟨levels, after, ordered, injects, steps⟩ := reached
      have staged := staged_of_levels ordered
      have empty : model.Fresh (Session.mk (.empty range) workspace).context :=
        fresh model range
      obtain ⟨injected, alsoInjects, _, runnable⟩ := staged.exists_injected empty
      rw [injects] at alsoInjects
      cases alsoInjects
      have before : model.Grown range
          (inject model.inputs ⟨.empty range, workspace⟩).1.context :=
        grown_inject .empty fun _ member => member
      rw [injects] at before
      exact grown_steps ⟨staged.layered, runnable⟩
        (fun node member => staged.perm.mem_iff.mp member) before steps

/-- Where anything is left, the names of the model are in order. -/
theorem exists_staged (leaves : model.Leaves range context) {name : String}
    {result : Result α} (held : context.get? name = some result) :
    ∃ stages, model.Staged stages := by
  cases leaves with
  | sequential workspace =>
      cases ordered : model.levels with
      | ok levels => exact ⟨_, staged_of_levels ordered⟩
      | error fault =>
          simp only [evaluate, ordered] at held
          cases held
  | parallel reached =>
      obtain ⟨levels, _, ordered, _⟩ := reached
      exact ⟨_, staged_of_levels ordered⟩

theorem eq_input (leaves : model.Leaves range context)
    {input : String × Result α} (member : input ∈ model.inputs)
    {result : Result α} (held : context.get? input.1 = some result) :
    result = input.2 := by
  obtain ⟨stages, staged⟩ := leaves.exists_staged held
  rcases leaves.grown.explains held with other | ⟨node, isNode, same, _⟩
  · have same : (input.1, result) = input :=
      List.inj_on_of_nodup_map staged.inputsDistinct other member rfl
    rw [← same]
  · exact absurd (same ▸ List.mem_map_of_mem member)
      (staged.apart _ (List.mem_map_of_mem isNode))

theorem yields (leaves : model.Leaves range context) {node : Node α}
    (member : node ∈ model.nodes) {result : Result α}
    (held : context.get? node.name = some result) :
    node.operation.Yields context result := by
  obtain ⟨stages, staged⟩ := leaves.exists_staged held
  rcases leaves.grown.explains held with input | ⟨other, isNode, same, yields⟩
  · exact absurd (List.mem_map_of_mem input)
      (staged.apart _ (List.mem_map_of_mem member))
  · rw [List.inj_on_of_nodup_map staged.distinct isNode member same] at yields
    exact yields

end Leaves

end Model

end FuzzyGrid
