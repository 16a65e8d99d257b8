import FuzzyGrid.Proofs.Schedule.Levels

/-!
# The order that levels give to nodes

What the evaluation of a model needs from its schedule, in terms of names: the
nodes of a level refer to inputs and to results of earlier levels only, and
every node of the model is in a level once.
-/

namespace FuzzyGrid

variable {α : Type} [Scalar α]

/-- Each node refers to known names and to results of earlier nodes. -/
def Ordered (known : List String) : List (Node α) → Prop
  | [] => True
  | node :: rest =>
    node.dependencies ⊆ known ∧ Ordered (known ++ [node.name]) rest

/-- Each level refers to known names and to results of earlier levels. -/
def Layered (known : List String) : List (List (Node α)) → Prop
  | [] => True
  | level :: rest =>
    (∀ node ∈ level, node.dependencies ⊆ known) ∧
      Layered (known ++ level.map Node.name) rest

theorem ordered_append_iff {known : List String} {first second : List (Node α)} :
    Ordered known (first ++ second) ↔
      Ordered known first ∧ Ordered (known ++ first.map Node.name) second := by
  induction first generalizing known with
  | nil => simp [Ordered]
  | cons node rest induction => simp [Ordered, induction, and_assoc]

theorem layered_append_iff {known : List String}
    {first second : List (List (Node α))} :
    Layered known (first ++ second) ↔
      Layered known first ∧
        Layered (known ++ first.flatten.map Node.name) second := by
  induction first generalizing known with
  | nil => simp [Layered]
  | cons level rest induction => simp [Layered, induction, and_assoc]

theorem ordered_of_subset {known : List String} {level : List (Node α)}
    (closed : ∀ node ∈ level, node.dependencies ⊆ known) :
    Ordered known level := by
  induction level generalizing known with
  | nil => trivial
  | cons node rest induction =>
      refine ⟨closed node List.mem_cons_self, induction ?_⟩
      intro other member
      exact List.subset_append_of_subset_left _
        (closed other (List.mem_cons_of_mem _ member))

/-- Level after level is an order for the nodes. -/
theorem Layered.ordered {known : List String} {stages : List (List (Node α))}
    (layered : Layered known stages) : Ordered known stages.flatten := by
  induction stages generalizing known with
  | nil => trivial
  | cons level rest induction =>
      rw [List.flatten_cons, ordered_append_iff]
      exact ⟨ordered_of_subset layered.1, induction layered.2⟩

/-- Induction along an order: what holds of the known names, and of every node
whose dependencies have it, holds of all names. -/
theorem Ordered.forall_names {known : List String} {nodes : List (Node α)}
    {motive : String → Prop} (ordered : Ordered known nodes)
    (base : ∀ name ∈ known, motive name)
    (step : ∀ node ∈ nodes, (∀ name ∈ node.dependencies, motive name) →
      motive node.name) :
    ∀ name ∈ known ++ nodes.map Node.name, motive name := by
  induction nodes generalizing known with
  | nil => simpa using base
  | cons node rest induction =>
      have next : ∀ name ∈ known ++ [node.name], motive name := by
        intro name member
        rcases List.mem_append.mp member with old | new
        · exact base name old
        · rw [List.mem_singleton.mp new]
          exact step node List.mem_cons_self fun required isRequired =>
            base required (ordered.1 isRequired)
      have all := induction ordered.2 next fun other member =>
        step other (List.mem_cons_of_mem _ member)
      simpa using all

namespace Model

/-- The nodes of a model, level by level. -/
def stages (model : Model α) (levels : List (List Nat)) :
    List (List (Node α)) :=
  levels.map model.nodesAt

theorem nodesAt_flatten (model : Model α) (levels : List (List Nat)) :
    model.nodesAt levels.flatten = (model.stages levels).flatten :=
  List.filterMap_flatten

theorem mem_nodesAt {model : Model α} {positions : List Nat} {node : Node α} :
    node ∈ model.nodesAt positions ↔
      ∃ position ∈ positions, model.nodes[position]? = some node :=
  List.mem_filterMap

theorem nodesAt_subset (model : Model α) (positions : List Nat) :
    model.nodesAt positions ⊆ model.nodes := by
  intro node member
  obtain ⟨position, _, found⟩ := mem_nodesAt.mp member
  exact List.mem_of_getElem? found

private theorem filterMap_getElem?_range (nodes : List (Node α)) :
    (List.range nodes.length).filterMap (fun position => nodes[position]?) =
      nodes := by
  induction nodes with
  | nil => rfl
  | cons node rest induction =>
      rw [List.length_cons, List.range_succ_eq_map, List.filterMap_cons]
      simpa [List.filterMap_map, Function.comp_def] using induction

/-- What a schedule promises about the nodes of a model. -/
structure Staged (model : Model α) (stages : List (List (Node α))) :
    Prop where
  layered : Layered model.inputNames stages
  perm : stages.flatten.Perm model.nodes
  inputsDistinct : model.inputNames.Nodup
  distinct : model.nodeNames.Nodup
  apart : ∀ name ∈ model.nodeNames, name ∉ model.inputNames

theorem Staged.distinct_flatten {model : Model α}
    {stages : List (List (Node α))} (staged : model.Staged stages) :
    (stages.flatten.map Node.name).Nodup :=
  (staged.perm.map Node.name).nodup_iff.mpr staged.distinct

/-- What a node of one round refers to is an input or comes from an earlier
round. -/
theorem dependencies_subset_of_levelAt {model : Model α}
    (inOrder : Schedule.NamesInOrder model.inputNames model.tasks)
    {rounds position : Nat} {node : Node α}
    (inLevel : position ∈
      Schedule.levelAt (Schedule.waits model.tasks) rounds)
    (found : model.nodes[position]? = some node) :
    node.dependencies ⊆ model.inputNames ++
      (model.nodesAt ((List.range rounds).map
        (Schedule.levelAt (Schedule.waits model.tasks))).flatten).map
          Node.name := by
  intro name member
  have taskAt : model.tasks[position]? = some node.task := by
    simp [tasks, found]
  have known := inOrder.known node.task (List.mem_of_getElem? taskAt) name member
  rw [List.mem_append]
  rcases known with input | produced
  · exact Or.inl input
  · obtain ⟨task, isTask, sameName⟩ := List.mem_map.mp produced
    obtain ⟨producer, producerAt⟩ := List.mem_iff_getElem?.mp isTask
    have requires : Schedule.Requires model.tasks position producer :=
      ⟨node.task, task, taskAt, producerAt, sameName ▸ member⟩
    have waitsFor := (Schedule.mem_waits_iff
      inOrder.resultsDistinct.distinct).mpr requires
    have done := Schedule.settled_succ_iff.mp
      (Schedule.mem_levelAt.mp inLevel).2.1 producer waitsFor
    have earlier := Schedule.mem_flatten_levels.mpr
      ⟨by simpa using requires.lt_right, done⟩
    rw [tasks, List.getElem?_map, Option.map_eq_some_iff] at producerAt
    obtain ⟨source, sourceAt, rfl⟩ := producerAt
    exact Or.inr (List.mem_map.mpr
      ⟨source, mem_nodesAt.mpr ⟨producer, earlier, sourceAt⟩, sameName⟩)

theorem layered_levels {model : Model α}
    (inOrder : Schedule.NamesInOrder model.inputNames model.tasks)
    (rounds : Nat) :
    Layered model.inputNames (model.stages ((List.range rounds).map
      (Schedule.levelAt (Schedule.waits model.tasks)))) := by
  induction rounds with
  | zero => trivial
  | succ rounds induction =>
      rw [List.range_succ, List.map_append, stages, List.map_append,
        layered_append_iff]
      refine ⟨induction, ?_, trivial⟩
      intro node member
      obtain ⟨position, inLevel, found⟩ := mem_nodesAt.mp member
      have subset := dependencies_subset_of_levelAt inOrder inLevel found
      rw [nodesAt_flatten] at subset
      exact subset

/-- A model that has levels is staged by them. -/
theorem staged_of_levels {model : Model α} {levels : List (List Nat)}
    (ordered : model.levels = .ok levels) :
    model.Staged (model.stages levels) := by
  rw [levels_eq] at ordered
  obtain ⟨inOrder, last, _, complete, rfl⟩ :=
    Schedule.levels_eq_ok_iff.mp ordered
  have distinct : model.nodeNames.Nodup :=
    model.map_name_tasks ▸ inOrder.resultsDistinct.distinct
  refine ⟨layered_levels inOrder last, ?_, inOrder.inputsDistinct, distinct, ?_⟩
  · rw [← nodesAt_flatten]
    rw [← Schedule.length_waits] at complete
    have everyNode := (Schedule.flatten_levels_perm complete).filterMap
      fun position => model.nodes[position]?
    rw [Schedule.length_waits, length_tasks, filterMap_getElem?_range]
      at everyNode
    exact everyNode
  · intro name member
    rw [← model.map_name_tasks] at member
    obtain ⟨task, isTask, rfl⟩ := List.mem_map.mp member
    exact inOrder.resultsDistinct.fresh task isTask

end Model

end FuzzyGrid
