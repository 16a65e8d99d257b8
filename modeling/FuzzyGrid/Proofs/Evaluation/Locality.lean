import FuzzyGrid.Proofs.Evaluation.Success
import FuzzyGrid.Proofs.Operator.Placement
import FuzzyGrid.Proofs.Schedule.Cycle
import Mathlib.Data.List.Perm.Subperm

/-!
# What a result depends on

A name needs the names that its node refers to, and whatever these need.  The
definitions of the needed names determine the result: two models that agree on
them publish the same, in whatever order they are written and whatever else
they hold.  In the same way a part of a model that leaves out no name which it
needs runs by itself.
-/

namespace FuzzyGrid

open Relation (ReflTransGen)

variable {α : Type} [Scalar α]

/-- What a model says of a name: a layer that is given, or a command for it,
wherever that is written. -/
inductive Definition (α : Type) where
  | input (result : Result α)
  | command (operator : String) (args : NameTable (ArgValue α))

namespace Model

def Defines (model : Model α) (name : String) : Definition α → Prop
  | .input result => (name, result) ∈ model.inputs
  | .command operator args =>
    ∃ node ∈ model.nodes, node.name = name ∧
      node.command.operator = operator ∧ node.command.args = args

/-- The command for one name refers to another. -/
def RefersTo (model : Model α) (name required : String) : Prop :=
  ∃ node ∈ model.nodes, node.name = name ∧ required ∈ node.dependencies

/-- A name needs itself and what the commands for needed names refer to. -/
def Needs (model : Model α) : String → String → Prop :=
  ReflTransGen model.RefersTo

/-- Two models say the same of every name that a name needs. -/
def SameBelow (first second : Model α) (name : String) : Prop :=
  ∀ needed, first.Needs name needed → ∀ definition,
    first.Defines needed definition ↔ second.Defines needed definition

/-- A part of a model: all of its inputs and some of its nodes, among them
all those that they refer to. -/
structure PartOf (part whole : Model α) : Prop where
  inputs : part.inputs.Perm whole.inputs
  nodes : part.nodes.Subperm whole.nodes
  closed : ∀ node ∈ part.nodes, ∀ name ∈ node.dependencies,
    name ∈ whole.nodeNames → name ∈ part.nodeNames

/-! ## Agreement below a name -/

namespace SameBelow

variable {first second : Model α} {name : String}

theorem defines (same : first.SameBelow second name)
    (definition : Definition α) :
    first.Defines name definition ↔ second.Defines name definition :=
  same name .refl definition

theorem of_refersTo {required : String} (same : first.SameBelow second name)
    (refers : first.RefersTo name required) :
    first.SameBelow second required :=
  fun needed path => same needed (.head refers path)

/-- It is enough to look at names among which all references stay. -/
theorem of_closed (names : List String) (member : name ∈ names)
    (closed : ∀ needed ∈ names, ∀ required,
      first.RefersTo needed required → required ∈ names)
    (same : ∀ needed ∈ names, ∀ definition,
      first.Defines needed definition ↔ second.Defines needed definition) :
    first.SameBelow second name := by
  intro needed path
  refine same needed ?_
  induction path with
  | refl => exact member
  | tail _ refers induction => exact closed _ induction _ refers

/-- A node has a twin in the other model, which does the same. -/
theorem exists_twin {node : Node α} (member : node ∈ first.nodes)
    (same : first.SameBelow second node.name) :
    ∃ twin ∈ second.nodes, twin.name = node.name ∧
      twin.operation = node.operation := by
  obtain ⟨twin, isTwin, sameName, sameOperator, sameArgs⟩ :=
    (same.defines (.command node.command.operator node.command.args)).mp
      ⟨node, member, rfl, rfl, rfl⟩
  refine ⟨twin, isTwin, sameName, Node.operation_eq_of_sameButRemarks ?_⟩
  refine ⟨sameName, sameOperator, ?_⟩
  intro arg _
  rw [Command.get?, Command.get?, sameArgs]

/-- Contexts that solve the models agree on every name below which the models
do. -/
theorem get?_eq {stages : List (List (Node α))} {range : FuzzyRange α}
    {one other : ResultContext α} (staged : first.Staged stages)
    (solvesFirst : first.Solution (.empty range) one)
    (solvesSecond : second.Solution (.empty range) other)
    (same : first.SameBelow second name) :
    one.get? name = other.get? name := by
  have sameRange : one.range = other.range :=
    solvesFirst.range.trans solvesSecond.range.symm
  have inside : ∀ name ∈ first.inputNames ++ stages.flatten.map Node.name,
      first.SameBelow second name → one.get? name = other.get? name := by
    refine staged.layered.ordered.forall_names (motive := fun name =>
      first.SameBelow second name → one.get? name = other.get? name) ?_ ?_
    · intro name member same
      obtain ⟨⟨_, result⟩, given, rfl⟩ := List.mem_map.mp member
      have givenToo := (same.defines (.input result)).mp given
      rw [solvesFirst.inputs _ given, ← solvesSecond.inputs _ givenToo]
    · intro node member agreeBelow same
      have isNode := staged.perm.mem_iff.mp member
      obtain ⟨twin, isTwin, sameName, sameOperation⟩ := same.exists_twin isNode
      obtain ⟨computed, computes, holds⟩ := solvesFirst.nodes node isNode
      obtain ⟨twinComputed, twinComputes, twinHolds⟩ :=
        solvesSecond.nodes twin isTwin
      have sameCompute : node.compute one = node.compute other := by
        refine node.compute_congr sameRange fun required isRequired => ?_
        exact agreeBelow required isRequired
          (same.of_refersTo ⟨node, isNode, rfl, isRequired⟩)
      rw [sameCompute] at computes
      rw [holds, ← sameName, twinHolds,
        Node.computed_unique sameOperation twinComputes computes]
  by_cases member : name ∈ first.inputNames ++ stages.flatten.map Node.name
  · exact inside name member same
  · -- A name that the first model does not define is not defined by the
    -- second one either, so that neither context holds anything under it.
    rw [List.mem_append, staged.mem_names_iff, not_or] at member
    have notInput : name ∉ second.inputNames := by
      intro given
      obtain ⟨⟨_, result⟩, isInput, rfl⟩ := List.mem_map.mp given
      exact member.1 (List.mem_map_of_mem
        ((same.defines (.input result)).mpr isInput))
    have notNode : name ∉ second.nodeNames := by
      intro produced
      obtain ⟨twin, isTwin, rfl⟩ := List.mem_map.mp produced
      obtain ⟨node, isNode, sameName, _⟩ :=
        (same.defines (.command twin.command.operator twin.command.args)).mpr
          ⟨twin, isTwin, rfl, rfl, rfl⟩
      exact member.2 (List.mem_map.mpr ⟨node, isNode, sameName⟩)
    rw [solvesFirst.others name member.1 member.2,
      solvesSecond.others name notInput notNode]

end SameBelow

/-! ## Parts -/

namespace PartOf

variable {part whole : Model α}

theorem mem_inputNames_iff (isPart : part.PartOf whole) {name : String} :
    name ∈ part.inputNames ↔ name ∈ whole.inputNames :=
  (isPart.inputs.map Prod.fst).mem_iff

theorem nodeNames_subset (isPart : part.PartOf whole) :
    part.nodeNames ⊆ whole.nodeNames :=
  List.map_subset _ isPart.nodes.subset

theorem distinct (isPart : part.PartOf whole)
    (distinct : whole.nodeNames.Nodup) : part.nodeNames.Nodup := by
  obtain ⟨chosen, perm, sublist⟩ := isPart.nodes
  exact (perm.map Node.name).nodup_iff.mp
    ((sublist.map Node.name).nodup distinct)

/-- The names of a part are in order where those of the whole are. -/
theorem namesInOrder (isPart : part.PartOf whole)
    (inOrder : Schedule.NamesInOrder whole.inputNames whole.tasks) :
    Schedule.NamesInOrder part.inputNames part.tasks := by
  have subset : part.tasks ⊆ whole.tasks := List.map_subset _ isPart.nodes.subset
  have results := inOrder.resultsDistinct
  refine ⟨(isPart.inputs.map Prod.fst).nodup_iff.mpr inOrder.inputsDistinct,
    ⟨?_, ?_⟩, ?_⟩
  · intro task member
    rw [isPart.mem_inputNames_iff]
    exact results.fresh task (subset member)
  · rw [map_name_tasks]
    exact isPart.distinct (whole.map_name_tasks ▸ results.distinct)
  · intro task member dependency isDependency
    obtain ⟨node, isNode, rfl⟩ := List.mem_map.mp member
    have known := inOrder.known node.task (subset member) dependency isDependency
    unfold Schedule.Known at known ⊢
    rw [map_name_tasks] at known ⊢
    exact known.imp isPart.mem_inputNames_iff.mpr
      (isPart.closed node isNode dependency isDependency)

theorem exists_levels (isPart : part.PartOf whole) {levels : List (List Nat)}
    (ordered : whole.levels = .ok levels) :
    ∃ levels, part.levels = .ok levels := by
  obtain ⟨inOrder, acyclic⟩ := Schedule.exists_levels_iff.mp ⟨levels, ordered⟩
  exact Schedule.exists_levels_iff.mpr ⟨isPart.namesInOrder inOrder,
    acyclic.of_subset (List.map_subset _ isPart.nodes.subset)⟩

/-- What solves the whole solves its parts. -/
theorem solvedBy (isPart : part.PartOf whole) {context : ResultContext α}
    (solved : whole.SolvedBy context) : part.SolvedBy context :=
  ⟨fun input member => solved.inputs input (isPart.inputs.mem_iff.mp member),
    fun node member => solved.nodes node (isPart.nodes.subset member)⟩

end PartOf

/-! ## Locality -/

/-- What a model publishes under a name, every other model publishes as well
that says the same of all names which this name needs.  And a part of a model
that has been evaluated can be evaluated, wherever the reports of its nodes
can be delivered. -/
theorem evaluate_local {model : Model α} {range : FuzzyRange α}
    {workspace : Workspace} {finished : Session α} {summary : Summary}
    (succeeded :
      model.evaluate ⟨.empty range, workspace⟩ = (finished, .ok summary)) :
    (∀ (other : Model α) place last count,
      other.evaluate ⟨.empty range, place⟩ = (last, .ok count) →
      ∀ name, model.SameBelow other name →
        finished.context.get? name = last.context.get? name) ∧
    ∀ (part : Model α) place, part.PartOf model →
      (∀ node ∈ part.nodes,
        node.DeliversIn workspace → node.DeliversIn place) →
      ∃ last count, part.evaluate ⟨.empty range, place⟩ = (last, .ok count) := by
  have solution := solution_of_evaluate succeeded
  obtain ⟨levels, ordered, _⟩ := gained_of_evaluate succeeded
  constructor
  · intro other place last count succeededToo name same
    exact same.get?_eq (staged_of_levels ordered) solution
      (solution_of_evaluate succeededToo)
  · intro part place isPart delivers
    obtain ⟨partLevels, partOrdered⟩ := isPart.exists_levels ordered
    have fresh : part.Fresh (Session.mk (.empty range) place).context :=
      fun _ _ => rfl
    refine (evaluate_succeeds_iff partOrdered fresh).mpr
      ⟨⟨finished.context, solution.range, isPart.solvedBy solution.solvedBy⟩, ?_⟩
    intro node member
    exact delivers node member
      (deliversIn_of_evaluate succeeded node (isPart.nodes.subset member))

end Model

namespace Sample

/-- The complement of wetness, written elsewhere. -/
def dryElsewhere : Node Float :=
  ⟨complement "Dry" "Water" 9, .fuzzyNot, .layer "Water" .fuzzyNot, rfl⟩

/-- The complement of height. -/
def low : Node Float :=
  ⟨complement "Low" "Height" 4, .fuzzyNot, .layer "Height" .fuzzyNot, rfl⟩

/-- A model in another order, with height in the stead of flatness. -/
def regrouped : Model Float :=
  ⟨[("Height", layer 1), ("Water", layer 0.5), ("Slope", layer 0.25)],
    [low, dryElsewhere, suitable]⟩

/-- The part of the small model that is about wetness. -/
def dryPart : Model Float :=
  ⟨model.inputs, [dry]⟩

/-- Nothing below suitability is said in another way. -/
theorem sameBelow_regrouped : model.SameBelow regrouped "Suitable" := by
  have suitableNeeds : suitable.dependencies = ["Dry", "Slope"] := rfl
  have dryNeeds : dry.dependencies = ["Water"] := rfl
  apply Model.SameBelow.of_closed ["Suitable", "Dry", "Slope", "Water"]
  · exact List.mem_cons_self
  · intro needed member required refers
    obtain ⟨node, isNode, rfl, isRequired⟩ := refers
    simp only [model, List.mem_cons, List.not_mem_nil, or_false] at isNode
    rcases isNode with rfl | rfl | rfl
    · rw [suitableNeeds] at isRequired
      simp only [List.mem_cons, List.not_mem_nil, or_false] at isRequired ⊢
      tauto
    · rw [dryNeeds] at isRequired
      simp only [List.mem_cons, List.not_mem_nil, or_false] at isRequired ⊢
      tauto
    · have outside : flat.name ∉ ["Suitable", "Dry", "Slope", "Water"] := by
        decide
      exact absurd member outside
  · intro needed member definition
    have notHeight : needed ≠ "Height" := by
      rintro rfl
      revert member
      decide
    have notLow : low.name ≠ needed := by
      rintro rfl
      revert member
      decide
    have notFlat : flat.name ≠ needed := by
      rintro rfl
      revert member
      decide
    have elsewhere : dryElsewhere.name = dry.name ∧
        dryElsewhere.command.operator = dry.command.operator ∧
        dryElsewhere.command.args = dry.command.args :=
      ⟨rfl, rfl, rfl⟩
    cases definition with
    | input result =>
        simp only [Model.Defines, model, regrouped, List.mem_cons,
          List.not_mem_nil, or_false, Prod.mk.injEq, notHeight, false_and,
          false_or]
        exact or_comm
    | command operator args =>
        simp only [Model.Defines, model, regrouped, List.mem_cons,
          List.not_mem_nil, or_false, exists_eq_or_imp, exists_eq_left,
          elsewhere, notLow, notFlat, false_and, false_or]
        exact or_comm

/-- The small model and the regrouped one agree on suitability, and the
complement of wetness can be taken by itself. -/
theorem evaluate_local_regrouped :
    ∃ finished last, model.evaluate session = (finished, .ok ⟨2, 3, 2⟩) ∧
      regrouped.evaluate session = (last, .ok ⟨3, 3, 2⟩) ∧
      model.SameBelow regrouped "Suitable" ∧
      finished.context.get? "Suitable" = last.context.get? "Suitable" ∧
      (last.context.get? "Suitable").isSome ∧
      dryPart.PartOf model ∧
      ∃ alone count, dryPart.evaluate session = (alone, .ok count) := by
  have evaluates :
      model.evaluate session = ((model.evaluate session).1, .ok ⟨2, 3, 2⟩) :=
    Prod.ext rfl rfl
  have evaluatesToo : regrouped.evaluate session =
      ((regrouped.evaluate session).1, .ok ⟨3, 3, 2⟩) :=
    Prod.ext rfl rfl
  have isPart : dryPart.PartOf model := by
    refine ⟨.refl _, ?_, ?_⟩
    · exact List.singleton_subperm_iff.mpr (by simp [model])
    · intro node member name isDependency isNode
      rw [List.mem_singleton.mp member] at isDependency
      have isWater : name = "Water" := List.mem_singleton.mp isDependency
      have outside : "Water" ∉ model.nodeNames := by decide
      exact absurd (isWater ▸ isNode) outside
  obtain ⟨agree, runs⟩ := Model.evaluate_local evaluates
  exact ⟨_, _, evaluates, evaluatesToo, sameBelow_regrouped,
    agree _ _ _ _ evaluatesToo _ sameBelow_regrouped, rfl, isPart,
    runs dryPart _ isPart fun _ _ delivers => delivers⟩

end Sample

end FuzzyGrid
