import FuzzyGrid.Proofs.Evaluation.Success
import FuzzyGrid.Proofs.Number.Exact
import FuzzyGrid.Proofs.Tags.Sign

/-!
# Positive tags in place of their bases

An input whose tag is replaced by the positive one of its family is as good as
before.  Both evaluations end at the same place and publish the same, and where
a tag differs the result is a copy, over any number of steps, of an input that
has been given the other tag.
-/

namespace FuzzyGrid

open List (Forall₂)

variable {α : Type}

/-- A result with the positive tag of its family. -/
def Result.positive (result : Result α) : Result α :=
  { result with dataType := result.dataType.positive }

/-- One input and the same with its tag, or the positive one of its family. -/
def Raised (input twin : String × Result α) : Prop :=
  input.1 = twin.1 ∧ (twin.2 = input.2 ∨ twin.2 = input.2.positive)

theorem Raised.sameButSign {input twin : String × Result α}
    (raised : Raised input twin) :
    input.1 = twin.1 ∧ input.2.SameButSign twin.2 := by
  obtain ⟨sameName, same | positive⟩ := raised
  · exact ⟨sameName, same ▸ .refl _⟩
  · refine ⟨sameName, ?_⟩
    rw [positive]
    exact ⟨rfl, rfl, (DataType.family_positive _).symm⟩

variable [Scalar α]

namespace Model

/-- Two models of the same nodes, of which the second has the positive tags of
some of the inputs in place of theirs. -/
structure RaisedTo (first second : Model α) : Prop where
  inputs : Forall₂ Raised first.inputs second.inputs
  nodes : first.nodes = second.nodes

/-- A name comes from another by copies. -/
inductive Copies (model : Model α) (source : String) : String → Prop where
  | refl : Copies model source source
  | copy {node : Node α} {field : String} (member : node ∈ model.nodes)
      (isCopy : node.operation = .copy field)
      (copies : Copies model source field) : Copies model source node.name

/-- No input that a name comes from by copies has been changed. -/
def Unchanged (first second : Model α) (name : String) : Prop :=
  ∀ input ∈ first.inputs, ∀ twin ∈ second.inputs, input.1 = twin.1 →
    first.Copies input.1 name → input = twin

/-- Evaluations of two models that end at the same place: both succeed, or
both stop before the first input, at the same input or at the same node.  The
fault of a node may differ in the sign of the tag that it refuses. -/
inductive EndAlike (first second : Model α) (session : Session α) : Prop where
  | succeed {one other : Session α} {summary : Summary}
      (run : first.evaluate session = (one, .ok summary))
      (runToo : second.evaluate session = (other, .ok summary))
  | schedule {one other : Session α} {fault : ScheduleFault}
      (run : first.evaluate session = (one, .error (.schedule fault)))
      (runToo : second.evaluate session = (other, .error (.schedule fault)))
  | input {one other : Session α} {name : String} {error : CommandError α}
      (run : first.evaluate session = (one, .error (.notInjected name error)))
      (runToo :
        second.evaluate session = (other, .error (.notInjected name error)))
  | node {one other : Session α} {failure twin : CommandError α}
      {earlier later : List Nat} {node : Node α}
      (failsAt : first.FailsAt session earlier node later one failure)
      (failsAtToo : second.FailsAt session earlier node later other twin)
      (same : failure.Related Fault.SameButSign twin)

/-! ## What one evaluation adds -/

section

variable {model : Model α} {session : Session α}

/-- An evaluation that adds anything has added first inputs and nodes in
order. -/
theorem exists_gained (model : Model α) (session : Session α) :
    (model.evaluate session).1 = session ∨
      ∃ stages given ran, model.Staged stages ∧ given ⊆ model.inputs ∧
        ran ⊆ model.nodes ∧ Ordered (given.map Prod.fst) ran ∧
        Gained given ran session.context (model.evaluate session).1.context := by
  cases run : model.evaluate session with
  | mk stopped outcome =>
      cases outcome with
      | ok summary =>
          obtain ⟨levels, ordered, gained⟩ := gained_of_evaluate run
          have staged := staged_of_levels ordered
          exact .inr ⟨_, _, _, staged, List.Subset.refl _, staged.perm.subset,
            staged.layered.ordered, gained⟩
      | error error =>
          rcases evaluate_error run with ⟨fault, noLevels, _⟩ |
            ⟨before, name, taken, _⟩ | ⟨earlier, node, later, _, failsAt, _⟩
          · simp only [Model.evaluate, noLevels] at run
            cases run
            exact .inl rfl
          · obtain ⟨levels, ordered⟩ := taken.ordered
            obtain ⟨result, after, split⟩ := taken.split
            obtain ⟨last, evaluates, gained⟩ := taken.evaluate
            rw [evaluates] at run
            cases run
            refine .inr ⟨_, before, [], staged_of_levels ordered, ?_, by simp,
              trivial, gained⟩
            rw [split]
            exact List.subset_append_left _ _
          · obtain ⟨position, inOrder, found⟩ := failsAt.turn
            obtain ⟨levels, ordered, sameOrder⟩ := order_eq_ok_iff.mp inOrder
            have staged := staged_of_levels ordered
            have split := nodesAt_split earlier later found
            rw [← sameOrder, nodesAt_flatten] at split
            have order := staged.layered.ordered
            rw [split, ordered_append_iff] at order
            refine .inr ⟨_, _, _, staged, List.Subset.refl _, ?_, order.1,
              failsAt.gained⟩
            intro other member
            apply staged.perm.mem_iff.mp
            rw [split]
            exact List.mem_append_left _ member

/-- What is added under a name is an input of it, or what the one node of this
name computes; and nothing that this node refers to was held before. -/
theorem source_of_evaluate {name : String} {result : Result α}
    (free : session.context.get? name = none)
    (held : (model.evaluate session).1.context.get? name = some result) :
    (name, result) ∈ model.inputs ∨
      ∃ node ∈ model.nodes, node.name = name ∧
        node.SolvedBy (model.evaluate session).1.context ∧
        ∀ required ∈ node.dependencies,
          session.context.get? required = none := by
  rcases model.exists_gained session with
    same | ⟨stages, given, ran, staged, isGiven, isNode, ordered, gained⟩
  · rw [same, free] at held
    cases held
  · by_cases added : name ∈ given.map Prod.fst ++ ran.map Node.name
    · rcases List.mem_append.mp added with input | produced
      · obtain ⟨entry, member, rfl⟩ := List.mem_map.mp input
        have holds := gained.given entry member
        rw [held, Option.some.injEq] at holds
        exact .inl (holds ▸ isGiven member)
      · obtain ⟨node, member, rfl⟩ := List.mem_map.mp produced
        refine .inr ⟨node, isNode member, rfl, gained.solved node member, ?_⟩
        intro required isRequired
        exact gained.fresh required
          (ordered.dependencies_subset node member isRequired)
    · rw [gained.others name added, free] at held
      cases held

/-- Where anything is added, the names of the model are distinct. -/
theorem distinct_of_evaluate {name : String} {result : Result α}
    (free : session.context.get? name = none)
    (held : (model.evaluate session).1.context.get? name = some result) :
    ∃ stages, model.Staged stages := by
  rcases model.exists_gained session with same | ⟨stages, _, _, staged, _⟩
  · rw [same, free] at held
    cases held
  · exact ⟨stages, staged⟩

/-- Under the name of an input, that input is added. -/
theorem input_of_evaluate {input : String × Result α} {result : Result α}
    (member : input ∈ model.inputs)
    (free : session.context.get? input.1 = none)
    (held : (model.evaluate session).1.context.get? input.1 = some result) :
    result = input.2 := by
  obtain ⟨stages, staged⟩ := distinct_of_evaluate free held
  rcases source_of_evaluate free held with given | ⟨node, isNode, same, _⟩
  · have equal : (input.1, result) = input :=
      List.inj_on_of_nodup_map staged.inputsDistinct given member rfl
    rw [← equal]
  · exact absurd (same ▸ List.mem_map_of_mem member)
      (staged.apart _ (List.mem_map_of_mem isNode))

/-- Under the name of a node, what the node computes is added. -/
theorem node_of_evaluate {node : Node α} {result : Result α}
    (member : node ∈ model.nodes)
    (free : session.context.get? node.name = none)
    (held : (model.evaluate session).1.context.get? node.name = some result) :
    (∃ computed, node.compute (model.evaluate session).1.context = .ok computed ∧
        computed.result = result) ∧
      ∀ required ∈ node.dependencies,
        session.context.get? required = none := by
  obtain ⟨stages, staged⟩ := distinct_of_evaluate free held
  rcases source_of_evaluate free held with
    input | ⟨other, isNode, same, solved, unheld⟩
  · exact absurd (List.mem_map_of_mem input)
      (staged.apart _ (List.mem_map_of_mem member))
  · have equal : other = node :=
      List.inj_on_of_nodup_map staged.distinct isNode member same
    subst other
    obtain ⟨computed, computes, holds⟩ := solved
    rw [held, Option.some.injEq] at holds
    exact ⟨⟨computed, computes, holds.symm⟩, unheld⟩

/-- A copy that is added is what it is a copy of, and that was not held
before either. -/
theorem copy_of_evaluate {node : Node α} {field : String} {result : Result α}
    (member : node ∈ model.nodes) (isCopy : node.operation = .copy field)
    (free : session.context.get? node.name = none)
    (held : (model.evaluate session).1.context.get? node.name = some result) :
    field ∈ node.dependencies ∧ session.context.get? field = none ∧
      (model.evaluate session).1.context.get? field = some result := by
  obtain ⟨⟨computed, computes, rfl⟩, unheld⟩ := node_of_evaluate member free held
  rw [Node.compute, isCopy, Operation.compute_copy_eq_ok_iff] at computes
  have refers : field ∈ node.dependencies :=
    node.mem_dependencies_of_mem_fields (by simp [isCopy, Operation.fields])
  exact ⟨refers, unheld field refers, computes.1⟩

/-- What comes from an input by copies is that input. -/
theorem Copies.eq_input {source : String × Result α} {name : String}
    {result : Result α} (given : source ∈ model.inputs)
    (copies : model.Copies source.1 name)
    (free : session.context.get? name = none)
    (held : (model.evaluate session).1.context.get? name = some result) :
    result = source.2 := by
  induction copies generalizing result with
  | refl => exact input_of_evaluate given free held
  | copy member isCopy _ induction =>
      obtain ⟨_, unheld, heldToo⟩ := copy_of_evaluate member isCopy free held
      exact induction unheld heldToo

end

/-! ## Two evaluations -/

theorem FailsAt.related {results : Result α → Result α → Prop}
    {faults : Fault α → Fault α → Prop} {first second : Model α}
    {session stopped : Session α} {earlier later : List Nat} {node : Node α}
    {failure : CommandError α} (respected : Respected results faults)
    (reflexive : ∀ result, results result result)
    (nodes : first.nodes = second.nodes)
    (inputs : InputsRelated results first.inputs second.inputs)
    (failsAt : first.FailsAt session earlier node later stopped failure) :
    ∃ last twin, second.FailsAt session earlier node later last twin ∧
      failure.Related faults twin := by
  obtain ⟨position, inOrder, found⟩ := failsAt.turn
  obtain ⟨injected, middle, injects, ran, fails⟩ := failsAt.fails
  have sameOrder : first.order = second.order := by
    rw [Model.order, Model.order, levels_eq_of_inputsRelated nodes inputs]
  have sameNodes : first.nodesAt earlier = second.nodesAt earlier := by
    rw [nodesAt, nodesAt, nodes]
  have start : session.Related results session := ⟨.refl reflexive _, rfl⟩
  have injection := inject_related respected.reflexive inputs start
  rw [injects] at injection
  obtain ⟨injectedToo, _, injectsToo, sessions, _⟩ := injection.of_ok
  have running :=
    Node.executeAll_related (first.nodesAt earlier) respected sessions
  rw [ran] at running
  obtain ⟨middleToo, _, ranToo, sessions, _⟩ := running.of_ok
  have failing := node.execute_related respected sessions
  rw [fails] at failing
  obtain ⟨last, twin, failsToo, _, same⟩ := failing.of_error
  exact ⟨last, twin, ⟨⟨position, sameOrder ▸ inOrder, nodes ▸ found⟩,
    injectedToo, middleToo, injectsToo, sameNodes ▸ ranToo, failsToo⟩, same⟩

namespace RaisedTo

variable {first second : Model α}

theorem inputsRelated (raised : first.RaisedTo second) :
    InputsRelated Result.SameButSign first.inputs second.inputs :=
  raised.inputs.imp fun _ _ same => same.sameButSign

/-- The two evaluations are in lockstep. -/
theorem runsRelated (raised : first.RaisedTo second) (session : Session α) :
    RunsRelated Result.SameButSign (ModelError.Related Fault.SameButSign) Eq
      (first.evaluate session) (second.evaluate session) :=
  evaluate_related respected_sameButSign raised.nodes raised.inputsRelated
    ⟨.refl .refl _, rfl⟩

theorem endAlike (raised : first.RaisedTo second) (session : Session α) :
    first.EndAlike second session := by
  obtain ⟨one, other, _,
    ⟨error, twin, run, runToo, same⟩ | ⟨summary, _, run, runToo, rfl⟩⟩ :=
    (raised.runsRelated session).exists_eq
  · rcases evaluate_error run with ⟨fault, _, rfl⟩ | ⟨_, name, _, rfl⟩ |
      ⟨earlier, node, later, failure, failsAt, rfl⟩
    · cases same
      exact .schedule run runToo
    · cases same with
      | @notInjected _ _ twin same =>
          obtain ⟨fault, origin⟩ := twin
          obtain ⟨faults, origins⟩ := same
          cases faults
          cases origins
          exact .input run runToo
    · obtain ⟨last, twin, failsAtToo, same⟩ := failsAt.related
        respected_sameButSign .refl raised.nodes raised.inputsRelated
      exact .node failsAt failsAtToo same
  · exact .succeed run runToo

theorem copies (raised : first.RaisedTo second) {source name : String}
    (copies : first.Copies source name) : second.Copies source name := by
  induction copies with
  | refl => exact .refl
  | copy member isCopy _ induction =>
      exact .copy (raised.nodes ▸ member) isCopy induction

variable {session : Session α} {name : String}

/-- A copy of an input has the tag that the input has. -/
theorem get?_of_copies (raised : first.RaisedTo second)
    {input twin : String × Result α} (member : input ∈ first.inputs)
    (memberToo : twin ∈ second.inputs) (sameName : input.1 = twin.1)
    (copies : first.Copies input.1 name)
    (free : session.context.get? name = none) :
    ((first.evaluate session).1.context.get? name = none ∧
        (second.evaluate session).1.context.get? name = none) ∨
      (first.evaluate session).1.context.get? name = some input.2 ∧
        (second.evaluate session).1.context.get? name = some twin.2 := by
  rcases (raised.runsRelated session).sessions.context.get? name with
    absent | ⟨result, other, held, heldToo, _⟩
  · exact .inl absent
  · have copiesToo : second.Copies twin.1 name :=
      sameName ▸ raised.copies copies
    refine .inr ⟨?_, ?_⟩
    · rw [held, copies.eq_input member free held]
    · rw [heldToo, copiesToo.eq_input memberToo free heldToo]

/-- An input that has been added unchanged is the same in both contexts. -/
theorem get?_eq_of_input (raised : first.RaisedTo second)
    {input : String × Result α} (member : input ∈ first.inputs)
    (free : session.context.get? input.1 = none)
    (unchanged : first.Unchanged second input.1) :
    (first.evaluate session).1.context.get? input.1 =
      (second.evaluate session).1.context.get? input.1 := by
  obtain ⟨twin, isTwin, sameName, _⟩ :=
    exists_right_of_forall₂ raised.inputs member
  have same := unchanged input member twin isTwin sameName .refl
  rcases raised.get?_of_copies member isTwin sameName .refl free with
    ⟨absent, absentToo⟩ | ⟨held, heldToo⟩
  · rw [absent, absentToo]
  · rw [held, heldToo, same]

/-- A node computes the same in both contexts, unless it copies what is not
the same. -/
theorem get?_eq_of_node (raised : first.RaisedTo second) {node : Node α}
    (member : node ∈ first.nodes)
    (free : session.context.get? node.name = none)
    (agree : ∀ field, node.operation = .copy field → field ∈ node.dependencies →
      session.context.get? field = none →
      (first.evaluate session).1.context.get? field =
        (second.evaluate session).1.context.get? field) :
    (first.evaluate session).1.context.get? node.name =
      (second.evaluate session).1.context.get? node.name := by
  have related := (raised.runsRelated session).sessions.context
  have memberToo : node ∈ second.nodes := raised.nodes ▸ member
  rcases related.get? node.name with
    ⟨absent, absentToo⟩ | ⟨result, other, held, heldToo, _⟩
  · rw [absent, absentToo]
  · by_cases copies : ∃ field, node.operation = .copy field
    · obtain ⟨field, isCopy⟩ := copies
      obtain ⟨refers, unheld, found⟩ :=
        copy_of_evaluate member isCopy free held
      obtain ⟨_, _, foundToo⟩ :=
        copy_of_evaluate memberToo isCopy free heldToo
      rw [held, heldToo, ← found, ← foundToo, agree field isCopy refers unheld]
    · obtain ⟨⟨computed, computes, rfl⟩, _⟩ := node_of_evaluate member free held
      obtain ⟨⟨computedToo, computesToo, rfl⟩, _⟩ :=
        node_of_evaluate memberToo free heldToo
      have outcomes : Outcomes (CommandError.Related Fault.SameButSign) Eq
          (node.compute (first.evaluate session).1.context)
          (node.compute (second.evaluate session).1.context) :=
        Operation.compute_of_sameButSign _
          (fun field isCopy => copies ⟨field, isCopy⟩) related
      rw [computes, computesToo] at outcomes
      cases outcomes with
      | ok same => rw [held, heldToo, same]

/-- Results that do not come from a changed input by copies are equal. -/
theorem get?_eq (raised : first.RaisedTo second)
    (unchanged : session.context.get? name = none →
      first.Unchanged second name) :
    (first.evaluate session).1.context.get? name =
      (second.evaluate session).1.context.get? name := by
  have related := (raised.runsRelated session).sessions.context
  rcases related.get? name with
    ⟨absent, absentToo⟩ | ⟨result, other, held, heldToo, _⟩
  · rw [absent, absentToo]
  · cases free : session.context.get? name with
    | some earlier =>
        have present : (session.context.get? name).isSome := by simp [free]
        rw [(first.evaluate_extends session).kept name present,
          (second.evaluate_extends session).kept name present]
    | none =>
        obtain ⟨stages, staged⟩ := distinct_of_evaluate free held
        have inside : name ∈
            first.inputNames ++ stages.flatten.map Node.name := by
          rw [List.mem_append, staged.mem_names_iff]
          rcases source_of_evaluate free held with
            input | ⟨node, member, rfl, _⟩
          · exact .inl (List.mem_map_of_mem input)
          · exact .inr (List.mem_map_of_mem member)
        -- A copy comes from a changed input if what it copies does, so that
        -- the induction goes along the order of the nodes.
        refine staged.layered.ordered.forall_names (motive := fun name =>
          session.context.get? name = none → first.Unchanged second name →
            (first.evaluate session).1.context.get? name =
              (second.evaluate session).1.context.get? name) ?_ ?_ name inside
          free (unchanged free)
        · intro name member free unchanged
          obtain ⟨input, isInput, rfl⟩ := List.mem_map.mp member
          exact raised.get?_eq_of_input isInput free unchanged
        · intro node member agree free unchanged
          have isNode := staged.perm.mem_iff.mp member
          refine raised.get?_eq_of_node isNode free ?_
          intro field isCopy refers unheld
          refine agree field refers unheld ?_
          intro input isInput twin isTwin sameName copies
          exact unchanged input isInput twin isTwin sameName
            (.copy isNode isCopy copies)

end RaisedTo

/-- Inputs can be given their positive tags.  From any session both models end
at the same place, have written the same, and hold the same under the same
names but for the signs of tags.  What comes from an input by copies is that
input with the tag that it has in either model, and whatever comes from no
changed input by copies has the same tag in both. -/
theorem evaluate_raised {first second : Model α}
    (raised : first.RaisedTo second) (session : Session α) :
    first.EndAlike second session ∧
    (first.evaluate session).1.Related Result.SameButSign
      (second.evaluate session).1 ∧
    (∀ input ∈ first.inputs, ∀ twin ∈ second.inputs, input.1 = twin.1 →
      ∀ name, first.Copies input.1 name →
        session.context.get? name = none →
        ((first.evaluate session).1.context.get? name = none ∧
            (second.evaluate session).1.context.get? name = none) ∨
          (first.evaluate session).1.context.get? name = some input.2 ∧
            (second.evaluate session).1.context.get? name = some twin.2) ∧
    ∀ name,
      (session.context.get? name = none → first.Unchanged second name) →
      (first.evaluate session).1.context.get? name =
        (second.evaluate session).1.context.get? name := by
  refine ⟨raised.endAlike session, (raised.runsRelated session).sessions,
    ?_, ?_⟩
  · intro input member twin memberToo sameName name copies free
    exact raised.get?_of_copies member memberToo sameName copies free
  · intro name unchanged
    exact raised.get?_eq unchanged

end Model

namespace Sample

def keptArea : Node ℚ where
  command := ⟨"Kept", "Copy", ⟨[("InFieldName", .text "Area")], by decide⟩,
    ⟨"density.mpt", 4, "Kept = Copy(Area)"⟩⟩
  operator := .copy
  operation := .copy "Area"
  interpreted := rfl

/-- The complement of areas, which are not fuzzy. -/
def outside : Node ℚ where
  command := ⟨"Outside", "FuzzyNot",
    ⟨[("InFieldName", .text "Kept")], by decide⟩,
    ⟨"density.mpt", 5, "Outside = FuzzyNot(Kept)"⟩⟩
  operator := .fuzzyNot
  operation := .layer "Kept" .fuzzyNot
  interpreted := rfl

/-- Areas with a copy, the quotient of counts by them, and a node that
refuses the copy. -/
def sharing (area : Result ℚ) : Model ℚ :=
  ⟨[("Count", counts 0), ("Area", area)], [outside, keptArea, density]⟩

/-- With positive areas the copy is positive as well, the quotient is the
same, and the node that refuses the copy still refuses it. -/
theorem evaluate_raised_sharing :
    (sharing areas).RaisedTo (sharing areas.positive) ∧
      (sharing areas).EndAlike (sharing areas.positive) unstarted ∧
      ((sharing areas).evaluate unstarted).2 = .error (.aborted
        ⟨.typeMismatch "Kept" .float [.fuzzy], outside.command.origin⟩) ∧
      ((sharing areas.positive).evaluate unstarted).2 = .error (.aborted
        ⟨.typeMismatch "Kept" .positiveFloat [.fuzzy],
          outside.command.origin⟩) ∧
      ((sharing areas).evaluate unstarted).1.context.get? "Kept" =
        some areas ∧
      ((sharing areas.positive).evaluate unstarted).1.context.get? "Kept" =
        some areas.positive ∧
      ((sharing areas).evaluate unstarted).1.context.get? "Density" =
        ((sharing areas.positive).evaluate unstarted).1.context.get? "Density" := by
  have raised : (sharing areas).RaisedTo (sharing areas.positive) :=
    ⟨.cons ⟨rfl, .inl rfl⟩ (.cons ⟨rfl, .inr rfl⟩ .nil), rfl⟩
  obtain ⟨alike, _, copied, others⟩ := Model.evaluate_raised raised unstarted
  have copies : (sharing areas).Copies "Area" keptArea.name :=
    .copy (by simp [sharing]) rfl .refl
  have held : (((sharing areas).evaluate unstarted).1.context.get?
      "Kept").isSome := rfl
  have unchanged : (sharing areas).Unchanged (sharing areas.positive)
      "Density" := by
    intro input member twin _ _ fromInput
    generalize named : "Density" = name at fromInput
    cases fromInput with
    | refl =>
        have notInput : "Density" ∉ (sharing areas).inputNames := by decide
        exact absurd (named ▸ List.mem_map_of_mem member) notInput
    | @copy node field isNode isCopy _ =>
        simp only [sharing, List.mem_cons, List.not_mem_nil, or_false] at isNode
        rcases isNode with rfl | rfl | rfl
        · cases isCopy
        · exact absurd named (by decide)
        · cases isCopy
  rcases copied ("Area", areas) (by simp [sharing]) ("Area", areas.positive)
    (by simp [sharing]) rfl "Kept" copies rfl with
    ⟨absent, _⟩ | ⟨kept, keptToo⟩
  · simp [absent] at held
  · exact ⟨raised, alike, rfl, rfl, kept, keptToo,
      others "Density" fun _ => unchanged⟩

end Sample

end FuzzyGrid
