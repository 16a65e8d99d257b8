import FuzzyGrid.Proofs.Evaluation.Execution
import FuzzyGrid.Proofs.Lists.Blending
import FuzzyGrid.Proofs.Schedule.Layered

/-!
# Runs in which a sort gives up

A run that may give up takes the steps of the plain run up to the node at which a
sort does.  If it comes to an outcome that is the outcome of the plain run, so
what is known of plain runs is known of all runs that end.  Where no more is
sorted than is sorted by insertion alone, every run ends.
-/

namespace FuzzyGrid

variable {α : Type} [Scalar α]

/-- A sort gives up over a layer that is read or over a list of them. -/
theorem Operation.sortGivesUp_iff {origin : Origin} {operation : Operation α}
    {context : ResultContext α} :
    operation.sortGivesUp origin context = true ↔
      (∃ field converting input, operation = .layer field converting ∧
        context.layer origin converting.accepted field = .ok input ∧
        converting.givesUp input.grid = true) ∨
      ∃ fields stacking inputs, operation = .list fields stacking ∧
        context.layers origin stacking.accepted fields = .ok inputs ∧
        stacking.givesUp (inputs.map InputGrid.grid) = true := by
  cases operation with
  | copy | report | pair => simp [sortGivesUp]
  | layer field converting =>
      cases read : context.layer origin converting.accepted field <;>
        simp [sortGivesUp, read]
  | list fields stacking =>
      cases read : context.layers origin stacking.accepted fields <;>
        simp [sortGivesUp, read]

namespace Node

variable {node : Node α} {nodes : List (Node α)} {session after : Session α}
  {outcome : Except (CommandError α) Unit}

theorem execute?_eq_some_iff :
    node.execute? session = (after, some outcome) ↔
      node.givesUp session.context = false ∧ node.execute session = (after, outcome) := by
  unfold execute?
  cases node.givesUp session.context with
  | true => simp
  | false => simp [Prod.ext_iff]

theorem execute?_eq_none_iff :
    node.execute? session = (after, none) ↔
      node.givesUp session.context = true ∧ session = after := by
  unfold execute?
  cases node.givesUp session.context <;> simp

/-- What a run comes to is what the plain run comes to. -/
theorem executeAll_of_executeAll?
    (ran : executeAll? nodes session = (after, some outcome)) :
    executeAll nodes session = (after, outcome) := by
  induction nodes generalizing session with
  | nil =>
      cases ran
      rfl
  | cons node rest induction =>
      unfold executeAll? at ran
      unfold executeAll
      split at ran
      · cases ran
      · rename_i executed
        cases ran
        rw [(execute?_eq_some_iff.mp executed).2]
      · rename_i executed
        rw [(execute?_eq_some_iff.mp executed).2]
        exact induction ran

/-- A run that gives up has executed all nodes before the one at which it does. -/
theorem exists_of_executeAll?_eq_none (ran : executeAll? nodes session = (after, none)) :
    ∃ before node rest, nodes = before ++ node :: rest ∧
      executeAll before session = (after, .ok ()) ∧
      node.givesUp after.context = true := by
  induction nodes generalizing session with
  | nil => cases ran
  | cons node others induction =>
      unfold executeAll? at ran
      split at ran
      · rename_i executed
        cases ran
        obtain ⟨gaveUp, rfl⟩ := execute?_eq_none_iff.mp executed
        exact ⟨[], node, others, rfl, rfl, gaveUp⟩
      · cases ran
      · rename_i executed
        obtain ⟨before, last, rest, rfl, ranBefore, gaveUp⟩ := induction ran
        refine ⟨node :: before, last, rest, rfl, ?_, gaveUp⟩
        simp only [executeAll, (execute?_eq_some_iff.mp executed).2, ranBefore]

end Node

/-! ## Short lists -/

/-- An operation that sorts no list that is too long to be arranged by insertion. -/
def Operation.SortsFew : Operation α → Prop
  | layer _ (.toFuzzyCurve raw _) => raw.length ≤ Scalar.insertionLimit
  | layer _ (.toFuzzyCurveZScore scores _) => scores.length ≤ Scalar.insertionLimit
  | list fields (.fuzzySelectedUnion _ _) => fields.length ≤ Scalar.insertionLimit
  | list fields .fuzzyXor => fields.length ≤ Scalar.insertionLimit
  | _ => True

theorem Scalar.isNone_arrange?_of_length_le {β : Type} (key : β → α)
    {entries : List β} (short : entries.length ≤ insertionLimit) :
    (arrange? key entries).isNone = false := by
  rw [arrange?_of_settles (settles_of_length_le short), Option.isNone_some]

theorem Curve.not_givesUp_of_length_le {positions heights : List α}
    (short : positions.length ≤ Scalar.insertionLimit) :
    givesUp positions heights = false := by
  apply Scalar.isNone_arrange?_of_length_le
  rw [List.length_zip]
  exact (Nat.min_le_left _ _).trans short

theorem SortedStack.not_givesUp_of_length_le {grids : List (Grid α)}
    (few : grids.length ≤ Scalar.insertionLimit) : givesUp grids = false := by
  unfold givesUp
  split
  · rfl
  · rw [List.any_eq_false]
    intro cells member
    rw [Bool.not_eq_true]
    apply Scalar.isNone_arrange?_of_length_le
    rwa [List.length_map, length_of_mem_columns member]

theorem LayerOperation.not_givesUp_of_sortsFew {field : String}
    {operation : LayerOperation α} (few : (Operation.layer field operation).SortsFew)
    (grid : Grid α) : operation.givesUp grid = false := by
  cases operation with
  | toFuzzyCurve raw fuzzy =>
      apply Curve.not_givesUp_of_length_le
      rwa [List.length_map]
  | toFuzzyCurveZScore scores fuzzy =>
      unfold givesUp
      dsimp only
      split
      · apply Curve.not_givesUp_of_length_le
        rwa [List.length_map]
      · rfl
  | _ => rfl

theorem ListOperation.not_givesUp_of_sortsFew {fields : List String}
    {operation : ListOperation α} (few : (Operation.list fields operation).SortsFew)
    {grids : List (Grid α)} (length : fields.length = grids.length) :
    operation.givesUp grids = false := by
  cases operation with
  | fuzzySelectedUnion _ _ | fuzzyXor =>
      apply SortedStack.not_givesUp_of_length_le
      rwa [← length]
  | _ => rfl

theorem Operation.not_givesUp_of_sortsFew {operation : Operation α}
    (few : operation.SortsFew) (origin : Origin) (context : ResultContext α) :
    operation.givesUp origin context = false := by
  suffices operation.sortGivesUp origin context = false by
    rw [givesUp, this, Bool.false_and]
  rw [Bool.eq_false_iff, ne_eq, sortGivesUp_iff, not_or]
  constructor
  · rintro ⟨field, converting, input, rfl, _, gaveUp⟩
    cases gaveUp.symm.trans (converting.not_givesUp_of_sortsFew few input.grid)
  · rintro ⟨fields, stacking, inputs, rfl, read, gaveUp⟩
    have length : fields.length = (inputs.map InputGrid.grid).length := by
      rw [List.length_map, (readAll_eq_ok_iff.mp read).length_eq]
    cases gaveUp.symm.trans (stacking.not_givesUp_of_sortsFew few length)

theorem Node.executeAll?_of_sortsFew {nodes : List (Node α)}
    (few : ∀ node ∈ nodes, node.operation.SortsFew) (session : Session α) :
    executeAll? nodes session =
      ((executeAll nodes session).1, some (executeAll nodes session).2) := by
  rcases ran : executeAll? nodes session with ⟨after, _ | outcome⟩
  · obtain ⟨before, node, rest, rfl, _, gaveUp⟩ := exists_of_executeAll?_eq_none ran
    have isNode : node ∈ before ++ node :: rest :=
      List.mem_append_right _ List.mem_cons_self
    rw [givesUp, Operation.not_givesUp_of_sortsFew (few node isNode)] at gaveUp
    cases gaveUp
  · rw [executeAll_of_executeAll? ran]

/-! ## Models -/

namespace Model

variable {model : Model α} {session after : Session α}

/-- What an evaluation comes to after the run of its nodes. -/
def conclude (model : Model α) (levels : List (List Nat)) :
    Except (CommandError α) Unit → Except (ModelError α) Summary
  | .error error => .error (.aborted error)
  | .ok () => .ok ⟨model.inputs.length, model.nodes.length, levels.length⟩

theorem evaluate?_eq {levels : List (List Nat)} {middle : Session α}
    (scheduled : model.levels = .ok levels)
    (injected : inject model.inputs session = (middle, .ok ())) :
    model.evaluate? session =
      ((Node.executeAll? (model.nodesAt levels.flatten) middle).1,
        (Node.executeAll? (model.nodesAt levels.flatten) middle).2.map
          (model.conclude levels)) := by
  simp only [evaluate?, scheduled, injected]
  rcases Node.executeAll? (model.nodesAt levels.flatten) middle with
    ⟨finished, _ | error | _⟩ <;> rfl

/-- What an evaluation comes to is what the plain evaluation comes to. -/
theorem evaluate_of_evaluate? {outcome : Except (ModelError α) Summary}
    (ran : model.evaluate? session = (after, some outcome)) :
    model.evaluate session = (after, outcome) := by
  unfold evaluate? at ran
  unfold evaluate
  split at ran
  · cases ran
    rfl
  · rename_i levels _
    split at ran
    · cases ran
      rfl
    · split at ran
      · cases ran
      · rename_i executed
        cases ran
        rw [Node.executeAll_of_executeAll? executed]
      · rename_i executed
        cases ran
        rw [Node.executeAll_of_executeAll? executed]

/-- A model whose nodes sort short lists only is evaluated like in a run in which
no sort gives up. -/
theorem evaluate?_of_sortsFew (few : ∀ node ∈ model.nodes, node.operation.SortsFew)
    (session : Session α) :
    model.evaluate? session =
      ((model.evaluate session).1, some (model.evaluate session).2) := by
  unfold evaluate? evaluate
  cases model.levels with
  | error fault => rfl
  | ok levels =>
      dsimp only
      rcases inject model.inputs session with ⟨middle, error | _⟩
      · rfl
      · have fewAt : ∀ node ∈ model.nodesAt levels.flatten,
            node.operation.SortsFew :=
          fun node member => few node (model.nodesAt_subset _ member)
        dsimp only
        rw [Node.executeAll?_of_sortsFew fewAt]
        rcases Node.executeAll (model.nodesAt levels.flatten) middle with
          ⟨finished, error | _⟩
        · rfl
        · rfl

end Model

end FuzzyGrid
