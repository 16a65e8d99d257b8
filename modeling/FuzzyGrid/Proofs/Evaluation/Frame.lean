import FuzzyGrid.Proofs.Evaluation.Execution
import FuzzyGrid.Proofs.Number.Exact
import FuzzyGrid.Proofs.Operator.Reading
import FuzzyGrid.Proofs.Schedule.Levels

/-!
# What a run looks at

A node looks at a context under the names that it refers to and nowhere else,
and where it publishes it looks at its own name.  Among contexts that agree on
the names of a model nothing tells one from another while the model is
evaluated: results, errors and everything that is written are the same.
-/

namespace FuzzyGrid

variable {α : Type}

/-- Contexts of one range that hold the same under some names. -/
structure ResultContext.AgreeOn (names : List String)
    (first second : ResultContext α) : Prop where
  range : first.range = second.range
  same : ∀ name ∈ names, first.get? name = second.get? name

/-- Sessions with one workspace whose contexts agree on some names. -/
structure Session.AgreeOn (names : List String) (first second : Session α) :
    Prop where
  context : first.context.AgreeOn names second.context
  workspace : first.workspace = second.workspace

variable {names : List String}

namespace ResultContext.AgreeOn

variable {first second : ResultContext α}

theorem mono {fewer : List String} (agree : first.AgreeOn names second)
    (among : fewer ⊆ names) : first.AgreeOn fewer second :=
  ⟨agree.range, fun name member => agree.same name (among member)⟩

/-- A name at which contexts agree is published in both or refused in both. -/
theorem publish (agree : first.AgreeOn names second) (origin : Origin)
    {name : String} (member : name ∈ names) (result : Result α) :
    (∃ error, first.publish origin name result = .error error ∧
      second.publish origin name result = .error error) ∨
    ∃ grown other, first.publish origin name result = .ok grown ∧
      second.publish origin name result = .ok other ∧ grown.AgreeOn names other := by
  have sameHere := agree.same name member
  cases published : first.publish origin name result with
  | error error =>
      obtain ⟨held, rfl⟩ := publish_error_iff.mp published
      rw [sameHere] at held
      exact Or.inl ⟨_, rfl, publish_error_iff.mpr ⟨held, rfl⟩⟩
  | ok grown =>
      have absent := (publish_ok_iff.mp published).1
      rw [sameHere] at absent
      have alsoPublished : second.publish origin name result = .ok _ :=
        publish_ok_iff.mpr ⟨absent, rfl⟩
      refine Or.inr ⟨grown, _, rfl, alsoPublished, ?_, ?_⟩
      · rw [range_publish published, range_publish alsoPublished, agree.range]
      · intro sought isSought
        rw [get?_publish published, get?_publish alsoPublished,
          agree.same sought isSought]

end ResultContext.AgreeOn

/-- Runs with one outcome that leave sessions which agree on some names. -/
def RunsAlike {β : Type} (names : List String) (one other : Session α × β) :
    Prop :=
  one.2 = other.2 ∧ one.1.AgreeOn names other.1

theorem RunsAlike.exists_eq {β : Type} {one other : Session α × β}
    (alike : RunsAlike names one other) :
    ∃ after twin outcome, one = (after, outcome) ∧ other = (twin, outcome) ∧
      after.AgreeOn names twin :=
  ⟨one.1, other.1, one.2, rfl, Prod.ext rfl alike.1.symm, alike.2⟩

section Nodes

variable [Scalar α]

namespace Node

theorem perform_context (node : Node α) (session : Session α) :
    (node.perform session).1.context = session.context := by
  rw [perform_eq]
  cases node.compute session.context with
  | error error => rfl
  | ok computed =>
      dsimp only
      rcases session.workspace.deliverAny (α := α) node.command.origin
        computed.report with ⟨written, error | _⟩
      · rfl
      · rfl

/-- Contexts that agree on what a node refers to make it compute the same and
write the same. -/
theorem performs_alike (node : Node α) {session twin : Session α}
    (agree : session.AgreeOn names twin)
    (among : node.dependencies ⊆ names) :
    RunsAlike names (node.perform session) (node.perform twin) := by
  obtain ⟨context, workspace⟩ := session
  obtain ⟨other, sameWorkspace⟩ := twin
  obtain ⟨agree, rfl⟩ := agree
  have sameCompute : node.compute context = node.compute other :=
    node.compute_congr agree.range (agree.mono among).same
  rw [perform_eq, perform_eq]
  dsimp only
  rw [sameCompute]
  cases node.compute other with
  | error error => exact ⟨rfl, agree, rfl⟩
  | ok computed =>
      dsimp only
      rcases workspace.deliverAny (α := α) node.command.origin
        computed.report with ⟨written, error | _⟩
      · exact ⟨rfl, agree, rfl⟩
      · exact ⟨rfl, agree, rfl⟩

/-- Where contexts agree on the name of a node, too, both take its result or
both refuse it. -/
theorem executes_alike (node : Node α) {session twin : Session α}
    (agree : session.AgreeOn names twin)
    (among : node.name :: node.dependencies ⊆ names) :
    RunsAlike names (node.execute session) (node.execute twin) := by
  have ⟨nameAmong, referredAmong⟩ := List.cons_subset.mp among
  obtain ⟨after, other, outcome, ran, ranToo, sessions⟩ :=
    (node.performs_alike agree referredAmong).exists_eq
  unfold execute
  rw [ran, ranToo]
  cases outcome with
  | error error => exact ⟨rfl, sessions⟩
  | ok result =>
      dsimp only
      rcases sessions.context.publish node.command.origin nameAmong result with
        ⟨error, refused, refusedToo⟩ | ⟨grown, twinGrown, taken, takenToo, grows⟩
      · rw [refused, refusedToo]
        exact ⟨rfl, sessions⟩
      · rw [taken, takenToo]
        exact ⟨rfl, grows, sessions.workspace⟩

theorem executesAll_alike {nodes : List (Node α)} {session twin : Session α}
    (agree : session.AgreeOn names twin)
    (among : ∀ node ∈ nodes, node.name :: node.dependencies ⊆ names) :
    RunsAlike names (executeAll nodes session) (executeAll nodes twin) := by
  induction nodes generalizing session twin with
  | nil => exact ⟨rfl, agree⟩
  | cons node rest induction =>
      obtain ⟨after, other, outcome, ran, ranToo, sessions⟩ :=
        (node.executes_alike agree (among node List.mem_cons_self)).exists_eq
      unfold executeAll
      rw [ran, ranToo]
      cases outcome with
      | error error => exact ⟨rfl, sessions⟩
      | ok done =>
          exact induction sessions fun other member =>
            among other (List.mem_cons_of_mem _ member)

/-- A node looks at no entry of a context that it does not declare: over any
two contexts of one range that hold the same under the names it refers to, it
has the same result and report or the same error, and performing it writes the
same text. -/
theorem perform_frame (node : Node α) {first second : ResultContext α}
    (sameRange : first.range = second.range)
    (agree : ∀ name ∈ node.dependencies,
      first.get? name = second.get? name)
    (workspace : Workspace) :
    node.compute first = node.compute second ∧
      ∃ written outcome,
        node.perform ⟨first, workspace⟩ = (⟨first, written⟩, outcome) ∧
        node.perform ⟨second, workspace⟩ = (⟨second, written⟩, outcome) := by
  refine ⟨node.compute_congr sameRange agree, ?_⟩
  have sessions : Session.AgreeOn node.dependencies ⟨first, workspace⟩
      ⟨second, workspace⟩ := ⟨⟨sameRange, agree⟩, rfl⟩
  obtain ⟨⟨context, written⟩, ⟨other, _⟩, outcome, ran, ranToo, _, rfl⟩ :=
    (node.performs_alike sessions (List.Subset.refl _)).exists_eq
  have kept := node.perform_context ⟨first, workspace⟩
  have keptToo := node.perform_context ⟨second, workspace⟩
  rw [ran] at kept
  rw [ranToo] at keptToo
  cases kept
  cases keptToo
  exact ⟨written, outcome, ran, ranToo⟩

end Node

namespace Sample

/-- A context that holds the areas under the name of the sum, and more. -/
def summed (more : List (String × Result ℚ)) : ResultContext ℚ :=
  ⟨.standard, .ofList (("Both", areas) :: more)⟩

/-- The report of the sum does not tell whether there are counts. -/
theorem perform_frame_shown :
    (summed []).get? "Count" ≠ (summed [("Count", counts 7)]).get? "Count" ∧
      shown.compute (summed []) = shown.compute (summed [("Count", counts 7)]) ∧
      ∃ written outcome,
        shown.perform ⟨summed [], unstarted.workspace⟩ =
          (⟨summed [], written⟩, outcome) ∧
        shown.perform ⟨summed [("Count", counts 7)], unstarted.workspace⟩ =
          (⟨summed [("Count", counts 7)], written⟩, outcome) := by
  have sameRange :
      (summed []).range = (summed [("Count", counts 7)]).range := rfl
  refine ⟨by decide, shown.perform_frame sameRange ?_ _⟩
  intro name member
  have isBoth : name = "Both" := by
    simpa using (show name ∈ ["Both"] from member)
  rw [isBoth]
  rfl

end Sample

end Nodes

/-! ## Models -/

namespace Model

theorem inject_alike_on {inputs : List (String × Result α)}
    {session twin : Session α} (agree : session.AgreeOn names twin)
    (among : inputs.map Prod.fst ⊆ names) :
    RunsAlike names (inject inputs session) (inject inputs twin) := by
  induction inputs generalizing session twin with
  | nil => exact ⟨rfl, agree⟩
  | cons input rest induction =>
      obtain ⟨name, result⟩ := input
      have ⟨nameAmong, restAmong⟩ := List.cons_subset.mp among
      unfold inject
      rcases agree.context.publish Origin.unknown nameAmong result with
        ⟨fault, refused, refusedToo⟩ | ⟨grown, twinGrown, taken, takenToo, grows⟩
      · rw [refused, refusedToo]
        exact ⟨rfl, agree⟩
      · rw [taken, takenToo]
        exact induction ⟨grows, agree.workspace⟩ restAmong

variable [Scalar α]

/-- The names of the inputs and nodes of a model, and all that the nodes refer
to. -/
def mentionedNames (model : Model α) : List String :=
  model.inputNames ++ model.nodes.flatMap fun node =>
    node.name :: node.dependencies

/-- What a context holds under other names does not matter for a model. -/
theorem evaluate_frame (model : Model α) {session twin : Session α}
    (agree : session.AgreeOn model.mentionedNames twin) :
    RunsAlike model.mentionedNames (model.evaluate session)
      (model.evaluate twin) := by
  unfold evaluate
  cases model.levels with
  | error fault => exact ⟨rfl, agree⟩
  | ok levels =>
      obtain ⟨after, other, outcome, ran, ranToo, sessions⟩ :=
        (inject_alike_on agree (List.subset_append_left _ _)).exists_eq
      dsimp only
      rw [ran, ranToo]
      cases outcome with
      | error error => exact ⟨rfl, sessions⟩
      | ok done =>
          dsimp only
          have among : ∀ node ∈ model.nodesAt levels.flatten,
              node.name :: node.dependencies ⊆ model.mentionedNames := by
            intro node member name inNode
            obtain ⟨position, _, found⟩ := List.mem_filterMap.mp member
            exact List.mem_append_right _ (List.mem_flatMap.mpr
              ⟨node, List.mem_of_getElem? found, inNode⟩)
          obtain ⟨finished, last, outcome, ran, ranToo, sessions⟩ :=
            (Node.executesAll_alike sessions among).exists_eq
          rw [ran, ranToo]
          cases outcome with
          | error error => exact ⟨rfl, sessions⟩
          | ok done => exact ⟨rfl, sessions⟩

end Model

end FuzzyGrid
