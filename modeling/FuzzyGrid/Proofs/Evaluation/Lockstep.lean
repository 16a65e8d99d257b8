import FuzzyGrid.Proofs.Evaluation.Execution
import FuzzyGrid.Proofs.Schedule.Levels
import Mathlib.Data.List.Forall2

/-!
# Runs in lockstep

Two runs of the same nodes are followed side by side, over contexts that hold
related results under the same names.  If related contexts let every operation
come to related outcomes, then each step of a run keeps the contexts related,
and both evaluations succeed or both fail with related errors.
-/

namespace FuzzyGrid

open List (Forall₂)

variable {α : Type}

/-- Two outcomes that are related failures or related values. -/
inductive Outcomes {ε β : Type} (errors : ε → ε → Prop)
    (values : β → β → Prop) : Except ε β → Except ε β → Prop where
  | error {first second : ε} (related : errors first second) :
      Outcomes errors values (.error first) (.error second)
  | ok {first second : β} (related : values first second) :
      Outcomes errors values (.ok first) (.ok second)

namespace Outcomes

variable {ε β γ δ : Type} {errors : ε → ε → Prop} {values : β → β → Prop}
  {others : γ → γ → Prop}

theorem exists_eq {first second : Except ε β}
    (both : Outcomes errors values first second) :
    (∃ fault twin, first = .error fault ∧ second = .error twin ∧
        errors fault twin) ∨
      ∃ value twin, first = .ok value ∧ second = .ok twin ∧
        values value twin := by
  cases both with
  | error related => exact .inl ⟨_, _, rfl, rfl, related⟩
  | ok related => exact .inr ⟨_, _, rfl, rfl, related⟩

theorem bind {first second : Except ε β} {next after : β → Except ε γ}
    (both : Outcomes errors values first second)
    (rest : ∀ value twin, values value twin →
      Outcomes errors others (next value) (after twin)) :
    Outcomes errors others (first >>= next) (second >>= after) := by
  cases both with
  | error related => exact .error related
  | ok related => exact rest _ _ related

/-- An outcome that both have. -/
theorem same (reflexive : ∀ fault, errors fault fault) (outcome : Except ε β) :
    Outcomes errors Eq outcome outcome := by
  cases outcome with
  | error fault => exact .error (reflexive fault)
  | ok value => exact .ok rfl

theorem readAll {read other : δ → Except ε β}
    (both : ∀ item, Outcomes errors values (read item) (other item))
    (items : List δ) :
    Outcomes errors (Forall₂ values) (FuzzyGrid.readAll read items)
      (FuzzyGrid.readAll other items) := by
  induction items with
  | nil => exact .ok .nil
  | cons item rest induction =>
      rcases (both item).exists_eq with
        ⟨fault, twin, failed, failedToo, related⟩ |
        ⟨value, twin, read, readToo, related⟩
      · simp only [FuzzyGrid.readAll, failed, failedToo]
        exact .error related
      · simp only [FuzzyGrid.readAll, read, readToo]
        rcases induction.exists_eq with
          ⟨fault, twin, failed, failedToo, related⟩ |
          ⟨values, twins, read, readToo, tails⟩
        · rw [failed, failedToo]
          exact .error related
        · rw [read, readToo]
          exact .ok (.cons related tails)

end Outcomes

/-! ## Contexts and sessions -/

/-- Errors of one command with related faults. -/
structure CommandError.Related (faults : Fault α → Fault α → Prop)
    (first second : CommandError α) : Prop where
  fault : faults first.fault second.fault
  origin : first.origin = second.origin

theorem CommandError.Related.refl {faults : Fault α → Fault α → Prop}
    (reflexive : ∀ fault, faults fault fault) (error : CommandError α) :
    error.Related faults error :=
  ⟨reflexive _, rfl⟩

/-- Contexts of one range that hold related results under the same names. -/
structure ResultContext.Related (results : Result α → Result α → Prop)
    (first second : ResultContext α) : Prop where
  range : first.range = second.range
  results : ∀ name, Option.Rel results (first.get? name) (second.get? name)

/-- Sessions with related contexts that have written the same. -/
structure Session.Related (results : Result α → Result α → Prop)
    (first second : Session α) : Prop where
  context : first.context.Related results second.context
  workspace : first.workspace = second.workspace

section

variable {results : Result α → Result α → Prop}

theorem ResultContext.Related.refl (reflexive : ∀ result, results result result)
    (context : ResultContext α) : context.Related results context := by
  refine ⟨rfl, fun name => ?_⟩
  cases context.get? name with
  | none => exact .none
  | some result => exact .some (reflexive result)

namespace ResultContext.Related

variable {first second : ResultContext α} {faults : Fault α → Fault α → Prop}

theorem get? (related : first.Related results second) (name : String) :
    (first.get? name = none ∧ second.get? name = none) ∨
      ∃ result twin, first.get? name = some result ∧
        second.get? name = some twin ∧ results result twin := by
  have held := related.results name
  cases one : first.get? name with
  | none =>
      cases other : second.get? name with
      | none => exact .inl ⟨rfl, rfl⟩
      | some twin => simp [one, other] at held
  | some result =>
      cases other : second.get? name with
      | none => simp [one, other] at held
      | some twin =>
          rw [one, other, Option.rel_some_some] at held
          exact .inr ⟨result, twin, rfl, rfl, held⟩

theorem fetch (related : first.Related results second)
    (reflexive : ∀ fault, faults fault fault) (origin : Origin) (name : String) :
    Outcomes (CommandError.Related faults) results (first.fetch origin name)
      (second.fetch origin name) := by
  unfold ResultContext.fetch
  rcases related.get? name with
    ⟨absent, absentToo⟩ | ⟨result, twin, held, heldToo, same⟩
  · rw [absent, absentToo]
    exact .error (.refl reflexive _)
  · rw [held, heldToo]
    exact .ok same

theorem publish (related : first.Related results second)
    (reflexive : ∀ fault, faults fault fault) (origin : Origin) (name : String)
    {result twin : Result α} (same : results result twin) :
    Outcomes (CommandError.Related faults) (Related results)
      (first.publish origin name result) (second.publish origin name twin) := by
  rcases related.get? name with
    ⟨absent, absentToo⟩ | ⟨one, other, held, heldToo, _⟩
  · have published : first.publish origin name result = .ok _ :=
      ResultContext.publish_ok_iff.mpr ⟨absent, rfl⟩
    have publishedToo : second.publish origin name twin = .ok _ :=
      ResultContext.publish_ok_iff.mpr ⟨absentToo, rfl⟩
    rw [published, publishedToo]
    refine .ok ⟨related.range, fun sought => ?_⟩
    rw [ResultContext.get?_publish published,
      ResultContext.get?_publish publishedToo]
    split
    · exact .some same
    · exact related.results sought
  · rw [ResultContext.publish_error_iff.mpr ⟨by simp [held], rfl⟩,
      ResultContext.publish_error_iff.mpr ⟨by simp [heldToo], rfl⟩]
    exact .error (.refl reflexive _)

end ResultContext.Related

/-- Two runs that leave related sessions and come to related outcomes. -/
structure RunsRelated {ε β : Type} (results : Result α → Result α → Prop)
    (errors : ε → ε → Prop) (values : β → β → Prop)
    (first second : Session α × Except ε β) : Prop where
  sessions : first.1.Related results second.1
  outcomes : Outcomes errors values first.2 second.2

namespace RunsRelated

variable {ε β : Type} {errors : ε → ε → Prop} {values : β → β → Prop}
  {session : Session α} {first second : Session α × Except ε β}

theorem exists_eq (runs : RunsRelated results errors values first second) :
    ∃ session twin, session.Related results twin ∧
      ((∃ fault other, first = (session, .error fault) ∧
          second = (twin, .error other) ∧ errors fault other) ∨
        ∃ value other, first = (session, .ok value) ∧
          second = (twin, .ok other) ∧ values value other) := by
  obtain ⟨session, outcome⟩ := first
  obtain ⟨twin, outcomeToo⟩ := second
  refine ⟨session, twin, runs.sessions, ?_⟩
  rcases runs.outcomes.exists_eq with
    ⟨fault, other, rfl, rfl, related⟩ | ⟨value, other, rfl, rfl, related⟩
  · exact .inl ⟨fault, other, rfl, rfl, related⟩
  · exact .inr ⟨value, other, rfl, rfl, related⟩

theorem of_ok {value : β}
    (runs : RunsRelated results errors values (session, .ok value) second) :
    ∃ twin other, second = (twin, .ok other) ∧
      session.Related results twin ∧ values value other := by
  obtain ⟨_, twin, sessions,
    ⟨_, _, same, _, _⟩ | ⟨_, other, same, ran, related⟩⟩ := runs.exists_eq
  · cases same
  · cases same
    exact ⟨twin, other, ran, sessions, related⟩

theorem of_error {fault : ε}
    (runs : RunsRelated results errors values (session, .error fault) second) :
    ∃ twin other, second = (twin, .error other) ∧
      session.Related results twin ∧ errors fault other := by
  obtain ⟨_, twin, sessions,
    ⟨_, other, same, ran, related⟩ | ⟨_, _, same, _, _⟩⟩ := runs.exists_eq
  · cases same
    exact ⟨twin, other, ran, sessions, related⟩
  · cases same

end RunsRelated

end

/-! ## Nodes -/

/-- Computations with related results and the same report. -/
structure Computed.Related (results : Result α → Result α → Prop)
    (first second : Computed α) : Prop where
  result : results first.result second.result
  report : first.report = second.report

variable [Scalar α]

/-- Related contexts let every operation come to related outcomes, and every
fault is related to itself. -/
structure Respected (results : Result α → Result α → Prop)
    (faults : Fault α → Fault α → Prop) : Prop where
  reflexive : ∀ fault, faults fault fault
  compute : ∀ (origin : Origin) (operation : Operation α)
    (first second : ResultContext α), first.Related results second →
    Outcomes (CommandError.Related faults) (Computed.Related results)
      (operation.compute origin first) (operation.compute origin second)

section

variable {results : Result α → Result α → Prop}
  {faults : Fault α → Fault α → Prop} {first second : Session α}

namespace Node

theorem compute_related (node : Node α) (respected : Respected results faults)
    {first second : ResultContext α} (related : first.Related results second) :
    Outcomes (CommandError.Related faults) (Computed.Related results)
      (node.compute first) (node.compute second) :=
  respected.compute node.command.origin node.operation first second related

theorem perform_related (node : Node α) (respected : Respected results faults)
    (related : first.Related results second) :
    RunsRelated results (CommandError.Related faults) results
      (node.perform first) (node.perform second) := by
  rw [perform_eq, perform_eq]
  rcases (node.compute_related respected related.context).exists_eq with
    ⟨error, twin, failed, failedToo, same⟩ |
    ⟨computed, twin, success, successToo, same⟩
  · rw [failed, failedToo]
    exact ⟨related, .error same⟩
  · rw [success, successToo]
    dsimp only
    rw [related.workspace, same.report]
    split
    · exact ⟨⟨related.context, rfl⟩, .error (.refl respected.reflexive _)⟩
    · exact ⟨⟨related.context, rfl⟩, .ok same.result⟩

theorem execute_related (node : Node α) (respected : Respected results faults)
    (related : first.Related results second) :
    RunsRelated results (CommandError.Related faults) Eq
      (node.execute first) (node.execute second) := by
  unfold execute
  obtain ⟨after, twin, sessions,
    ⟨error, other, ran, ranToo, same⟩ | ⟨result, other, ran, ranToo, same⟩⟩ :=
    (node.perform_related respected related).exists_eq
  · rw [ran, ranToo]
    exact ⟨sessions, .error same⟩
  · rw [ran, ranToo]
    dsimp only
    rcases (sessions.context.publish respected.reflexive node.command.origin
      node.name same).exists_eq with
      ⟨fault, other, refused, refusedToo, same⟩ |
      ⟨grown, other, grows, growsToo, contexts⟩
    · rw [refused, refusedToo]
      exact ⟨sessions, .error same⟩
    · rw [grows, growsToo]
      exact ⟨⟨contexts, sessions.workspace⟩, .ok rfl⟩

/-- Related sessions stay related along a run. -/
theorem executeAll_related (nodes : List (Node α))
    (respected : Respected results faults)
    (related : first.Related results second) :
    RunsRelated results (CommandError.Related faults) Eq
      (executeAll nodes first) (executeAll nodes second) := by
  induction nodes generalizing first second with
  | nil => exact ⟨related, .ok rfl⟩
  | cons node rest induction =>
      unfold executeAll
      obtain ⟨after, twin, sessions,
        ⟨error, other, ran, ranToo, same⟩ | ⟨_, _, ran, ranToo, _⟩⟩ :=
        (node.execute_related respected related).exists_eq
      · rw [ran, ranToo]
        exact ⟨sessions, .error same⟩
      · rw [ran, ranToo]
        exact induction sessions

end Node

/-! ## Models -/

/-- Errors of evaluations that end at the same place. -/
inductive ModelError.Related (faults : Fault α → Fault α → Prop) :
    ModelError α → ModelError α → Prop where
  | schedule (fault : ScheduleFault) :
      Related faults (.schedule fault) (.schedule fault)
  | notInjected (name : String) {error twin : CommandError α}
      (same : error.Related faults twin) :
      Related faults (.notInjected name error) (.notInjected name twin)
  | aborted {error twin : CommandError α} (same : error.Related faults twin) :
      Related faults (.aborted error) (.aborted twin)

namespace Model

/-- Inputs of the same names with related results. -/
def InputsRelated (results : Result α → Result α → Prop)
    (first second : List (String × Result α)) : Prop :=
  Forall₂ (fun input twin => input.1 = twin.1 ∧ results input.2 twin.2)
    first second

omit [Scalar α] in
theorem InputsRelated.names_eq {inputs twins : List (String × Result α)}
    (related : InputsRelated results inputs twins) :
    inputs.map Prod.fst = twins.map Prod.fst := by
  rw [← List.forall₂_eq_eq_eq]
  simp only [List.forall₂_map_left_iff, List.forall₂_map_right_iff]
  exact related.imp fun _ _ same => same.1

/-- Models with the same nodes and inputs of the same names are scheduled
alike. -/
theorem levels_eq_of_inputsRelated {one other : Model α}
    (nodes : one.nodes = other.nodes)
    (inputs : InputsRelated results one.inputs other.inputs) :
    one.levels = other.levels := by
  rw [levels_eq, levels_eq, inputNames, inputNames, tasks, tasks, nodes,
    inputs.names_eq]

omit [Scalar α] in
theorem inject_related (reflexive : ∀ fault, faults fault fault)
    {inputs twins : List (String × Result α)}
    (inputsRelated : InputsRelated results inputs twins)
    (related : first.Related results second) :
    RunsRelated results (ModelError.Related faults) Eq
      (inject inputs first) (inject twins second) := by
  induction inputsRelated generalizing first second with
  | nil => exact ⟨related, .ok rfl⟩
  | @cons input twin _ _ same _ induction =>
      obtain ⟨name, result⟩ := input
      obtain ⟨sameName, sameResult⟩ := same
      cases sameName
      unfold inject
      rcases (related.context.publish reflexive Origin.unknown twin.1
        sameResult).exists_eq with
        ⟨fault, other, refused, refusedToo, same⟩ |
        ⟨grown, other, grows, growsToo, contexts⟩
      · rw [refused, refusedToo]
        exact ⟨related, .error (.notInjected _ same)⟩
      · rw [grows, growsToo]
        exact induction ⟨contexts, related.workspace⟩

/-- Models with the same nodes and related inputs are evaluated in lockstep
from related sessions. -/
theorem evaluate_related {one other : Model α}
    (respected : Respected results faults) (nodes : one.nodes = other.nodes)
    (inputs : InputsRelated results one.inputs other.inputs)
    (related : first.Related results second) :
    RunsRelated results (ModelError.Related faults) Eq
      (one.evaluate first) (other.evaluate second) := by
  have nodesAt : one.nodesAt = other.nodesAt := by
    funext positions
    rw [Model.nodesAt, Model.nodesAt, nodes]
  unfold evaluate
  rw [levels_eq_of_inputsRelated nodes inputs, nodesAt, nodes,
    inputs.length_eq]
  cases other.levels with
  | error fault => exact ⟨related, .error (.schedule fault)⟩
  | ok levels =>
      dsimp only
      obtain ⟨after, twin, sessions,
        ⟨error, _, ran, ranToo, same⟩ | ⟨_, _, ran, ranToo, _⟩⟩ :=
        (inject_related respected.reflexive inputs related).exists_eq
      · rw [ran, ranToo]
        exact ⟨sessions, .error same⟩
      · rw [ran, ranToo]
        dsimp only
        obtain ⟨finished, last, sessions,
          ⟨error, _, ran, ranToo, same⟩ | ⟨_, _, ran, ranToo, _⟩⟩ :=
          (Node.executeAll_related (other.nodesAt levels.flatten) respected
            sessions).exists_eq
        · rw [ran, ranToo]
          exact ⟨sessions, .error (.aborted same)⟩
        · rw [ran, ranToo]
          exact ⟨sessions, .ok rfl⟩

end Model

end

end FuzzyGrid
