import FuzzyGrid.Proofs.Operator.Reading
import Mathlib.Logic.Hydra
import Mathlib.Logic.Relation

/-!
# Levels in parallel

The nodes of a level may be worked on side by side.  Each of them is a reading
that looks one result up at a time and publishes its own result in the end, and
the steps of different nodes come in any order.  As soon as one node of the
level has failed, nodes that are not begun may be left out.  The next level is
begun when every node has published its result.

A schedule is a sequence of such steps.  None goes on forever, and one that
cannot go on has brought every node of its last level to an end.
-/

namespace FuzzyGrid.Parallel

open Relation (ReflTransGen)

/-- How far the work on a node has come. -/
inductive Work (α : Type) where
  | waiting
  | reading (rest : Reading α (Computed α))
  | published
  | failed (error : CommandError α)
  | skipped

variable {α : Type} [Scalar α]

/-- A node of the level at hand and the work on it. -/
structure Job (α : Type) [Scalar α] where
  node : Node α
  work : Work α

/-- A node that is not begun. -/
def Job.waiting (node : Node α) : Job α :=
  ⟨node, .waiting⟩

/-- A job that has come to an error. -/
def Job.Failed (job : Job α) : Prop :=
  ∃ error, job.work = .failed error

/-- The results so far, the level at hand and the levels after it. -/
structure State (α : Type) [Scalar α] where
  context : ResultContext α
  jobs : List (Job α)
  later : List (List (Node α))

/-- The state before the first level. -/
def State.start (context : ResultContext α) (stages : List (List (Node α))) :
    State α :=
  ⟨context, [], stages⟩

/-- One step of the work on a node: the results and the work before, and the
results and the work after it. -/
inductive Advances (node : Node α) (context : ResultContext α) :
    Work α → ResultContext α → Work α → Prop where
  | begin :
      Advances node context .waiting context
        (.reading (node.reading context.range))
  | fetch {origin : Origin} {name : String}
      {next : Result α → Reading α (Computed α)}
      {result : Result α} (held : context.get? name = some result) :
      Advances node context (.reading (.fetch origin name next)) context
        (.reading (next result))
  | miss {origin : Origin} {name : String}
      {next : Result α → Reading α (Computed α)}
      (absent : context.get? name = none) :
      Advances node context (.reading (.fetch origin name next)) context
        (.failed ⟨.missingResult name, origin⟩)
  | fail {error : CommandError α} :
      Advances node context (.reading (.fail error)) context (.failed error)
  | publish {computed : Computed α} {grown : ResultContext α}
      (publishes : context.publish node.command.origin node.name computed.result =
        .ok grown) :
      Advances node context (.reading (.done computed)) grown .published
  | refuse {computed : Computed α} {error : CommandError α}
      (refused : context.publish node.command.origin node.name computed.result =
        .error error) :
      Advances node context (.reading (.done computed)) context (.failed error)

/-- One step of a schedule. -/
inductive Step : State α → State α → Prop where
  /-- Any node of the level goes on. -/
  | work {context grown : ResultContext α} {before after : List (Job α)}
      {node : Node α} {current next : Work α} {later : List (List (Node α))}
      (advances : Advances node context current grown next) :
      Step ⟨context, before ++ ⟨node, current⟩ :: after, later⟩
        ⟨grown, before ++ ⟨node, next⟩ :: after, later⟩
  /-- A node is left out because another one has failed. -/
  | skip {context : ResultContext α} {before after : List (Job α)}
      {node : Node α} {later : List (List (Node α))}
      (failure : ∃ job ∈ before ++ after, job.Failed) :
      Step ⟨context, before ++ ⟨node, .waiting⟩ :: after, later⟩
        ⟨context, before ++ ⟨node, .skipped⟩ :: after, later⟩
  /-- The level is complete and the next one begins. -/
  | turn {context : ResultContext α} {jobs : List (Job α)}
      {level : List (Node α)} {later : List (List (Node α))}
      (complete : ∀ job ∈ jobs, job.work = .published) :
      Step ⟨context, jobs, level :: later⟩
        ⟨context, level.map Job.waiting, later⟩

/-- A schedule cannot go on from the state. -/
def State.Final (state : State α) : Prop :=
  ∀ next, ¬Step state next

/-- What may be returned in a state that is final: success where no node has
failed, and otherwise the error of any that has. -/
inductive State.Returns (state : State α) :
    Except (CommandError α) Unit → Prop where
  | success (clean : ∀ job ∈ state.jobs, ¬job.Failed) :
      Returns state (.ok ())
  | failure {job : Job α} {error : CommandError α} (member : job ∈ state.jobs)
      (failed : job.work = .failed error) : Returns state (.error error)

/-! ## Progress -/

/-- Work to which nothing is added any more. -/
inductive Work.Ended : Work α → Prop where
  | published : Ended .published
  | failed (error : CommandError α) : Ended (.failed error)
  | skipped : Ended .skipped

theorem exists_advances (node : Node α) (context : ResultContext α)
    {current : Work α} (unended : ¬current.Ended) :
    ∃ grown next, Advances node context current grown next := by
  cases current with
  | waiting => exact ⟨_, _, .begin⟩
  | reading rest =>
      cases rest with
      | done computed =>
          cases publishes : context.publish node.command.origin node.name
              computed.result with
          | ok grown => exact ⟨_, _, .publish publishes⟩
          | error error => exact ⟨_, _, .refuse publishes⟩
      | fail error => exact ⟨_, _, .fail⟩
      | fetch origin name next =>
          cases held : context.get? name with
          | some result => exact ⟨_, _, .fetch held⟩
          | none => exact ⟨_, _, .miss held⟩
  | published => exact absurd .published unended
  | failed error => exact absurd (.failed error) unended
  | skipped => exact absurd .skipped unended

theorem State.Final.ended {state : State α} (final : state.Final) :
    ∀ job ∈ state.jobs, job.work.Ended := by
  intro job member
  by_contra unended
  obtain ⟨context, jobs, later⟩ := state
  obtain ⟨before, after, rfl⟩ := List.append_of_mem member
  obtain ⟨grown, next, advances⟩ := exists_advances job.node context unended
  exact final _ (.work advances)

theorem State.Final.later_eq_nil {state : State α} (final : state.Final)
    (complete : ∀ job ∈ state.jobs, job.work = .published) :
    state.later = [] := by
  obtain ⟨context, jobs, later⟩ := state
  cases later with
  | nil => rfl
  | cons level rest => exact absurd (.turn complete) (final _)

/-! ## Termination -/

/-- A step in the work on some node, whatever the results are. -/
def Work.Follows (next current : Work α) : Prop :=
  (∃ node context grown, Advances node context current grown next) ∨
    (current = .waiting ∧ next = .skipped)

theorem Work.acc_ended {work : Work α} (ended : work.Ended) :
    Acc Work.Follows work := by
  constructor
  intro next follows
  rcases follows with ⟨_, _, _, advances⟩ | ⟨waiting, _⟩
  · cases ended <;> cases advances
  · cases ended <;> cases waiting

theorem Work.acc_reading (rest : Reading α (Computed α)) :
    Acc Work.Follows (.reading rest) := by
  induction rest with
  | done computed =>
      constructor
      intro next follows
      rcases follows with ⟨_, _, _, advances⟩ | ⟨waiting, _⟩
      · cases advances with
        | publish _ => exact acc_ended .published
        | refuse _ => exact acc_ended (.failed _)
      · cases waiting
  | fail error =>
      constructor
      intro next follows
      rcases follows with ⟨_, _, _, advances⟩ | ⟨waiting, _⟩
      · cases advances
        exact acc_ended (.failed _)
      · cases waiting
  | fetch origin name continue_ induction =>
      constructor
      intro next follows
      rcases follows with ⟨_, _, _, advances⟩ | ⟨waiting, _⟩
      · cases advances with
        | fetch _ => exact induction _
        | miss _ => exact acc_ended (.failed _)
      · cases waiting

/-- Work on a node comes to an end. -/
theorem Work.follows_wellFounded :
    WellFounded (Work.Follows : Work α → Work α → Prop) := by
  constructor
  intro work
  cases work with
  | waiting =>
      constructor
      intro next follows
      rcases follows with ⟨_, _, _, advances⟩ | ⟨_, skipped⟩
      · cases advances
        exact acc_reading _
      · exact skipped ▸ acc_ended .skipped
  | reading rest => exact acc_reading rest
  | published => exact acc_ended .published
  | failed error => exact acc_ended (.failed error)
  | skipped => exact acc_ended .skipped

/-- What is left of a schedule: the number of levels not begun, and the work
at hand. -/
def State.measure (state : State α) : Nat × Multiset (Work α) :=
  (state.later.length, ↑(state.jobs.map Job.work))

theorem works_eq_add (before after : List (Job α)) (node : Node α)
    (work : Work α) :
    (↑((before ++ ⟨node, work⟩ :: after).map Job.work) : Multiset (Work α)) =
      ↑((before ++ after).map Job.work) + {work} := by
  rw [← Multiset.coe_singleton, Multiset.coe_add, Multiset.coe_eq_coe]
  rw [List.map_append, List.map_append, List.map_cons]
  exact List.perm_middle.trans (List.perm_append_singleton _ _).symm

theorem cutExpand_of_follows {before after : List (Job α)} {node : Node α}
    {current next : Work α} (follows : next.Follows current) :
    Relation.CutExpand Work.Follows
      (↑((before ++ ⟨node, next⟩ :: after).map Job.work) : Multiset (Work α))
      ↑((before ++ ⟨node, current⟩ :: after).map Job.work) := by
  rw [works_eq_add, works_eq_add]
  exact Relation.cutExpand_add_single _ follows

/-- No schedule goes on forever. -/
theorem step_wellFounded :
    WellFounded fun next current : State α => Step current next := by
  have decreases : WellFounded (Prod.Lex (· < · : Nat → Nat → Prop)
      (Relation.CutExpand (Work.Follows : Work α → Work α → Prop))) :=
    WellFounded.prod_lex Nat.lt_wfRel.wf Work.follows_wellFounded.cutExpand
  refine Subrelation.wf ?_ (InvImage.wf State.measure decreases)
  intro next current step
  cases step with
  | work advances =>
      exact Prod.Lex.right _
        (cutExpand_of_follows (Or.inl ⟨_, _, _, advances⟩))
  | skip _ =>
      exact Prod.Lex.right _ (cutExpand_of_follows (Or.inr ⟨rfl, rfl⟩))
  | turn _ => exact Prod.Lex.left _ _ (Nat.lt_succ_self _)

/-- Every schedule can be completed. -/
theorem exists_final (state : State α) :
    ∃ final, ReflTransGen Step state final ∧ final.Final := by
  induction state using step_wellFounded.induction with
  | _ state induction =>
      by_cases final : state.Final
      · exact ⟨state, .refl, final⟩
      · obtain ⟨next, step⟩ : ∃ next, Step state next := by
          simpa [State.Final] using final
        obtain ⟨last, steps, final⟩ := induction next step
        exact ⟨last, .head step steps, final⟩

end FuzzyGrid.Parallel
