import FuzzyGrid.Proofs.Evaluation.Interleaving

/-!
# Parallel evaluation refines sequential evaluation

A level in which a node fails while everything before it is solved is the only
such level, whoever gets there: the nodes before it have one solution, and what
fails from one solution fails from it always.  So a complete schedule ends with
the results of the sequential run, or in the level in which that run stops.
-/

namespace FuzzyGrid

open Relation (ReflTransGen)

variable {α : Type} [Scalar α]

namespace Parallel

variable {known : List String} {stages done later : List (List (Node α))}
  {level : List (Node α)} {start base : ResultContext α} {state : State α}

/-! ## The failing level -/

/-- The levels before one are solved and one of its nodes fails. -/
structure FailsWithin (stages : List (List (Node α)))
    (start : ResultContext α) (done : List (List (Node α)))
    (level : List (Node α)) (later : List (List (Node α)))
    (base : ResultContext α) : Prop where
  split : stages = done ++ level :: later
  solved : Solves done.flatten start base
  fails : ∃ node ∈ level, ∃ error, node.compute base = .error error

/-- What a node of a level computes after the levels before it, it computes
after more levels, too. -/
theorem Prepared.compute_eq {middle rest : List (List (Node α))}
    {context : ResultContext α}
    (prepared : Prepared known (done ++ level :: (middle ++ rest)) start)
    (solved : Solves done.flatten start base)
    (more : Solves (done ++ level :: middle).flatten start context)
    {node : Node α} (member : node ∈ level) :
    node.compute base = node.compute context := by
  have layered := layered_append_iff.mp prepared.layered
  have fresh := prepared.runnable.fresh
  have sameRange := solved.range.trans more.range.symm
  have growsBase : base.Extends start := by
    apply solved.extends
    intro other isNode
    apply fresh
    rw [List.flatten_append]
    exact List.mem_append_left _ isNode
  have growsContext : context.Extends start := by
    apply more.extends
    intro other isNode
    apply fresh
    rw [← List.cons_append, ← List.append_assoc, List.flatten_append]
    exact List.mem_append_left _ isNode
  have agreeKnown : ∀ name ∈ known, base.get? name = context.get? name := by
    intro name isKnown
    have held := prepared.runnable.present name isKnown
    rw [growsBase.kept name held, growsContext.kept name held]
  have agree := get?_eq_of_solvedBy layered.1.ordered sameRange agreeKnown
    solved.solved fun other isNode =>
      more.solved other (by
        rw [List.flatten_append]
        exact List.mem_append_left _ isNode)
  exact node.compute_congr sameRange fun name required =>
    agree name (layered.2.1 node member required)

namespace FailsWithin

variable {otherDone otherLater : List (List (Node α))}
  {otherLevel : List (Node α)} {otherBase context : ResultContext α}

/-- No context solves a failing level. -/
theorem not_solves {middle rest : List (List (Node α))}
    (prepared : Prepared known stages start)
    (failing : FailsWithin stages start done level (middle ++ rest) base) :
    ¬Solves (done ++ level :: middle).flatten start context := by
  intro solves
  obtain ⟨node, member, error, fails⟩ := failing.fails
  have isNode : node ∈ (done ++ level :: middle).flatten := by
    rw [List.flatten_append, List.flatten_cons]
    exact List.mem_append_right _ (List.mem_append_left _ member)
  obtain ⟨computed, computes, _⟩ := solves.solved node isNode
  rw [failing.split] at prepared
  rw [prepared.compute_eq failing.solved solves member, computes] at fails
  cases fails

/-- Of two failing levels none comes before the other. -/
theorem not_before (prepared : Prepared known stages start)
    (one : FailsWithin stages start done level later base)
    {between : List (List (Node α))}
    (other : FailsWithin stages start (done ++ between) otherLevel otherLater
      otherBase)
    (rest : level :: later = between ++ otherLevel :: otherLater) :
    between = [] := by
  cases between with
  | nil => rfl
  | cons first middle =>
      obtain ⟨rfl, rfl⟩ := List.cons.inj rest
      exact absurd other.solved (one.not_solves prepared)

/-- There is at most one failing level. -/
theorem unique (prepared : Prepared known stages start)
    (one : FailsWithin stages start done level later base)
    (other : FailsWithin stages start otherDone otherLevel otherLater
      otherBase) :
    done = otherDone ∧ level = otherLevel ∧ later = otherLater ∧
      base = otherBase := by
  have runnable : Runnable known done.flatten start := by
    have whole := prepared.runnable
    rw [one.split, List.flatten_append] at whole
    exact whole.left
  have sameDone : done = otherDone := by
    rcases List.append_eq_append_iff.mp (one.split.symm.trans other.split) with
      ⟨between, rfl, rest⟩ | ⟨between, rfl, rest⟩
    · rw [one.not_before prepared other rest, List.append_nil]
    · rw [other.not_before prepared one rest, List.append_nil]
  subst otherDone
  obtain ⟨sameLevel, sameLater⟩ := List.cons.inj
    (List.append_cancel_left (one.split.symm.trans other.split))
  exact ⟨rfl, sameLevel, sameLater,
    runnable.solves_unique one.solved other.solved⟩

end FailsWithin

/-! ## The sequential run -/

theorem executeAll_flatten_error {session stopped : Session α}
    {error : CommandError α}
    (run : Node.executeAll stages.flatten session = (stopped, .error error)) :
    ∃ done level later middle, stages = done ++ level :: later ∧
      Node.executeAll done.flatten session = (middle, .ok ()) ∧
      Node.executeAll level middle = (stopped, .error error) := by
  induction stages generalizing session with
  | nil => cases run
  | cons first rest induction =>
      rw [List.flatten_cons, Node.executeAll_append] at run
      split at run
      · rename_i failed
        cases run
        exact ⟨[], first, rest, session, rfl, rfl, failed⟩
      · rename_i after executed
        obtain ⟨done, level, later, middle, rfl, ranDone, failed⟩ :=
          induction run
        refine ⟨first :: done, level, later, middle, rfl, ?_, failed⟩
        rw [List.flatten_cons, Node.executeAll_append, executed]
        exact ranDone

/-- The sequential run fails within a level, unless a report cannot be
delivered. -/
theorem failsWithin_executeAll {session stopped : Session α}
    {error : CommandError α} (prepared : Prepared known stages session.context)
    (run : Node.executeAll stages.flatten session = (stopped, .error error))
    (computing : error.fault.isOfDelivery = false) :
    ∃ done level later middle,
      Node.executeAll done.flatten session = (middle, .ok ()) ∧
      Node.executeAll level middle = (stopped, .error error) ∧
      FailsWithin stages session.context done level later middle.context := by
  obtain ⟨done, level, later, middle, rfl, ranDone, failed⟩ :=
    executeAll_flatten_error run
  have runnable := prepared.runnable
  rw [List.flatten_append] at runnable
  have solved := runnable.left.solves_executeAll ranDone
  have next := prepared.advance solved
  have ready := next.ready
  have nextRunnable : Runnable _ (level ++ later.flatten) middle.context :=
    next.runnable
  obtain ⟨before, node, after, last, splitLevel, ranBefore, turn, stopping⟩ :=
    nextRunnable.left.exists_failing failed
  refine ⟨done, level, later, middle, ranDone, failed, rfl, solved, node, ?_,
    error, ?_⟩
  · simp [splitLevel]
  · have levelRunnable := nextRunnable.left
    rw [splitLevel] at levelRunnable
    have grows := (levelRunnable.left.solves_executeAll ranBefore).extends
      levelRunnable.left.fresh
    have closed := ready.closed node (by simp [splitLevel])
    rw [← Node.compute_of_extends closed grows]
    rcases turn.execute_error stopping with fails | delivering
    · exact fails
    · rw [computing] at delivering
      cases delivering

/-! ## Schedules that fail -/

theorem State.Within.failsWithin
    (within : state.Within stages start done level base)
    (failure : ∃ job ∈ state.jobs, job.Failed) :
    FailsWithin stages start done level state.later base := by
  obtain ⟨job, member, error, failed⟩ := failure
  exact ⟨within.split, within.solved, job.node,
    within.sound.mem_level member, error,
    within.sound.compute_error member failed⟩

/-- What a schedule leaves that has failed within a level.  It returns the
error of a node of the level, run against the results of the levels before;
these are all there, there is nothing of the levels after it, and of the level
itself there are results of nodes that succeed. -/
structure State.AbortedIn (done : List (List (Node α)))
    (level : List (Node α)) (later : List (List (Node α)))
    (base : ResultContext α) (state : State α) : Prop where
  atHand : state.jobs.map Job.node = level
  ahead : state.later = later
  fails : ∃ error, state.Returns (.error error)
  returns : ∀ outcome, state.Returns outcome →
    ∃ node ∈ level, ∃ error, node.compute base = .error error ∧
      outcome = .error error
  earlier : ∀ node ∈ done.flatten, ∃ result,
    base.get? node.name = some result ∧
      state.context.get? node.name = some result
  beyond : ∀ node ∈ later.flatten, state.context.get? node.name = none
  own : ∀ node ∈ level, ∀ result,
    state.context.get? node.name = some result →
      ∃ computed, node.compute base = .ok computed ∧ computed.result = result
  others : ∀ name ∉ level.map Node.name,
    state.context.get? name = base.get? name

theorem State.Within.abortedIn (prepared : Prepared known stages start)
    (within : state.Within stages start done level base)
    (failure : ∃ job ∈ state.jobs, job.Failed) :
    state.AbortedIn done level state.later base := by
  have ready := within.ready prepared
  obtain ⟨split, solved, sound⟩ := within
  rw [split] at prepared
  have runnable : Runnable _ (level ++ state.later.flatten) base :=
    (prepared.advance solved).runnable
  refine ⟨sound.nodes, rfl, ?_, ?_, ?_, ?_, ?_, sound.others⟩
  · obtain ⟨job, member, error, failed⟩ := failure
    exact ⟨error, .failure member failed⟩
  · intro outcome returns
    cases returns with
    | success clean =>
        obtain ⟨job, member, failed⟩ := failure
        exact absurd failed (clean job member)
    | @failure job error member failed =>
        exact ⟨job.node, sound.mem_level member, error,
          sound.compute_error member failed, rfl⟩
  · intro node member
    have present := (solved.solved node member).present
    obtain ⟨result, held⟩ := Option.isSome_iff_exists.mp present
    refine ⟨result, held, ?_⟩
    rw [sound.others _ (ready.ne_of_present present), held]
  · intro node member
    have distinct := runnable.distinct
    rw [List.map_append] at distinct
    have outside : node.name ∉ level.map Node.name := fun inLevel =>
      (List.nodup_append.mp distinct).2.2 _ inLevel _
        (List.mem_map_of_mem member) rfl
    rw [sound.others _ outside]
    exact runnable.fresh node (List.mem_append_right _ member)
  · intro node member result held
    rw [← sound.nodes] at member
    obtain ⟨job, isJob, rfl⟩ := List.mem_map.mp member
    cases sound.jobs job isJob with
    | published success holds =>
        rw [holds, Option.some.injEq] at held
        exact ⟨_, success, held⟩
    | waiting absent => simp [absent] at held
    | reading absent _ _ => simp [absent] at held
    | failed absent _ => simp [absent] at held
    | skipped absent => simp [absent] at held

/-! ## Complete schedules -/

/-- Where the equations of all nodes have a solution, every complete schedule
has found it and returns success. -/
theorem final_of_solves {context : ResultContext α}
    (prepared : Prepared known stages start)
    (solves : Solves stages.flatten start context)
    (steps : ReflTransGen Step (State.start start stages) state)
    (final : state.Final) :
    state.later = [] ∧ state.context = context ∧
      ∀ outcome, state.Returns outcome ↔ outcome = .ok () := by
  rcases final_cases prepared steps final with
    ⟨clean, empty, solved⟩ | ⟨done, level, base, within, failure⟩
  · refine ⟨empty, prepared.runnable.solves_unique solved solves, ?_⟩
    intro outcome
    constructor
    · intro returns
      cases returns with
      | success _ => rfl
      | failure member failed => exact absurd ⟨_, failed⟩ (clean _ member)
    · intro same
      exact same ▸ .success clean
  · have failing := within.failsWithin failure
    rw [within.split] at solves
    rw [← List.append_nil state.later] at failing
    exact absurd solves (failing.not_solves prepared)

/-- Where a level fails, every complete schedule has failed in it. -/
theorem FailsWithin.abortedIn (prepared : Prepared known stages start)
    (failing : FailsWithin stages start done level later base)
    (steps : ReflTransGen Step (State.start start stages) state)
    (final : state.Final) :
    state.AbortedIn done level later base := by
  rcases final_cases prepared steps final with
    ⟨_, _, solved⟩ | ⟨otherDone, otherLevel, otherBase, within, failure⟩
  · rw [failing.split] at solved
    rw [← List.append_nil later] at failing
    exact absurd solved (failing.not_solves prepared)
  · have aborted := within.abortedIn prepared failure
    obtain ⟨rfl, rfl, rfl, rfl⟩ :=
      failing.unique prepared (within.failsWithin failure)
    exact aborted

end Parallel

namespace Model

open Parallel

variable {model : Model α} {levels : List (List Nat)} {session : Session α}

/-- The states that schedules of a model come to, once its inputs have been
published. -/
def InParallel (model : Model α) (session : Session α) (state : State α) :
    Prop :=
  ∃ levels after, model.levels = .ok levels ∧
    inject model.inputs session = (after, .ok ()) ∧
    ReflTransGen Step (State.start after.context (model.stages levels)) state

/-- Every schedule of a model that has levels comes to an end.  Where the
sequential run succeeds, each of them returns success with the same results.
Where a node of the sequential run fails while it computes, each of them fails
in the same level. -/
theorem parallel_refines_evaluate (ordered : model.levels = .ok levels)
    (fresh : model.Fresh session.context) :
    (∃ state, model.InParallel session state ∧ state.Final) ∧
    (¬∃ schedule : Nat → State α, model.InParallel session (schedule 0) ∧
      ∀ time, Step (schedule time) (schedule (time + 1))) ∧
    (∀ finished summary, model.evaluate session = (finished, .ok summary) →
      ∀ state, model.InParallel session state → state.Final →
        state.later = [] ∧ state.context = finished.context ∧
          ∀ outcome, state.Returns outcome ↔ outcome = .ok ()) ∧
    ∀ stopped failure,
      model.evaluate session = (stopped, .error (.aborted failure)) →
      failure.fault.isOfDelivery = false →
      ∃ done level later injected middle,
        model.stages levels = done ++ level :: later ∧
        inject model.inputs session = (injected, .ok ()) ∧
        Node.executeAll done.flatten injected = (middle, .ok ()) ∧
        Node.executeAll level middle = (stopped, .error failure) ∧
        ∀ state, model.InParallel session state → state.Final →
          state.AbortedIn done level later middle.context := by
  have staged := staged_of_levels ordered
  obtain ⟨after, injects, _, runnable⟩ := staged.exists_injected fresh
  have prepared : Prepared model.inputNames (model.stages levels)
      after.context := ⟨staged.layered, runnable⟩
  have evaluates := evaluate_eq ordered injects
  have steps : ∀ state, model.InParallel session state →
      ReflTransGen Step (State.start after.context (model.stages levels))
        state := by
    intro state reached
    obtain ⟨others, also, otherOrdered, otherInjects, steps⟩ := reached
    rw [ordered] at otherOrdered
    rw [injects] at otherInjects
    cases otherOrdered
    cases otherInjects
    exact steps
  refine ⟨?_, ?_, ?_, ?_⟩
  · obtain ⟨final, reached, isFinal⟩ :=
      exists_final (State.start after.context (model.stages levels))
    exact ⟨final, ⟨levels, after, ordered, injects, reached⟩, isFinal⟩
  · intro endless
    obtain ⟨schedule, _, goesOn⟩ := endless
    exact (wellFounded_iff_isEmpty_descending_chain.mp
      (step_wellFounded (α := α))).false ⟨schedule, goesOn⟩
  · intro finished summary succeeded state reached final
    cases run : Node.executeAll (model.stages levels).flatten after with
    | mk last outcome =>
        rw [evaluates, run] at succeeded
        cases outcome with
        | error failure => cases succeeded
        | ok done =>
            cases succeeded
            exact final_of_solves prepared (runnable.solves_executeAll run)
              (steps state reached) final
  · intro stopped failure failed computing
    cases run : Node.executeAll (model.stages levels).flatten after with
    | mk last outcome =>
        rw [evaluates, run] at failed
        cases outcome with
        | ok done => cases failed
        | error error =>
            cases failed
            obtain ⟨done, level, later, middle, ranDone, stops, failing⟩ :=
              failsWithin_executeAll prepared run computing
            refine ⟨done, level, later, after, middle, failing.split, injects,
              ranDone, stops, ?_⟩
            intro state reached final
            exact failing.abortedIn prepared (steps state reached) final

end Model

namespace Sample

/-- An exclusive or of one layer, which needs two. -/
def alone : Node Float where
  command := ⟨"Alone", "FuzzyXOr",
    ⟨[("InFieldNames", .list [.text "Dry"])], by simp⟩,
    ⟨"model.mpt", 4, "Alone = FuzzyXOr([Dry])"⟩⟩
  operator := .fuzzyXor
  operation := .list ["Dry"] .fuzzyXor
  interpreted := rfl

/-- A model whose second level fails. -/
def faulty : Model Float :=
  ⟨model.inputs, [suitable, dry, alone]⟩

/-- The small model succeeds in parallel, too, and the faulty one stops in the
level in which the sequential run stops. -/
theorem parallel_refines_evaluate_model :
    (∃ state, model.InParallel session state ∧ state.Final ∧
      state.context = (model.evaluate session).1.context ∧
      state.Returns (.ok ())) ∧
    ∃ done level later base state, faulty.InParallel session state ∧
      state.Final ∧ state.AbortedIn done level later base := by
  constructor
  · have ordered : model.levels = .ok [[1, 2], [0]] := rfl
    have fresh : model.Fresh session.context := fun _ _ => rfl
    have succeeds : (model.evaluate session).2 = .ok ⟨2, 3, 2⟩ := rfl
    have evaluates : model.evaluate session =
        ((model.evaluate session).1, .ok ⟨2, 3, 2⟩) :=
      Prod.ext rfl succeeds
    obtain ⟨⟨state, reached, final⟩, _, success, _⟩ :=
      Model.parallel_refines_evaluate ordered fresh
    obtain ⟨_, sameContext, returns⟩ :=
      success _ _ evaluates state reached final
    exact ⟨state, reached, final, sameContext, (returns _).mpr rfl⟩
  · have ordered : faulty.levels = .ok [[1], [0, 2]] := rfl
    have fresh : faulty.Fresh session.context := fun _ _ => rfl
    have fails : (faulty.evaluate session).2 = .error (.aborted
        ⟨.tooFewInputs "InFieldNames" 2 1, alone.command.origin⟩) := rfl
    have evaluates : faulty.evaluate session =
        ((faulty.evaluate session).1, .error (.aborted
          ⟨.tooFewInputs "InFieldNames" 2 1, alone.command.origin⟩)) :=
      Prod.ext rfl fails
    obtain ⟨⟨state, reached, final⟩, _, _, failure⟩ :=
      Model.parallel_refines_evaluate ordered fresh
    obtain ⟨done, level, later, _, middle, _, _, _, _, aborted⟩ :=
      failure _ _ evaluates rfl
    exact ⟨done, level, later, middle.context, state, reached, final,
      aborted state reached final⟩

end Sample

end FuzzyGrid
