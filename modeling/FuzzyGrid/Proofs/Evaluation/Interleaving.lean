import FuzzyGrid.Proofs.Evaluation.FixedPoint
import FuzzyGrid.Proofs.Evaluation.Parallel

/-!
# What holds along a schedule

While a level is worked on, its nodes do not see one another: what a node looks
up was there when the level began, and no node of the level writes to it.  Each
node therefore comes to what it computes from the results at the beginning of
the level, in whatever order the steps are taken.  `State.Sound` says so of one
level and `State.Within` of a level among others, and every step keeps them.
-/

namespace FuzzyGrid

open Relation (ReflTransGen)

variable {α : Type} [Scalar α]

namespace Parallel

open Reading (Confined)

/-- The work on a node as it looks from the results at the beginning of its
level. -/
inductive Job.Sound (base context : ResultContext α) : Job α → Prop where
  | waiting {node : Node α} (absent : context.get? node.name = none) :
      Sound base context ⟨node, .waiting⟩
  | reading {node : Node α} {rest : Reading α (Computed α)}
      (absent : context.get? node.name = none)
      (confined : Confined node.command.origin node.dependencies
        node.operation.blamed rest)
      (same : rest.run base = node.compute base) :
      Sound base context ⟨node, .reading rest⟩
  | published {node : Node α} {computed : Computed α}
      (success : node.compute base = .ok computed)
      (holds : context.get? node.name = some computed.result) :
      Sound base context ⟨node, .published⟩
  | failed {node : Node α} {error : CommandError α}
      (absent : context.get? node.name = none)
      (failure : node.compute base = .error error) :
      Sound base context ⟨node, .failed error⟩
  | skipped {node : Node α} (absent : context.get? node.name = none) :
      Sound base context ⟨node, .skipped⟩

theorem Job.Sound.of_get?_eq {base context grown : ResultContext α}
    {job : Job α} (sound : job.Sound base context)
    (same : grown.get? job.node.name = context.get? job.node.name) :
    job.Sound base grown := by
  cases sound with
  | waiting absent => exact .waiting (same.trans absent)
  | reading absent confined outcome =>
      exact .reading (same.trans absent) confined outcome
  | published success holds => exact .published success (same.trans holds)
  | failed absent failure => exact .failed (same.trans absent) failure
  | skipped absent => exact .skipped (same.trans absent)

namespace Advances

variable {node : Node α} {context grown base : ResultContext α}
  {current next : Work α}

/-- A step of one node leaves what other names hold. -/
theorem frame (advances : Advances node context current grown next) :
    grown.range = context.range ∧
      ∀ name ≠ node.name, grown.get? name = context.get? name := by
  cases advances with
  | publish publishes =>
      refine ⟨ResultContext.range_publish publishes, ?_⟩
      intro name different
      rw [ResultContext.get?_publish publishes, if_neg different]
  | _ => exact ⟨rfl, fun _ _ => rfl⟩

theorem sound (advances : Advances node context current grown next)
    (before : Job.Sound base context ⟨node, current⟩)
    (range : context.range = base.range)
    (agree : ∀ name ∈ node.dependencies,
      context.get? name = base.get? name)
    (closed : node.Closed base) : Job.Sound base grown ⟨node, next⟩ := by
  cases advances with
  | begin =>
      cases before with
      | waiting absent =>
          refine .reading absent (node.reading_confined _) ?_
          rw [range]
          exact node.run_reading base
  | @fetch origin name continue_ result held =>
      cases before with
      | reading absent confined same =>
          cases confined with
          | fetch listed rest =>
              refine .reading absent (rest result) ?_
              rw [agree name listed] at held
              rw [← same, Reading.run, held]
  | @miss origin name continue_ missing =>
      cases before with
      | reading absent confined same =>
          cases confined with
          | fetch listed rest =>
              rw [agree name listed] at missing
              have held := closed name listed
              simp [missing] at held
  | fail =>
      cases before with
      | reading absent confined same => exact .failed absent same.symm
  | publish publishes =>
      cases before with
      | reading absent confined same =>
          refine .published same.symm ?_
          rw [ResultContext.get?_publish publishes, if_pos rfl]
  | refuse refused =>
      cases before with
      | reading absent confined same =>
          have held := (ResultContext.publish_error_iff.mp refused).1
          simp [absent] at held

end Advances

/-! ## One level -/

private theorem mem_middle_iff {before after : List (Job α)} {job other : Job α} :
    other ∈ before ++ job :: after ↔ other = job ∨ other ∈ before ++ after := by
  rw [List.perm_middle.mem_iff, List.mem_cons]

/-- Nodes that can all be computed from the results at the beginning of their
level. -/
structure Ready (base : ResultContext α) (level : List (Node α)) : Prop where
  closed : ∀ node ∈ level, node.Closed base
  distinct : (level.map Node.name).Nodup
  fresh : ∀ node ∈ level, base.get? node.name = none

theorem Ready.ne_of_present {base : ResultContext α} {level : List (Node α)}
    (ready : Ready base level) {name : String}
    (held : (base.get? name).isSome) : name ∉ level.map Node.name := by
  intro member
  obtain ⟨node, isNode, rfl⟩ := List.mem_map.mp member
  simp [ready.fresh node isNode] at held

/-- What holds while a level is worked on. -/
structure State.Sound (base : ResultContext α) (level : List (Node α))
    (state : State α) : Prop where
  nodes : state.jobs.map Job.node = level
  range : state.context.range = base.range
  others : ∀ name ∉ level.map Node.name,
    state.context.get? name = base.get? name
  jobs : ∀ job ∈ state.jobs, job.Sound base state.context
  skips : ∀ job ∈ state.jobs, job.work = .skipped →
    ∃ other ∈ state.jobs, other.Failed

namespace State.Sound

variable {base context grown : ResultContext α} {level : List (Node α)}
  {before after : List (Job α)} {node : Node α} {current next : Work α}
  {later : List (List (Node α))} {state : State α}

theorem begin (ready : Ready base level) (later : List (List (Node α))) :
    State.Sound base level ⟨base, level.map Job.waiting, later⟩ := by
  refine ⟨?_, rfl, fun _ _ => rfl, ?_, ?_⟩
  · simp [Job.waiting, Function.comp_def]
  · intro job member
    obtain ⟨node, isNode, rfl⟩ := List.mem_map.mp member
    exact .waiting (ready.fresh node isNode)
  · intro job member skipped
    obtain ⟨node, _, rfl⟩ := List.mem_map.mp member
    cases skipped

theorem mem_level (sound : state.Sound base level) {job : Job α}
    (member : job ∈ state.jobs) : job.node ∈ level :=
  sound.nodes ▸ List.mem_map_of_mem member

theorem compute_error (sound : state.Sound base level) {job : Job α}
    (member : job ∈ state.jobs) {error : CommandError α}
    (failed : job.work = .failed error) :
    job.node.compute base = .error error := by
  cases sound.jobs job member with
  | failed _ failure =>
      cases failed
      exact failure
  | _ => cases failed

theorem name_ne (ready : Ready base level)
    (sound : State.Sound base level
      ⟨context, before ++ ⟨node, current⟩ :: after, later⟩)
    {job : Job α} (member : job ∈ before ++ after) :
    job.node.name ≠ node.name := by
  have distinct := ready.distinct
  rw [← sound.nodes, List.map_map, List.map_append, List.map_cons,
    List.nodup_middle, List.nodup_cons, ← List.map_append] at distinct
  intro same
  apply distinct.1
  have named : job.node.name ∈ (before ++ after).map (Node.name ∘ Job.node) :=
    List.mem_map_of_mem member
  rw [same] at named
  exact named

/-- One job may be replaced by a sound one where nothing else is changed. -/
theorem replace (ready : Ready base level)
    (sound : State.Sound base level
      ⟨context, before ++ ⟨node, current⟩ :: after, later⟩)
    (frame : grown.range = context.range ∧
      ∀ name ≠ node.name, grown.get? name = context.get? name)
    (own : Job.Sound base grown ⟨node, next⟩)
    (unfailed : ∀ error, current ≠ .failed error)
    (skips : next = .skipped → ∃ job ∈ before ++ after, job.Failed) :
    State.Sound base level
      ⟨grown, before ++ ⟨node, next⟩ :: after, later⟩ := by
  refine ⟨?_, frame.1.trans sound.range, ?_, ?_, ?_⟩
  · rw [← sound.nodes]
    simp
  · intro name outside
    have isNode : node ∈ level :=
      sound.mem_level (List.mem_append_right _ List.mem_cons_self)
    have different : name ≠ node.name := by
      intro same
      subst name
      exact outside (List.mem_map_of_mem isNode)
    exact (frame.2 name different).trans (sound.others name outside)
  · intro job member
    rcases mem_middle_iff.mp member with same | other
    · exact same ▸ own
    · exact (sound.jobs job (mem_middle_iff.mpr (Or.inr other))).of_get?_eq
        (frame.2 _ (name_ne ready sound other))
  · intro job member skipped
    have failure : ∃ other ∈ before ++ after, other.Failed := by
      rcases mem_middle_iff.mp member with same | other
      · subst job
        exact skips skipped
      · obtain ⟨failing, isJob, error, failed⟩ :=
          sound.skips job (mem_middle_iff.mpr (Or.inr other)) skipped
        rcases mem_middle_iff.mp isJob with same | remains
        · subst failing
          exact absurd failed (unfailed error)
        · exact ⟨failing, remains, error, failed⟩
    obtain ⟨failing, isJob, failed⟩ := failure
    exact ⟨failing, mem_middle_iff.mpr (Or.inr isJob), failed⟩

/-- A step of a node keeps what holds of its level. -/
theorem work (ready : Ready base level)
    (sound : State.Sound base level
      ⟨context, before ++ ⟨node, current⟩ :: after, later⟩)
    (advances : Advances node context current grown next) :
    State.Sound base level
      ⟨grown, before ++ ⟨node, next⟩ :: after, later⟩ := by
  have isJob : (⟨node, current⟩ : Job α) ∈
      before ++ ⟨node, current⟩ :: after :=
    List.mem_append_right _ List.mem_cons_self
  have closed := ready.closed node (sound.mem_level isJob)
  apply sound.replace ready advances.frame
  · apply advances.sound (sound.jobs _ isJob) sound.range _ closed
    intro name member
    exact sound.others name (ready.ne_of_present (closed name member))
  · intro error failed
    subst current
    cases advances
  · intro skipped
    subst next
    cases advances

/-- Leaving a node out keeps what holds of its level. -/
theorem skip (ready : Ready base level)
    (sound : State.Sound base level
      ⟨context, before ++ ⟨node, .waiting⟩ :: after, later⟩)
    (failure : ∃ job ∈ before ++ after, job.Failed) :
    State.Sound base level
      ⟨context, before ++ ⟨node, .skipped⟩ :: after, later⟩ := by
  apply sound.replace ready ⟨rfl, fun _ _ => rfl⟩
  · cases sound.jobs ⟨node, .waiting⟩
      (List.mem_append_right _ List.mem_cons_self) with
    | waiting absent => exact .skipped absent
  · intro error failed
    cases failed
  · intro _
    exact failure

theorem grows (ready : Ready base level) (sound : state.Sound base level) :
    state.context.Extends base :=
  ⟨sound.range, fun name held =>
    sound.others name (ready.ne_of_present held)⟩

/-- A level all of whose nodes have published is solved. -/
theorem solves (ready : Ready base level) (sound : state.Sound base level)
    (complete : ∀ job ∈ state.jobs, job.work = .published) :
    Solves level base state.context := by
  apply solves_of_computed ready.closed (sound.grows ready) sound.others
  intro node member
  rw [← sound.nodes] at member
  obtain ⟨job, isJob, rfl⟩ := List.mem_map.mp member
  have published := complete job isJob
  cases sound.jobs job isJob with
  | published success holds => exact ⟨_, success, holds⟩
  | _ => cases published

/-- A complete schedule in which no node has failed has published all nodes
of its level. -/
theorem published (sound : state.Sound base level) (final : state.Final)
    (clean : ∀ job ∈ state.jobs, ¬job.Failed) :
    ∀ job ∈ state.jobs, job.work = .published := by
  intro job member
  have ended := final.ended job member
  cases work : job.work with
  | published => rfl
  | failed error => exact absurd ⟨error, work⟩ (clean job member)
  | skipped =>
      obtain ⟨other, isJob, failed⟩ := sound.skips job member work
      exact absurd failed (clean other isJob)
  | waiting =>
      rw [work] at ended
      cases ended
  | reading rest =>
      rw [work] at ended
      cases ended

end State.Sound

/-! ## Level after level -/

/-- Levels that can be worked on one after the other. -/
structure Prepared (known : List String) (stages : List (List (Node α)))
    (start : ResultContext α) : Prop where
  layered : Layered known stages
  runnable : Runnable known stages.flatten start

namespace Prepared

variable {known : List String} {stages done later : List (List (Node α))}
  {level : List (Node α)} {start base : ResultContext α}

theorem advance (prepared : Prepared known (done ++ later) start)
    (solves : Solves done.flatten start base) :
    Prepared (known ++ done.flatten.map Node.name) later base := by
  have runnable := prepared.runnable
  rw [List.flatten_append] at runnable
  exact ⟨(layered_append_iff.mp prepared.layered).2, runnable.advance solves⟩

theorem ready (prepared : Prepared known (level :: later) start) :
    Ready start level := by
  have runnable : Runnable known (level ++ later.flatten) start :=
    prepared.runnable
  refine ⟨?_, runnable.left.distinct, runnable.left.fresh⟩
  intro node member name required
  exact runnable.present name (prepared.layered.1 node member required)

end Prepared

/-- A state within a level: the levels before it are solved, and the level is
worked on from there. -/
structure State.Within (stages : List (List (Node α)))
    (start : ResultContext α) (done : List (List (Node α)))
    (level : List (Node α)) (base : ResultContext α) (state : State α) :
    Prop where
  split : stages = done ++ level :: state.later
  solved : Solves done.flatten start base
  sound : state.Sound base level

section

variable {known : List String} {stages done : List (List (Node α))}
  {level : List (Node α)} {start base : ResultContext α} {state next : State α}

theorem State.Within.ready (within : state.Within stages start done level base)
    (prepared : Prepared known stages start) : Ready base level := by
  rw [within.split] at prepared
  exact (prepared.advance within.solved).ready

/-- A level that is complete is solved together with those before it. -/
theorem State.Within.solves
    (within : state.Within stages start done level base)
    (prepared : Prepared known stages start)
    (complete : ∀ job ∈ state.jobs, job.work = .published) :
    Solves (done ++ [level]).flatten start state.context := by
  have levelSolved := within.sound.solves (within.ready prepared) complete
  have runnable := prepared.runnable
  rw [within.split, List.flatten_append, List.flatten_cons,
    ← List.append_assoc] at runnable
  rw [List.flatten_append, List.flatten_singleton]
  exact runnable.left.solves_append within.solved levelSolved

/-- A step keeps a state within a level or takes it to the next one. -/
theorem State.Within.step (prepared : Prepared known stages start)
    (within : state.Within stages start done level base)
    (step : Step state next) :
    ∃ done level base, next.Within stages start done level base := by
  have ready := within.ready prepared
  have solves := within.solves prepared
  obtain ⟨split, solved, sound⟩ := within
  cases step with
  | work advances =>
      exact ⟨done, level, base, split, solved, sound.work ready advances⟩
  | skip failure =>
      exact ⟨done, level, base, split, solved, sound.skip ready failure⟩
  | @turn context jobs following later complete =>
      have splitNext : stages = (done ++ [level]) ++ following :: later := by
        rw [split, List.append_assoc]
        rfl
      have nextPrepared := prepared
      rw [splitNext] at nextPrepared
      exact ⟨_, _, _, splitNext, solves complete,
        .begin (nextPrepared.advance (solves complete)).ready later⟩

/-- A schedule starts with its first level. -/
theorem step_start (step : Step (State.start start stages) next) :
    ∃ level later, stages = level :: later ∧
      next = ⟨start, level.map Job.waiting, later⟩ := by
  generalize started : State.start start stages = first at step
  cases step with
  | work advances =>
      have noJobs := congrArg State.jobs started
      simp [State.start] at noJobs
  | skip failure =>
      have noJobs := congrArg State.jobs started
      simp [State.start] at noJobs
  | @turn context jobs level later complete =>
      obtain ⟨rfl, _, rfl⟩ := State.mk.inj started
      exact ⟨level, later, rfl, rfl⟩

/-- Every state that a schedule comes to lies before the first level or within
some level. -/
theorem start_or_within (prepared : Prepared known stages start)
    (steps : ReflTransGen Step (State.start start stages) state) :
    state = State.start start stages ∨
      ∃ done level base, state.Within stages start done level base := by
  induction steps with
  | refl => exact Or.inl rfl
  | tail _ step induction =>
      apply Or.inr
      rcases induction with atStart | ⟨done, level, base, within⟩
      · subst atStart
        obtain ⟨level, later, rfl, rfl⟩ := step_start step
        have solved : Solves [].flatten start start :=
          ⟨rfl, fun _ _ => rfl, by simp⟩
        exact ⟨[], level, start, rfl, solved, .begin prepared.ready later⟩
      · exact within.step prepared step

/-- A complete schedule has either solved all levels or it has failed within
one of them. -/
theorem final_cases (prepared : Prepared known stages start)
    (steps : ReflTransGen Step (State.start start stages) state)
    (final : state.Final) :
    ((∀ job ∈ state.jobs, ¬job.Failed) ∧ state.later = [] ∧
        Solves stages.flatten start state.context) ∨
      ∃ done level base, state.Within stages start done level base ∧
        ∃ job ∈ state.jobs, job.Failed := by
  by_cases failure : ∃ job ∈ state.jobs, job.Failed
  · apply Or.inr
    rcases start_or_within prepared steps with atStart | within
    · subst state
      obtain ⟨job, member, _⟩ := failure
      cases member
    · obtain ⟨done, level, base, within⟩ := within
      exact ⟨done, level, base, within, failure⟩
  · apply Or.inl
    have clean : ∀ job ∈ state.jobs, ¬job.Failed :=
      fun job member failed => failure ⟨job, member, failed⟩
    refine ⟨clean, ?_⟩
    rcases start_or_within prepared steps with atStart | within
    · subst state
      have empty : stages = [] := final.later_eq_nil (by simp [State.start])
      subst stages
      exact ⟨rfl, rfl, fun _ _ => rfl, by simp⟩
    · obtain ⟨done, level, base, within⟩ := within
      have complete := within.sound.published final clean
      have empty := final.later_eq_nil complete
      have solves := within.solves prepared complete
      rw [within.split, empty]
      exact ⟨rfl, solves⟩

end

end Parallel

end FuzzyGrid
