import FuzzyGrid.Proofs.Schedule.Levels
import Mathlib.Data.Finset.Card

/-!
# The counters of the level loop

Before the loop the edges between tasks are noted on both sides: a task counts
the tasks that it waits for, and each of these lists the task.  The loop takes
from the counters what has run.  `InStep` says what holds at the start of every
round, on graphs with cycles as well: a counter is the number of distinct names
that the task still waits for, so that none is taken below zero, and the ready
tasks are those that have not run and count zero.
-/

namespace FuzzyGrid

namespace Schedule

/-! ## Edges -/

/-- How many tasks each task waits for, and which tasks wait for it. -/
structure Edges where
  waiting : List Nat
  dependents : List (List Nat)
  deriving Repr, DecidableEq

namespace Edges

def start (count : Nat) : Edges :=
  ⟨List.replicate count 0, List.replicate count []⟩

/-- Note on both sides that a consumer waits for a producer. -/
def add (consumer : Nat) (edges : Edges) (producer : Nat) : Edges :=
  ⟨edges.waiting.modify consumer (· + 1),
    edges.dependents.modify producer (· ++ [consumer])⟩

/-- Note what the first tasks wait for, task by task. -/
def upTo (waits : List (List Nat)) (count : Nat) : Edges :=
  (List.range count).foldl
    (fun edges consumer => (waits.getD consumer []).foldl (add consumer) edges)
    (start waits.length)

/-- The edges of all tasks. -/
def all (waits : List (List Nat)) : Edges :=
  upTo waits waits.length

theorem waiting_foldl (consumer : Nat) (producers : List Nat) (edges : Edges)
    (position : Nat) :
    (producers.foldl (add consumer) edges).waiting[position]? =
      edges.waiting[position]?.map fun count =>
        count + if position = consumer then producers.length else 0 := by
  induction producers generalizing edges with
  | nil => simp
  | cons producer rest induction =>
      rw [List.foldl_cons, induction, add, List.getElem?_modify]
      by_cases same : position = consumer
      · subst position
        cases edges.waiting[consumer]? with
        | none => rfl
        | some count =>
            simp
            omega
      · have different : consumer ≠ position := fun equal => same equal.symm
        simp [same, different]

theorem dependents_foldl (consumer : Nat) {producers : List Nat}
    (distinct : producers.Nodup) (edges : Edges) (position : Nat) :
    (producers.foldl (add consumer) edges).dependents[position]? =
      edges.dependents[position]?.map fun listed =>
        listed ++ if position ∈ producers then [consumer] else [] := by
  induction producers generalizing edges with
  | nil => simp
  | cons producer rest induction =>
      have ⟨new, restDistinct⟩ := List.nodup_cons.mp distinct
      rw [List.foldl_cons, induction restDistinct, add, List.getElem?_modify]
      by_cases same : position = producer
      · subst position
        cases edges.dependents[producer]? <;> simp [new]
      · have different : producer ≠ position := fun equal => same equal.symm
        simp [same, different]

theorem upTo_succ (waits : List (List Nat)) (count : Nat) :
    upTo waits (count + 1) =
      (waits.getD count []).foldl (add count) (upTo waits count) := by
  rw [upTo, List.range_succ, List.foldl_append]
  rfl

variable {waits : List (List Nat)}

theorem waiting_upTo (count position : Nat) :
    (upTo waits count).waiting[position]? =
      if position < waits.length then
        some (if position < count then (waits.getD position []).length else 0)
      else none := by
  induction count with
  | zero => simp [upTo, start, List.getElem?_replicate]
  | succ count induction =>
      rw [upTo_succ, waiting_foldl, induction]
      by_cases inside : position < waits.length
      · rw [if_pos inside, if_pos inside, Option.map_some]
        rcases Nat.lt_trichotomy position count with before | same | after
        · simp [before, Nat.lt_succ_of_lt before, Nat.ne_of_lt before]
        · simp [same]
        · have notBefore : ¬position < count := by omega
          have notYet : ¬position < count + 1 := by omega
          simp [notBefore, notYet, Nat.ne_of_gt after]
      · rw [if_neg inside, if_neg inside, Option.map_none]

theorem dependents_upTo (wellFormed : WellFormed waits) (count position : Nat) :
    (upTo waits count).dependents[position]? =
      if position < waits.length then
        some ((List.range count).filter fun consumer =>
          (waits.getD consumer []).contains position)
      else none := by
  induction count with
  | zero => simp [upTo, start, List.getElem?_replicate]
  | succ count induction =>
      rw [upTo_succ, dependents_foldl count (wellFormed.distinct count), induction,
        List.range_succ, List.filter_append]
      by_cases inside : position < waits.length
      · rw [if_pos inside, if_pos inside, Option.map_some]
        simp [List.filter_singleton]
      · rw [if_neg inside, if_neg inside, Option.map_none]

/-- What the loop starts from is what both sides of the edges say. -/
theorem all_eq (wellFormed : WellFormed waits) :
    all waits = ⟨(initial waits).unfinished,
      (List.range waits.length).map (Schedule.dependents waits)⟩ := by
  have counts : (all waits).waiting = waits.map List.length := by
    refine List.ext_getElem? fun position => ?_
    rw [all, waiting_upTo, List.getElem?_map]
    by_cases inside : position < waits.length
    · simp [inside]
    · simp [inside]
  have lists : (all waits).dependents =
      (List.range waits.length).map (Schedule.dependents waits) := by
    refine List.ext_getElem? fun position => ?_
    rw [all, dependents_upTo wellFormed, List.getElem?_map]
    by_cases inside : position < waits.length
    · simp [inside, Schedule.dependents]
    · simp [inside]
  change Edges.mk (all waits).waiting (all waits).dependents = _
  rw [counts, lists]
  rfl

end Edges

/-! ## Names that are waited for -/

/-- Some task produces the name and is not among those that have run. -/
def Unproduced (tasks : List Task) (processed : List Nat) (name : String) : Prop :=
  ∃ producer ∈ List.range tasks.length, producer ∉ processed ∧
    ∃ task ∈ tasks[producer]?, task.name = name

instance (tasks : List Task) (processed : List Nat) (name : String) :
    Decidable (Unproduced tasks processed name) :=
  inferInstanceAs (Decidable (∃ producer ∈ List.range tasks.length, _))

/-- The distinct names that a task refers to and whose producers have not run. -/
def awaited (tasks : List Task) (processed : List Nat) (task : Task) : Finset String :=
  task.dependencies.toFinset.filter (Unproduced tasks processed)

variable {tasks : List Task}

theorem mem_taken_iff {waits : List (List Nat)} {rounds position : Nat} :
    position ∈ (progressAt waits rounds).taken.flatten ↔
      position < waits.length ∧ settled waits rounds position = true := by
  rw [← mem_flatten_levels, progressAt, List.mem_flatten, List.mem_flatten]
  simp only [List.mem_reverse]

/-- The producer of a name has not run where the name is still waited for. -/
theorem unproduced_iff (unique : (tasks.map Task.name).Nodup) {rounds : Nat}
    {name : String} :
    Unproduced tasks (progressAt (waits tasks) rounds).taken.flatten name ↔
      ∃ producer, producer? tasks name = some producer ∧
        settled (waits tasks) rounds producer = false := by
  have notRun : ∀ producer < tasks.length,
      producer ∉ (progressAt (waits tasks) rounds).taken.flatten ↔
        settled (waits tasks) rounds producer = false := by
    intro producer inside
    rw [mem_taken_iff, length_waits, ← Bool.not_eq_true]
    exact not_congr (and_iff_right inside)
  constructor
  · rintro ⟨producer, inRange, notTaken, task, found, same⟩
    have inside := List.mem_range.mp inRange
    exact ⟨producer, (producer?_eq_some_iff unique).mpr ⟨task, found, same⟩,
      (notRun producer inside).mp notTaken⟩
  · rintro ⟨producer, produces, isOpen⟩
    obtain ⟨task, found, same⟩ := producer?_name produces
    have inside := (List.getElem?_eq_some_iff.mp found).1
    exact ⟨producer, List.mem_range.mpr inside, (notRun producer inside).mpr isOpen,
      task, found, same⟩

/-- The names that are still waited for are as many as the producers that have
not run. -/
theorem card_awaited (unique : (tasks.map Task.name).Nodup) (rounds : Nat)
    (task : Task) :
    (awaited tasks (progressAt (waits tasks) rounds).taken.flatten task).card =
      (producers tasks task).countP fun producer =>
        !settled (waits tasks) rounds producer := by
  have names : awaited tasks (progressAt (waits tasks) rounds).taken.flatten task =
      ((distinct [] task.dependencies).filter
        (Unproduced tasks (progressAt (waits tasks) rounds).taken.flatten)).toFinset := by
    ext name
    simp [awaited, mem_distinct]
  have once := (nodup_distinct [] task.dependencies).filter
    (Unproduced tasks (progressAt (waits tasks) rounds).taken.flatten)
  rw [names, List.toFinset_card_of_nodup once, ← List.countP_eq_length_filter,
    producers, List.countP_filterMap]
  refine List.countP_congr fun name _ => ?_
  rw [decide_eq_true_iff, unproduced_iff unique]
  cases producer? tasks name with
  | none => simp
  | some producer => simp

/-! ## The invariant -/

/-- The loop after a number of rounds. -/
def afterRounds (waits : List (List Nat)) : Nat → Progress
  | 0 => initial waits
  | rounds + 1 => step waits (afterRounds waits rounds)

/-- What holds whenever the loop starts a round.  The tasks that have run are
those of the levels taken so far. -/
structure InStep (tasks : List Task) (progress : Progress) : Prop where
  /-- A counter is the number of distinct names that the task waits for. -/
  counters : progress.unfinished =
    tasks.map fun task => (awaited tasks progress.taken.flatten task).card
  /-- The ready tasks are those that have not run and wait for nothing. -/
  ready : ∀ position, position ∈ progress.ready ↔
    position < tasks.length ∧ position ∉ progress.taken.flatten ∧
      progress.unfinished[position]? = some 0
  /-- No task has run twice, is ready twice or is ready again. -/
  once : (progress.taken.flatten ++ progress.ready).Nodup
  /-- Whenever the round counts a task down, its counter is above zero. -/
  positive : ∀ before waiting after,
    progress.ready.flatMap (dependents (waits tasks)) = before ++ waiting :: after →
      0 < (before.foldl releaseOne (progress.unfinished, [])).1.getD waiting 0

theorem afterRounds_eq {waits : List (List Nat)} (wellFormed : WellFormed waits)
    (rounds : Nat) : afterRounds waits rounds = progressAt waits rounds := by
  induction rounds with
  | zero => exact initial_eq waits
  | succ rounds induction =>
      rw [afterRounds, induction, step_progressAt wellFormed]

theorem counters_progressAt (unique : (tasks.map Task.name).Nodup) (rounds : Nat) :
    (progressAt (waits tasks) rounds).unfinished = tasks.map fun task =>
      (awaited tasks (progressAt (waits tasks) rounds).taken.flatten task).card := by
  refine List.ext_getElem (by simp [progressAt]) ?_
  intro position inside insideTasks
  rw [List.length_map] at insideTasks
  have found := List.getElem?_eq_getElem insideTasks
  rw [List.getElem_map, card_awaited unique, ← waits_getD_of_getElem? found]
  simp [progressAt, openCount]

theorem ready_progressAt (tasks : List Task) (rounds position : Nat) :
    position ∈ (progressAt (waits tasks) rounds).ready ↔
      position < tasks.length ∧
        position ∉ (progressAt (waits tasks) rounds).taken.flatten ∧
        (progressAt (waits tasks) rounds).unfinished[position]? = some 0 := by
  have level : (progressAt (waits tasks) rounds).ready = levelAt (waits tasks) rounds :=
    rfl
  rw [level, mem_levelAt, mem_taken_iff, length_waits, ← openCount_eq_zero_iff]
  by_cases inside : position < tasks.length
  · have counter : (progressAt (waits tasks) rounds).unfinished[position]? =
        some (openCount (waits tasks) rounds position) := by
      simp [progressAt, inside]
    rw [counter, Option.some.injEq]
    simp [inside, and_comm]
  · simp [inside]

theorem once_progressAt (waits : List (List Nat)) (rounds : Nat) :
    ((progressAt waits rounds).taken.flatten ++
      (progressAt waits rounds).ready).Nodup := by
  refine List.nodup_append'.mpr ⟨?_, nodup_levelAt waits rounds, ?_⟩
  · have levels := nodup_flatten_levels waits rounds
    have reversed : (progressAt waits rounds).taken.flatten.Perm
        ((List.range rounds).map (levelAt waits)).flatten :=
      (List.reverse_perm _).flatten
    exact reversed.nodup_iff.mpr levels
  · intro position taken ready
    have done := (mem_taken_iff.mp taken).2
    rw [(mem_levelAt.mp ready).2.2] at done
    cases done

/-- A counter is at least the number of times that the round counts it down, so
that a part of the round leaves enough for the rest. -/
theorem positive_progressAt {waits : List (List Nat)} (wellFormed : WellFormed waits)
    {rounds waiting : Nat} {before after : List Nat}
    (split : releasesAt waits rounds = before ++ waiting :: after) :
    0 < (before.foldl releaseOne
      ((progressAt waits rounds).unfinished, [])).1.getD waiting 0 := by
  have enough : ∀ position, (before ++ waiting :: after).count position ≤
      (progressAt waits rounds).unfinished.getD position 0 := by
    intro position
    rw [← split, progressAt_unfinished_getD, openCount_eq_add_count wellFormed]
    exact Nat.le_add_left _ _
  have released := releases_foldl before ((progressAt waits rounds).unfinished, [])
    fun position => by
      have whole := enough position
      rw [List.count_append] at whole
      exact Nat.le_of_add_right_le whole
  have here := enough waiting
  rw [List.count_append, List.count_cons_self] at here
  rw [released.counts]
  dsimp only
  omega

/-- Every round keeps counters, ready tasks and levels in step. -/
theorem inStep_afterRounds (unique : (tasks.map Task.name).Nodup) (rounds : Nat) :
    InStep tasks (afterRounds (waits tasks) rounds) := by
  have wellFormed := wellFormed_waits tasks
  rw [afterRounds_eq wellFormed]
  exact {
    counters := counters_progressAt unique rounds
    ready := ready_progressAt tasks rounds
    once := once_progressAt (waits tasks) rounds
    positive := fun _ _ _ split => positive_progressAt wellFormed split }

/-- The loop ends by itself before it runs out of rounds. -/
theorem exists_empty_round (tasks : List Task) :
    ∃ last ≤ tasks.length,
      (∀ rounds < last, (afterRounds (waits tasks) rounds).ready ≠ []) ∧
        (afterRounds (waits tasks) last).ready = [] ∧
        finished (waits tasks) = afterRounds (waits tasks) last := by
  have wellFormed := wellFormed_waits tasks
  obtain ⟨last, lastRound⟩ := exists_lastRound wellFormed
  have bound := lastRound.le_length
  rw [length_waits] at bound
  simp only [afterRounds_eq wellFormed]
  exact ⟨last, bound, lastRound.nonempty, lastRound.empty, lastRound.finished⟩

end Schedule

variable {α : Type} [Scalar α]

namespace Model

/-- The level loop of a model whose names are in order, with cycles or without
them.  It starts from edges that are noted on both sides.  At the start of every
round each counter is the number of distinct names that its node still waits
for, the ready nodes are those that have not run and count zero, no node runs
twice, and no counter is taken below zero in the round.  The loop ends by itself
after as many rounds as there are nodes at the most. -/
theorem level_loop_in_step (model : Model α)
    (named : Schedule.checkNames model.inputNames model.tasks = .ok ()) :
    Schedule.Edges.all (Schedule.waits model.tasks) =
      ⟨(Schedule.initial (Schedule.waits model.tasks)).unfinished,
        (List.range model.nodes.length).map
          (Schedule.dependents (Schedule.waits model.tasks))⟩ ∧
    (∀ rounds, Schedule.InStep model.tasks
      (Schedule.afterRounds (Schedule.waits model.tasks) rounds)) ∧
    ∃ last ≤ model.nodes.length,
      (∀ rounds < last,
        (Schedule.afterRounds (Schedule.waits model.tasks) rounds).ready ≠ []) ∧
        (Schedule.afterRounds (Schedule.waits model.tasks) last).ready = [] ∧
        Schedule.finished (Schedule.waits model.tasks) =
          Schedule.afterRounds (Schedule.waits model.tasks) last := by
  have unique := (Schedule.checkNames_eq_ok_iff.mp named).resultsDistinct.distinct
  have ends := Schedule.exists_empty_round model.tasks
  have edges := Schedule.Edges.all_eq (Schedule.wellFormed_waits model.tasks)
  rw [length_tasks] at ends
  rw [Schedule.length_waits, length_tasks] at edges
  exact ⟨edges, Schedule.inStep_afterRounds unique, ends⟩

end Model

namespace Sample

/-- The complement of a result of its own. -/
def spinning : Node Float :=
  ⟨complement "Spin" "Spin" 4, .fuzzyNot, .layer "Spin" .fuzzyNot, rfl⟩

/-- The intersection of dryness with itself. -/
def doubly : Node Float where
  command := ⟨"Doubly", "FuzzyAnd",
    ⟨[("InFieldNames", .list [.text "Dry", .text "Dry"])], by simp⟩,
    ⟨"model.mpt", 5, "Doubly = FuzzyAnd([Dry, Dry])"⟩⟩
  operator := .fuzzyAnd
  operation := .list ["Dry", "Dry"] .fuzzyAnd
  interpreted := rfl

/-- A model with a repeated reference and a node that requires itself. -/
def tangled : Model Float :=
  ⟨[("Water", layer 0.5)], [doubly, spinning, dry]⟩

/-- The loop runs the complement and then what is made of it twice over, and
leaves the node that waits for itself with its counter at one. -/
theorem level_loop_in_step_tangled :
    Schedule.checkNames tangled.inputNames tangled.tasks = .ok () ∧
      Schedule.InStep tangled.tasks ⟨[0, 1, 0], [], [[0], [2]]⟩ ∧
      ∃ last ≤ 3, Schedule.finished (Schedule.waits tangled.tasks) =
        Schedule.afterRounds (Schedule.waits tangled.tasks) last := by
  have named : Schedule.checkNames tangled.inputNames tangled.tasks = .ok () := rfl
  obtain ⟨_, inStep, last, bound, _, _, ends⟩ := tangled.level_loop_in_step named
  have reached : Schedule.afterRounds (Schedule.waits tangled.tasks) 2 =
      ⟨[0, 1, 0], [], [[0], [2]]⟩ := by decide
  exact ⟨named, reached ▸ inStep 2, last, bound, ends⟩

end Sample

end FuzzyGrid
