import FuzzyGrid.Proofs.Schedule.Levels
import Mathlib.Data.Fintype.Card
import Mathlib.Data.Fintype.EquivFin
import Mathlib.Logic.Relation

/-!
# Cycles

What the level loop leaves unsettled are the tasks from which a cycle can be
reached: a task on the way to a cycle never runs, and where no cycle can be
reached the tasks below are well-founded.  With the checks of names this says
for every model whether it has levels and which fault is reported otherwise.
-/

namespace FuzzyGrid

namespace Schedule

open Relation

/-- A task that requires itself, in one step or several, can be reached. -/
def ReachesCycle (tasks : List Task) (position : Nat) : Prop :=
  ∃ turn, ReflTransGen (Requires tasks) position turn ∧
    TransGen (Requires tasks) turn turn

/-- No task requires itself, in one step or several. -/
def Acyclic (tasks : List Task) : Prop :=
  ∀ position, ¬TransGen (Requires tasks) position position

variable {tasks : List Task}

theorem ReachesCycle.of_requires {position producer : Nat}
    (requires : Requires tasks position producer)
    (reaches : ReachesCycle tasks producer) :
    ReachesCycle tasks position := by
  obtain ⟨turn, path, cycle⟩ := reaches
  exact ⟨turn, .head requires path, cycle⟩

theorem ReachesCycle.exists_requires {position : Nat}
    (reaches : ReachesCycle tasks position) :
    ∃ producer, Requires tasks position producer ∧
      ReachesCycle tasks producer := by
  obtain ⟨turn, path, cycle⟩ := reaches
  rcases path.cases_head with same | ⟨producer, requires, rest⟩
  · subst position
    obtain ⟨producer, requires, back⟩ := TransGen.head'_iff.mp cycle
    exact ⟨producer, requires, turn, back, cycle⟩
  · exact ⟨producer, requires, turn, rest, cycle⟩

theorem ReachesCycle.lt {position : Nat}
    (reaches : ReachesCycle tasks position) : position < tasks.length := by
  obtain ⟨_, requires, _⟩ := reaches.exists_requires
  exact requires.lt_left

/-- Among fewer tasks there are fewer cycles. -/
theorem Acyclic.of_subset {part : List Task} (acyclic : Acyclic tasks)
    (subset : part ⊆ tasks) : Acyclic part := by
  have found : ∀ position : Nat, ∃ place : Nat, ∀ task,
      part[position]? = some task → tasks[place]? = some task := by
    intro position
    cases taskAt : part[position]? with
    | none => exact ⟨0, by simp⟩
    | some task =>
        obtain ⟨place, placed⟩ := List.mem_iff_getElem?.mp
          (subset (List.mem_of_getElem? taskAt))
        refine ⟨place, ?_⟩
        intro same equal
        cases equal
        exact placed
  choose place placed using found
  intro position cycle
  refine acyclic (place position) (cycle.lift place ?_)
  intro position producer requires
  obtain ⟨task, required, taskAt, requiredAt, member⟩ := requires
  exact ⟨task, required, placed position task taskAt,
    placed producer required requiredAt, member⟩

theorem acyclic_iff : Acyclic tasks ↔ ∀ position, ¬ReachesCycle tasks position := by
  constructor
  · intro acyclic position reaches
    obtain ⟨turn, _, cycle⟩ := reaches
    exact acyclic turn cycle
  · intro none_ position cycle
    exact none_ position ⟨position, .refl, cycle⟩

theorem not_reachesCycle_of_settled (unique : (tasks.map Task.name).Nodup)
    {rounds position : Nat}
    (done : settled (waits tasks) rounds position = true) :
    ¬ReachesCycle tasks position := by
  induction rounds generalizing position with
  | zero => simp [settled] at done
  | succ rounds induction =>
      intro reaches
      obtain ⟨producer, requires, further⟩ := reaches.exists_requires
      exact induction
        (settled_succ_iff.mp done producer ((mem_waits_iff unique).mpr requires))
        further

/-- An unsettled task waits for an unsettled one once there is no level. -/
theorem exists_requires_unsettled (unique : (tasks.map Task.name).Nodup)
    {last position : Nat} (empty : levelAt (waits tasks) last = [])
    (inside : position < tasks.length)
    (notDone : settled (waits tasks) last position = false) :
    ∃ producer, Requires tasks position producer ∧
      settled (waits tasks) last producer = false := by
  have insideWaits : position < (waits tasks).length := by
    rwa [length_waits]
  have notNext : ¬settled (waits tasks) (last + 1) position = true := by
    rw [settled_succ_eq insideWaits, empty, notDone]
    simp
  rw [settled_succ_iff] at notNext
  push Not at notNext
  obtain ⟨producer, member, unsettled⟩ := notNext
  exact ⟨producer, (mem_waits_iff unique).mp member,
    by simpa using unsettled⟩

/-- Requirements are well-founded below a task from which no cycle can be
reached. -/
theorem wellFounded_requires_of_not_reachesCycle (tasks : List Task) :
    WellFounded fun producer position : Fin tasks.length =>
      TransGen (Requires tasks) position producer ∧
        ¬ReachesCycle tasks position := by
  have transitive : IsTrans (Fin tasks.length) fun producer position =>
      TransGen (Requires tasks) position producer ∧
        ¬ReachesCycle tasks position :=
    ⟨fun _ _ _ lower upper => ⟨upper.1.trans lower.1, upper.2⟩⟩
  have irreflexive : Std.Irrefl fun producer position : Fin tasks.length =>
      TransGen (Requires tasks) position producer ∧
        ¬ReachesCycle tasks position :=
    ⟨fun position cycle => cycle.2 ⟨position, .refl, cycle.1⟩⟩
  exact Finite.wellFounded_of_trans_of_irrefl _

/-- The loop settles in the end exactly the tasks from which no cycle can be
reached. -/
theorem settled_iff_not_reachesCycle (unique : (tasks.map Task.name).Nodup)
    {last position : Nat} (empty : levelAt (waits tasks) last = [])
    (inside : position < tasks.length) :
    settled (waits tasks) last position = true ↔
      ¬ReachesCycle tasks position := by
  constructor
  · exact not_reachesCycle_of_settled unique
  · suffices all : ∀ task : Fin tasks.length, ¬ReachesCycle tasks task →
        settled (waits tasks) last task = true from all ⟨position, inside⟩
    intro task
    induction task using
      (wellFounded_requires_of_not_reachesCycle tasks).induction with
    | h task induction =>
        intro noCycle
        rw [← Bool.not_eq_false]
        intro notDone
        obtain ⟨producer, requires, unsettled⟩ :=
          exists_requires_unsettled unique empty task.isLt notDone
        have done := induction ⟨producer, requires.lt_right⟩
          ⟨.single requires, noCycle⟩
          fun further => noCycle (.of_requires requires further)
        rw [done] at unsettled
        cases unsettled

/-- The names at some positions of a list of tasks. -/
def namesAt (tasks : List Task) (positions : List Nat) : List String :=
  positions.filterMap fun position => tasks[position]?.map Task.name

private theorem filter_zip_range (tasks : List Task) (count : Nat → Nat) :
    ((tasks.zip ((List.range tasks.length).map count)).filter fun entry =>
        decide (0 < entry.2)).map (fun entry => entry.1.name) =
      namesAt tasks ((List.range tasks.length).filter fun position =>
        decide (0 < count position)) := by
  induction tasks generalizing count with
  | nil => rfl
  | cons task rest induction =>
      have tail := induction fun position => count (position + 1)
      have next : namesAt (task :: rest)
          (((List.range rest.length).map Nat.succ).filter fun position =>
            decide (0 < count position)) =
          namesAt rest ((List.range rest.length).filter fun position =>
            decide (0 < count (position + 1))) := by
        rw [List.filter_map, namesAt, List.filterMap_map]
        rfl
      rw [List.length_cons, List.range_succ_eq_map, List.map_cons,
        List.zip_cons_cons, List.map_map, List.filter_cons, List.filter_cons]
      by_cases waits : 0 < count 0
      · rw [if_pos (by simpa using waits), if_pos (by simpa using waits),
          List.map_cons]
        exact congrArg (task.name :: ·) (tail.trans next.symm)
      · rw [if_neg (by simpa using waits), if_neg (by simpa using waits)]
        exact tail.trans next.symm

/-- The tasks that have not run within a number of rounds. -/
def unsettledAt (waits : List (List Nat)) (rounds : Nat) : List Nat :=
  (List.range waits.length).filter fun position =>
    !settled waits rounds position

theorem unsettledAt_ascending (waits : List (List Nat)) (rounds : Nat) :
    (unsettledAt waits rounds).Pairwise (· < ·) :=
  List.pairwise_lt_range.filter _

theorem mem_unsettledAt_iff (unique : (tasks.map Task.name).Nodup)
    {last : Nat} (lastRound : LastRound (waits tasks) last) (position : Nat) :
    position ∈ unsettledAt (waits tasks) last ↔
      ReachesCycle tasks position := by
  simp only [unsettledAt, List.mem_filter, List.mem_range, length_waits,
    Bool.not_eq_true', ← Bool.not_eq_true]
  constructor
  · intro member
    obtain ⟨inside, notDone⟩ := member
    rwa [settled_iff_not_reachesCycle unique lastRound.empty inside,
      not_not] at notDone
  · intro reaches
    refine ⟨reaches.lt, ?_⟩
    rwa [settled_iff_not_reachesCycle unique lastRound.empty reaches.lt,
      not_not]

theorem settledCount_eq_iff_unsettledAt {tasks : List Task} {rounds : Nat} :
    settledCount (waits tasks) rounds = tasks.length ↔
      unsettledAt (waits tasks) rounds = [] := by
  rw [settledCount_waits_eq_iff]
  simp [unsettledAt]

theorem waiting_lastRound {last : Nat}
    (lastRound : LastRound (waits tasks) last) :
    waiting tasks (progressAt (waits tasks) last) =
      namesAt tasks (unsettledAt (waits tasks) last) := by
  have counters : (progressAt (waits tasks) last).unfinished =
      (List.range tasks.length).map (openCount (waits tasks) last) := by
    simp [progressAt]
  rw [waiting, counters, filter_zip_range, unsettledAt, length_waits]
  congr 1
  apply List.filter_congr
  intro position member
  have inside : position < (waits tasks).length := by
    simpa using member
  have same : settled (waits tasks) (last + 1) position =
      settled (waits tasks) last position := by
    rw [settled_succ_eq inside, lastRound.empty]
    simp
  rw [Bool.eq_iff_iff, decide_eq_true_iff, Nat.pos_iff_ne_zero, Ne,
    openCount_eq_zero_iff, same]
  simp

/-- Why tasks have no levels: the fault of their names or, where the names are
in order, the tasks from which a cycle can be reached, as they stand in the
list. -/
inductive Unordered (inputs : List String) (tasks : List Task) :
    ScheduleFault → Prop where
  | misnamed {fault : ScheduleFault} (misnamed : Misnamed inputs tasks fault) :
      Unordered inputs tasks fault
  | cycle {positions : List Nat} (inOrder : NamesInOrder inputs tasks)
      (ascending : positions.Pairwise (· < ·))
      (reaching : ∀ position,
        position ∈ positions ↔ ReachesCycle tasks position)
      (nonempty : positions ≠ []) :
      Unordered inputs tasks (.cycle (namesAt tasks positions))

variable {inputs : List String}

theorem levels_eq_of_lastRound (inOrder : NamesInOrder inputs tasks)
    {last : Nat} (lastRound : LastRound (waits tasks) last) :
    levels inputs tasks =
      if unsettledAt (waits tasks) last = [] then
        .ok ((List.range last).map (levelAt (waits tasks)))
      else
        .error (.cycle (namesAt tasks (unsettledAt (waits tasks) last))) := by
  rw [levels_of_namesInOrder inOrder lastRound, waiting_lastRound lastRound]
  simp only [settledCount_eq_iff_unsettledAt]

theorem unsettledAt_eq_nil_iff (unique : (tasks.map Task.name).Nodup)
    {last : Nat} (lastRound : LastRound (waits tasks) last) :
    unsettledAt (waits tasks) last = [] ↔ Acyclic tasks := by
  rw [acyclic_iff, List.eq_nil_iff_forall_not_mem]
  simp only [mem_unsettledAt_iff unique lastRound]

theorem exists_levels_iff :
    (∃ taken, levels inputs tasks = .ok taken) ↔
      NamesInOrder inputs tasks ∧ Acyclic tasks := by
  obtain ⟨last, lastRound⟩ := exists_lastRound (wellFormed_waits tasks)
  constructor
  · intro ordered
    obtain ⟨taken, ordered⟩ := ordered
    have inOrder := (levels_eq_ok_iff.mp ordered).1
    have unique := inOrder.resultsDistinct.distinct
    refine ⟨inOrder, (unsettledAt_eq_nil_iff unique lastRound).mp ?_⟩
    by_cases complete : unsettledAt (waits tasks) last = []
    · exact complete
    · rw [levels_eq_of_lastRound inOrder lastRound, if_neg complete] at ordered
      cases ordered
  · intro orderable
    obtain ⟨inOrder, acyclic⟩ := orderable
    have unique := inOrder.resultsDistinct.distinct
    have complete := (unsettledAt_eq_nil_iff unique lastRound).mpr acyclic
    refine ⟨(List.range last).map (levelAt (waits tasks)), ?_⟩
    rw [levels_eq_of_lastRound inOrder lastRound, if_pos complete]

theorem levels_eq_error_iff {fault : ScheduleFault} :
    levels inputs tasks = .error fault ↔ Unordered inputs tasks fault := by
  obtain ⟨last, lastRound⟩ := exists_lastRound (wellFormed_waits tasks)
  constructor
  · intro failed
    cases checked : checkNames inputs tasks with
    | error other =>
        have same : other = fault := by
          simpa [levels, checked] using failed
        subst other
        exact .misnamed (checkNames_eq_error_iff.mp checked)
    | ok passed =>
        have inOrder := checkNames_eq_ok_iff.mp checked
        have unique := inOrder.resultsDistinct.distinct
        rw [levels_eq_of_lastRound inOrder lastRound] at failed
        split at failed
        · cases failed
        · rename_i incomplete
          cases failed
          exact .cycle inOrder (unsettledAt_ascending _ last)
            (mem_unsettledAt_iff unique lastRound) incomplete
  · intro unordered
    cases unordered with
    | misnamed misnamed =>
        rw [levels, checkNames_eq_error_iff.mpr misnamed]
    | @cycle positions inOrder ascending reaching nonempty =>
        have unique := inOrder.resultsDistinct.distinct
        have same : unsettledAt (waits tasks) last = positions := by
          apply (unsettledAt_ascending _ last).eq_of_mem_iff ascending
          intro position
          rw [mem_unsettledAt_iff unique lastRound, reaching]
        rw [levels_eq_of_lastRound inOrder lastRound, same, if_neg nonempty]

end Schedule

variable {α : Type} [Scalar α]

namespace Model

/-- A model has levels exactly when its names are in order and its nodes
require each other without a cycle; otherwise the first violation is reported,
and a cycle by the nodes from which it can be reached. -/
theorem levels_exist_iff_orderable (model : Model α) :
    ((∃ levels, model.levels = .ok levels) ↔
        Schedule.NamesInOrder model.inputNames model.tasks ∧
          Schedule.Acyclic model.tasks) ∧
      ∀ fault, model.levels = .error fault ↔
        Schedule.Unordered model.inputNames model.tasks fault :=
  ⟨Schedule.exists_levels_iff, fun _ => Schedule.levels_eq_error_iff⟩

end Model

end FuzzyGrid
