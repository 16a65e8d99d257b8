import FuzzyGrid.Proofs.Schedule.Levels
import Mathlib.Data.Finset.Max

/-!
# Levels and depths

The depth of a task is the length of the longest chain of tasks below it.
Where levels exist every task has a depth, and a level holds the tasks of one
depth in ascending order.
-/

namespace FuzzyGrid

namespace Schedule

/-- Depths of tasks: nought for a task that requires none, and one more than
the greatest depth among those that it requires for any other. -/
structure IsDepth (tasks : List Task) (depth : Nat → Nat) : Prop where
  bottom : ∀ position < tasks.length,
    (∀ producer, ¬Requires tasks position producer) → depth position = 0
  above : ∀ position, (∃ producer, Requires tasks position producer) →
    ∃ deepest, Requires tasks position deepest ∧
      depth position = 1 + depth deepest ∧
      ∀ producer, Requires tasks position producer →
        depth producer ≤ depth deepest

/-- The first round that runs a task. -/
def firstRound (waits : List (List Nat)) (position : Nat) : Nat :=
  (List.range waits.length).findIdx fun rounds =>
    settled waits (rounds + 1) position

variable {tasks : List Task}

/-- A task of depth `d` is settled after more than `d` rounds. -/
theorem IsDepth.settled_iff {depth : Nat → Nat} (isDepth : IsDepth tasks depth)
    (unique : (tasks.map Task.name).Nodup) {rounds position : Nat}
    (inside : position < tasks.length) :
    settled (waits tasks) rounds position = true ↔
      depth position < rounds := by
  induction rounds generalizing position with
  | zero => simp [settled]
  | succ rounds induction =>
      have producers : settled (waits tasks) (rounds + 1) position = true ↔
          ∀ producer, Requires tasks position producer →
            depth producer < rounds := by
        rw [settled_succ_iff]
        constructor
        · intro done producer requires
          exact (induction requires.lt_right).mp
            (done producer ((mem_waits_iff unique).mpr requires))
        · intro below producer member
          have requires := (mem_waits_iff unique).mp member
          exact (induction requires.lt_right).mpr (below producer requires)
      rw [producers]
      by_cases waiting : ∃ producer, Requires tasks position producer
      · obtain ⟨deepest, requires, next, greatest⟩ :=
          isDepth.above position waiting
        constructor
        · intro below
          have bound := below deepest requires
          omega
        · intro bound producer other
          have atMost := greatest producer other
          omega
      · have none_ : ∀ producer, ¬Requires tasks position producer :=
          fun producer requires => waiting ⟨producer, requires⟩
        rw [isDepth.bottom position inside none_]
        constructor
        · intro _
          exact Nat.succ_pos rounds
        · intro _ producer requires
          exact absurd requires (none_ producer)

theorem IsDepth.lt_of_requires {depth : Nat → Nat}
    (isDepth : IsDepth tasks depth) {position producer : Nat}
    (requires : Requires tasks position producer) :
    depth producer < depth position := by
  obtain ⟨deepest, _, next, greatest⟩ :=
    isDepth.above position ⟨producer, requires⟩
  have atMost := greatest producer requires
  omega

theorem IsDepth.eq_of_isDepth {first second : Nat → Nat}
    (firstDepth : IsDepth tasks first) (secondDepth : IsDepth tasks second)
    (unique : (tasks.map Task.name).Nodup) {position : Nat}
    (inside : position < tasks.length) :
    first position = second position := by
  have same : ∀ rounds, first position < rounds ↔ second position < rounds :=
    fun rounds => (firstDepth.settled_iff unique inside).symm.trans
      (secondDepth.settled_iff unique inside)
  have below := (same (first position + 1)).mp (Nat.lt_succ_self _)
  have above := (same (second position + 1)).mpr (Nat.lt_succ_self _)
  omega

theorem settled_iff_firstRound_lt {waits : List (List Nat)}
    {rounds position : Nat}
    (done : settled waits waits.length position = true) :
    settled waits rounds position = true ↔
      firstRound waits position < rounds := by
  have someRound : ∃ round ∈ List.range waits.length,
      settled waits (round + 1) position = true := by
    cases length : waits.length with
    | zero => simp [length, settled] at done
    | succ before =>
        refine ⟨before, by simp, ?_⟩
        rwa [length] at done
  have inside := List.findIdx_lt_length_of_exists someRound
  constructor
  · intro settledBy
    cases rounds with
    | zero => simp [settled] at settledBy
    | succ before =>
        refine Nat.lt_succ_of_le (Nat.le_of_not_lt ?_)
        intro earlier
        have notYet := List.not_of_lt_findIdx earlier
        rw [List.getElem_range, settledBy] at notYet
        cases notYet
  · intro later
    have first := List.findIdx_getElem (w := inside)
    rw [List.getElem_range] at first
    exact settled_mono later first

/-- Where every task is settled in the end, the round that runs a task is its
depth. -/
theorem isDepth_firstRound (unique : (tasks.map Task.name).Nodup)
    (complete : ∀ position < tasks.length,
      settled (waits tasks) (waits tasks).length position = true) :
    IsDepth tasks (firstRound (waits tasks)) := by
  have producers : ∀ position < tasks.length, ∀ rounds,
      firstRound (waits tasks) position < rounds + 1 ↔
        ∀ producer, Requires tasks position producer →
          firstRound (waits tasks) producer < rounds := by
    intro position inside rounds
    rw [← settled_iff_firstRound_lt (complete position inside),
      settled_succ_iff]
    constructor
    · intro done producer requires
      exact (settled_iff_firstRound_lt (complete producer requires.lt_right)).mp
        (done producer ((mem_waits_iff unique).mpr requires))
    · intro below producer member
      have requires := (mem_waits_iff unique).mp member
      exact (settled_iff_firstRound_lt
        (complete producer requires.lt_right)).mpr (below producer requires)
  constructor
  · intro position inside none_
    have first := (producers position inside 0).mpr
      fun producer requires => absurd requires (none_ producer)
    omega
  · intro position required
    obtain ⟨producer, requires⟩ := required
    have inside := requires.lt_left
    let candidates := ((waits tasks).getD position []).toFinset
    have mem_candidates : ∀ other,
        other ∈ candidates ↔ Requires tasks position other := by
      intro other
      rw [List.mem_toFinset, mem_waits_iff unique]
    obtain ⟨deepest, member, greatest⟩ :=
      candidates.exists_max_image (firstRound (waits tasks))
        ⟨producer, (mem_candidates producer).mpr requires⟩
    refine ⟨deepest, (mem_candidates deepest).mp member, ?_, ?_⟩
    · have below := (producers position inside _).mp (Nat.lt_succ_self _)
        deepest ((mem_candidates deepest).mp member)
      have above := (producers position inside
        (firstRound (waits tasks) deepest + 1)).mpr fun other required =>
          Nat.lt_succ_of_le
            (greatest other ((mem_candidates other).mpr required))
      omega
    · intro other required
      exact greatest other ((mem_candidates other).mpr required)

/-- The levels of the rounds hold the tasks by depth. -/
theorem mem_levelAt_iff_depth {depth : Nat → Nat}
    (isDepth : IsDepth tasks depth) (unique : (tasks.map Task.name).Nodup)
    (rounds position : Nat) :
    position ∈ levelAt (waits tasks) rounds ↔
      position < tasks.length ∧ depth position = rounds := by
  rw [mem_levelAt, length_waits]
  constructor
  · intro settles
    obtain ⟨inside, done, notYet⟩ := settles
    rw [isDepth.settled_iff unique inside] at done
    rw [← Bool.not_eq_true, isDepth.settled_iff unique inside] at notYet
    exact ⟨inside, by omega⟩
  · intro atDepth
    obtain ⟨inside, rfl⟩ := atDepth
    refine ⟨inside, (isDepth.settled_iff unique inside).mpr (by omega), ?_⟩
    rw [← Bool.not_eq_true, isDepth.settled_iff unique inside]
    omega

/-- Where the last round has settled every task, there are no tasks and no
rounds, or the deepest tasks are those of the last round with a level. -/
theorem exists_deepest {depth : Nat → Nat} (isDepth : IsDepth tasks depth)
    (unique : (tasks.map Task.name).Nodup) {last : Nat}
    (lastRound : LastRound (waits tasks) last)
    (complete : ∀ position < tasks.length,
      settled (waits tasks) last position = true)
    (nonempty : tasks ≠ []) :
    ∃ deepest < tasks.length, last = 1 + depth deepest ∧
      ∀ position < tasks.length, depth position ≤ depth deepest := by
  have below : ∀ position < tasks.length, depth position < last :=
    fun position inside =>
      (isDepth.settled_iff unique inside).mp (complete position inside)
  have positive := below 0 (List.length_pos_iff.mpr nonempty)
  obtain ⟨deepest, member⟩ := List.exists_mem_of_ne_nil _
    (lastRound.nonempty (last - 1) (by omega))
  obtain ⟨inside, rank⟩ := (mem_levelAt_iff_depth isDepth unique _ _).mp member
  refine ⟨deepest, inside, by omega, ?_⟩
  intro position other
  have bound := below position other
  omega

end Schedule

variable {α : Type} [Scalar α]

namespace Model

/-- The levels of a model are its nodes by depth: there is one way to give the
nodes depths, the level of every rank lists the nodes of that depth in
ascending order, and there are as many levels as the greatest depth asks for.
So every node stands in one level, after everything that it requires, and no
level is empty. -/
theorem levels_by_depth (model : Model α) {levels : List (List Nat)}
    (ordered : model.levels = .ok levels) :
    ∃ depth : Nat → Nat,
      Schedule.IsDepth model.tasks depth ∧
      (∀ other, Schedule.IsDepth model.tasks other →
        ∀ position < model.nodes.length, other position = depth position) ∧
      (∀ rank level, levels[rank]? = some level →
        level.Pairwise (· < ·) ∧
          ∀ position, position ∈ level ↔
            position < model.nodes.length ∧ depth position = rank) ∧
      (model.nodes = [] → levels = []) ∧
      (model.nodes ≠ [] → ∃ deepest < model.nodes.length,
        levels.length = 1 + depth deepest ∧
          ∀ position < model.nodes.length,
            depth position ≤ depth deepest) ∧
      levels.flatten.Perm (List.range model.nodes.length) ∧
      (∀ position producer, Schedule.Requires model.tasks position producer →
        ∃ (early late : Nat) (before after : List Nat), early < late ∧
          levels[early]? = some before ∧ producer ∈ before ∧
          levels[late]? = some after ∧ position ∈ after) ∧
      ∀ level ∈ levels, level ≠ [] := by
  rw [model.levels_eq] at ordered
  obtain ⟨inOrder, last, lastRound, complete, rfl⟩ :=
    Schedule.levels_eq_ok_iff.mp ordered
  have unique := inOrder.resultsDistinct.distinct
  have isDepth := Schedule.isDepth_firstRound unique fun position inside =>
    Schedule.settled_mono lastRound.le_length (complete position inside)
  have members := Schedule.mem_levelAt_iff_depth isDepth unique
  rw [← model.length_tasks]
  refine ⟨_, isDepth, ?_, ?_, ?_, ?_, ?_, ?_, ?_⟩
  · intro other otherDepth position inside
    exact otherDepth.eq_of_isDepth isDepth unique inside
  · intro rank level found
    obtain ⟨_, rfl⟩ := Schedule.getElem?_levels.mp found
    exact ⟨Schedule.levelAt_ascending _ rank, members rank⟩
  · intro noNodes
    cases last with
    | zero => rfl
    | succ before =>
        obtain ⟨position, member⟩ := List.exists_mem_of_ne_nil _
          (lastRound.nonempty before (Nat.lt_succ_self before))
        have inside := ((members before position).mp member).1
        rw [length_tasks, noNodes] at inside
        exact absurd inside (Nat.not_lt_zero position)
  · intro someNodes
    rw [List.length_map, List.length_range]
    exact Schedule.exists_deepest isDepth unique lastRound complete
      (fun noTasks => someNodes (List.map_eq_nil_iff.mp noTasks))
  · rw [← Schedule.length_waits] at complete ⊢
    exact Schedule.flatten_levels_perm complete
  · intro position producer requires
    have deeper := isDepth.lt_of_requires requires
    have below := (isDepth.settled_iff unique requires.lt_left).mp
      (complete position requires.lt_left)
    refine ⟨_, _, _, _, deeper,
      Schedule.getElem?_levels.mpr ⟨deeper.trans below, rfl⟩, ?_,
      Schedule.getElem?_levels.mpr ⟨below, rfl⟩, ?_⟩
    · exact (members _ producer).mpr ⟨requires.lt_right, rfl⟩
    · exact (members _ position).mpr ⟨requires.lt_left, rfl⟩
  · intro level member
    obtain ⟨round, inside, rfl⟩ := List.mem_map.mp member
    exact lastRound.nonempty round (List.mem_range.mp inside)

end Model

namespace Sample

/-- The small model has two levels, and the depths of its nodes say which. -/
theorem levels_by_depth_model :
    model.levels = .ok [[1, 2], [0]] ∧
      ∃ depth, Schedule.IsDepth model.tasks depth ∧
        depth 0 = 1 ∧ depth 1 = 0 ∧ depth 2 = 0 := by
  have ordered : model.levels = .ok [[1, 2], [0]] := rfl
  obtain ⟨depth, isDepth, _, ranks, _⟩ := model.levels_by_depth ordered
  have first := (ranks 0 [1, 2] rfl).2
  have second := (ranks 1 [0] rfl).2
  exact ⟨ordered, depth, isDepth, ((second 0).mp (by simp)).2,
    ((first 1).mp (by simp)).2, ((first 2).mp (by simp)).2⟩

end Sample

end FuzzyGrid
