import FuzzyGrid.Proofs.Schedule.TaskGraph
import Mathlib.Data.List.Sort

/-!
# The rounds of the level loop

The state of the loop after any number of rounds in closed form.  A task is
settled by a round when everything it waits for was settled by the round
before.  The counters then count the producers that are not settled yet, the
ready tasks are those that the next round settles, and the levels taken are
those of the rounds so far.  `step_progressAt` is the one step on which
everything else rests.
-/

namespace FuzzyGrid.Schedule

/-- Whether a task has run within a number of rounds: one round more runs the
tasks whose producers have all run. -/
def settled (waits : List (List Nat)) : Nat → Nat → Bool
  | 0, _ => false
  | rounds + 1, position => (waits.getD position []).all (settled waits rounds)

/-- How many of the tasks that a task waits for have not run within a number
of rounds. -/
def openCount (waits : List (List Nat)) (rounds position : Nat) : Nat :=
  (waits.getD position []).countP fun producer => !settled waits rounds producer

/-- The tasks that the round after a number of rounds runs. -/
def levelAt (waits : List (List Nat)) (rounds : Nat) : List Nat :=
  (List.range waits.length).filter fun position =>
    settled waits (rounds + 1) position && !settled waits rounds position

/-- The state of the loop after a number of rounds. -/
def progressAt (waits : List (List Nat)) (rounds : Nat) : Progress :=
  ⟨(List.range waits.length).map (openCount waits rounds),
    levelAt waits rounds,
    ((List.range rounds).map (levelAt waits)).reverse⟩

/-- How many tasks have run within a number of rounds. -/
def settledCount (waits : List (List Nat)) (rounds : Nat) : Nat :=
  (List.range waits.length).countP (settled waits rounds)

variable {waits : List (List Nat)}

theorem settled_succ_iff {rounds position : Nat} :
    settled waits (rounds + 1) position = true ↔
      ∀ producer ∈ waits.getD position [],
        settled waits rounds producer = true := by
  simp only [settled, List.all_eq_true]

theorem settled_succ_of_settled {rounds position : Nat}
    (done : settled waits rounds position = true) :
    settled waits (rounds + 1) position = true := by
  induction rounds generalizing position with
  | zero => simp [settled] at done
  | succ rounds induction =>
      rw [settled_succ_iff] at done ⊢
      intro producer member
      exact induction (done producer member)

theorem settled_mono {early late position : Nat} (before : early ≤ late)
    (done : settled waits early position = true) :
    settled waits late position = true := by
  induction before with
  | refl => exact done
  | step _ induction => exact settled_succ_of_settled induction

theorem openCount_eq_zero_iff {rounds position : Nat} :
    openCount waits rounds position = 0 ↔
      settled waits (rounds + 1) position = true := by
  simp [openCount, settled_succ_iff]

theorem mem_levelAt {rounds position : Nat} :
    position ∈ levelAt waits rounds ↔
      position < waits.length ∧ settled waits (rounds + 1) position = true ∧
        settled waits rounds position = false := by
  simp [levelAt]

theorem levelAt_ascending (waits : List (List Nat)) (rounds : Nat) :
    (levelAt waits rounds).Pairwise (· < ·) :=
  List.pairwise_lt_range.filter _

theorem nodup_levelAt (waits : List (List Nat)) (rounds : Nat) :
    (levelAt waits rounds).Nodup :=
  List.nodup_range.filter _

/-! ## Counting -/

private theorem countP_eq_add {α : Type} {whole left right : α → Bool}
    {items : List α}
    (covers : ∀ item ∈ items, whole item = (left item || right item))
    (disjoint : ∀ item ∈ items, (left item && right item) = false) :
    items.countP whole = items.countP left + items.countP right := by
  induction items with
  | nil => rfl
  | cons item rest induction =>
      have tail := induction
        (fun other member => covers other (List.mem_cons_of_mem _ member))
        (fun other member => disjoint other (List.mem_cons_of_mem _ member))
      have head := covers item List.mem_cons_self
      have apart := disjoint item List.mem_cons_self
      rw [List.countP_cons, List.countP_cons, List.countP_cons, tail, head]
      cases onLeft : left item <;> cases onRight : right item <;>
        simp [onLeft, onRight] at apart ⊢ <;> omega

private theorem countP_mem_comm {left right : List Nat}
    (leftDistinct : left.Nodup) (rightDistinct : right.Nodup) :
    left.countP (fun item => right.contains item) =
      right.countP (fun item => left.contains item) := by
  have sameMembers : (left.filter fun item => right.contains item).Perm
      (right.filter fun item => left.contains item) := by
    refine (List.perm_ext_iff_of_nodup (leftDistinct.filter _)
      (rightDistinct.filter _)).mpr ?_
    intro item
    simp [And.comm]
  rw [List.countP_eq_length_filter, List.countP_eq_length_filter]
  exact sameMembers.length_eq

/-- A round settles the tasks of its level on top of those settled before. -/
theorem settled_succ_eq {rounds position : Nat}
    (inside : position < waits.length) :
    settled waits (rounds + 1) position =
      (settled waits rounds position ||
        (levelAt waits rounds).contains position) := by
  rw [Bool.eq_iff_iff]
  simp only [Bool.or_eq_true, List.contains_iff_mem, mem_levelAt]
  constructor
  · intro done
    cases already : settled waits rounds position with
    | true => exact Or.inl rfl
    | false => exact Or.inr ⟨inside, done, rfl⟩
  · intro either
    rcases either with done | ⟨_, done, _⟩
    · exact settled_succ_of_settled done
    · exact done

theorem settledCount_succ (waits : List (List Nat)) (rounds : Nat) :
    settledCount waits (rounds + 1) =
      settledCount waits rounds + (levelAt waits rounds).length := by
  have split : (List.range waits.length).countP (settled waits (rounds + 1)) =
      (List.range waits.length).countP (settled waits rounds) +
        (List.range waits.length).countP fun position =>
          settled waits (rounds + 1) position && !settled waits rounds position := by
    apply countP_eq_add
    · intro position _
      cases before : settled waits rounds position with
      | true => simp [settled_succ_of_settled before]
      | false => simp
    · intro position _
      cases settled waits rounds position <;> simp
  rw [levelAt, ← List.countP_eq_length_filter]
  exact split

theorem settledCount_le (waits : List (List Nat)) (rounds : Nat) :
    settledCount waits rounds ≤ waits.length := by
  simpa [settledCount] using
    (List.countP_le_length (p := settled waits rounds)
      (l := List.range waits.length))

theorem settledCount_eq_length_iff {rounds : Nat} :
    settledCount waits rounds = waits.length ↔
      ∀ position < waits.length, settled waits rounds position = true := by
  have counted := List.countP_eq_length (p := settled waits rounds)
    (l := List.range waits.length)
  simpa [settledCount] using counted

/-- A round takes from the counter of a task the producers that the round
runs. -/
theorem openCount_eq_add (wellFormed : WellFormed waits)
    (rounds position : Nat) :
    openCount waits rounds position =
      openCount waits (rounds + 1) position +
        (levelAt waits rounds).countP fun producer =>
          (waits.getD position []).contains producer := by
  rw [← countP_mem_comm (wellFormed.distinct position)
    (nodup_levelAt waits rounds)]
  apply countP_eq_add
  · intro producer member
    rw [settled_succ_eq (wellFormed.inside position producer member)]
    cases settledBefore : settled waits rounds producer with
    | true =>
        have notInLevel : producer ∉ levelAt waits rounds := by
          simp [mem_levelAt, settledBefore]
        simp [notInLevel]
    | false => simp
  · intro producer member
    rw [settled_succ_eq (wellFormed.inside position producer member)]
    simp

theorem count_dependents (waits : List (List Nat)) (producer position : Nat) :
    (dependents waits producer).count position =
      if (waits.getD position []).contains producer then 1 else 0 := by
  have distinct : (dependents waits producer).Nodup := List.nodup_range.filter _
  rw [distinct.count]
  have member : position ∈ dependents waits producer ↔
      (waits.getD position []).contains producer = true := by
    simp only [dependents, List.mem_filter, List.mem_range]
    constructor
    · exact And.right
    · intro waiting
      refine ⟨?_, waiting⟩
      rcases Nat.lt_or_ge position waits.length with inside | outside
      · exact inside
      · simp [List.getD_eq_getElem?_getD, List.getElem?_eq_none outside]
          at waiting
  simp only [member]

/-- Running some tasks releases a waiting task once for each of them that it
waits for. -/
theorem count_releases (waits : List (List Nat)) (ready : List Nat)
    (position : Nat) :
    (ready.flatMap (dependents waits)).count position =
      ready.countP fun producer =>
        (waits.getD position []).contains producer := by
  induction ready with
  | nil => rfl
  | cons producer rest induction =>
      rw [List.flatMap_cons, List.count_append, count_dependents, induction,
        List.countP_cons, Nat.add_comm]

/-! ## One round -/

@[simp] theorem length_release (unfinished : List Nat) (waiting : Nat) :
    (release unfinished waiting).length = unfinished.length := by
  simp [release]

theorem release_getD (unfinished : List Nat) (waiting position : Nat) :
    (release unfinished waiting).getD position 0 =
      unfinished.getD position 0 - if position = waiting then 1 else 0 := by
  rw [release, List.getD_eq_getElem?_getD, List.getElem?_modify,
    List.getD_eq_getElem?_getD]
  by_cases same : waiting = position
  · cases unfinished[position]? <;> simp [same]
  · have different : position ≠ waiting := fun equal => same equal.symm
    cases unfinished[position]? <;> simp [same, different]

theorem releaseOne_fst (state : List Nat × List Nat) (waiting : Nat) :
    (releaseOne state waiting).1 = release state.1 waiting := by
  unfold releaseOne
  dsimp only
  split <;> rfl

theorem releaseOne_snd (state : List Nat × List Nat) (waiting : Nat) :
    (releaseOne state waiting).2 =
      if (release state.1 waiting).getD waiting 0 = 0
        then state.2 ++ [waiting] else state.2 := by
  unfold releaseOne
  dsimp only
  split <;> rfl

/-- What releasing a list of waiting tasks one by one comes to, when no counter
falls below zero: every counter is less by the times its task occurs, and the
tasks whose counter reaches zero are noted, each of them once. -/
structure Releases (waiting : List Nat) (before after : List Nat × List Nat) :
    Prop where
  length : after.1.length = before.1.length
  counts : ∀ position,
    after.1.getD position 0 = before.1.getD position 0 - waiting.count position
  noted : ∃ released, after.2 = before.2 ++ released ∧ released.Nodup ∧
    ∀ position, position ∈ released ↔
      position ∈ waiting ∧
        before.1.getD position 0 = waiting.count position

theorem releaseOne_getD (state : List Nat × List Nat)
    (waiting position : Nat) :
    (releaseOne state waiting).1.getD position 0 =
      state.1.getD position 0 - if position = waiting then 1 else 0 := by
  rw [releaseOne_fst, release_getD]

private theorem count_le_releaseOne {first : Nat} {rest : List Nat}
    {state : List Nat × List Nat}
    (enough : ∀ position,
      (first :: rest).count position ≤ state.1.getD position 0)
    (position : Nat) :
    rest.count position ≤ (releaseOne state first).1.getD position 0 := by
  have here := enough position
  rw [List.count_cons] at here
  rw [releaseOne_getD]
  by_cases same : position = first
  · subst position
    simp at here ⊢
    omega
  · have different : first ≠ position := fun equal => same equal.symm
    simpa [same, different] using here

/-- Whether another task is noted does not depend on the first one. -/
private theorem noted_iff_of_ne {first position : Nat} {rest : List Nat}
    {state : List Nat × List Nat} (different : position ≠ first) :
    (position ∈ rest ∧
        (releaseOne state first).1.getD position 0 = rest.count position) ↔
      position ∈ first :: rest ∧
        state.1.getD position 0 = (first :: rest).count position := by
  have reversed : first ≠ position := fun equal => different equal.symm
  rw [releaseOne_getD]
  simp [different, reversed]

/-- Where the counter of the first task is not yet zero, the task is noted
later if at all. -/
private theorem noted_first_iff {first : Nat} {rest : List Nat}
    {state : List Nat × List Nat}
    (more : (releaseOne state first).1.getD first 0 ≠ 0) :
    (first ∈ rest ∧
        (releaseOne state first).1.getD first 0 = rest.count first) ↔
      first ∈ first :: rest ∧
        state.1.getD first 0 = (first :: rest).count first := by
  rw [releaseOne_getD, if_pos rfl] at more ⊢
  rw [List.count_cons_self]
  constructor
  · intro noted
    exact ⟨List.mem_cons_self, by omega⟩
  · intro counted
    have positive : 0 < rest.count first := by omega
    exact ⟨List.count_pos_iff.mp positive, by omega⟩

/-- Where the counter of the first task reaches zero, the task does not occur
again and is the first to be noted. -/
private theorem noted_cons {first : Nat} {rest released : List Nat}
    {state : List Nat × List Nat}
    (enough : ∀ position,
      (first :: rest).count position ≤ state.1.getD position 0)
    (last : (releaseOne state first).1.getD first 0 = 0)
    (distinct : released.Nodup)
    (members : ∀ position, position ∈ released ↔ position ∈ rest ∧
      (releaseOne state first).1.getD position 0 = rest.count position) :
    (first :: released).Nodup ∧ ∀ position,
      position ∈ first :: released ↔ position ∈ first :: rest ∧
        state.1.getD position 0 = (first :: rest).count position := by
  have left := count_le_releaseOne enough first
  have noMore : rest.count first = 0 := by omega
  constructor
  · refine List.nodup_cons.mpr ⟨?_, distinct⟩
    intro member
    exact List.count_eq_zero.mp noMore ((members first).mp member).1
  · intro position
    by_cases same : position = first
    · subst position
      have here := enough first
      rw [List.count_cons_self] at here ⊢
      rw [releaseOne_getD, if_pos rfl] at last
      have one : state.1.getD first 0 = rest.count first + 1 := by omega
      exact iff_of_true List.mem_cons_self ⟨List.mem_cons_self, one⟩
    · rw [List.mem_cons, members, noted_iff_of_ne same]
      simp [same]

theorem releases_foldl (waiting : List Nat) (state : List Nat × List Nat)
    (enough : ∀ position,
      waiting.count position ≤ state.1.getD position 0) :
    Releases waiting state (waiting.foldl releaseOne state) := by
  induction waiting generalizing state with
  | nil => exact ⟨rfl, by simp, [], by simp⟩
  | cons first rest induction =>
      have tail := induction (releaseOne state first)
        (count_le_releaseOne enough)
      obtain ⟨released, appended, distinct, members⟩ := tail.noted
      refine ⟨?_, ?_, ?_⟩
      · rw [List.foldl_cons, tail.length, releaseOne_fst, length_release]
      · intro position
        rw [List.foldl_cons, tail.counts, releaseOne_getD, List.count_cons]
        by_cases same : position = first
        · simp [same]
          omega
        · have different : first ≠ position := fun equal => same equal.symm
          simp [same, different]
      · rw [List.foldl_cons, appended, releaseOne_snd, ← releaseOne_fst]
        by_cases last : (releaseOne state first).1.getD first 0 = 0
        · rw [if_pos last, List.append_assoc]
          exact ⟨first :: released, rfl,
            noted_cons enough last distinct members⟩
        · rw [if_neg last]
          refine ⟨released, rfl, distinct, ?_⟩
          intro position
          rw [members]
          by_cases same : position = first
          · subst position
            exact noted_first_iff last
          · exact noted_iff_of_ne same

theorem insertPosition_eq (position : Nat) (positions : List Nat) :
    insertPosition position positions =
      positions.orderedInsert (· ≤ ·) position := by
  induction positions with
  | nil => rfl
  | cons next rest induction =>
      simp [insertPosition, List.orderedInsert_cons, induction]

theorem ascending_eq (positions : List Nat) :
    ascending positions = positions.insertionSort (· ≤ ·) := by
  induction positions with
  | nil => rfl
  | cons position rest induction =>
      rw [List.insertionSort_cons, ← induction, ← insertPosition_eq]
      rfl

/-- Positions without repetitions come out of sorting as the one strictly
ascending list of their members. -/
theorem ascending_eq_of_mem_iff {positions sorted : List Nat}
    (distinct : positions.Nodup) (sortedAscending : sorted.Pairwise (· < ·))
    (members : ∀ position, position ∈ positions ↔ position ∈ sorted) :
    ascending positions = sorted := by
  have permutation : positions.Perm sorted :=
    (List.perm_ext_iff_of_nodup distinct
      (sortedAscending.imp Nat.ne_of_lt)).mpr members
  rw [ascending_eq]
  exact (((List.perm_insertionSort _ positions).trans permutation).eq_of_pairwise'
    (List.pairwise_insertionSort _ positions)
    (sortedAscending.imp Nat.le_of_lt))

theorem progressAt_unfinished_getD (waits : List (List Nat))
    (rounds position : Nat) :
    (progressAt waits rounds).unfinished.getD position 0 =
      openCount waits rounds position := by
  rcases Nat.lt_or_ge position waits.length with inside | outside
  · simp [progressAt, List.getD_eq_getElem?_getD, inside]
  · have nothing : waits.getD position [] = [] := by
      simp [List.getD_eq_getElem?_getD, List.getElem?_eq_none outside]
    have left : openCount waits rounds position = 0 := by
      rw [openCount, nothing, List.countP_nil]
    rw [left, progressAt, List.getD_eq_getElem?_getD,
      List.getElem?_eq_none (by simpa using outside), Option.getD_none]

/-- The tasks that a round releases, in the order in which the loop comes upon
them. -/
def releasesAt (waits : List (List Nat)) (rounds : Nat) : List Nat :=
  (levelAt waits rounds).flatMap (dependents waits)

theorem openCount_eq_add_count (wellFormed : WellFormed waits)
    (rounds position : Nat) :
    openCount waits rounds position =
      openCount waits (rounds + 1) position +
        (releasesAt waits rounds).count position := by
  rw [releasesAt, count_releases]
  exact openCount_eq_add wellFormed rounds position

/-- A counter reaches zero in a round exactly when the task belongs to the
level of the round after. -/
theorem released_iff_mem_levelAt (wellFormed : WellFormed waits)
    (rounds position : Nat) :
    (position ∈ releasesAt waits rounds ∧
        openCount waits rounds position =
          (releasesAt waits rounds).count position) ↔
      position ∈ levelAt waits (rounds + 1) := by
  have counted := openCount_eq_add_count wellFormed rounds position
  rw [mem_levelAt, ← openCount_eq_zero_iff, ← Bool.not_eq_true,
    ← openCount_eq_zero_iff]
  constructor
  · intro released
    obtain ⟨member, exact⟩ := released
    have positive := List.count_pos_iff.mpr member
    refine ⟨?_, by omega, by omega⟩
    obtain ⟨_, _, dependent⟩ := List.mem_flatMap.mp member
    exact List.mem_range.mp (List.mem_of_mem_filter dependent)
  · intro settles
    obtain ⟨_, closed, wasOpen⟩ := settles
    exact ⟨List.count_pos_iff.mp (by omega), by omega⟩

/-- The step lemma of the loop: a round leads from one closed form to the
next. -/
theorem step_progressAt (wellFormed : WellFormed waits) (rounds : Nat) :
    step waits (progressAt waits rounds) = progressAt waits (rounds + 1) := by
  have enough : ∀ position, (releasesAt waits rounds).count position ≤
      (progressAt waits rounds).unfinished.getD position 0 := by
    intro position
    rw [progressAt_unfinished_getD, openCount_eq_add_count wellFormed]
    exact Nat.le_add_left _ _
  have released := releases_foldl (releasesAt waits rounds)
    ((progressAt waits rounds).unfinished, []) enough
  obtain ⟨noted, notedEq, distinct, members⟩ := released.noted
  rw [List.nil_append] at notedEq
  have unfinishedEq :
      ((releasesAt waits rounds).foldl releaseOne
        ((progressAt waits rounds).unfinished, [])).1 =
      (progressAt waits (rounds + 1)).unfinished := by
    refine List.ext_getElem ?_ ?_
    · rw [released.length]
      simp [progressAt]
    · intro position inside insideNext
      have counts := released.counts position
      rw [progressAt_unfinished_getD, openCount_eq_add_count wellFormed,
        Nat.add_sub_cancel, ← progressAt_unfinished_getD] at counts
      simpa [inside, insideNext] using counts
  have readyEq : ascending noted = levelAt waits (rounds + 1) := by
    refine ascending_eq_of_mem_iff distinct (levelAt_ascending _ _) ?_
    intro position
    rw [members, progressAt_unfinished_getD]
    exact released_iff_mem_levelAt wellFormed rounds position
  have takenEq :
      levelAt waits rounds :: (progressAt waits rounds).taken =
        (progressAt waits (rounds + 1)).taken := by
    simp [progressAt, List.range_succ]
  unfold step
  change Progress.mk
    ((releasesAt waits rounds).foldl releaseOne
      ((progressAt waits rounds).unfinished, [])).1
    (ascending ((releasesAt waits rounds).foldl releaseOne
      ((progressAt waits rounds).unfinished, [])).2)
    (levelAt waits rounds :: (progressAt waits rounds).taken) = _
  rw [notedEq, unfinishedEq, readyEq, takenEq]
  rfl

/-! ## The whole loop -/

theorem initial_eq (waits : List (List Nat)) :
    initial waits = progressAt waits 0 := by
  have counters :
      waits.map List.length = (progressAt waits 0).unfinished := by
    refine List.ext_getElem (by simp [progressAt]) ?_
    intro position inside insideNext
    have insideWaits : position < waits.length := by simpa using inside
    simp [progressAt, openCount, settled, insideWaits]
  have ready : ((List.range waits.length).filter fun position =>
      (waits.map List.length).getD position 0 == 0) = levelAt waits 0 := by
    refine List.filter_congr ?_
    intro position _
    rw [counters, progressAt_unfinished_getD, Bool.eq_iff_iff]
    simp [openCount_eq_zero_iff, settled]
  unfold initial
  dsimp only
  rw [ready, counters]
  rfl

/-- The loop stops at the first round without a level, unless it was given
fewer rounds. -/
theorem run_progressAt (wellFormed : WellFormed waits) (rounds start : Nat) :
    ∃ last, run waits rounds (progressAt waits start) = progressAt waits last ∧
      start ≤ last ∧
      (∀ round, start ≤ round → round < last → levelAt waits round ≠ []) ∧
      (levelAt waits last = [] ∨ last = start + rounds) := by
  induction rounds generalizing start with
  | zero =>
      refine ⟨start, rfl, Nat.le_refl _, ?_, Or.inr rfl⟩
      intro round begun before
      omega
  | succ rounds induction =>
      by_cases done : levelAt waits start = []
      · refine ⟨start, ?_, Nat.le_refl _, ?_, Or.inl done⟩
        · simp [run, progressAt, done]
        · intro round begun before
          omega
      · obtain ⟨last, runEq, after, nonempty, stopped⟩ := induction (start + 1)
        refine ⟨last, ?_, by omega, ?_, ?_⟩
        · have more : (progressAt waits start).ready.isEmpty = false := by
            simpa [progressAt] using done
          rw [run, more, step_progressAt wellFormed]
          simpa using runEq
        · intro round begun before
          rcases Nat.eq_or_lt_of_le begun with same | later
          · exact same ▸ done
          · exact nonempty round later before
        · rcases stopped with empty | all
          · exact Or.inl empty
          · exact Or.inr (by omega)

/-- As long as every round has a level, a round settles a task at least. -/
theorem le_settledCount {rounds : Nat}
    (nonempty : ∀ round < rounds, levelAt waits round ≠ []) :
    rounds ≤ settledCount waits rounds := by
  induction rounds with
  | zero => exact Nat.zero_le _
  | succ rounds induction =>
      have before := induction fun round inside =>
        nonempty round (Nat.lt_succ_of_lt inside)
      have level := List.length_pos_iff.mpr (nonempty rounds (Nat.lt_succ_self _))
      rw [settledCount_succ]
      omega

theorem levelAt_eq_nil_of_settledCount {rounds : Nat}
    (all : settledCount waits rounds = waits.length) :
    levelAt waits rounds = [] := by
  have count := settledCount_succ waits rounds
  have bound := settledCount_le waits (rounds + 1)
  exact List.length_eq_zero_iff.mp (by omega)

/-- The rounds that the loop makes: it stops at the first round without a
level. -/
structure LastRound (waits : List (List Nat)) (last : Nat) : Prop where
  finished : finished waits = progressAt waits last
  nonempty : ∀ round < last, levelAt waits round ≠ []
  empty : levelAt waits last = []

theorem LastRound.le_length {last : Nat} (lastRound : LastRound waits last) :
    last ≤ waits.length :=
  (le_settledCount lastRound.nonempty).trans (settledCount_le waits last)

/-- The loop makes no more rounds than there are tasks, so that it never runs
out of rounds. -/
theorem exists_lastRound (wellFormed : WellFormed waits) :
    ∃ last, LastRound waits last := by
  obtain ⟨last, runEq, _, nonempty, stopped⟩ :=
    run_progressAt wellFormed waits.length 0
  have levels : ∀ round < last, levelAt waits round ≠ [] := fun round inside =>
    nonempty round (Nat.zero_le _) inside
  have enough := le_settledCount levels
  have bound := settledCount_le waits last
  refine ⟨last, ?_, levels, ?_⟩
  · rw [finished, initial_eq, runEq]
  · rcases stopped with empty | all
    · exact empty
    · exact levelAt_eq_nil_of_settledCount (by omega)

/-! ## The levels together -/

theorem mem_flatten_levels {rounds position : Nat} :
    position ∈ ((List.range rounds).map (levelAt waits)).flatten ↔
      position < waits.length ∧ settled waits rounds position = true := by
  induction rounds with
  | zero => simp [settled]
  | succ rounds induction =>
      rw [List.range_succ, List.map_append, List.flatten_append,
        List.mem_append, induction]
      constructor
      · intro either
        rcases either with ⟨inside, done⟩ | member
        · exact ⟨inside, settled_succ_of_settled done⟩
        · have inLevel : position ∈ levelAt waits rounds := by
            simpa using member
          have settles := mem_levelAt.mp inLevel
          exact ⟨settles.1, settles.2.1⟩
      · intro settles
        obtain ⟨inside, done⟩ := settles
        rw [settled_succ_eq inside, Bool.or_eq_true] at done
        rcases done with before | now
        · exact Or.inl ⟨inside, before⟩
        · exact Or.inr (by simpa using now)

theorem getElem?_levels {rounds rank : Nat} {level : List Nat} :
    ((List.range rounds).map (levelAt waits))[rank]? = some level ↔
      rank < rounds ∧ levelAt waits rank = level := by
  rw [List.getElem?_map, Option.map_eq_some_iff]
  constructor
  · intro present
    obtain ⟨round, found, rfl⟩ := present
    obtain ⟨inside, same⟩ := List.getElem?_eq_some_iff.mp found
    rw [List.getElem_range] at same
    exact ⟨by simpa using inside, by rw [same]⟩
  · intro isLevel
    obtain ⟨inside, rfl⟩ := isLevel
    exact ⟨rank, List.getElem?_range inside, rfl⟩

theorem nodup_flatten_levels (waits : List (List Nat)) (rounds : Nat) :
    ((List.range rounds).map (levelAt waits)).flatten.Nodup := by
  refine List.nodup_flatten.mpr ⟨?_, ?_⟩
  · intro level member
    obtain ⟨round, _, rfl⟩ := List.mem_map.mp member
    exact nodup_levelAt waits round
  · refine List.pairwise_map.mpr (List.pairwise_lt_range.imp ?_)
    intro early late before position inEarly inLate
    have done := settled_mono before (mem_levelAt.mp inEarly).2.1
    rw [(mem_levelAt.mp inLate).2.2] at done
    cases done

/-- Where every task is settled, the levels hold every task once. -/
theorem flatten_levels_perm {rounds : Nat}
    (complete : ∀ position < waits.length,
      settled waits rounds position = true) :
    ((List.range rounds).map (levelAt waits)).flatten.Perm
      (List.range waits.length) := by
  refine (List.perm_ext_iff_of_nodup (nodup_flatten_levels waits rounds)
    List.nodup_range).mpr ?_
  intro position
  rw [mem_flatten_levels, List.mem_range]
  exact ⟨And.left, fun inside => ⟨inside, complete position inside⟩⟩

theorem length_flatten_taken (waits : List (List Nat)) (rounds : Nat) :
    (progressAt waits rounds).taken.flatten.length =
      settledCount waits rounds := by
  induction rounds with
  | zero => simp [progressAt, settledCount, settled]
  | succ rounds induction =>
      have taken : (progressAt waits (rounds + 1)).taken =
          levelAt waits rounds :: (progressAt waits rounds).taken := by
        simp [progressAt, List.range_succ]
      rw [taken, List.flatten_cons, List.length_append, induction,
        settledCount_succ, Nat.add_comm]

end FuzzyGrid.Schedule
