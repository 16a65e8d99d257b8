import FuzzyGrid.Proofs.Schedule.TaskGraph

/-!
# The checks of names

The three checks that come before the level loop, in terms of the names
themselves.  `NamesInOrder` collects what they demand, and `Misnamed` says
which violation is reported: the first one in the order of the checks and,
within a check, in the order in which the tasks stand.
-/

namespace FuzzyGrid.Schedule

/-- No task has the name of an input or of another task. -/
structure ResultsDistinct (inputs : List String) (tasks : List Task) :
    Prop where
  fresh : ∀ task ∈ tasks, task.name ∉ inputs
  distinct : (tasks.map Task.name).Nodup

/-- An input or a task has the name. -/
def Known (inputs : List String) (tasks : List Task) (name : String) : Prop :=
  name ∈ inputs ∨ name ∈ tasks.map Task.name

/-- Everything that a task refers to is known. -/
def RefersToKnown (known : String → Prop) (task : Task) : Prop :=
  ∀ dependency ∈ task.dependencies, known dependency

/-- What has to hold of the names of inputs and tasks before the tasks can be
put into levels. -/
structure NamesInOrder (inputs : List String) (tasks : List Task) : Prop where
  inputsDistinct : inputs.Nodup
  resultsDistinct : ResultsDistinct inputs tasks
  known : ∀ task ∈ tasks, RefersToKnown (Known inputs tasks) task

/-- The fault of names that are not in order. -/
inductive Misnamed (inputs : List String) (tasks : List Task) :
    ScheduleFault → Prop where
  | repeatedInput (repeated : ¬inputs.Nodup) :
      Misnamed inputs tasks .repeatedInput
  /-- The first task whose name an input or an earlier task has. -/
  | repeatedResult {before after : List Task} {task : Task}
      (inputsDistinct : inputs.Nodup)
      (place : tasks = before ++ task :: after)
      (earlier : ResultsDistinct inputs before)
      (taken : Known inputs before task.name) :
      Misnamed inputs tasks (.repeatedResult task.name task.origin)
  /-- The first task that refers to an unknown name, and the first such name
  among those that it refers to. -/
  | unknownDependency {before after : List Task} {task : Task}
      {skipped rest : List String} {dependency : String}
      (inputsDistinct : inputs.Nodup)
      (resultsDistinct : ResultsDistinct inputs tasks)
      (place : tasks = before ++ task :: after)
      (earlier : ∀ other ∈ before, RefersToKnown (Known inputs tasks) other)
      (reference : task.dependencies = skipped ++ dependency :: rest)
      (skippedKnown : ∀ name ∈ skipped, Known inputs tasks name)
      (unknown : ¬Known inputs tasks dependency) :
      Misnamed inputs tasks
        (.unknownDependency task.name dependency task.origin)

theorem allDistinct_iff {names : List String} :
    allDistinct names = true ↔ names.Nodup := by
  induction names with
  | nil => simp [allDistinct]
  | cons name rest induction => simp [allDistinct, induction]

/-! ## Repeated results -/

theorem resultsDistinct_nil (taken : List String) : ResultsDistinct taken [] :=
  ⟨by simp, List.nodup_nil⟩

theorem resultsDistinct_cons_iff {taken : List String} {task : Task}
    {rest : List Task} :
    ResultsDistinct taken (task :: rest) ↔
      task.name ∉ taken ∧ ResultsDistinct (task.name :: taken) rest := by
  constructor
  · intro distinct
    have names := List.nodup_cons.mp distinct.distinct
    refine ⟨distinct.fresh task List.mem_cons_self, ?_, names.2⟩
    intro other later member
    rcases List.mem_cons.mp member with same | old
    · exact names.1 (same ▸ List.mem_map_of_mem later)
    · exact distinct.fresh other (List.mem_cons_of_mem _ later) old
  · intro both
    obtain ⟨fresh, distinct⟩ := both
    constructor
    · intro other member old
      rcases List.mem_cons.mp member with same | later
      · exact fresh (same ▸ old)
      · exact distinct.fresh other later (List.mem_cons_of_mem _ old)
    · rw [List.map_cons, List.nodup_cons]
      refine ⟨?_, distinct.distinct⟩
      intro member
      obtain ⟨other, later, same⟩ := List.mem_map.mp member
      exact distinct.fresh other later (same ▸ List.mem_cons_self)

theorem known_cons_iff {taken : List String} {task : Task} {rest : List Task}
    {name : String} :
    Known taken (task :: rest) name ↔ Known (task.name :: taken) rest name := by
  simp only [Known, List.map_cons, List.mem_cons]
  tauto

theorem repeated?_eq_none_iff {taken : List String} {tasks : List Task} :
    repeated? taken tasks = none ↔ ResultsDistinct taken tasks := by
  induction tasks generalizing taken with
  | nil => simp [repeated?, resultsDistinct_nil]
  | cons task rest induction =>
      rw [resultsDistinct_cons_iff]
      by_cases clash : task.name ∈ taken
      · simp [repeated?, clash]
      · simp [repeated?, clash, induction]

theorem repeated?_eq_some_iff {taken : List String} {tasks : List Task}
    {task : Task} :
    repeated? taken tasks = some task ↔
      ∃ before after, tasks = before ++ task :: after ∧
        ResultsDistinct taken before ∧ Known taken before task.name := by
  induction tasks generalizing taken with
  | nil => simp [repeated?]
  | cons head rest induction =>
      by_cases clash : head.name ∈ taken
      · constructor
        · intro found
          have same : head = task := by simpa [repeated?, clash] using found
          subst task
          exact ⟨[], rest, rfl, resultsDistinct_nil taken, Or.inl clash⟩
        · intro placed
          obtain ⟨before, after, place, distinct, _⟩ := placed
          cases before with
          | nil =>
              cases place
              simp [repeated?, clash]
          | cons first before =>
              cases place
              exact absurd clash (distinct.fresh head List.mem_cons_self)
      · have skipped :
            repeated? taken (head :: rest) = repeated? (head.name :: taken) rest := by
          simp [repeated?, clash]
        rw [skipped, induction]
        constructor
        · intro placed
          obtain ⟨before, after, rfl, distinct, known⟩ := placed
          exact ⟨head :: before, after, rfl,
            resultsDistinct_cons_iff.mpr ⟨clash, distinct⟩,
            known_cons_iff.mpr known⟩
        · intro placed
          obtain ⟨before, after, place, distinct, known⟩ := placed
          cases before with
          | nil =>
              cases place
              exact absurd known (by simp [Known, clash])
          | cons first before =>
              cases place
              exact ⟨before, after, rfl,
                (resultsDistinct_cons_iff.mp distinct).2,
                known_cons_iff.mp known⟩

/-! ## Unknown dependencies -/

theorem firstUnknown_eq_none_iff {known : List String} {task : Task} :
    (task.dependencies.find? fun name => !known.contains name) = none ↔
      RefersToKnown (· ∈ known) task := by
  rw [List.find?_eq_none]
  simp [RefersToKnown]

theorem firstUnknown_eq_some_iff {known : List String} {task : Task}
    {dependency : String} :
    (task.dependencies.find? fun name => !known.contains name) =
        some dependency ↔
      ∃ skipped rest, task.dependencies = skipped ++ dependency :: rest ∧
        (∀ name ∈ skipped, name ∈ known) ∧ dependency ∉ known := by
  rw [List.find?_eq_some_iff_append]
  constructor
  · intro found
    obtain ⟨missing, skipped, rest, reference, skippedKnown⟩ := found
    exact ⟨skipped, rest, reference,
      fun name member => by simpa using skippedKnown name member,
      by simpa using missing⟩
  · intro first
    obtain ⟨skipped, rest, reference, skippedKnown, missing⟩ := first
    exact ⟨by simpa using missing, skipped, rest, reference,
      fun name member => by simpa using skippedKnown name member⟩

theorem unknown?_eq_none_iff {known : List String} {tasks : List Task} :
    unknown? known tasks = none ↔
      ∀ task ∈ tasks, RefersToKnown (· ∈ known) task := by
  induction tasks with
  | nil => simp [unknown?]
  | cons task rest induction =>
      unfold unknown?
      rw [List.forall_mem_cons, ← firstUnknown_eq_none_iff]
      cases search : task.dependencies.find? fun dependency =>
          !known.contains dependency with
      | some dependency => simp
      | none => simp [induction]

theorem unknown?_eq_some_iff {known : List String} {tasks : List Task}
    {task : Task} {dependency : String} :
    unknown? known tasks = some (task, dependency) ↔
      ∃ before after, tasks = before ++ task :: after ∧
        (∀ other ∈ before, RefersToKnown (· ∈ known) other) ∧
        ∃ skipped rest, task.dependencies = skipped ++ dependency :: rest ∧
          (∀ name ∈ skipped, name ∈ known) ∧ dependency ∉ known := by
  simp only [← firstUnknown_eq_some_iff, ← firstUnknown_eq_none_iff]
  induction tasks with
  | nil => simp [unknown?]
  | cons head rest induction =>
      unfold unknown?
      cases search : head.dependencies.find? fun name =>
          !known.contains name with
      | some found =>
          constructor
          · intro same
            cases same
            exact ⟨[], rest, rfl, by simp, search⟩
          · intro placed
            obtain ⟨before, after, place, earlier, reference⟩ := placed
            cases before with
            | nil =>
                cases place
                rw [reference, Option.some.injEq] at search
                rw [search]
            | cons first before =>
                cases place
                rw [earlier head List.mem_cons_self] at search
                cases search
      | none =>
          refine induction.trans ?_
          constructor
          · intro placed
            obtain ⟨before, after, rfl, earlier, reference⟩ := placed
            exact ⟨head :: before, after, rfl,
              List.forall_mem_cons.mpr ⟨search, earlier⟩, reference⟩
          · intro placed
            obtain ⟨before, after, place, earlier, reference⟩ := placed
            cases before with
            | nil =>
                cases place
                rw [reference] at search
                cases search
            | cons first before =>
                cases place
                exact ⟨before, after, rfl,
                  (List.forall_mem_cons.mp earlier).2, reference⟩

/-! ## All checks -/

theorem mem_inputs_append_iff {inputs : List String} {tasks : List Task}
    {name : String} :
    name ∈ inputs ++ tasks.map Task.name ↔ Known inputs tasks name := by
  rw [List.mem_append, Known]

theorem checkNames_eq_ok_iff {inputs : List String} {tasks : List Task} :
    checkNames inputs tasks = .ok () ↔ NamesInOrder inputs tasks := by
  constructor
  · intro passed
    unfold checkNames at passed
    split at passed
    · cases passed
    · rename_i inputsDistinct
      split at passed
      · cases passed
      · rename_i noneRepeated
        split at passed
        · cases passed
        · rename_i noneUnknown
          refine ⟨?_, repeated?_eq_none_iff.mp noneRepeated, ?_⟩
          · exact allDistinct_iff.mp (by simpa using inputsDistinct)
          · intro task member dependency reference
            exact mem_inputs_append_iff.mp
              (unknown?_eq_none_iff.mp noneUnknown task member dependency
                reference)
  · intro inOrder
    have noneUnknown :
        unknown? (inputs ++ tasks.map Task.name) tasks = none := by
      refine unknown?_eq_none_iff.mpr ?_
      intro task member dependency reference
      exact mem_inputs_append_iff.mpr
        (inOrder.known task member dependency reference)
    unfold checkNames
    rw [allDistinct_iff.mpr inOrder.inputsDistinct,
      repeated?_eq_none_iff.mpr inOrder.resultsDistinct, noneUnknown]
    rfl

theorem checkNames_eq_error_iff {inputs : List String} {tasks : List Task}
    {fault : ScheduleFault} :
    checkNames inputs tasks = .error fault ↔ Misnamed inputs tasks fault := by
  constructor
  · intro failed
    unfold checkNames at failed
    split at failed
    · rename_i inputsRepeated
      cases failed
      refine .repeatedInput ?_
      intro distinct
      simp [allDistinct_iff.mpr distinct] at inputsRepeated
    · rename_i notRepeated
      have inputsDistinct : inputs.Nodup :=
        allDistinct_iff.mp (by simpa using notRepeated)
      split at failed
      · rename_i task found
        cases failed
        obtain ⟨before, after, place, earlier, taken⟩ :=
          repeated?_eq_some_iff.mp found
        exact .repeatedResult inputsDistinct place earlier taken
      · rename_i noneRepeated
        split at failed
        · rename_i task dependency found
          cases failed
          obtain ⟨before, after, place, earlier, skipped, rest, reference,
            skippedKnown, unknown⟩ := unknown?_eq_some_iff.mp found
          simp only [RefersToKnown, mem_inputs_append_iff]
            at earlier skippedKnown unknown
          exact .unknownDependency inputsDistinct
            (repeated?_eq_none_iff.mp noneRepeated) place earlier reference
            skippedKnown unknown
        · cases failed
  · intro misnamed
    cases misnamed with
    | repeatedInput repeated =>
        have notDistinct : allDistinct inputs = false := by
          rw [← Bool.not_eq_true]
          exact fun distinct => repeated (allDistinct_iff.mp distinct)
        simp [checkNames, notDistinct]
    | repeatedResult inputsDistinct place earlier taken =>
        have found := repeated?_eq_some_iff.mpr ⟨_, _, place, earlier, taken⟩
        simp [checkNames, allDistinct_iff.mpr inputsDistinct, found]
    | unknownDependency inputsDistinct resultsDistinct place earlier reference
        skippedKnown unknown =>
        simp only [RefersToKnown, ← mem_inputs_append_iff]
          at earlier skippedKnown unknown
        have found := unknown?_eq_some_iff.mpr
          ⟨_, _, place, earlier, _, _, reference, skippedKnown, unknown⟩
        simp [checkNames, allDistinct_iff.mpr inputsDistinct,
          repeated?_eq_none_iff.mpr resultsDistinct, found]

end FuzzyGrid.Schedule
