import FuzzyGrid.Schedule
import Mathlib.Data.List.Nodup

/-!
# The graph of a list of tasks

A task requires the task whose result it refers to.  The level loop does not
see this relation but the lists of producers that are computed from it once;
this file says that these lists are the relation, each producer being listed
once and standing for a task of the list.
-/

namespace FuzzyGrid.Schedule

/-- The task at `position` refers to the name that the task at `producer`
produces. -/
def Requires (tasks : List Task) (position producer : Nat) : Prop :=
  ∃ task required, tasks[position]? = some task ∧
    tasks[producer]? = some required ∧ required.name ∈ task.dependencies

theorem Requires.lt_left {tasks : List Task} {position producer : Nat}
    (requires : Requires tasks position producer) :
    position < tasks.length := by
  obtain ⟨task, required, found, _⟩ := requires
  exact (List.getElem?_eq_some_iff.mp found).1

theorem Requires.lt_right {tasks : List Task} {position producer : Nat}
    (requires : Requires tasks position producer) :
    producer < tasks.length := by
  obtain ⟨task, required, _, found, _⟩ := requires
  exact (List.getElem?_eq_some_iff.mp found).1

theorem mem_distinct {name : String} {names : List String}
    (seen : List String) :
    name ∈ distinct seen names ↔ name ∈ names ∧ name ∉ seen := by
  induction names generalizing seen with
  | nil => simp [distinct]
  | cons first rest induction =>
      by_cases old : first ∈ seen
      · have skipped : distinct seen (first :: rest) = distinct seen rest := by
          simp [distinct, old]
        rw [skipped, induction, List.mem_cons]
        constructor
        · intro later
          obtain ⟨member, fresh⟩ := later
          exact ⟨Or.inr member, fresh⟩
        · intro either
          obtain ⟨same | member, fresh⟩ := either
          · exact absurd (same ▸ old) fresh
          · exact ⟨member, fresh⟩
      · have kept : distinct seen (first :: rest) =
            first :: distinct (first :: seen) rest := by
          simp [distinct, old]
        rw [kept, List.mem_cons, induction, List.mem_cons, List.mem_cons]
        by_cases same : name = first
        · simp [same, old]
        · simp [same]

theorem nodup_distinct (seen names : List String) :
    (distinct seen names).Nodup := by
  induction names generalizing seen with
  | nil => exact List.nodup_nil
  | cons first rest induction =>
      unfold distinct
      split
      · exact induction seen
      · refine List.nodup_cons.mpr ⟨?_, induction _⟩
        intro member
        exact ((mem_distinct _).mp member).2 List.mem_cons_self

theorem producer?_name {tasks : List Task} {name : String} {position : Nat}
    (found : producer? tasks name = some position) :
    ∃ task, tasks[position]? = some task ∧ task.name = name := by
  obtain ⟨inside, same, _⟩ := List.findIdx?_eq_some_iff_getElem.mp found
  exact ⟨tasks[position], List.getElem?_eq_getElem inside, by simpa using same⟩

/-- Where no two tasks share a name, the producer of a name is the task of
that name. -/
theorem producer?_eq_some_iff {tasks : List Task} {name : String}
    {position : Nat} (unique : (tasks.map Task.name).Nodup) :
    producer? tasks name = some position ↔
      ∃ task, tasks[position]? = some task ∧ task.name = name := by
  constructor
  · exact producer?_name
  · intro produced
    obtain ⟨task, found, same⟩ := produced
    have member : task ∈ tasks := List.mem_of_getElem? found
    have someProducer : (producer? tasks name).isSome := by
      simp only [producer?, List.findIdx?_isSome, List.any_eq_true]
      exact ⟨task, member, by simpa using same⟩
    obtain ⟨first, firstFound⟩ := Option.isSome_iff_exists.mp someProducer
    obtain ⟨earlier, earlierFound, earlierSame⟩ := producer?_name firstFound
    have sameName :
        (tasks.map Task.name)[first]? = (tasks.map Task.name)[position]? := by
      simp [earlierFound, found, earlierSame, same]
    have inside : first < (tasks.map Task.name).length := by
      simpa using (List.getElem?_eq_some_iff.mp earlierFound).1
    have equal : first = position :=
      (List.getElem?_inj inside unique).mp sameName
    rw [firstFound, equal]

theorem nodup_producers (tasks : List Task) (task : Task) :
    (producers tasks task).Nodup := by
  refine List.Nodup.filterMap ?_ (nodup_distinct [] task.dependencies)
  intro first second position firstFound secondFound
  obtain ⟨_, firstAt, firstName⟩ := producer?_name firstFound
  obtain ⟨_, secondAt, secondName⟩ := producer?_name secondFound
  rw [firstAt, Option.some.injEq] at secondAt
  exact firstName.symm.trans (secondAt ▸ secondName)

theorem mem_producers {tasks : List Task} {task : Task} {position : Nat}
    (unique : (tasks.map Task.name).Nodup) :
    position ∈ producers tasks task ↔
      ∃ required, tasks[position]? = some required ∧
        required.name ∈ task.dependencies := by
  simp only [producers, List.mem_filterMap, mem_distinct, List.not_mem_nil,
    not_false_eq_true, and_true, producer?_eq_some_iff unique]
  constructor
  · intro named
    obtain ⟨name, member, required, found, same⟩ := named
    exact ⟨required, found, same ▸ member⟩
  · intro produced
    obtain ⟨required, found, member⟩ := produced
    exact ⟨required.name, member, required, found, rfl⟩

theorem lt_of_mem_producers {tasks : List Task} {task : Task} {position : Nat}
    (member : position ∈ producers tasks task) : position < tasks.length := by
  obtain ⟨_, _, found⟩ := List.mem_filterMap.mp member
  obtain ⟨_, inside, _⟩ := producer?_name found
  exact (List.getElem?_eq_some_iff.mp inside).1

/-- Every list of producers names each of them once, and only tasks that
exist. -/
structure WellFormed (waits : List (List Nat)) : Prop where
  distinct : ∀ position, (waits.getD position []).Nodup
  inside : ∀ position, ∀ producer ∈ waits.getD position [],
    producer < waits.length

@[simp] theorem length_waits (tasks : List Task) :
    (waits tasks).length = tasks.length := by
  simp [waits]

theorem waits_getD_of_getElem? {tasks : List Task} {position : Nat}
    {task : Task} (found : tasks[position]? = some task) :
    (waits tasks).getD position [] = producers tasks task := by
  simp [waits, List.getD_eq_getElem?_getD, found]

theorem waits_getD_of_length_le {tasks : List Task} {position : Nat}
    (outside : tasks.length ≤ position) :
    (waits tasks).getD position [] = [] := by
  simp [waits, List.getD_eq_getElem?_getD, List.getElem?_eq_none outside]

theorem wellFormed_waits (tasks : List Task) : WellFormed (waits tasks) := by
  constructor
  · intro position
    rcases Nat.lt_or_ge position tasks.length with inside | outside
    · rw [waits_getD_of_getElem? (List.getElem?_eq_getElem inside)]
      exact nodup_producers tasks _
    · rw [waits_getD_of_length_le outside]
      exact List.nodup_nil
  · intro position producer member
    rcases Nat.lt_or_ge position tasks.length with inside | outside
    · rw [waits_getD_of_getElem? (List.getElem?_eq_getElem inside)] at member
      rw [length_waits]
      exact lt_of_mem_producers member
    · rw [waits_getD_of_length_le outside] at member
      exact absurd member List.not_mem_nil

/-- What a task waits for are the tasks that it requires. -/
theorem mem_waits_iff {tasks : List Task} {position producer : Nat}
    (unique : (tasks.map Task.name).Nodup) :
    producer ∈ (waits tasks).getD position [] ↔
      Requires tasks position producer := by
  rcases Nat.lt_or_ge position tasks.length with inside | outside
  · have found := List.getElem?_eq_getElem inside
    rw [waits_getD_of_getElem? found, mem_producers unique]
    constructor
    · intro produced
      obtain ⟨required, requiredAt, member⟩ := produced
      exact ⟨tasks[position], required, found, requiredAt, member⟩
    · intro requires
      obtain ⟨task, required, taskAt, requiredAt, member⟩ := requires
      rw [found, Option.some.injEq] at taskAt
      exact ⟨required, requiredAt, taskAt ▸ member⟩
  · rw [waits_getD_of_length_le outside]
    constructor
    · intro member
      exact absurd member List.not_mem_nil
    · intro requires
      exact absurd requires.lt_left (Nat.not_lt.mpr outside)

end FuzzyGrid.Schedule
