import FuzzyGrid.Model
import FuzzyGrid.Number.Float
import FuzzyGrid.Proofs.Schedule.Names
import FuzzyGrid.Proofs.Schedule.Rounds

/-!
# The outcome of scheduling

The checks of names and the level loop put together: levels come out exactly
when the names are in order and the last round has settled every task, and
they are then the levels of the rounds.
-/

namespace FuzzyGrid

namespace Schedule

theorem settledCount_waits_eq_iff {tasks : List Task} {last : Nat} :
    settledCount (waits tasks) last = tasks.length ↔
      ∀ position < tasks.length, settled (waits tasks) last position = true := by
  rw [← length_waits tasks]
  exact settledCount_eq_length_iff

theorem levels_of_namesInOrder {inputs : List String} {tasks : List Task}
    {last : Nat} (inOrder : NamesInOrder inputs tasks)
    (lastRound : LastRound (waits tasks) last) :
    levels inputs tasks =
      if settledCount (waits tasks) last = tasks.length then
        .ok ((List.range last).map (levelAt (waits tasks)))
      else
        .error (.cycle (waiting tasks (progressAt (waits tasks) last))) := by
  have taken : (progressAt (waits tasks) last).taken.reverse =
      (List.range last).map (levelAt (waits tasks)) := by
    simp [progressAt]
  unfold levels
  rw [checkNames_eq_ok_iff.mpr inOrder]
  dsimp only
  rw [lastRound.finished, length_flatten_taken, taken]

theorem levels_eq_ok_iff {inputs : List String} {tasks : List Task}
    {taken : List (List Nat)} :
    levels inputs tasks = .ok taken ↔
      NamesInOrder inputs tasks ∧
        ∃ last, LastRound (waits tasks) last ∧
          (∀ position < tasks.length,
            settled (waits tasks) last position = true) ∧
          taken = (List.range last).map (levelAt (waits tasks)) := by
  obtain ⟨last, lastRound⟩ := exists_lastRound (wellFormed_waits tasks)
  constructor
  · intro ordered
    have inOrder : NamesInOrder inputs tasks := by
      refine checkNames_eq_ok_iff.mp ?_
      cases checked : checkNames inputs tasks with
      | ok _ => rfl
      | error fault => simp [levels, checked] at ordered
    rw [levels_of_namesInOrder inOrder lastRound] at ordered
    split at ordered
    · rename_i complete
      cases ordered
      exact ⟨inOrder, last, lastRound,
        settledCount_waits_eq_iff.mp complete, rfl⟩
    · cases ordered
  · intro orderable
    obtain ⟨inOrder, final, finalRound, complete, rfl⟩ := orderable
    rw [levels_of_namesInOrder inOrder finalRound,
      if_pos (settledCount_waits_eq_iff.mpr complete)]

end Schedule

variable {α : Type} [Scalar α]

namespace Model

/-- The names of the input layers. -/
def inputNames (model : Model α) : List String :=
  model.inputs.map Prod.fst

/-- The nodes as the schedule sees them. -/
def tasks (model : Model α) : List Task :=
  model.nodes.map Node.task

/-- The names of the nodes. -/
def nodeNames (model : Model α) : List String :=
  model.nodes.map Node.name

theorem levels_eq (model : Model α) :
    model.levels = Schedule.levels model.inputNames model.tasks :=
  rfl

@[simp] theorem length_tasks (model : Model α) :
    model.tasks.length = model.nodes.length := by
  simp [tasks]

theorem map_name_tasks (model : Model α) :
    model.tasks.map Task.name = model.nodeNames := by
  simp [tasks, nodeNames, Node.task, Function.comp_def]

end Model

/-! ## A small model

Two fuzzy layers, their complements, and an intersection that is written down
before the complement that it takes.  The theorems about models are applied to
it. -/

namespace Sample

/-- The intersection of dryness and slope. -/
def suitable : Node Float where
  command := ⟨"Suitable", "FuzzyAnd",
    ⟨[("InFieldNames", .list [.text "Dry", .text "Slope"])], by simp⟩,
    ⟨"model.mpt", 1, "Suitable = FuzzyAnd([Dry, Slope])"⟩⟩
  operator := .fuzzyAnd
  operation := .list ["Dry", "Slope"] .fuzzyAnd
  interpreted := rfl

/-- The complement of a layer. -/
def complement (result field : String) (line : Nat) : Command Float :=
  ⟨result, "FuzzyNot", ⟨[("InFieldName", .text field)], by simp⟩,
    ⟨"model.mpt", line, result ++ " = FuzzyNot(" ++ field ++ ")"⟩⟩

/-- The complement of wetness. -/
def dry : Node Float :=
  ⟨complement "Dry" "Water" 2, .fuzzyNot, .layer "Water" .fuzzyNot, rfl⟩

/-- The complement of slope. -/
def flat : Node Float :=
  ⟨complement "Flat" "Slope" 3, .fuzzyNot, .layer "Slope" .fuzzyNot, rfl⟩

/-- A fuzzy layer of two cells, the second one masked. -/
def layer (value : Float) : Result Float :=
  .layer ⟨1, 2, [⟨value, false⟩, ⟨value, true⟩]⟩ .fuzzy

/-- The model of these layers and nodes. -/
def model : Model Float :=
  ⟨[("Slope", layer 0.25), ("Water", layer 0.5)], [suitable, dry, flat]⟩

end Sample

end FuzzyGrid
