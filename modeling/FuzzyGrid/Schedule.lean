import FuzzyGrid.Command.Fault

/-!
# Schedules

The order in which the nodes of a model can run.  Every name must have one
producer; then the tasks without unfinished dependencies are taken level by
level, and what is never taken is held up by a cycle.
-/

namespace FuzzyGrid

/-- A node as the schedule sees it. -/
structure Task where
  name : String
  /-- The names it refers to, with repetitions. -/
  dependencies : List String
  origin : Origin
  deriving Repr, DecidableEq

inductive ScheduleFault where
  | repeatedInput
  | repeatedResult (name : String) (origin : Origin)
  | unknownDependency (name dependency : String) (origin : Origin)
  | cycle (names : List String)
  deriving Repr, DecidableEq

def ScheduleFault.message : ScheduleFault → String
  | repeatedInput => "Input layer names must be unique"
  | repeatedResult name origin =>
    "Result " ++ name ++ " is defined more than once\n" ++ origin.display
  | unknownDependency name dependency origin =>
    name ++ " depends on unknown result " ++ dependency ++ "\n" ++ origin.display
  | cycle names => "Dependency cycle among: " ++ String.intercalate ", " names

namespace Schedule

/-- The names of a list without repetitions, each where it first occurs. -/
def distinct (seen : List String) : List String → List String
  | [] => []
  | name :: rest =>
    if seen.contains name then distinct seen rest
    else name :: distinct (name :: seen) rest

/-- Whether no name of a list occurs twice. -/
def allDistinct : List String → Bool
  | [] => true
  | name :: rest => !rest.contains name && allDistinct rest

/-- The first task whose name is taken by an input or an earlier task. -/
def repeated? (taken : List String) : List Task → Option Task
  | [] => none
  | task :: rest =>
    if taken.contains task.name then some task
    else repeated? (task.name :: taken) rest

/-- The first dependency of the first task that has one which is not among
the known names. -/
def unknown? (known : List String) : List Task → Option (Task × String)
  | [] => none
  | task :: rest =>
    match task.dependencies.find? fun dependency => !known.contains dependency with
    | some dependency => some (task, dependency)
    | none => unknown? known rest

/-- The position of the task that produces a name. -/
def producer? (tasks : List Task) (name : String) : Option Nat :=
  tasks.findIdx? fun task => task.name == name

/-- The positions of the tasks that a task waits for, one for each distinct
name it refers to. -/
def producers (tasks : List Task) (task : Task) : List Nat :=
  (distinct [] task.dependencies).filterMap (producer? tasks)

/-- For every task the positions of the tasks that it waits for. -/
def waits (tasks : List Task) : List (List Nat) :=
  tasks.map (producers tasks)

/-- The positions, ascending, of the tasks that wait for a given one. -/
def dependents (waits : List (List Nat)) (position : Nat) : List Nat :=
  (List.range waits.length).filter fun waiting =>
    (waits.getD waiting []).contains position

/-- The state of the level loop. -/
structure Progress where
  /-- For every task, how many of those it waits for are unfinished. -/
  unfinished : List Nat
  /-- The tasks that can run next. -/
  ready : List Nat
  /-- The levels taken so far, the latest first. -/
  taken : List (List Nat)
  deriving Repr, DecidableEq

/-- Count one task that `waiting` waits for as finished. -/
def release (unfinished : List Nat) (waiting : Nat) : List Nat :=
  unfinished.modify waiting (fun count => count - 1)

/-- Finish one of the tasks that `waiting` waits for, and note the task if it
was the last one. -/
def releaseOne (state : List Nat × List Nat) (waiting : Nat) :
    List Nat × List Nat :=
  let unfinished := release state.1 waiting
  if unfinished.getD waiting 0 = 0 then (unfinished, state.2 ++ [waiting])
  else (unfinished, state.2)

def insertPosition (position : Nat) : List Nat → List Nat
  | [] => [position]
  | next :: rest =>
    if position ≤ next then position :: next :: rest
    else next :: insertPosition position rest

def ascending (positions : List Nat) : List Nat :=
  positions.foldr insertPosition []

/-- Run all ready tasks: they form the next level, and the tasks that waited
for nothing else become ready. -/
def step (waits : List (List Nat)) (progress : Progress) : Progress :=
  let released := (progress.ready.flatMap (dependents waits)).foldl releaseOne
    (progress.unfinished, [])
  ⟨released.1, ascending released.2, progress.ready :: progress.taken⟩

/-- The loop before its first round. -/
def initial (waits : List (List Nat)) : Progress :=
  let unfinished := waits.map List.length
  ⟨unfinished,
    (List.range waits.length).filter fun position => unfinished.getD position 0 == 0,
    []⟩

/-- Take levels until no task is ready, at most so many times. -/
def run (waits : List (List Nat)) : Nat → Progress → Progress
  | 0, progress => progress
  | rounds + 1, progress =>
    if progress.ready.isEmpty then progress
    else run waits rounds (step waits progress)

/-- The loop after its last round.  Every round finishes a task, so there are
no more rounds than tasks. -/
def finished (waits : List (List Nat)) : Progress :=
  run waits waits.length (initial waits)

/-- The tasks that still wait, as they stand in the list. -/
def waiting (tasks : List Task) (progress : Progress) : List String :=
  ((tasks.zip progress.unfinished).filter fun entry => decide (0 < entry.2)).map
    fun entry => entry.1.name

/-- Check the names of inputs and tasks. -/
def checkNames (inputs : List String) (tasks : List Task) :
    Except ScheduleFault Unit :=
  if !allDistinct inputs then .error .repeatedInput
  else
    match repeated? inputs tasks with
    | some task => .error (.repeatedResult task.name task.origin)
    | none =>
      match unknown? (inputs ++ tasks.map Task.name) tasks with
      | some (task, dependency) =>
        .error (.unknownDependency task.name dependency task.origin)
      | none => .ok ()

/-- The levels of a list of tasks: every task depends on inputs and earlier
levels alone, and a level lists its tasks in order. -/
def levels (inputs : List String) (tasks : List Task) :
    Except ScheduleFault (List (List Nat)) :=
  match checkNames inputs tasks with
  | .error fault => .error fault
  | .ok () =>
    let progress := finished (waits tasks)
    if progress.taken.flatten.length = tasks.length then
      .ok progress.taken.reverse
    else
      .error (.cycle (waiting tasks progress))

end Schedule

end FuzzyGrid
