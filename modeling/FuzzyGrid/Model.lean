import FuzzyGrid.Node
import FuzzyGrid.Schedule

/-!
# Models

A model is a list of input layers and a list of nodes.  Evaluating it publishes
the inputs and then executes the nodes level by level, up to the first failure.
As with nodes, `evaluate` is the run in which no sort gives up and `evaluate?` is
stopped by one that does.
-/

namespace FuzzyGrid

/-- Why an input layer cannot be made. -/
inductive InputFault where
  | badGrid (name : String) (fault : GridFault)
  | maskLayout (name : String)
  | maskShape (name : String) (mismatch : ShapeMismatch)
  deriving Repr, DecidableEq

/-- The messages of an input fault, the outermost first. -/
def InputFault.messages : InputFault → List String
  | badGrid name fault => ["Invalid grid for input " ++ name, fault.message]
  | maskLayout name => ["Mask of input " ++ name ++ " does not match its rows"]
  | maskShape name mismatch => ["Mask of input " ++ name ++ ": " ++ mismatch.message]

/-- Nested rows of values, and nested rows of mask bits if any cell is
masked. -/
structure InputLayer (α : Type) where
  name : String
  dataType : DataType
  rows : List (List α)
  mask : Option (List (List Bool))
  deriving Repr, DecidableEq

namespace InputLayer

variable {α : Type}

/-- Whether a nested mask has the layout of nested rows. -/
def fits (rows : List (List α)) (mask : List (List Bool)) : Bool :=
  mask.map List.length == rows.map List.length

def toGrid (input : InputLayer α) : Except InputFault (Grid α) :=
  match Grid.ofRows input.rows with
  | .error fault => .error (.badGrid input.name fault)
  | .ok grid =>
    match input.mask with
    | none => .ok grid
    | some mask =>
      if fits input.rows mask then
        match grid.replaceMask mask.flatten with
        | .ok masked => .ok masked
        | .error mismatch => .error (.maskShape input.name mismatch)
      else .error (.maskLayout input.name)

def toLayer (input : InputLayer α) : Except InputFault (String × Result α) :=
  input.toGrid.map fun grid => (input.name, .layer grid input.dataType)

end InputLayer

/-- Why a model cannot be made or evaluated. -/
inductive ModelError (α : Type) where
  | unbuildable (name : String) (error : CommandError α)
  | input (fault : InputFault)
  | schedule (fault : ScheduleFault)
  | notInjected (name : String) (error : CommandError α)
  | aborted (error : CommandError α)

namespace ModelError

variable {α : Type}

/-- The failure of a command behind a model error. -/
def commandError? : ModelError α → Option (CommandError α)
  | unbuildable _ error | notInjected _ error | aborted error => some error
  | input _ | schedule _ => none

/-- The messages of a model error, the outermost first. -/
def messages [Scalar α] : ModelError α → List String
  | unbuildable name error => ["Failed to build node " ++ name, error.message]
  | input fault => fault.messages
  | schedule fault => [fault.message]
  | notInjected name error => ["Failed to inject input " ++ name, error.message]
  | aborted error => ["Model evaluation aborted", error.message]

end ModelError

structure Summary where
  inputs : Nat
  nodes : Nat
  levels : Nat
  deriving Repr, DecidableEq

variable {α : Type} [Scalar α]

structure Model (α : Type) [Scalar α] where
  inputs : List (String × Result α)
  nodes : List (Node α)

/-- A node as the schedule sees it. -/
def Node.task (node : Node α) : Task :=
  ⟨node.name, node.dependencies, node.command.origin⟩

namespace Model

/-- The positions of the nodes, level by level. -/
def levels (model : Model α) : Except ScheduleFault (List (List Nat)) :=
  Schedule.levels (model.inputs.map Prod.fst) (model.nodes.map Node.task)

/-- The positions of the nodes in the order in which they run. -/
def order (model : Model α) : Except ScheduleFault (List Nat) :=
  model.levels.map List.flatten

def nodesAt (model : Model α) (positions : List Nat) : List (Node α) :=
  positions.filterMap fun position => model.nodes[position]?

/-- Publish input layers up to the first name that has a result already.  No
command speaks for an input. -/
def inject : List (String × Result α) → Session α →
    Session α × Except (ModelError α) Unit
  | [], session => (session, .ok ())
  | (name, result) :: rest, session =>
    match session.context.publish Origin.unknown name result with
    | .error error => (session, .error (.notInjected name error))
    | .ok context => inject rest (session.withContext context)

/-- Publish the inputs and execute every node. -/
def evaluate (model : Model α) (session : Session α) :
    Session α × Except (ModelError α) Summary :=
  match model.levels with
  | .error fault => (session, .error (.schedule fault))
  | .ok levels =>
    match inject model.inputs session with
    | (after, .error error) => (after, .error error)
    | (after, .ok ()) =>
      match Node.executeAll (model.nodesAt levels.flatten) after with
      | (finished, .error error) => (finished, .error (.aborted error))
      | (finished, .ok ()) =>
        (finished, .ok ⟨model.inputs.length, model.nodes.length, levels.length⟩)

/-- Publish the inputs and execute every node, unless a sort gives up. -/
def evaluate? (model : Model α) (session : Session α) :
    Session α × Option (Except (ModelError α) Summary) :=
  match model.levels with
  | .error fault => (session, some (.error (.schedule fault)))
  | .ok levels =>
    match inject model.inputs session with
    | (after, .error error) => (after, some (.error error))
    | (after, .ok ()) =>
      match Node.executeAll? (model.nodesAt levels.flatten) after with
      | (finished, none) => (finished, none)
      | (finished, some (.error error)) => (finished, some (.error (.aborted error)))
      | (finished, some (.ok ())) =>
        (finished,
          some (.ok ⟨model.inputs.length, model.nodes.length, levels.length⟩))

end Model

/-- A model as it is written down. -/
structure ModelFile (α : Type) where
  inputs : List (InputLayer α)
  commands : List (Command α)

namespace ModelFile

def buildNode (command : Command α) : Except (ModelError α) (Node α) :=
  match Node.build command with
  | .ok node => .ok node
  | .error error => .error (.unbuildable command.result error)

def readInput (input : InputLayer α) : Except (ModelError α) (String × Result α) :=
  match input.toLayer with
  | .ok layer => .ok layer
  | .error fault => .error (.input fault)

/-- The model that is written down.  All commands are built before any input
is read. -/
def toModel (file : ModelFile α) : Except (ModelError α) (Model α) := do
  let nodes ← readAll buildNode file.commands
  let inputs ← readAll readInput file.inputs
  return ⟨inputs, nodes⟩

end ModelFile

end FuzzyGrid
