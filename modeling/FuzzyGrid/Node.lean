import FuzzyGrid.Operator.Sorts

/-!
# Nodes

A node is a command that has been checked and read.  It can be computed from a
context, and executed in a session, where its report is written and its result
published.  Every error is raised for the command of the node.

A run ends without an outcome where a sort gives up.  `execute` and `executeAll`
say what is done in a run in which none does, `execute?` and `executeAll?` are
stopped by one that does.
-/

namespace FuzzyGrid

variable {α : Type} [Scalar α]

/-- The operator and the operation of a command: its operator has to exist, its
arguments have to match the signature, and they have to be readable. -/
def Command.interpret (command : Command α) :
    Except (CommandError α) (Operator × Operation α) :=
  match Operator.ofName? command.operator with
  | none => .error ⟨.unknownOperator command.operator, command.origin⟩
  | some operator =>
    match operator.signature.check command with
    | .error error => .error error
    | .ok () =>
      match operator.read command with
      | .error error => .error error
      | .ok operation => .ok (operator, operation)

/-- A command with its operator and operation. -/
structure Node (α : Type) [Scalar α] where
  command : Command α
  operator : Operator
  operation : Operation α
  /-- The operation is what the command says. -/
  interpreted : command.interpret = .ok (operator, operation)

/-- What a run works on: the results so far and the workspace. -/
structure Session (α : Type) where
  context : ResultContext α
  workspace : Workspace

def Session.withContext (session : Session α) (context : ResultContext α) :
    Session α :=
  { session with context := context }

def Session.withWorkspace (session : Session α) (workspace : Workspace) :
    Session α :=
  { session with workspace := workspace }

/-- Write a report, for the command at a place.  The file it goes to has to be
creatable, and what the system takes of the text stays even if that is not all. -/
def Workspace.deliver (workspace : Workspace) (origin : Origin) (report : Report) :
    Workspace × Except (CommandError α) Unit :=
  match report.destination with
  | none =>
    match workspace.passed none report.text with
    | (text, .ok ()) => (workspace.print text, .ok ())
    | (text, .error reason) =>
      (workspace.print text,
        .error ⟨.invalidArgument "InFieldNames" (.notPrinted reason), origin⟩)
  | some path =>
    match workspace.locate path with
    | .error fault =>
      (workspace,
        .error ⟨.invalidArgument "OutFileName" (.notCreated path fault), origin⟩)
    | .ok file =>
      match workspace.passed (some file) report.text with
      | (text, .ok ()) => (workspace.put file text, .ok ())
      | (text, .error reason) =>
        (workspace.put file text,
          .error ⟨.invalidArgument "OutFileName" (.notWritten path reason), origin⟩)

namespace Node

def build (command : Command α) : Except (CommandError α) (Node α) :=
  match interpreted : command.interpret with
  | .ok (operator, operation) => .ok ⟨command, operator, operation, interpreted⟩
  | .error error => .error error

def name (node : Node α) : String :=
  node.command.result

/-- The results that a node refers to, by the signature of its operator. -/
def dependencies (node : Node α) : List String :=
  node.operator.signature.fieldReferences node.command

/-- Compute a node's result and report without writing anything. -/
def compute (node : Node α) (context : ResultContext α) :
    Except (CommandError α) (Computed α) :=
  node.operation.compute node.command.origin context

/-- Compute a node and write its report. -/
def perform (node : Node α) (session : Session α) :
    Session α × Except (CommandError α) (Result α) :=
  match node.compute session.context with
  | .error error => (session, .error error)
  | .ok computed =>
    match computed.report with
    | none => (session, .ok computed.result)
    | some report =>
      match session.workspace.deliver node.command.origin report with
      | (workspace, .error error) => (session.withWorkspace workspace, .error error)
      | (workspace, .ok ()) => (session.withWorkspace workspace, .ok computed.result)

/-- Compute a node, write its report and publish its result. -/
def execute (node : Node α) (session : Session α) :
    Session α × Except (CommandError α) Unit :=
  match node.perform session with
  | (after, .error error) => (after, .error error)
  | (after, .ok result) =>
    match after.context.publish node.command.origin node.name result with
    | .error error => (after, .error error)
    | .ok context => (after.withContext context, .ok ())

/-- Execute nodes one after another up to the first failure. -/
def executeAll : List (Node α) → Session α →
    Session α × Except (CommandError α) Unit
  | [], session => (session, .ok ())
  | node :: rest, session =>
    match node.execute session with
    | (after, .error error) => (after, .error error)
    | (after, .ok ()) => executeAll rest after

/-- Whether a sort gives up when a node is computed. -/
def givesUp (node : Node α) (context : ResultContext α) : Bool :=
  node.operation.givesUp node.command.origin context

/-- Execute a node unless a sort gives up, which leaves no outcome. -/
def execute? (node : Node α) (session : Session α) :
    Session α × Option (Except (CommandError α) Unit) :=
  if node.givesUp session.context then (session, none)
  else ((node.execute session).1, some (node.execute session).2)

/-- Execute nodes one after another up to the first failure or until a sort gives
up. -/
def executeAll? : List (Node α) → Session α →
    Session α × Option (Except (CommandError α) Unit)
  | [], session => (session, some (.ok ()))
  | node :: rest, session =>
    match node.execute? session with
    | (after, none) => (after, none)
    | (after, some (.error error)) => (after, some (.error error))
    | (after, some (.ok ())) => executeAll? rest after

end Node

end FuzzyGrid
