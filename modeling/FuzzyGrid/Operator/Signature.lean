import FuzzyGrid.Command.Basic

/-!
# Signatures

What an operator says of itself: its names, the types it returns and the
arguments it takes.  A command is checked against the signature before any of
its arguments is read, and the same signature says which results the command
refers to.
-/

namespace FuzzyGrid

/-- Run a check on every item of a list, stopping at the first fault. -/
def checkAll {α ε : Type} (check : α → Except ε Unit) : List α → Except ε Unit
  | [] => .ok ()
  | item :: rest =>
    match check item with
    | .error fault => .error fault
    | .ok () => checkAll check rest

/-- A declared argument and the kinds it takes. -/
structure ArgSpec where
  name : String
  kinds : List ArgKind
  deriving Repr, DecidableEq

namespace ArgSpec

def accepts {α : Type} (spec : ArgSpec) (value : ArgValue α) : Bool :=
  spec.kinds.any fun kind => kind.accepts value

/-- Whether the argument names results. -/
def isFieldReference (spec : ArgSpec) : Bool :=
  spec.kinds.any ArgKind.isFieldReference

end ArgSpec

/-- The description of an operator. -/
structure Signature where
  operator : String
  displayName : String
  description : String
  returns : List DataType
  required : List ArgSpec
  optional : List ArgSpec
  deriving Repr, DecidableEq

namespace Signature

/-- The optional arguments that every operator takes. -/
def sharedOptional : List ArgSpec :=
  [⟨"OutFileName", [.fileName]⟩,
    ⟨"Metadata", [.any]⟩,
    ⟨"PrecursorFieldNames", [.fieldName, .fieldNameList]⟩]

/-- All declared arguments, the required ones first. -/
def specs (signature : Signature) : List ArgSpec :=
  signature.required ++ signature.optional

def spec? (signature : Signature) (arg : String) : Option ArgSpec :=
  signature.specs.find? fun spec => spec.name == arg

variable {α : Type}

/-- A required argument has to be present. -/
def checkPresent (command : Command α) (spec : ArgSpec) :
    Except (CommandError α) Unit :=
  if command.has spec.name then .ok ()
  else .error ⟨.missingArgument spec.name, command.origin⟩

/-- A present argument has to be declared and of a declared kind. -/
def checkArgument (signature : Signature) (command : Command α)
    (entry : String × ArgValue α) : Except (CommandError α) Unit :=
  match signature.spec? entry.1 with
  | none =>
    .error ⟨.invalidArgument entry.1 (.undeclared signature.operator), command.origin⟩
  | some spec =>
    if spec.accepts entry.2 then .ok ()
    else
      .error ⟨.invalidArgument entry.1 (.unexpected spec.kinds entry.2), command.origin⟩

/-- Check a command: first that the required arguments are present, in the
order of their declaration, then every present argument in the order of the
names. -/
def check (signature : Signature) (command : Command α) :
    Except (CommandError α) Unit :=
  match checkAll (checkPresent command) signature.required with
  | .error fault => .error fault
  | .ok () => checkAll (signature.checkArgument command) command.args.entries

/-- The results that a command refers to, in the order of declaration. -/
def fieldReferences (signature : Signature) (command : Command α) : List String :=
  (signature.specs.filter ArgSpec.isFieldReference).flatMap fun spec =>
    match command.get? spec.name with
    | some value => value.items.filterMap ArgValue.text?
    | none => []

end Signature

end FuzzyGrid
