import FuzzyGrid.Command.Fault

/-!
# Commands

A command names a result, an operator and the operator's arguments.  The
accessors below read an argument as a value of some type and say what is wrong,
and in which command, where it is not one.
-/

namespace FuzzyGrid

/-- One statement of a model. -/
structure Command (α : Type) where
  result : String
  operator : String
  args : NameTable (ArgValue α)
  origin : Origin

/-- Apply a reading to every item of a list, stopping at the first fault. -/
def readAll {α β ε : Type} (read : α → Except ε β) : List α → Except ε (List β)
  | [] => .ok []
  | item :: rest =>
    match read item with
    | .error fault => .error fault
    | .ok value =>
      match readAll read rest with
      | .error fault => .error fault
      | .ok values => .ok (value :: values)

namespace Command

variable {α : Type}

def get? (command : Command α) (arg : String) : Option (ArgValue α) :=
  command.args.get? arg

def has (command : Command α) (arg : String) : Bool :=
  command.args.contains arg

def set (command : Command α) (arg : String) (value : ArgValue α) : Command α :=
  { command with args := command.args.insert arg value }

/-- The value of an argument that has to be present. -/
def require (command : Command α) (arg : String) : Except (CommandError α) (ArgValue α) :=
  match command.get? arg with
  | some value => .ok value
  | none => .error ⟨.missingArgument arg, command.origin⟩

/-- The number of items of an argument; an absent one has none. -/
def listLength (command : Command α) (arg : String) : Nat :=
  match command.get? arg with
  | some value => value.items.length
  | none => 0

/-- Read one value, with the reason to give where it cannot be read. -/
def readValue {β : Type} (command : Command α) (arg : String)
    (read? : ArgValue α → Option β) (reason : ArgValue α → ArgReason α)
    (value : ArgValue α) : Except (CommandError α) β :=
  match read? value with
  | some result => .ok result
  | none => .error ⟨.invalidArgument arg (reason value), command.origin⟩

def readOne {β : Type} (command : Command α) (arg : String)
    (read? : ArgValue α → Option β) (reason : ArgValue α → ArgReason α) :
    Except (CommandError α) β := do
  command.readValue arg read? reason (← command.require arg)

def readMany {β : Type} (command : Command α) (arg : String)
    (read? : ArgValue α → Option β) (reason : ArgValue α → ArgReason α) :
    Except (CommandError α) (List β) := do
  readAll (command.readValue arg read? reason) (← command.require arg).items

def ifPresent {β : Type} (command : Command α) (arg : String)
    (read : String → Except (CommandError α) β) : Except (CommandError α) (Option β) :=
  if command.has arg then (read arg).map some else .ok none

def text (command : Command α) (arg : String) : Except (CommandError α) String :=
  command.readOne arg ArgValue.text? .notText

def optionalText (command : Command α) (arg : String) :
    Except (CommandError α) (Option String) :=
  command.ifPresent arg command.text

def fieldName (command : Command α) (arg : String) : Except (CommandError α) String :=
  command.text arg

/-- The names of results; a single name is a list of one. -/
def fieldNames (command : Command α) (arg : String) :
    Except (CommandError α) (List String) :=
  command.readMany arg ArgValue.text? .notFieldName

/-- The names of results, none where the argument is absent. -/
def optionalFieldNames (command : Command α) (arg : String) :
    Except (CommandError α) (List String) :=
  (command.ifPresent arg command.fieldNames).map fun names => names.getD []

def integer (command : Command α) (arg : String) : Except (CommandError α) Int :=
  command.readOne arg ArgValue.integer? .notInteger

def integers (command : Command α) (arg : String) : Except (CommandError α) (List Int) :=
  command.readMany arg ArgValue.integer? .notInteger

/-- A list of numbers as they were written. -/
def numerals (command : Command α) (arg : String) :
    Except (CommandError α) (List (Numeral α)) :=
  command.readMany arg ArgValue.numeral? .notNumber

variable [Scalar α]

def scalar (command : Command α) (arg : String) : Except (CommandError α) α :=
  command.readOne arg ArgValue.scalar? .notNumber

def optionalScalar (command : Command α) (arg : String) :
    Except (CommandError α) (Option α) :=
  command.ifPresent arg command.scalar

def scalars (command : Command α) (arg : String) : Except (CommandError α) (List α) :=
  command.readMany arg ArgValue.scalar? .notNumber

end Command

end FuzzyGrid
