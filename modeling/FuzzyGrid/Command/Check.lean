import FuzzyGrid.Command.Basic

/-!
# List checks

Checks on the lists among a command's arguments: enough entries, as many
entries as another list, no entry twice.  Each is given the place of the command
whose lists it checks.
-/

namespace FuzzyGrid

namespace Fault

variable {α : Type}

/-- A list needs a least number of entries. -/
def checkMinLength (origin : Origin) (arg : String) (required found : Nat) :
    Except (CommandError α) Unit :=
  if found < required then .error ⟨.tooFewInputs arg required found, origin⟩
  else .ok ()

/-- Whether every number of a list equals its neighbour. -/
def allEqual : List Nat → Bool
  | first :: second :: rest => first == second && allEqual (second :: rest)
  | _ => true

def checkEqualLengths (origin : Origin) (lists : List (String × Nat)) :
    Except (CommandError α) Unit :=
  if allEqual (lists.map Prod.snd) then .ok ()
  else .error ⟨.lengthMismatch (lists.map Prod.fst) (lists.map Prod.snd), origin⟩

def checkDistinct [Scalar α] (origin : Origin) (arg : String)
    (items : List (ArgValue α)) : Except (CommandError α) Unit :=
  match ArgValue.firstRepeat? [] items with
  | some value => .error ⟨.duplicateValue arg value, origin⟩
  | none => .ok ()

end Fault

namespace Command

variable {α : Type}

def requireMinLength (command : Command α) (arg : String) (required : Nat) :
    Except (CommandError α) Unit :=
  Fault.checkMinLength command.origin arg required (command.listLength arg)

def requireEqualLengths (command : Command α) (args : List String) :
    Except (CommandError α) Unit :=
  Fault.checkEqualLengths command.origin
    (args.map fun arg => (arg, command.listLength arg))

/-- The entries of a list argument need to differ; an absent one has none. -/
def requireDistinct [Scalar α] (command : Command α) (arg : String) :
    Except (CommandError α) Unit :=
  match command.get? arg with
  | some value => Fault.checkDistinct command.origin arg value.items
  | none => .ok ()

end Command

end FuzzyGrid
