import FuzzyGrid.Command.Argument
import FuzzyGrid.DataType
import FuzzyGrid.Grid.Text
import FuzzyGrid.Workspace

/-!
# Faults

Why a command fails, and where that command was written.  A fault is a cause;
its wording is one function of the cause.  Whoever raises a fault says for which
command, so the two make up an error from the start.
-/

namespace FuzzyGrid

/-- Where a command was written. -/
structure Origin where
  file : String
  line : Nat
  text : String
  deriving Repr, DecidableEq

def Origin.unknown : Origin :=
  ⟨"", 0, ""⟩

/-- The place of a command as it ends every message. -/
def Origin.display (origin : Origin) : String :=
  "File: " ++ origin.file ++ "  Line number: " ++ toString origin.line
    ++ "\nFull command:\n" ++ origin.text

/-- What is wrong with the value of an argument. -/
inductive ArgReason (α : Type) where
  /-- The operator declares no such argument. -/
  | undeclared (operator : String)
  /-- The value is of none of the declared kinds. -/
  | unexpected (kinds : List ArgKind) (found : ArgValue α)
  | notText (found : ArgValue α)
  | notFieldName (found : ArgValue α)
  | notNumber (found : ArgValue α)
  | notInteger (found : ArgValue α)
  /-- The value names neither end of the fuzzy range. -/
  | notAnEnd (found : String)
  | zeroWeightSum
  /-- The file of a report cannot be created. -/
  | notCreated (path : String) (fault : FileFault)
  /-- The system cuts the writing of a file short. -/
  | notWritten (path reason : String)
  /-- The system cuts the printing of a report short. -/
  | notPrinted (reason : String)

def ArgReason.message {α : Type} [Scalar α] : ArgReason α → String
  | .undeclared operator => "not an argument of " ++ operator
  | .unexpected kinds found =>
    "expected " ++ String.intercalate " or " (kinds.map ArgKind.name) ++ ", got "
      ++ found.display
  | .notText found => "expected text, got " ++ found.display
  | .notFieldName found => "expected field name, got " ++ found.display
  | .notNumber found => "expected number, got " ++ found.display
  | .notInteger found => "expected integer, got " ++ found.display
  | .notAnEnd found => "'" ++ found ++ "' must be Truest or Falsest"
  | .zeroWeightSum => "weights sum to zero"
  | .notCreated path fault => "cannot create " ++ path ++ ": " ++ fault.message
  | .notWritten path reason => "cannot write " ++ path ++ ": " ++ reason
  | .notPrinted reason => "cannot write to stdout: " ++ reason

/-- Why a command fails. -/
inductive Fault (α : Type) where
  | notADataLayer (field : String)
  | typeMismatch (field : String) (found : DataType) (allowed : List DataType)
  | tooFewInputs (arg : String) (required found : Nat)
  | lengthMismatch (args : List String) (lengths : List Nat)
  | duplicateValue (arg : String) (value : ArgValue α)
  | degenerateThreshold (arg : String)
  | invalidDirection (arg : String) (value : ArgValue α)
  | missingArgument (arg : String)
  | invalidArgument (arg : String) (reason : ArgReason α)
  | shapeMismatch (arg : String) (mismatch : ShapeMismatch)
  | missingResult (name : String)
  | duplicateResult (name : String)
  | unknownOperator (name : String)

namespace Fault

variable {α : Type}

/-- The argument or result that a fault is about. -/
def subject : Fault α → String
  | notADataLayer field => field
  | typeMismatch field _ _ => field
  | tooFewInputs arg _ _ => arg
  | lengthMismatch args _ => args.head?.getD ""
  | duplicateValue arg _ => arg
  | degenerateThreshold arg => arg
  | invalidDirection arg _ => arg
  | missingArgument arg => arg
  | invalidArgument arg _ => arg
  | shapeMismatch arg _ => arg
  | missingResult name => name
  | duplicateResult name => name
  | unknownOperator name => name

def message [Scalar α] : Fault α → String
  | notADataLayer field => field ++ " is not a data layer"
  | typeMismatch field found allowed =>
    field ++ " has type " ++ found.name ++ ", expected one of "
      ++ String.intercalate ", " (allowed.map DataType.name)
  | tooFewInputs arg required found =>
    arg ++ " needs at least " ++ toString required ++ " entries, got "
      ++ toString found
  | lengthMismatch args lengths =>
    "list arguments " ++ String.intercalate ", " args
      ++ " must have equal lengths, got ["
      ++ String.intercalate ", " (lengths.map toString) ++ "]"
  | duplicateValue arg value => arg ++ " contains duplicate value " ++ value.display
  | degenerateThreshold arg =>
    "True and False thresholds must not be equal (" ++ arg ++ ")"
  | invalidDirection arg value =>
    "Invalid " ++ arg ++ " '" ++ value.display
      ++ "': must be one of LowToHigh, HighToLow"
  | missingArgument arg => "Missing required argument " ++ arg
  | invalidArgument arg reason => "Invalid argument " ++ arg ++ ": " ++ reason.message
  | shapeMismatch arg mismatch => arg ++ ": " ++ mismatch.message
  | missingResult name => "Result " ++ name ++ " has not been computed"
  | duplicateResult name => "Result " ++ name ++ " was already written"
  | unknownOperator name => "Unknown operator " ++ name

end Fault

/-- A fault and the place of the command that it befell. -/
structure CommandError (α : Type) where
  fault : Fault α
  origin : Origin

/-- The full message: the wording of the fault, then the place. -/
def CommandError.message {α : Type} [Scalar α] (error : CommandError α) : String :=
  error.fault.message ++ "\n" ++ error.origin.display

end FuzzyGrid
