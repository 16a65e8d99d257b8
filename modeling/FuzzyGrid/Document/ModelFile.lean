import FuzzyGrid.Document.Fields
import FuzzyGrid.Model
import FuzzyGrid.Number.Stepwise
import FuzzyGrid.Text.Quoted

/-!
# Model files

Reading commands, input layers and whole models from JSON.
-/

namespace FuzzyGrid

/-- Why a model file cannot be loaded. -/
inductive ModelFileFault where
  | unreadable (path : String)
  | malformed

def ModelFileFault.messages : ModelFileFault → List String
  | unreadable path => ["Failed to read model file: " ++ Quoted.encode path]
  | malformed => ["Failed to parse model JSON"]

namespace Document

mutual

/-- The value of an argument, with lists nested at most so deep. -/
def argument? : Nat → Json → Option (ArgValue Float)
  | _, .bool value => some (.flag value)
  | _, .number value => value.numeral?.map ArgValue.number
  | _, .string text => some (.text text)
  | 0, .array _ => none
  | levels + 1, .array items => (arguments? levels items).map ArgValue.list
  | _, _ => none

/-- The values of the items of a list. -/
def arguments? : Nat → List Json → Option (List (ArgValue Float))
  | _, [] => some []
  | levels, item :: rest =>
    match argument? levels item, arguments? levels rest with
    | some value, some values => some (value :: values)
    | _, _ => none

end

/-- How deep lists nest in an argument of a model file: values nest a hundred
and twenty-seven deep, and the argument itself lies four deep. -/
def argumentLevels : Nat :=
  123

/-- The arguments of a command; of two with one name the later counts. -/
def argumentTable? : Json → Option (NameTable (ArgValue Float))
  | .object members =>
    (members.mapM fun (member : String × Json) => do
      return (member.1, ← argument? argumentLevels member.2)).map NameTable.ofList
  | _ => none

/-- Where a command was written. -/
def origin? (value : Json) : Option Origin := do
  let [file, line, text] ← fields? ["file", "line", "raw"] value | none
  return ⟨← required? Json.string? file, ← required? Json.natural? line,
    ← required? Json.string? text⟩

def command? (value : Json) : Option (Command Float) := do
  let [result, operator, args, origin] ←
    fields? ["result_name", "operator", "args", "source"] value | none
  return ⟨← required? Json.string? result, ← required? Json.string? operator,
    ← optional? NameTable.empty argumentTable? args,
    ← optional? Origin.unknown origin? origin⟩

/-- A data type, by its name or as an object with the name as its only
member. -/
def dataType? : Json → Option DataType
  | .string name => DataType.ofName? name
  | .object [(name, .null)] => DataType.ofName? name
  | _ => none

/-- A mask, which may be null for none. -/
def mask? : Json → Option (Option (List (List Bool)))
  | .null => some none
  | value => (value.arrayOf? (Json.arrayOf? Json.bool?)).map some

def inputLayer? (value : Json) : Option (InputLayer Float) := do
  let [name, dataType, rows, mask] ←
    fields? ["name", "type", "rows", "mask"] value | none
  return ⟨← required? Json.string? name, ← required? dataType? dataType,
    ← required? (Json.arrayOf? (Json.arrayOf? Json.float?)) rows,
    ← optional? none mask? mask⟩

def modelFile? (value : Json) : Option (ModelFile Float) := do
  let [inputs, commands] ← fields? ["inputs", "commands"] value | none
  return ⟨← optional? [] (Json.arrayOf? inputLayer?) inputs,
    ← required? (Json.arrayOf? command?) commands⟩

end Document

def ModelFile.load (workspace : Workspace) (path : String) :
    Except ModelFileFault (ModelFile Float) :=
  match workspace.read path with
  | .error _ => .error (.unreadable path)
  | .ok text =>
    match (Json.ofText? WrittenNumber.stepwise? text).bind Document.modelFile? with
    | none => .error .malformed
    | some file => .ok file

end FuzzyGrid
