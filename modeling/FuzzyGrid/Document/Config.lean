import FuzzyGrid.Document.Fields
import FuzzyGrid.FuzzyRange
import FuzzyGrid.Number.Stepwise
import FuzzyGrid.Text.Quoted
import FuzzyGrid.Workspace

/-!
# Configurations

The settings of a run: the fuzzy range, and whether the nodes of a level may
run side by side.  A range read from a file is checked like any other.
-/

namespace FuzzyGrid

/-- The settings of a run. -/
structure Config where
  range : FuzzyRange Float
  parallel : Bool

/-- Why a configuration cannot be loaded. -/
inductive ConfigFault where
  | unreadable (path : String)
  | malformed
  | badRange (path : String) (fault : RangeFault Float)

/-- The messages of a configuration fault, the outermost first. -/
def ConfigFault.messages : ConfigFault → List String
  | unreadable path => ["Failed to read engine config: " ++ Quoted.encode path]
  | malformed => ["Failed to parse engine config JSON"]
  | badRange path fault =>
    ["Invalid fuzzy range in " ++ Quoted.encode path, fault.message]

namespace Document

/-- A fuzzy range as it is written, unchecked. -/
def range? (value : Json) : Option (FuzzyRange Float) := do
  let [low, high] ← fields? ["min", "max"] value | none
  return ⟨← required? Json.float? low, ← required? Json.float? high⟩

/-- Settings as they are written, each with its default. -/
def config? (value : Json) : Option Config := do
  let [range, parallel] ← fields? ["fuzzy", "parallel"] value | none
  return ⟨← optional? FuzzyRange.standard range? range,
    ← optional? false Json.bool? parallel⟩

end Document

namespace Config

/-- The settings of a run that has no configuration. -/
def standard : Config :=
  ⟨FuzzyRange.standard, false⟩

def load (workspace : Workspace) (path : String) : Except ConfigFault Config :=
  match workspace.read path with
  | .error _ => .error (.unreadable path)
  | .ok text =>
    match (Json.ofText? WrittenNumber.stepwise? text).bind Document.config? with
    | none => .error .malformed
    | some config =>
      match FuzzyRange.ofEnds config.range.low config.range.high with
      | .error fault => .error (.badRange path fault)
      | .ok _ => .ok config

def loadIfNamed (workspace : Workspace) : Option String → Except ConfigFault Config
  | some path => load workspace path
  | none => .ok standard

end Config

end FuzzyGrid
