import FuzzyGrid.Operator.Catalog

/-!
# Operations

An operation is an operator together with its arguments, read from a command
as values of their own types.  Operations differ by what they read: one layer,
two layers, a list of layers, or results of any kind.
-/

namespace FuzzyGrid

/-- Which end of the input counts as true. -/
inductive Direction where
  | lowToHigh
  | highToLow
  deriving Repr, DecidableEq

def Direction.ofArgument {α : Type} (origin : Origin) (arg : String)
    (value : ArgValue α) : Except (CommandError α) Direction :=
  match value.text? with
  | some "LowToHigh" => .ok .lowToHigh
  | some "HighToLow" => .ok .highToLow
  | _ => .error ⟨.invalidDirection arg value, origin⟩

/-- Which end of a stack a selected union takes. -/
inductive Selection where
  | truest
  | falsest
  deriving Repr, DecidableEq

def Selection.ofText {α : Type} (origin : Origin) (arg text : String) :
    Except (CommandError α) Selection :=
  match text with
  | "Truest" => .ok .truest
  | "Falsest" => .ok .falsest
  | other => .error ⟨.invalidArgument arg (.notAnEnd other), origin⟩

/-- What is done to one layer.  A direction is kept as it was written and read
when the operation runs. -/
inductive LayerOperation (α : Type) where
  /-- Rescale from the layer's own extent to the given one. -/
  | normalize (start stop : α)
  | toFuzzy (trueAt falseAt : Option α) (direction : Option (ArgValue α))
  | toFuzzyZScore (trueAt falseAt : α)
  | toFuzzyCategory (raw : List Int) (fuzzy : List α) (other : α)
  | toFuzzyCurve (raw : List (Numeral α)) (fuzzy : List α)
  | toFuzzyCurveZScore (scores : List (Numeral α)) (fuzzy : List α)
  | toBinary (threshold : α) (direction : ArgValue α)
  | fromFuzzy (trueAt falseAt : α)
  | fuzzyNot

inductive PairOperation where
  | subtract
  | divide
  deriving Repr, DecidableEq

inductive ListOperation (α : Type) where
  | sum
  | multiply
  | minimum
  | maximum
  | mean
  | weightedSum (weights : List α)
  | weightedMean (weights : List α)
  | fuzzyUnion
  | fuzzyWeightedUnion (weights : List α)
  | fuzzySelectedUnion (selection : Selection) (count : Nat)
  | fuzzyOr
  | fuzzyAnd
  | fuzzyXor

/-- What a command does, and which results it reads for that. -/
inductive Operation (α : Type) where
  /-- Publish a result under another name. -/
  | copy (field : String)
  /-- Report results, to a file if one is named. -/
  | report (fields : List String) (destination : Option String)
  | layer (field : String) (operation : LayerOperation α)
  | pair (first second : String) (operation : PairOperation)
  | list (fields : List String) (operation : ListOperation α)

def Operation.fields {α : Type} : Operation α → List String
  | copy field => [field]
  | report fields _ => fields
  | layer field _ => [field]
  | pair first second _ => [first, second]
  | list fields _ => fields

namespace Operator

variable {α : Type}

def readList (command : Command α) (operation : ListOperation α) :
    Except (CommandError α) (Operation α) := do
  return .list (← command.fieldNames "InFieldNames") operation

def readPair (command : Command α) (operation : PairOperation) :
    Except (CommandError α) (Operation α) := do
  return .pair (← command.fieldName "A") (← command.fieldName "B") operation

variable [Scalar α]

/-- Read an operation on a list of layers with a weight for each. -/
def readWeighted (command : Command α)
    (operation : List α → ListOperation α) :
    Except (CommandError α) (Operation α) := do
  let fields ← command.fieldNames "InFieldNames"
  return .list fields (operation (← command.scalars "Weights"))

def readCurve (command : Command α) (positions : String)
    (operation : List (Numeral α) → List α → LayerOperation α) :
    Except (CommandError α) (Operation α) := do
  let field ← command.fieldName "InFieldName"
  let raw ← command.numerals positions
  return .layer field (operation raw (← command.scalars "FuzzyValues"))

/-- Read two thresholds that have to be present. -/
def readThresholds (command : Command α) (trueAt falseAt : String)
    (operation : α → α → LayerOperation α) : Except (CommandError α) (Operation α) := do
  let field ← command.fieldName "InFieldName"
  let upper ← command.scalar trueAt
  return .layer field (operation upper (← command.scalar falseAt))

/-- Read the arguments of an operator from a command. -/
def read (operator : Operator) (command : Command α) :
    Except (CommandError α) (Operation α) :=
  match operator with
  | copy => do return .copy (← command.fieldName "InFieldName")
  | subtract => readPair command .subtract
  | divide => readPair command .divide
  | sum => readList command .sum
  | multiply => readList command .multiply
  | minimum => readList command .minimum
  | maximum => readList command .maximum
  | mean => readList command .mean
  | weightedSum => readWeighted command .weightedSum
  | weightedMean => readWeighted command .weightedMean
  | normalize => do
    let field ← command.fieldName "InFieldName"
    let start ← command.optionalScalar "StartVal"
    let stop ← command.optionalScalar "EndVal"
    return .layer field
      (.normalize (start.getD (Scalar.ofInt 0)) (stop.getD (Scalar.ofInt 1)))
  | printVariables => do
    let fields ← command.fieldNames "InFieldNames"
    return .report fields (← command.optionalText "OutFileName")
  | toFuzzy => do
    let field ← command.fieldName "InFieldName"
    let trueAt ← command.optionalScalar "TrueThreshold"
    let falseAt ← command.optionalScalar "FalseThreshold"
    return .layer field (.toFuzzy trueAt falseAt (command.get? "Direction"))
  | toFuzzyZScore =>
    readThresholds command "TrueThresholdZScore" "FalseThresholdZScore" .toFuzzyZScore
  | toFuzzyCategory => do
    let field ← command.fieldName "InFieldName"
    let raw ← command.integers "RawValues"
    let fuzzy ← command.scalars "FuzzyValues"
    return .layer field
      (.toFuzzyCategory raw fuzzy (← command.scalar "DefaultFuzzyValue"))
  | toFuzzyCurve => readCurve command "RawValues" .toFuzzyCurve
  | toFuzzyCurveZScore => readCurve command "ZScoreValues" .toFuzzyCurveZScore
  | toBinary => do
    let field ← command.fieldName "InFieldName"
    let threshold ← command.scalar "Threshold"
    return .layer field (.toBinary threshold (← command.require "Direction"))
  | fromFuzzy =>
    readThresholds command "TrueThreshold" "FalseThreshold" .fromFuzzy
  | fuzzyUnion => readList command .fuzzyUnion
  | fuzzyWeightedUnion => readWeighted command .fuzzyWeightedUnion
  | fuzzySelectedUnion => do
    let fields ← command.fieldNames "InFieldNames"
    let text ← command.text "TruestOrFalsest"
    let selection ← Selection.ofText command.origin "TruestOrFalsest" text
    let count ← command.integer "NumberToConsider"
    return .list fields (.fuzzySelectedUnion selection count.toNat)
  | fuzzyOr => readList command .fuzzyOr
  | fuzzyAnd => readList command .fuzzyAnd
  | fuzzyXor => readList command .fuzzyXor
  | fuzzyNot => do return .layer (← command.fieldName "InFieldName") .fuzzyNot

end Operator

end FuzzyGrid
