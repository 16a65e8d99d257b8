import FuzzyGrid.Operator.Signature

/-!
# The operators

The twenty-six operators a command can name, each with its signature.
-/

namespace FuzzyGrid

inductive Operator where
  | copy
  | subtract
  | divide
  | sum
  | weightedSum
  | multiply
  | minimum
  | maximum
  | mean
  | weightedMean
  | normalize
  | printVariables
  | toFuzzy
  | toFuzzyZScore
  | toFuzzyCategory
  | toFuzzyCurve
  | toFuzzyCurveZScore
  | toBinary
  | fromFuzzy
  | fuzzyUnion
  | fuzzyWeightedUnion
  | fuzzySelectedUnion
  | fuzzyOr
  | fuzzyAnd
  | fuzzyXor
  | fuzzyNot
  deriving Repr, DecidableEq

namespace Operator

/-- All operators, in the order of their names. -/
def all : List Operator :=
  [divide, subtract, copy, fromFuzzy, toBinary, toFuzzy, toFuzzyCategory,
    toFuzzyCurve, toFuzzyCurveZScore, toFuzzyZScore, fuzzyAnd, fuzzyNot,
    fuzzyOr, fuzzySelectedUnion, fuzzyUnion, fuzzyWeightedUnion, fuzzyXor,
    maximum, mean, minimum, multiply, normalize, printVariables, sum,
    weightedMean, weightedSum]

/-- The name by which a command calls an operator. -/
def name : Operator → String
  | copy => "Copy"
  | subtract => "AMinusB"
  | divide => "ADividedByB"
  | sum => "Sum"
  | weightedSum => "WeightedSum"
  | multiply => "Multiply"
  | minimum => "Minimum"
  | maximum => "Maximum"
  | mean => "Mean"
  | weightedMean => "WeightedMean"
  | normalize => "Normalize"
  | printVariables => "PrintVars"
  | toFuzzy => "CvtToFuzzy"
  | toFuzzyZScore => "CvtToFuzzyZScore"
  | toFuzzyCategory => "CvtToFuzzyCat"
  | toFuzzyCurve => "CvtToFuzzyCurve"
  | toFuzzyCurveZScore => "CvtToFuzzyCurveZScore"
  | toBinary => "CvtToBinary"
  | fromFuzzy => "CvtFromFuzzy"
  | fuzzyUnion => "FuzzyUnion"
  | fuzzyWeightedUnion => "FuzzyWeightedUnion"
  | fuzzySelectedUnion => "FuzzySelectedUnion"
  | fuzzyOr => "FuzzyOr"
  | fuzzyAnd => "FuzzyAnd"
  | fuzzyXor => "FuzzyXOr"
  | fuzzyNot => "FuzzyNot"

def ofName? (name : String) : Option Operator :=
  all.find? fun operator => operator.name == name

/-- The name of an operator for readers. -/
def displayName : Operator → String
  | copy => "Copy"
  | subtract => "A Minus B"
  | divide => "A Divided By B"
  | sum => "Sum"
  | weightedSum => "Weighted Sum"
  | multiply => "Multiply"
  | minimum => "Minimum"
  | maximum => "Maximum"
  | mean => "Mean"
  | weightedMean => "Weighted Mean"
  | normalize => "Normalize"
  | printVariables => "Print Variables"
  | toFuzzy | toFuzzyZScore => "Convert to Fuzzy"
  | toFuzzyCategory => "Convert to Fuzzy by Category"
  | toFuzzyCurve | toFuzzyCurveZScore => "Convert to Fuzzy Curve"
  | toBinary => "Convert to Binary"
  | fromFuzzy => "Convert from Fuzzy"
  | fuzzyUnion => "Fuzzy Union"
  | fuzzyWeightedUnion => "Fuzzy Weighted Union"
  | fuzzySelectedUnion => "Fuzzy Selected Union"
  | fuzzyOr => "Fuzzy Or"
  | fuzzyAnd => "Fuzzy And"
  | fuzzyXor => "Fuzzy XOr"
  | fuzzyNot => "Fuzzy Not"

/-- What an operator does, in a sentence. -/
def description : Operator → String
  | copy => "Copies the data from another field"
  | subtract => "Performs A - B"
  | divide => "Performs A / B"
  | sum => "Sums input variables"
  | weightedSum => "Takes the weighted sum of input variables"
  | multiply => "Multiplies input variables"
  | minimum => "Takes the minimum input variables"
  | maximum => "Takes the maximum input variables"
  | mean => "Mean of input variables"
  | weightedMean => "Takes the weighted mean of input variables"
  | normalize => "Normalizes the data from another field to range (default 0:1)"
  | printVariables => "Prints variables to a file or to standard output"
  | toFuzzy => "Converts input values into fuzzy values using linear interpolation"
  | toFuzzyZScore =>
    "Converts input values into fuzzy values using linear interpolation based on Z Score"
  | toFuzzyCategory =>
    "Converts integer input values into fuzzy values through a category lookup"
  | toFuzzyCurve => "Converts input values into fuzzy based on user-defined curve."
  | toFuzzyCurveZScore =>
    "Converts input values into fuzzy based on user-defined curve of Z Scores."
  | toBinary => "Converts input values into binary 0 or 1 based on threshold"
  | fromFuzzy =>
    "Converts input fuzzy values into non-fuzzy values using linear interpolation"
  | fuzzyUnion => "Takes the fuzzy Union (mean) of fuzzy input variables"
  | fuzzyWeightedUnion => "Takes the weighted fuzzy Union (mean) of fuzzy input variables"
  | fuzzySelectedUnion =>
    "Takes the fuzzy Union (mean) of N Truest or Falsest fuzzy input variables"
  | fuzzyOr => "Takes the fuzzy Or (maximum) of fuzzy input variables"
  | fuzzyAnd => "Takes the fuzzy And (minimum) of fuzzy input variables"
  | fuzzyXor =>
    "Computes Fuzzy XOr: Truest - (Truest - 2nd Truest) * (2nd Truest - full False)/(Truest - full False)"
  | fuzzyNot => "Takes the fuzzy Not of a fuzzy input variable"

/-- The types an operator can return. -/
def returns : Operator → List DataType
  | copy => [.any]
  | subtract | divide | weightedSum => [.float, .positiveFloat]
  | sum | multiply | minimum | maximum => DataType.numerics
  | mean | weightedMean | normalize | fromFuzzy => [.float]
  | printVariables => [.bool]
  | toFuzzy | toFuzzyZScore | toFuzzyCategory | toFuzzyCurve | toFuzzyCurveZScore
  | toBinary | fuzzyUnion | fuzzyWeightedUnion | fuzzySelectedUnion | fuzzyOr
  | fuzzyAnd | fuzzyXor | fuzzyNot => [.fuzzy]

def field (arg : String) : ArgSpec :=
  ⟨arg, [.fieldName]⟩

def fields : ArgSpec :=
  ⟨"InFieldNames", [.fieldName, .fieldNameList]⟩

def weights : ArgSpec :=
  ⟨"Weights", [.float, .floatList]⟩

def number (arg : String) : ArgSpec :=
  ⟨arg, [.float]⟩

def required : Operator → List ArgSpec
  | copy | normalize | toFuzzy | fuzzyNot => [field "InFieldName"]
  | subtract | divide => [field "A", field "B"]
  | sum | multiply | minimum | maximum | mean | printVariables | fuzzyUnion
  | fuzzyOr | fuzzyAnd | fuzzyXor => [fields]
  | weightedSum | weightedMean | fuzzyWeightedUnion => [fields, weights]
  | toFuzzyZScore =>
    [field "InFieldName", number "TrueThresholdZScore", number "FalseThresholdZScore"]
  | toFuzzyCategory =>
    [field "InFieldName", ⟨"RawValues", [.integer, .integerList]⟩,
      ⟨"FuzzyValues", [.fuzzyValue, .fuzzyValueList]⟩,
      ⟨"DefaultFuzzyValue", [.fuzzyValue]⟩]
  | toFuzzyCurve =>
    [field "InFieldName", ⟨"RawValues", [.floatList]⟩,
      ⟨"FuzzyValues", [.fuzzyValueList]⟩]
  | toFuzzyCurveZScore =>
    [field "InFieldName", ⟨"ZScoreValues", [.floatList]⟩,
      ⟨"FuzzyValues", [.fuzzyValueList]⟩]
  | toBinary => [field "InFieldName", number "Threshold", ⟨"Direction", [.direction]⟩]
  | fromFuzzy => [field "InFieldName", number "TrueThreshold", number "FalseThreshold"]
  | fuzzySelectedUnion =>
    [fields, ⟨"TruestOrFalsest", [.truestOrFalsest]⟩,
      ⟨"NumberToConsider", [.positiveInteger]⟩]

/-- The optional arguments of an operator beside the shared ones. -/
def ownOptional : Operator → List ArgSpec
  | normalize => [number "StartVal", number "EndVal"]
  | toFuzzy => [number "TrueThreshold", number "FalseThreshold", ⟨"Direction", [.direction]⟩]
  | _ => []

def signature (operator : Operator) : Signature where
  operator := operator.name
  displayName := operator.displayName
  description := operator.description
  returns := operator.returns
  required := operator.required
  optional := Signature.sharedOptional ++ operator.ownOptional

end Operator

end FuzzyGrid
