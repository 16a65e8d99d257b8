import FuzzyGrid.Operator.Combine
import FuzzyGrid.Operator.Curve
import FuzzyGrid.Operator.Operation

/-!
# Computing operations

What an operation makes of the results it reads.  Each kind of operation first
gets its input layers and then computes from these and the fuzzy range alone.
Every operator with a fuzzy result ends by moving the unmasked cells into the
fuzzy range.  The place of the command goes along to every check that can fail.
-/

namespace FuzzyGrid

variable {α : Type} [Scalar α]

/-- A grid as a fuzzy layer, its unmasked cells moved into the range. -/
def fuzzyLayer (range : FuzzyRange α) (grid : Grid α) : Result α :=
  .layer (grid.clampUnmasked range.low range.high) .fuzzy

def zero : α :=
  Scalar.ofInt 0

namespace LayerOperation

def accepted : LayerOperation α → List DataType
  | normalize _ _ => DataType.numerics
  | toFuzzyCategory _ _ _ => DataType.integers
  | fromFuzzy _ _ | fuzzyNot => [.fuzzy]
  | _ => DataType.numericsOrFuzzy

/-- Rescale a layer from its own extent, which must have a width. -/
def applyNormalize (origin : Origin) (start stop : α) (grid : Grid α) :
    Except (CommandError α) (Result α) :=
  match grid.least?, grid.greatest? with
  | some least, some greatest =>
    if Scalar.eq least greatest then
      .error ⟨.degenerateThreshold "InFieldName", origin⟩
    else
      .ok (.layer
        (grid.map fun value =>
          (value - least) * (start - stop) / (least - greatest) + start)
        .float)
  | _, _ => .error ⟨.degenerateThreshold "InFieldName", origin⟩

/-- Convert by the line through the true threshold at the top of the range and
the false threshold at its bottom. -/
def applyLine (origin : Origin) (range : FuzzyRange α) (blamed : String)
    (trueAt falseAt : α) (grid : Grid α) : Except (CommandError α) (Result α) :=
  if Scalar.eq trueAt falseAt then .error ⟨.degenerateThreshold blamed, origin⟩
  else
    .ok (fuzzyLayer range
      (grid.map (lineThrough trueAt range.high falseAt range.low)))

/-- Convert by two thresholds of which each may be missing. -/
def applyThresholds (origin : Origin) (range : FuzzyRange α)
    (trueAt falseAt : Option α) (grid : Grid α) :
    Except (CommandError α) (Result α) :=
  match trueAt, falseAt with
  | none, _ => .error ⟨.missingArgument "TrueThreshold", origin⟩
  | _, none => .error ⟨.missingArgument "FalseThreshold", origin⟩
  | some upper, some lower => applyLine origin range "TrueThreshold" upper lower grid

/-- Convert by thresholds, those not given being taken from the layer's extent
in the given direction. -/
def applyToFuzzy (origin : Origin) (range : FuzzyRange α) (trueAt falseAt : Option α)
    (direction : Option (ArgValue α)) (grid : Grid α) :
    Except (CommandError α) (Result α) :=
  match direction with
  | none => applyThresholds origin range trueAt falseAt grid
  | some value =>
    match Direction.ofArgument origin "Direction" value with
    | .error error => .error error
    | .ok direction =>
      match grid.least?, grid.greatest?, direction with
      | some least, some greatest, .lowToHigh =>
        applyThresholds origin range (trueAt.or (some greatest))
          (falseAt.or (some least)) grid
      | some least, some greatest, .highToLow =>
        applyThresholds origin range (trueAt.or (some least))
          (falseAt.or (some greatest)) grid
      | _, _, _ => .ok (fuzzyLayer range grid)

/-- Convert by thresholds that lie a number of standard deviations from the
layer's mean. -/
def applyToFuzzyZScore (origin : Origin) (range : FuzzyRange α) (trueAt falseAt : α)
    (grid : Grid α) : Except (CommandError α) (Result α) :=
  if Scalar.eq trueAt falseAt then
    .error ⟨.degenerateThreshold "TrueThresholdZScore", origin⟩
  else
    match grid.mean?, grid.deviation? with
    | some mean, some deviation =>
      applyLine origin range "InFieldName" (mean + deviation * trueAt)
        (mean + deviation * falseAt) grid
    | _, _ => .ok (fuzzyLayer range grid)

/-- The fuzzy value of the first category that equals a scalar. -/
def categoryValue (table : List (α × α)) (other value : α) : α :=
  match table.find? fun entry => Scalar.eq entry.1 value with
  | some entry => entry.2
  | none => other

def applyToFuzzyCategory (origin : Origin) (range : FuzzyRange α) (raw : List Int)
    (fuzzy : List α) (other : α) (grid : Grid α) :
    Except (CommandError α) (Result α) := do
  Fault.checkEqualLengths origin
    [("FuzzyValues", fuzzy.length), ("RawValues", raw.length)]
  Fault.checkDistinct origin "RawValues"
    (raw.map fun value => ArgValue.number (Numeral.whole value))
  let table := (raw.map Scalar.ofInt).zip fuzzy
  return fuzzyLayer range (grid.map (categoryValue table other))

/-- A curve needs two points, as many heights as positions, and no position
twice. -/
def checkCurve (origin : Origin) (positions : String) (raw : List (Numeral α))
    (fuzzy : List α) : Except (CommandError α) Unit := do
  Fault.checkMinLength origin positions 2 raw.length
  Fault.checkEqualLengths origin
    [(positions, raw.length), ("FuzzyValues", fuzzy.length)]
  Fault.checkDistinct origin positions (raw.map ArgValue.number)

def applyToFuzzyCurve (origin : Origin) (range : FuzzyRange α)
    (raw : List (Numeral α)) (fuzzy : List α) (grid : Grid α) :
    Except (CommandError α) (Result α) := do
  checkCurve origin "RawValues" raw fuzzy
  let points := Curve.ascendingPoints (raw.map Numeral.value) fuzzy
  return fuzzyLayer range (grid.map (Curve.height points))

/-- Convert by a curve whose positions lie a number of standard deviations
from the layer's mean. -/
def applyToFuzzyCurveZScore (origin : Origin) (range : FuzzyRange α)
    (scores : List (Numeral α)) (fuzzy : List α) (grid : Grid α) :
    Except (CommandError α) (Result α) := do
  checkCurve origin "ZScoreValues" scores fuzzy
  match grid.mean?, grid.deviation? with
  | some mean, some deviation =>
    let positions := scores.map fun score => mean + score.value * deviation
    let points := Curve.ascendingPoints positions fuzzy
    return fuzzyLayer range (grid.map (Curve.height points))
  | _, _ => return fuzzyLayer range grid

/-- Convert to zero below a threshold and one from there on, or the other way
round. -/
def applyToBinary (origin : Origin) (range : FuzzyRange α) (threshold : α)
    (direction : ArgValue α) (grid : Grid α) : Except (CommandError α) (Result α) := do
  let direction ← Direction.ofArgument origin "Direction" direction
  let one : α := Scalar.ofInt 1
  let (below, above) :=
    match direction with
    | .lowToHigh => (zero, one)
    | .highToLow => (one, zero)
  return fuzzyLayer range
    (grid.map fun value => if Scalar.lt value threshold then below else above)

/-- Convert back by the same line with its axes exchanged. -/
def applyFromFuzzy (origin : Origin) (range : FuzzyRange α) (trueAt falseAt : α)
    (grid : Grid α) : Except (CommandError α) (Result α) :=
  if Scalar.eq trueAt falseAt then .error ⟨.degenerateThreshold "TrueThreshold", origin⟩
  else
    .ok (.layer (grid.map (lineThrough range.high trueAt range.low falseAt)) .float)

def apply (origin : Origin) (range : FuzzyRange α) (operation : LayerOperation α)
    (grid : Grid α) : Except (CommandError α) (Result α) :=
  match operation with
  | normalize start stop => applyNormalize origin start stop grid
  | toFuzzy trueAt falseAt direction =>
    applyToFuzzy origin range trueAt falseAt direction grid
  | toFuzzyZScore trueAt falseAt =>
    applyToFuzzyZScore origin range trueAt falseAt grid
  | toFuzzyCategory raw fuzzy other =>
    applyToFuzzyCategory origin range raw fuzzy other grid
  | toFuzzyCurve raw fuzzy => applyToFuzzyCurve origin range raw fuzzy grid
  | toFuzzyCurveZScore scores fuzzy =>
    applyToFuzzyCurveZScore origin range scores fuzzy grid
  | toBinary threshold direction => applyToBinary origin range threshold direction grid
  | fromFuzzy trueAt falseAt => applyFromFuzzy origin range trueAt falseAt grid
  | fuzzyNot => .ok (fuzzyLayer range (grid.map range.complement))

end LayerOperation

namespace PairOperation

/-- The quotient of two grids; a cell whose divisor is zero is masked. -/
def quotient (origin : Origin) (first second : Grid α) :
    Except (CommandError α) (Grid α) := do
  let divided ← Grid.blame origin "B"
    (first.zipWith second .union fun dividend divisor => dividend / divisor)
  let mask := List.zipWith (fun masked divisor => masked || Scalar.eq divisor zero)
    divided.mask second.values
  Grid.blame origin "B" (divided.replaceMask mask)

def apply (origin : Origin) (operation : PairOperation) (first second : Grid α) :
    Except (CommandError α) (Result α) := do
  let grid ←
    match operation with
    | subtract => Grid.blame origin "B" (first.zipWith second .union fun x y => x - y)
    | divide => quotient origin first second
  return .layer grid (DataType.floatFor grid)

end PairOperation

namespace ListOperation

/-- The argument that names the layers. -/
def argument : String :=
  "InFieldNames"

def accepted : ListOperation α → List DataType
  | sum | multiply | minimum | maximum | mean | weightedSum _ | weightedMean _ =>
    DataType.numerics
  | _ => [.fuzzy]

/-- How many layers an operation needs. -/
def least : ListOperation α → Nat
  | fuzzySelectedUnion _ count => max count 1
  | fuzzyXor => 2
  | _ => 1

/-- The weights of an operation that has them. -/
def weights? : ListOperation α → Option (List α)
  | weightedSum weights | weightedMean weights | fuzzyWeightedUnion weights =>
    some weights
  | _ => none

/-- Before any layer is read, there have to be enough of them, and a weight
for each where there are weights. -/
def checkCounts (origin : Origin) (operation : ListOperation α) (count : Nat) :
    Except (CommandError α) Unit :=
  match Fault.checkMinLength origin argument operation.least count with
  | .error error => .error error
  | .ok () =>
    match operation.weights? with
    | some weights =>
      Fault.checkEqualLengths origin
        [(argument, count), ("Weights", weights.length)]
    | none => .ok ()

def foldNumeric (origin : Origin) (function : α → α → α)
    (inputs : List (InputGrid α)) : Except (CommandError α) (Result α) := do
  let grid ← Grid.fold origin argument function (inputs.map InputGrid.grid)
  return .layer grid (DataType.propagate (inputs.map InputGrid.dataType) grid)

/-- The mean of several grids, cell by cell. -/
def meanGrid (origin : Origin) (grids : List (Grid α)) :
    Except (CommandError α) (Grid α) := do
  let sum ← Grid.fold origin argument (fun x y => x + y) grids
  return sum.map fun value => value / Scalar.ofNat grids.length

/-- The weights have to add up to something other than zero. -/
def checkWeightSum (origin : Origin) (weights : List α) :
    Except (CommandError α) Unit :=
  if Scalar.eq (Scalar.total weights) zero then
    .error ⟨.invalidArgument "Weights" .zeroWeightSum, origin⟩
  else .ok ()

/-- A weighted sum divided by the sum of the weights. -/
def divideByWeights (weights : List α) (sum : Grid α) : Grid α :=
  sum.map fun value => value / Scalar.total weights

/-- The mean of the values that a selection takes from an ascending stack. -/
def selectedMean (selection : Selection) (count : Nat) (ascending : List α) : α :=
  let chosen :=
    match selection with
    | .truest => ascending.drop (ascending.length - count)
    | .falsest => ascending.take count
  Scalar.total chosen / Scalar.ofNat count

/-- Exclusive or of the two greatest values of an ascending stack. -/
def exclusiveOr (low : α) (ascending : List α) : α :=
  match ascending.reverse with
  | top :: second :: _ =>
    if Scalar.le top low then low
    else top - (top - second) * (second - low) / (top - low)
  | _ => low

def apply (origin : Origin) (range : FuzzyRange α) (operation : ListOperation α)
    (inputs : List (InputGrid α)) : Except (CommandError α) (Result α) :=
  let grids := inputs.map InputGrid.grid
  match operation with
  | sum => foldNumeric origin (fun x y => x + y) inputs
  | multiply => foldNumeric origin (fun x y => x * y) inputs
  | minimum => foldNumeric origin Scalar.lesser inputs
  | maximum => foldNumeric origin Scalar.greater inputs
  | mean => do return .layer (← meanGrid origin grids) .float
  | weightedSum weights => do
    let grid ← Grid.weightedSum origin argument grids weights
    return .layer grid (DataType.floatFor grid)
  | weightedMean weights => do
    let grid ← Grid.weightedSum origin argument grids weights
    checkWeightSum origin weights
    return .layer (divideByWeights weights grid) .float
  | fuzzyUnion => do return fuzzyLayer range (← meanGrid origin grids)
  | fuzzyWeightedUnion weights => do
    checkWeightSum origin weights
    let grid ← Grid.weightedSum origin argument grids weights
    return fuzzyLayer range (divideByWeights weights grid)
  | fuzzySelectedUnion selection count => do
    let stack ← Grid.stack origin argument grids
    return fuzzyLayer range (stack.reduce (selectedMean selection count))
  | fuzzyOr => do
    return fuzzyLayer range (← Grid.fold origin argument Scalar.greater grids)
  | fuzzyAnd => do
    return fuzzyLayer range (← Grid.fold origin argument Scalar.lesser grids)
  | fuzzyXor => do
    let stack ← Grid.stack origin argument grids
    return fuzzyLayer range (stack.reduce (exclusiveOr range.low))

end ListOperation

/-- What an operation computes: a result, and the lines it reports. -/
structure Computed (α : Type) where
  result : Result α
  report : Option Report
  deriving Repr, DecidableEq

def reportLine (origin : Origin) (context : ResultContext α) (field : String) :
    Except (CommandError α) String := do
  let result ← context.fetch origin field
  return field ++ ": " ++ result.value.text

namespace Operation

/-- Compute an operation, for the command at a place, from the results published
so far. -/
def compute (origin : Origin) (operation : Operation α) (context : ResultContext α) :
    Except (CommandError α) (Computed α) :=
  match operation with
  | copy field => do return ⟨← context.fetch origin field, none⟩
  | report fields destination => do
    let lines ← readAll (reportLine origin context) fields
    return ⟨⟨.flag true, .bool, false⟩, some ⟨destination, lines⟩⟩
  | layer field operation => do
    let input ← context.layer origin operation.accepted field
    return ⟨← operation.apply origin context.range input.grid, none⟩
  | pair first second operation => do
    let left ← context.layer origin DataType.numerics first
    let right ← context.layer origin DataType.numerics second
    return ⟨← operation.apply origin left.grid right.grid, none⟩
  | list fields operation => do
    operation.checkCounts origin fields.length
    let inputs ← context.layers origin operation.accepted fields
    return ⟨← operation.apply origin context.range inputs, none⟩

end Operation

end FuzzyGrid
