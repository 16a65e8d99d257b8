import FuzzyGrid.Proofs.Safety.GuardedGrid

/-!
# Operations with guards

Every operation again, with guarded operations where it divides, indexes,
slices or replaces a mask.  Thresholds, extents and sums of weights are compared
only to be refused, and that is what keeps the guards out of the way: an
operation on enough grids, with a weight for each where there are weights,
comes to what it comes to without guards.
-/

namespace FuzzyGrid.Guarded

open Attempt (total guarded bind_eq guarded_eq guarded_bind_eq)

variable {α : Type} [Scalar α]

/-! ## One layer -/

section Layers

variable (origin : Origin) (allows : α → Bool)

def applyNormalize (start stop : α) (grid : Grid α) : Attempt α (Result α) :=
  match grid.least?, grid.greatest? with
  | some least, some greatest =>
    if Scalar.eq least greatest then
      total (.error ⟨.degenerateThreshold "InFieldName", origin⟩)
    else do
      let rescaled ← guarded (map grid fun value => do
        let part ← divide allows ((value - least) * (start - stop)) (least - greatest)
        return part + start)
      return .layer rescaled .float
  | _, _ => total (.error ⟨.degenerateThreshold "InFieldName", origin⟩)

def applyLine (range : FuzzyRange α) (blamed : String) (trueAt falseAt : α)
    (grid : Grid α) : Attempt α (Result α) :=
  if Scalar.eq trueAt falseAt then total (.error ⟨.degenerateThreshold blamed, origin⟩)
  else do
    let mapped ← guarded (line allows trueAt range.high falseAt range.low grid)
    return fuzzyLayer range mapped

def applyThresholds (range : FuzzyRange α) (trueAt falseAt : Option α)
    (grid : Grid α) : Attempt α (Result α) :=
  match trueAt, falseAt with
  | none, _ => total (.error ⟨.missingArgument "TrueThreshold", origin⟩)
  | _, none => total (.error ⟨.missingArgument "FalseThreshold", origin⟩)
  | some upper, some lower =>
    applyLine origin allows range "TrueThreshold" upper lower grid

def applyToFuzzy (range : FuzzyRange α) (trueAt falseAt : Option α)
    (direction : Option (ArgValue α)) (grid : Grid α) : Attempt α (Result α) :=
  match direction with
  | none => applyThresholds origin allows range trueAt falseAt grid
  | some value =>
    match Direction.ofArgument origin "Direction" value with
    | .error error => total (.error error)
    | .ok direction =>
      match grid.least?, grid.greatest?, direction with
      | some least, some greatest, .lowToHigh =>
        applyThresholds origin allows range (trueAt.or (some greatest))
          (falseAt.or (some least)) grid
      | some least, some greatest, .highToLow =>
        applyThresholds origin allows range (trueAt.or (some least))
          (falseAt.or (some greatest)) grid
      | _, _, _ => total (.ok (fuzzyLayer range grid))

def applyToFuzzyZScore (range : FuzzyRange α) (trueAt falseAt : α)
    (grid : Grid α) : Attempt α (Result α) :=
  if Scalar.eq trueAt falseAt then
    total (.error ⟨.degenerateThreshold "TrueThresholdZScore", origin⟩)
  else do
    match ← guarded (mean? allows grid), ← guarded (deviation? allows grid) with
    | some mean, some deviation =>
      applyLine origin allows range "InFieldName" (mean + deviation * trueAt)
        (mean + deviation * falseAt) grid
    | _, _ => return fuzzyLayer range grid

def applyToFuzzyCurve (range : FuzzyRange α) (raw : List (Numeral α))
    (fuzzy : List α) (grid : Grid α) : Attempt α (Result α) := do
  total (LayerOperation.checkCurve origin "RawValues" raw fuzzy)
  let points := Curve.ascendingPoints (raw.map Numeral.value) fuzzy
  return fuzzyLayer range (← guarded (map grid (height allows points)))

def applyToFuzzyCurveZScore (range : FuzzyRange α) (scores : List (Numeral α))
    (fuzzy : List α) (grid : Grid α) : Attempt α (Result α) := do
  total (LayerOperation.checkCurve origin "ZScoreValues" scores fuzzy)
  match ← guarded (mean? allows grid), ← guarded (deviation? allows grid) with
  | some mean, some deviation =>
    let positions := scores.map fun score => mean + score.value * deviation
    let points := Curve.ascendingPoints positions fuzzy
    return fuzzyLayer range (← guarded (map grid (height allows points)))
  | _, _ => return fuzzyLayer range grid

def applyFromFuzzy (range : FuzzyRange α) (trueAt falseAt : α)
    (grid : Grid α) : Attempt α (Result α) :=
  if Scalar.eq trueAt falseAt then
    total (.error ⟨.degenerateThreshold "TrueThreshold", origin⟩)
  else do
    let mapped ← guarded (line allows range.high trueAt range.low falseAt grid)
    return .layer mapped .float

/-- Categories, steps and complements take every scalar. -/
def applyLayer (range : FuzzyRange α) (operation : LayerOperation α)
    (grid : Grid α) : Attempt α (Result α) :=
  match operation with
  | .normalize start stop => applyNormalize origin allows start stop grid
  | .toFuzzy trueAt falseAt direction =>
    applyToFuzzy origin allows range trueAt falseAt direction grid
  | .toFuzzyZScore trueAt falseAt =>
    applyToFuzzyZScore origin allows range trueAt falseAt grid
  | .toFuzzyCurve raw fuzzy => applyToFuzzyCurve origin allows range raw fuzzy grid
  | .toFuzzyCurveZScore scores fuzzy =>
    applyToFuzzyCurveZScore origin allows range scores fuzzy grid
  | .fromFuzzy trueAt falseAt => applyFromFuzzy origin allows range trueAt falseAt grid
  | other => total (other.apply origin range grid)

variable {origin allows} (divisors : Divisors allows) (range : FuzzyRange α)

include divisors

theorem applyNormalize_eq (start stop : α) (grid : Grid α) :
    applyNormalize origin allows start stop grid =
      total (LayerOperation.applyNormalize origin start stop grid) := by
  unfold applyNormalize LayerOperation.applyNormalize
  cases grid.least? with
  | none => rfl
  | some least =>
      cases grid.greatest? with
      | none => rfl
      | some greatest =>
          by_cases flat : Scalar.eq least greatest
          · simp [flat]
          · have wide := (divisors.apart (Bool.eq_false_iff.mpr flat)).1
            have rescaled : (map grid fun value => do
                let part ← divide allows ((value - least) * (start - stop))
                  (least - greatest)
                return part + start) =
                some (grid.map fun value =>
                  (value - least) * (start - stop) / (least - greatest) + start) :=
              map_eq fun value => by simp [divide_eq wide]
            simp only [flat, guarded_bind_eq rescaled]
            rfl

theorem applyLine_eq (blamed : String) (trueAt falseAt : α) (grid : Grid α) :
    applyLine origin allows range blamed trueAt falseAt grid =
      total (LayerOperation.applyLine origin range blamed trueAt falseAt grid) := by
  unfold applyLine LayerOperation.applyLine
  split
  · rfl
  · rename_i differ
    have wide := (divisors.apart (Bool.eq_false_iff.mpr differ)).2
    exact guarded_bind_eq (line_eq wide _ _ grid)

theorem applyThresholds_eq (trueAt falseAt : Option α) (grid : Grid α) :
    applyThresholds origin allows range trueAt falseAt grid =
      total (LayerOperation.applyThresholds origin range trueAt falseAt grid) := by
  cases trueAt with
  | none => rfl
  | some upper =>
      cases falseAt with
      | none => rfl
      | some lower => exact applyLine_eq divisors range _ upper lower grid

theorem applyToFuzzy_eq (trueAt falseAt : Option α)
    (direction : Option (ArgValue α)) (grid : Grid α) :
    applyToFuzzy origin allows range trueAt falseAt direction grid =
      total (LayerOperation.applyToFuzzy origin range trueAt falseAt direction grid) := by
  have thresholds (upper lower : Option α) :
      applyThresholds origin allows range upper lower grid =
        total (LayerOperation.applyThresholds origin range upper lower grid) :=
    applyThresholds_eq divisors range upper lower grid
  cases direction with
  | none => exact thresholds trueAt falseAt
  | some value =>
      simp only [applyToFuzzy, LayerOperation.applyToFuzzy]
      cases Direction.ofArgument origin "Direction" value with
      | error fault => rfl
      | ok direction =>
          cases grid.least? with
          | none => rfl
          | some least =>
              cases grid.greatest? with
              | none => rfl
              | some greatest =>
                  cases direction with
                  | lowToHigh => exact thresholds _ _
                  | highToLow => exact thresholds _ _

theorem applyToFuzzyZScore_eq (trueAt falseAt : α) (grid : Grid α) :
    applyToFuzzyZScore origin allows range trueAt falseAt grid =
      total (LayerOperation.applyToFuzzyZScore origin range trueAt falseAt grid) := by
  unfold applyToFuzzyZScore LayerOperation.applyToFuzzyZScore
  rw [guarded_bind_eq (mean?_eq divisors grid),
    guarded_bind_eq (deviation?_eq divisors grid)]
  split
  · rfl
  · cases grid.mean? with
    | none => rfl
    | some mean =>
        cases grid.deviation? with
        | none => rfl
        | some deviation => exact applyLine_eq divisors range _ _ _ grid

theorem applyToFuzzyCurve_eq (raw : List (Numeral α)) (fuzzy : List α)
    (grid : Grid α) :
    applyToFuzzyCurve origin allows range raw fuzzy grid =
      total (LayerOperation.applyToFuzzyCurve origin range raw fuzzy grid) := by
  apply bind_eq rfl
  intro _ _
  exact guarded_bind_eq (map_eq (height_eq divisors _))

theorem applyToFuzzyCurveZScore_eq (scores : List (Numeral α)) (fuzzy : List α)
    (grid : Grid α) :
    applyToFuzzyCurveZScore origin allows range scores fuzzy grid =
      total (LayerOperation.applyToFuzzyCurveZScore origin range scores fuzzy grid) := by
  apply bind_eq rfl
  intro _ _
  rw [guarded_bind_eq (mean?_eq divisors grid),
    guarded_bind_eq (deviation?_eq divisors grid)]
  cases grid.mean? with
  | none => rfl
  | some mean =>
      cases grid.deviation? with
      | none => rfl
      | some deviation => exact guarded_bind_eq (map_eq (height_eq divisors _))

omit divisors in
theorem applyFromFuzzy_eq (wide : allows (range.low - range.high))
    (trueAt falseAt : α) (grid : Grid α) :
    applyFromFuzzy origin allows range trueAt falseAt grid =
      total (LayerOperation.applyFromFuzzy origin range trueAt falseAt grid) := by
  unfold applyFromFuzzy LayerOperation.applyFromFuzzy
  split
  · rfl
  · exact guarded_bind_eq (line_eq wide _ _ grid)

theorem applyLayer_eq (wide : allows (range.low - range.high))
    (operation : LayerOperation α) (grid : Grid α) :
    applyLayer origin allows range operation grid =
      total (operation.apply origin range grid) := by
  cases operation with
  | normalize start stop => exact applyNormalize_eq divisors start stop grid
  | toFuzzy trueAt falseAt direction =>
      exact applyToFuzzy_eq divisors range trueAt falseAt direction grid
  | toFuzzyZScore trueAt falseAt =>
      exact applyToFuzzyZScore_eq divisors range trueAt falseAt grid
  | toFuzzyCurve raw fuzzy => exact applyToFuzzyCurve_eq divisors range raw fuzzy grid
  | toFuzzyCurveZScore scores fuzzy =>
      exact applyToFuzzyCurveZScore_eq divisors range scores fuzzy grid
  | fromFuzzy trueAt falseAt =>
      exact applyFromFuzzy_eq range wide trueAt falseAt grid
  | toFuzzyCategory _ _ _ | toBinary _ _ | fuzzyNot => rfl

end Layers

/-! ## Two layers -/

section Pairs

variable (origin : Origin) (allows : α → Bool)

/-- The divisors of the cells that a mask leaves open are allowed. -/
def openAllowed (mask : List Bool) (divisors : List α) : Bool :=
  (List.zipWith (fun masked divisor => masked || allows divisor)
    mask divisors).all id

/-- The new mask has to fit, and the cells it leaves open have to be defined. -/
def quotient (first second : Grid α) : Attempt α (Grid α) := do
  let divided ← total (Grid.blame origin "B"
    (first.zipWith second .union fun dividend divisor => dividend / divisor))
  let mask := List.zipWith (fun masked divisor => masked || Scalar.eq divisor zero)
    divided.mask second.values
  let masked ← guarded (divided.replaceMask mask).toOption
  guarded (if openAllowed allows mask second.values then some masked else none)

def applyPair (operation : PairOperation) (first second : Grid α) :
    Attempt α (Result α) := do
  let grid ←
    match operation with
    | .subtract =>
      total (Grid.blame origin "B" (first.zipWith second .union fun x y => x - y))
    | .divide => quotient origin allows first second
  return .layer grid (DataType.floatFor grid)

variable {origin allows} (divisors : Divisors allows)

omit [Scalar α] in
private theorem size_le_of_zipWith {arg : String} {first second combined : Grid α}
    {rule : MaskRule} {function : α → α → α}
    (combines : Grid.blame origin arg (first.zipWith second rule function) =
      .ok combined) : combined.size ≤ second.size := by
  unfold Grid.zipWith at combines
  split at combines
  · cases combines
    simp [Grid.size]
  · cases combines

include divisors

/-- Where the divisor is a zero the cell is masked. -/
theorem openAllowed_masked (masks : List Bool) (values : List α) :
    openAllowed allows
      (List.zipWith (fun masked divisor => masked || Scalar.eq divisor zero)
        masks values) values = true := by
  induction masks generalizing values with
  | nil => rfl
  | cons masked masks induction =>
      cases values with
      | nil => rfl
      | cons divisor rest =>
          have others := induction rest
          unfold openAllowed at others ⊢
          cases isZero : Scalar.eq divisor zero with
          | false => simpa [isZero, divisors.nonzero isZero] using others
          | true => simpa [isZero] using others

theorem quotient_eq (first second : Grid α) :
    quotient origin allows first second =
      total (PairOperation.quotient origin first second) := by
  apply bind_eq rfl
  intro divided divides
  have fits : (List.zipWith (fun masked divisor => masked || Scalar.eq divisor zero)
      divided.mask second.values).length = divided.size := by
    have most : divided.cells.length ≤ second.cells.length :=
      size_le_of_zipWith divides
    simp [Grid.mask, Grid.values, Grid.size, most]
  have masked := openAllowed_masked divisors divided.mask second.values
  simp only [Grid.replaceMask, fits, masked, ↓reduceIte]
  rfl

theorem applyPair_eq (operation : PairOperation) (first second : Grid α) :
    applyPair origin allows operation first second =
      total (operation.apply origin first second) := by
  cases operation with
  | subtract => exact bind_eq rfl fun _ _ => rfl
  | divide => exact bind_eq (quotient_eq divisors first second) fun _ _ => rfl

end Pairs

/-! ## Lists of layers -/

section Lists

variable (origin : Origin) (allows : α → Bool)

def meanGrid (grids : List (Grid α)) : Attempt α (Grid α) := do
  let sum ← total (Grid.fold origin ListOperation.argument (fun x y => x + y) grids)
  guarded (map sum fun value => divide allows value (Scalar.ofNat grids.length))

/-- The first weight and the others, which go with the other grids. -/
def weightedSum (grids : List (Grid α)) (weights : List α) :
    Attempt α (Grid α) :=
  match grids with
  | [] => total (.error ⟨.tooFewInputs ListOperation.argument 1 0, origin⟩)
  | first :: rest => do
    let weight ← guarded weights[0]?
    let others ← guarded (slice 1 weights.length weights)
    total (Grid.addWeighted origin ListOperation.argument
      (first.map fun value => value * weight) rest others)

def divideByWeights (weights : List α) (sum : Grid α) : Option (Grid α) :=
  map sum fun value => divide allows value (Scalar.total weights)

def selectedMean (selection : Selection) (count : Nat) (ascending : List α) :
    Option α := do
  let chosen ←
    match selection with
    | .truest => do
      slice (← less ascending.length count) ascending.length ascending
    | .falsest => slice 0 count ascending
  divide allows (Scalar.total chosen) (Scalar.ofNat count)

def exclusiveOr (low : α) (ascending : List α) : Option α := do
  let top ← ascending[← less ascending.length 1]?
  let second ← ascending[← less ascending.length 2]?
  if Scalar.le top low then return low
  else
    let part ← divide allows ((top - second) * (second - low)) (top - low)
    return top - part

/-- Folds take every list of layers. -/
def applyList (range : FuzzyRange α) (operation : ListOperation α)
    (inputs : List (InputGrid α)) : Attempt α (Result α) :=
  let grids := inputs.map InputGrid.grid
  match operation with
  | .mean => do return .layer (← meanGrid origin allows grids) .float
  | .weightedSum weights => do
    let grid ← weightedSum origin grids weights
    return .layer grid (DataType.floatFor grid)
  | .weightedMean weights => do
    let grid ← weightedSum origin grids weights
    total (ListOperation.checkWeightSum origin weights)
    return .layer (← guarded (divideByWeights allows weights grid)) .float
  | .fuzzyUnion => do return fuzzyLayer range (← meanGrid origin allows grids)
  | .fuzzyWeightedUnion weights => do
    total (ListOperation.checkWeightSum origin weights)
    let grid ← weightedSum origin grids weights
    return fuzzyLayer range (← guarded (divideByWeights allows weights grid))
  | .fuzzySelectedUnion selection count => do
    let stack ← stack origin grids
    return fuzzyLayer range
      (← guarded (reduce stack (selectedMean allows selection count)))
  | .fuzzyXor => do
    let stack ← stack origin grids
    return fuzzyLayer range
      (← guarded (reduce stack (exclusiveOr allows range.low)))
  | other => total (other.apply origin range inputs)

variable {origin allows} (divisors : Divisors allows)

include divisors

theorem meanGrid_eq {grids : List (Grid α)} (some : 0 < grids.length) :
    meanGrid origin allows grids = total (ListOperation.meanGrid origin grids) := by
  apply bind_eq rfl
  intro sum _
  exact guarded_eq (map_eq (divide_eq (divisors.count some)))

omit divisors in
theorem weightedSum_eq {grids : List (Grid α)} {weights : List α}
    (lengths : weights.length = grids.length) :
    weightedSum origin grids weights =
      total (Grid.weightedSum origin ListOperation.argument grids weights) := by
  cases grids with
  | nil => rfl
  | cons first rest =>
      obtain ⟨weight, others, rfl⟩ :=
        List.exists_cons_of_length_eq_add_one lengths
      have cut : slice 1 (weight :: others).length (weight :: others) =
          some others := by
        rw [slice_eq (by simp) (Nat.le_refl _), List.take_length]
        rfl
      have head : (weight :: others)[0]? = some weight := rfl
      rw [weightedSum, guarded_bind_eq head, guarded_bind_eq cut]
      rfl

theorem divideByWeights_eq {weights : List α}
    (checked : ListOperation.checkWeightSum origin weights = .ok ()) (sum : Grid α) :
    divideByWeights allows weights sum =
      some (ListOperation.divideByWeights weights sum) := by
  have isNot : Scalar.eq (Scalar.total weights) zero = false := by
    unfold ListOperation.checkWeightSum at checked
    split at checked
    · cases checked
    · rename_i isNot
      exact Bool.eq_false_iff.mpr isNot
  exact map_eq (divide_eq (divisors.nonzero isNot))

theorem selectedMean_eq (selection : Selection) {count : Nat}
    {ascending : List α} (positive : 0 < count)
    (enough : count ≤ ascending.length) :
    selectedMean allows selection count ascending =
      some (ListOperation.selectedMean selection count ascending) := by
  have divided := divide_eq (divisors.count positive)
  cases selection with
  | truest =>
      have cut := slice_eq (Nat.sub_le ascending.length count)
        (Nat.le_refl ascending.length)
      rw [List.take_length] at cut
      simp [selectedMean, less_eq enough, cut, divided,
        ListOperation.selectedMean]
  | falsest =>
      have cut := slice_eq (Nat.zero_le count) enough
      rw [List.drop_zero] at cut
      simp [selectedMean, cut, divided, ListOperation.selectedMean]

theorem exclusiveOr_eq (low : α) {ascending : List α}
    (enough : 2 ≤ ascending.length) :
    exclusiveOr allows low ascending =
      some (ListOperation.exclusiveOr low ascending) := by
  obtain ⟨top, second, rest, reversed⟩ :
      ∃ top second rest, ascending.reverse = top :: second :: rest := by
    rw [← List.length_reverse] at enough
    match ascending.reverse, enough with
    | top :: second :: rest, _ => exact ⟨top, second, rest, rfl⟩
  have atTop : ascending[ascending.length - 1]? = some top := by
    have inside := List.getElem?_reverse (Nat.lt_of_lt_of_le Nat.two_pos enough)
    rw [reversed] at inside
    exact inside.symm
  have atSecond : ascending[ascending.length - 2]? = some second := by
    have inside := List.getElem?_reverse (Nat.lt_of_lt_of_le Nat.one_lt_two enough)
    rw [reversed] at inside
    exact inside.symm
  unfold exclusiveOr ListOperation.exclusiveOr
  rw [reversed, less_eq (Nat.le_of_succ_le enough), less_eq enough]
  cases notAbove : Scalar.le top low with
  | true => simp [atTop, atSecond, notAbove]
  | false =>
      simp [atTop, atSecond, notAbove, divide_eq (divisors.above notAbove)]

/-- With enough layers, each of the size that its shape has, and a weight for each
where there are weights, no guard of a list operation is in the way. -/
theorem applyList_eq (range : FuzzyRange α) {filling : Nat → Nat → Nat}
    {operation : ListOperation α} {inputs : List (InputGrid α)}
    (checked : operation.checkCounts origin inputs.length = .ok ())
    (positive : ∀ selection count,
      operation = .fuzzySelectedUnion selection count → 0 < count)
    (filled : ∀ input ∈ inputs, input.grid.Filled filling) :
    applyList origin allows range operation inputs =
      total (operation.apply origin range inputs) := by
  have enough : operation.least ≤ (inputs.map InputGrid.grid).length := by
    simpa using ListOperation.least_le_of_checkCounts checked
  have some_ := Nat.le_trans operation.one_le_least enough
  have lengths : ∀ weights, operation.weights? = some weights →
      weights.length = (inputs.map InputGrid.grid).length := by
    intro weights weighted
    simpa using ListOperation.length_weights_of_checkCounts checked weighted
  have stacked := stack_eq origin (List.forall_mem_map.mpr filled)
  cases operation with
  | sum | multiply | minimum | maximum | fuzzyOr | fuzzyAnd => rfl
  | mean | fuzzyUnion =>
      exact bind_eq (meanGrid_eq divisors some_) fun _ _ => rfl
  | weightedSum weights =>
      exact bind_eq (weightedSum_eq (lengths weights rfl)) fun _ _ => rfl
  | weightedMean weights =>
      apply bind_eq (weightedSum_eq (lengths weights rfl))
      intro sum _
      apply bind_eq rfl
      intro _ passed
      exact guarded_bind_eq (divideByWeights_eq divisors passed sum)
  | fuzzyWeightedUnion weights =>
      apply bind_eq rfl
      intro _ passed
      apply bind_eq (weightedSum_eq (lengths weights rfl))
      intro sum _
      exact guarded_bind_eq (divideByWeights_eq divisors passed sum)
  | fuzzySelectedUnion selection count =>
      apply bind_eq stacked
      intro stack isStack
      apply guarded_bind_eq
      apply reduce_eq
      intro cell member
      apply selectedMean_eq divisors selection (positive selection count rfl)
      rw [length_of_mem_stack isStack member]
      exact Nat.le_trans (Nat.le_max_left count 1) enough
  | fuzzyXor =>
      apply bind_eq stacked
      intro stack isStack
      apply guarded_bind_eq
      apply reduce_eq
      intro cell member
      apply exclusiveOr_eq divisors range.low
      rw [length_of_mem_stack isStack member]
      exact enough

end Lists

end FuzzyGrid.Guarded
