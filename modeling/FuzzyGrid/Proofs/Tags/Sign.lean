import FuzzyGrid.Proofs.Evaluation.Lockstep

/-!
# The sign of a tag

A numeric tag has a family and says whether the cells are positive.  Operations
ask for families: no list of accepted tags tells a positive tag from its base,
and the tag of a computed result depends on the families of the inputs and on
the computed cells.  Contexts that differ in signs alone let every operation
but a copy come to the same result, and a copy passes on the sign that it
finds.
-/

namespace FuzzyGrid

open List (Forall₂)

namespace DataType

/-- The positive tag of a numeric one. -/
def positive : DataType → DataType
  | integer => positiveInteger
  | float => positiveFloat
  | other => other

/-- A tag without its sign. -/
def family : DataType → DataType
  | positiveInteger => integer
  | positiveFloat => float
  | other => other

@[simp] theorem family_positive (dataType : DataType) :
    dataType.positive.family = dataType.family := by
  cases dataType <;> rfl

theorem isFloat_family (dataType : DataType) :
    dataType.family.isFloat = dataType.isFloat := by
  cases dataType <;> rfl

/-- Whether tags are accepted whatever their sign. -/
def SignBlind (allowed : List DataType) : Prop :=
  ∀ dataType : DataType,
    dataType.family.satisfies allowed = dataType.satisfies allowed

theorem SignBlind.satisfies_eq {allowed : List DataType}
    (blind : SignBlind allowed) {first second : DataType}
    (same : first.family = second.family) :
    first.satisfies allowed = second.satisfies allowed := by
  rw [← blind first, ← blind second, same]

theorem fits_of_family {found asked : DataType}
    (accepted : fits found.family asked = true) : fits found asked = true := by
  revert accepted
  cases found <;> cases asked <;> decide

theorem fits_families {found asked : DataType}
    (accepted : fits found asked = true) :
    fits found.family asked.family = true := by
  revert accepted
  cases found <;> cases asked <;> decide

/-- A list that holds the family of each of its tags does not see the sign. -/
theorem signBlind_of_families {allowed : List DataType}
    (families : ∀ asked ∈ allowed, asked.family ∈ allowed) :
    SignBlind allowed := by
  intro dataType
  rw [Bool.eq_iff_iff, satisfies, satisfies, List.any_eq_true, List.any_eq_true]
  constructor
  · rintro ⟨asked, listed, accepted⟩
    exact ⟨asked, listed, fits_of_family accepted⟩
  · rintro ⟨asked, listed, accepted⟩
    exact ⟨asked.family, families asked listed, fits_families accepted⟩

theorem signBlind_numerics : SignBlind numerics :=
  signBlind_of_families (by decide)

end DataType

variable {α : Type}

open DataType (SignBlind)

theorem LayerOperation.signBlind_accepted (operation : LayerOperation α) :
    SignBlind operation.accepted := by
  apply DataType.signBlind_of_families
  cases operation <;>
    simp [accepted, DataType.numerics, DataType.integers,
      DataType.numericsOrFuzzy, DataType.family]

theorem ListOperation.signBlind_accepted (operation : ListOperation α) :
    SignBlind operation.accepted := by
  apply DataType.signBlind_of_families
  cases operation <;> simp [accepted, DataType.numerics, DataType.family]

/-! ## Results that differ in the sign of their tags -/

/-- Results that are the same but for the sign of their tags. -/
structure Result.SameButSign (first second : Result α) : Prop where
  value : first.value = second.value
  isDataLayer : first.isDataLayer = second.isDataLayer
  family : first.dataType.family = second.dataType.family

/-- Input layers that are the same but for the sign of their tags. -/
structure InputGrid.SameButSign (first second : InputGrid α) : Prop where
  grid : first.grid = second.grid
  family : first.dataType.family = second.dataType.family

/-- Faults that are the same but for the sign of a tag that is refused. -/
inductive Fault.SameButSign : Fault α → Fault α → Prop where
  | refl (fault : Fault α) : SameButSign fault fault
  | typeMismatch {field : String} {found twin : DataType}
      {allowed : List DataType} (family : found.family = twin.family) :
      SameButSign (.typeMismatch field found allowed)
        (.typeMismatch field twin allowed)

theorem Result.SameButSign.refl (result : Result α) : result.SameButSign result :=
  ⟨rfl, rfl, rfl⟩

theorem Result.SameButSign.layerGrid?_eq {first second : Result α}
    (same : first.SameButSign second) :
    first.layerGrid? = second.layerGrid? := by
  rw [layerGrid?, layerGrid?, grid?, grid?, same.isDataLayer, same.value]

/-- Contexts that are the same but for the signs of tags. -/
abbrev ResultContext.SameButSign (first second : ResultContext α) : Prop :=
  first.Related Result.SameButSign second

namespace ResultContext.SameButSign

variable {first second : ResultContext α}

theorem fetch (same : first.SameButSign second) (origin : Origin) (field : String) :
    Outcomes (CommandError.Related Fault.SameButSign) Result.SameButSign
      (first.fetch origin field) (second.fetch origin field) :=
  Related.fetch same .refl origin field

theorem layer (same : first.SameButSign second) (origin : Origin)
    {allowed : List DataType} (blind : SignBlind allowed) (field : String) :
    Outcomes (CommandError.Related Fault.SameButSign) InputGrid.SameButSign
      (first.layer origin allowed field) (second.layer origin allowed field) := by
  unfold ResultContext.layer
  rcases (same.fetch origin field).exists_eq with
    ⟨error, twin, failed, failedToo, errors⟩ |
    ⟨result, twin, found, foundToo, results⟩
  · rw [failed, failedToo]
    exact .error errors
  · rw [found, foundToo]
    dsimp only
    rw [results.layerGrid?_eq, blind.satisfies_eq results.family]
    split
    · exact .error (.refl .refl _)
    · split
      · exact .ok ⟨rfl, results.family⟩
      · exact .error ⟨.typeMismatch results.family, rfl⟩

end ResultContext.SameButSign

/-! ## Operations -/

variable [Scalar α] (origin : Origin)

theorem ListOperation.foldNumeric_of_sameButSign (function : α → α → α)
    {inputs twins : List (InputGrid α)}
    (grids : inputs.map InputGrid.grid = twins.map InputGrid.grid)
    (floats : (inputs.map InputGrid.dataType).any DataType.isFloat =
      (twins.map InputGrid.dataType).any DataType.isFloat) :
    foldNumeric origin function inputs = foldNumeric origin function twins := by
  simp only [foldNumeric, DataType.propagate, grids, floats]

/-- Of the tags of its inputs an operation on a list sees the families. -/
theorem ListOperation.apply_of_sameButSign (range : FuzzyRange α)
    (operation : ListOperation α) {inputs twins : List (InputGrid α)}
    (same : Forall₂ InputGrid.SameButSign inputs twins) :
    operation.apply origin range inputs = operation.apply origin range twins := by
  have grids : inputs.map InputGrid.grid = twins.map InputGrid.grid := by
    rw [← List.forall₂_eq_eq_eq]
    simp only [List.forall₂_map_left_iff, List.forall₂_map_right_iff]
    exact same.imp fun _ _ related => related.grid
  have floats : (inputs.map InputGrid.dataType).any DataType.isFloat =
      (twins.map InputGrid.dataType).any DataType.isFloat := by
    clear grids
    induction same with
    | nil => rfl
    | cons related _ induction =>
        rw [List.map_cons, List.map_cons, List.any_cons, List.any_cons,
          induction, ← DataType.isFloat_family, related.family,
          DataType.isFloat_family]
  cases operation with
  | sum | multiply | minimum | maximum =>
      exact foldNumeric_of_sameButSign origin _ grids floats
  | _ => simp only [apply, grids]

namespace Operation

/-- What is not copied is the same for contexts that differ in signs. -/
theorem compute_of_sameButSign {operation : Operation α}
    (computes : ∀ field, operation ≠ .copy field)
    {first second : ResultContext α} (same : first.SameButSign second) :
    Outcomes (CommandError.Related Fault.SameButSign) Eq
      (operation.compute origin first) (operation.compute origin second) := by
  cases operation with
  | copy field => exact absurd rfl (computes field)
  | report fields destination =>
      have lines : ∀ field, Outcomes (CommandError.Related Fault.SameButSign) Eq
          (reportLine origin first field) (reportLine origin second field) := by
        intro field
        apply (same.fetch origin field).bind
        intro result twin results
        rw [results.value]
        exact .ok rfl
      apply (Outcomes.readAll lines fields).bind
      intro texts twins equal
      rw [List.forall₂_eq_eq_eq] at equal
      rw [equal]
      exact .ok rfl
  | layer field operation =>
      apply (same.layer origin operation.signBlind_accepted field).bind
      intro input twin inputs
      rw [inputs.grid, same.range]
      exact .same (.refl .refl) _
  | pair left right operation =>
      apply (same.layer origin DataType.signBlind_numerics left).bind
      intro leftInput leftTwin lefts
      apply (same.layer origin DataType.signBlind_numerics right).bind
      intro rightInput rightTwin rights
      rw [lefts.grid, rights.grid]
      exact .same (.refl .refl) _
  | list fields operation =>
      apply (Outcomes.same (.refl .refl)
        (operation.checkCounts origin fields.length)).bind
      intro _ _ _
      apply (Outcomes.readAll (same.layer origin operation.signBlind_accepted)
        fields).bind
      intro inputs twins layers
      rw [same.range, operation.apply_of_sameButSign origin second.range layers]
      exact .same (.refl .refl) _

/-- A copy passes on what it finds. -/
theorem compute_copy_eq_ok_iff {field : String} {context : ResultContext α}
    {computed : Computed α} :
    (copy field).compute origin context = .ok computed ↔
      context.get? field = some computed.result ∧ computed.report = none := by
  obtain ⟨result, report⟩ := computed
  cases held : context.get? field with
  | none => simp [compute, ResultContext.fetch, held, Bind.bind, Except.bind]
  | some other =>
      simp [compute, ResultContext.fetch, held, Bind.bind, Except.bind, pure,
        Except.pure, eq_comm]

end Operation

/-- No operation comes to a different end where signs differ. -/
theorem respected_sameButSign :
    Respected (α := α) Result.SameButSign Fault.SameButSign := by
  refine ⟨.refl, ?_⟩
  intro origin operation first second same
  by_cases copies : ∃ field, operation = .copy field
  · obtain ⟨field, rfl⟩ := copies
    exact (ResultContext.SameButSign.fetch same origin field).bind
      fun _ _ results => .ok ⟨results, rfl⟩
  · rcases (Operation.compute_of_sameButSign origin
      (fun field isCopy => copies ⟨field, isCopy⟩) same).exists_eq with
      ⟨error, twin, failed, failedToo, errors⟩ |
      ⟨computed, twin, success, successToo, rfl⟩
    · rw [failed, failedToo]
      exact .error errors
    · rw [success, successToo]
      exact .ok ⟨.refl _, rfl⟩

end FuzzyGrid
