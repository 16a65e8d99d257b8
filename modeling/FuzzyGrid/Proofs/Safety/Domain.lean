import FuzzyGrid.Document.Config
import FuzzyGrid.Proofs.Operator.Admission
import FuzzyGrid.Proofs.Safety.Operations

/-!
# Nodes stay in the domain of what they use

What keeps an operation on a list of layers in its domain has been checked
elsewhere: the kinds of the arguments when the command was read, and the numbers
of fields and weights in the command as it is written.  Both hold of the
operation of a node.  So a node that is computed with guards comes to what it
computes without them: in any arithmetic no access is out of bounds, and in
exact arithmetic there is no division by zero either.
-/

namespace FuzzyGrid

open Attempt (total guarded bind_eq guarded_eq guarded_bind_eq)

variable {α : Type} [Scalar α]

/-! ## Counts -/

/-- What is known of a list operation that has been read from a command. -/
structure Command.ReadsList (command : Command α) (fields : List String)
    (operation : ListOperation α) : Prop where
  fields : command.fieldNames ListOperation.argument = .ok fields
  weights : ∀ weights, operation.weights? = some weights →
    command.scalars "Weights" = .ok weights
  positive : ∀ selection count,
    operation = .fuzzySelectedUnion selection count → 0 < count

namespace Command

variable {command : Command α} {fields : List String}

theorem readsList_of_readList {operation read : ListOperation α}
    (success : Operator.readList command read = .ok (.list fields operation))
    (unweighted : read.weights? = none)
    (other : ∀ selection count, read ≠ .fuzzySelectedUnion selection count) :
    command.ReadsList fields operation := by
  obtain ⟨names, found, same⟩ := bind_eq_ok.mp success
  cases same
  refine ⟨found, ?_, ?_⟩
  · intro weights weighted
    rw [unweighted] at weighted
    cases weighted
  · intro selection count selects
    exact absurd selects (other selection count)

theorem readsList_of_readWeighted {operation : ListOperation α}
    {read : List α → ListOperation α}
    (success : Operator.readWeighted command read =
      .ok (.list fields operation))
    (weighted : ∀ weights, (read weights).weights? = some weights)
    (other : ∀ weights selection count,
      read weights ≠ .fuzzySelectedUnion selection count) :
    command.ReadsList fields operation := by
  obtain ⟨names, found, rest⟩ := bind_eq_ok.mp success
  obtain ⟨weights, foundWeights, same⟩ := bind_eq_ok.mp rest
  cases same
  refine ⟨found, ?_, ?_⟩
  · intro others has
    rw [weighted] at has
    cases has
    exact foundWeights
  · intro selection count selects
    exact absurd selects (other weights selection count)

/-- A list operation of a node has its fields and weights from the arguments
of the command, and a selected union takes at least one value. -/
theorem readsList_of_interpret {operator : Operator}
    {operation : ListOperation α}
    (interpreted : command.interpret = .ok (operator, .list fields operation)) :
    command.ReadsList fields operation := by
  have ⟨checked, reads⟩ := checked_of_interpret interpreted
  have ⟨same, _⟩ := operator.read_readsAs command _ reads
  subst same
  cases operation with
  | sum | multiply | minimum | maximum | mean | fuzzyUnion | fuzzyOr | fuzzyAnd
  | fuzzyXor => exact readsList_of_readList reads rfl nofun
  | weightedSum _ | weightedMean _ | fuzzyWeightedUnion _ =>
      exact readsList_of_readWeighted reads (fun _ => rfl) nofun
  | fuzzySelectedUnion selection count =>
      have admitted :=
        (Signature.check_eq_ok_iff (Operator.distinct_signature _)).mp checked
      obtain ⟨names, text, number, found, _, _, _, positive, selects⟩ :=
        Operator.read_fuzzySelectedUnion admitted
      have selected := selects.symm.trans reads
      cases spelled : Selection.ofText (α := α) command.origin "TruestOrFalsest" text with
      | error fault =>
          rw [spelled] at selected
          cases selected
      | ok _ =>
          rw [spelled] at selected
          cases selected
          refine ⟨found, nofun, ?_⟩
          intro _ _ same
          cases same
          exact Int.lt_toNat.mpr positive

omit [Scalar α] in
theorem length_of_readMany {β : Type} {arg : String}
    {read? : ArgValue α → Option β} {reason : ArgValue α → ArgReason α}
    {values : List β} (success : command.readMany arg read? reason = .ok values) :
    command.listLength arg = values.length := by
  obtain ⟨value, present, reads⟩ := bind_eq_ok.mp success
  rw [listLength, require_eq_ok.mp present]
  exact (readAll_eq_ok_iff.mp reads).length_eq

end Command

namespace Guarded

/-- The numbers of fields and weights, counted in the command as it is
written. -/
def checkCounts (command : Command α) (operation : ListOperation α) :
    Except (CommandError α) Unit := do
  command.requireMinLength ListOperation.argument operation.least
  match operation.weights? with
  | some _ => command.requireEqualLengths [ListOperation.argument, "Weights"]
  | none => return ()

theorem checkCounts_eq {command : Command α} {fields : List String}
    {operation : ListOperation α}
    (reads : command.ReadsList fields operation) :
    checkCounts command operation =
      operation.checkCounts command.origin fields.length := by
  have count := Command.length_of_readMany reads.fields
  unfold checkCounts ListOperation.checkCounts
  rw [Command.requireMinLength, count]
  cases Fault.checkMinLength command.origin ListOperation.argument
      operation.least fields.length with
  | error fault => rfl
  | ok _ =>
      cases weighted : operation.weights? with
      | none => rfl
      | some weights =>
          have others := Command.length_of_readMany (reads.weights weights weighted)
          simp [Command.requireEqualLengths, count, others, Bind.bind, Except.bind]

/-! ## Nodes -/

section

variable (allows : α → Bool)

def reportLine (origin : Origin) (context : ResultContext α) (field : String) :
    Attempt α String := do
  let result ← total (context.fetch origin field)
  let shown ← guarded (valueText result.value)
  return field ++ ": " ++ shown

def compute (command : Command α) (operation : Operation α)
    (context : ResultContext α) : Attempt α (Computed α) :=
  match operation with
  | .copy field => do return ⟨← total (context.fetch command.origin field), none⟩
  | .report fields destination => do
    let lines ← fields.mapM (reportLine command.origin context)
    return ⟨⟨.flag true, .bool, false⟩, some ⟨destination, lines⟩⟩
  | .layer field operation => do
    let input ← total (context.layer command.origin operation.accepted field)
    return ⟨← applyLayer command.origin allows context.range operation input.grid,
      none⟩
  | .pair first second operation => do
    let left ← total (context.layer command.origin DataType.numerics first)
    let right ← total (context.layer command.origin DataType.numerics second)
    return ⟨← applyPair command.origin allows operation left.grid right.grid, none⟩
  | .list fields operation => do
    total (checkCounts command operation)
    let inputs ← total (context.layers command.origin operation.accepted fields)
    return ⟨← applyList command.origin allows context.range operation inputs, none⟩

end

section

variable {origin : Origin} {context : ResultContext α}

theorem reportLine_of_none {field : String} (missing : context.get? field = none) :
    reportLine origin context field =
      total (FuzzyGrid.reportLine origin context field) := by
  simp only [reportLine, FuzzyGrid.reportLine, ResultContext.fetch, missing]
  rfl

theorem reportLine_of_some {field : String} {result : Result α}
    (held : context.get? field = some result) :
    reportLine origin context field =
      (guarded (valueText result.value) >>= fun shown =>
        total (.ok (field ++ ": " ++ shown))) := by
  simp only [reportLine, ResultContext.fetch, held]
  rfl

/-- Rectangles are printed in bounds. -/
theorem reportLines_eq {fields : List String}
    (prints : context.PrintsRectangles fields) :
    fields.mapM (reportLine origin context) =
      total (readAll (FuzzyGrid.reportLine origin context) fields) := by
  induction fields with
  | nil => rfl
  | cons field rest induction =>
      rw [List.mapM_cons, readAll]
      cases held : context.get? field with
      | none =>
          rw [reportLine_of_none held]
          simp only [FuzzyGrid.reportLine, ResultContext.fetch, held]
          rfl
      | some result =>
          obtain ⟨rectangular, others⟩ := prints result held
          rw [reportLine_of_some held, guarded_bind_eq (valueText_eq rectangular),
            induction others]
          simp only [FuzzyGrid.reportLine, ResultContext.fetch, held]
          cases readAll (FuzzyGrid.reportLine origin context) rest with
          | error error => rfl
          | ok lines => rfl

/-- A grid that is short of cells is not. -/
theorem reportLines_blocked (origin : Origin) {fields : List String}
    (sized : context.Sized)
    (short : ¬context.PrintsRectangles fields) :
    (fields.mapM (reportLine origin context)).run = none := by
  induction fields with
  | nil => exact absurd trivial short
  | cons field rest induction =>
      rw [List.mapM_cons]
      cases held : context.get? field with
      | none =>
          refine absurd ?_ short
          intro result other
          rw [held] at other
          cases other
      | some result =>
          rw [reportLine_of_some held]
          by_cases rectangular : result.Rectangular
          · rw [guarded_bind_eq (valueText_eq rectangular)]
            have later : ¬context.PrintsRectangles rest := by
              intro prints
              apply short
              intro other isOther
              cases held.symm.trans isOther
              exact ⟨rectangular, prints⟩
            apply Attempt.bind_blocked rfl
            have blocked := induction later
            rw [ExceptT.run_bind, blocked]
            rfl
          · rw [valueText_eq_none (sized field result held) rectangular]
            rfl

variable {allows : α → Bool} {command : Command α} {operation : Operation α}

/-- A report of a grid that is short of cells leaves the domain. -/
theorem compute_blocked (sized : context.Sized)
    (short : ¬operation.PrintsRectangles context) :
    (compute allows command operation context).run = none := by
  cases operation with
  | report fields destination =>
      have blocked := reportLines_blocked command.origin sized short
      rw [compute, ExceptT.run_bind, blocked]
      rfl
  | copy _ | layer _ _ | pair _ _ _ | list _ _ => exact absurd trivial short

/-- Nothing else does, as long as grids of one shape are of one size. -/
theorem compute_eq (divisors : Divisors allows) {count : Nat → Nat → Nat}
    (filled : context.AllFilled count) (prints : operation.PrintsRectangles context)
    (wide : allows (context.range.low - context.range.high))
    (reads : ∀ fields listed, operation = .list fields listed →
      command.ReadsList fields listed) :
    compute allows command operation context =
      total (operation.compute command.origin context) := by
  cases operation with
  | copy field => exact bind_eq rfl fun _ _ => rfl
  | report fields destination => exact bind_eq (reportLines_eq prints) fun _ _ => rfl
  | layer field operation =>
      apply bind_eq rfl
      intro input _
      exact bind_eq
        (applyLayer_eq divisors context.range wide operation input.grid)
        fun _ _ => rfl
  | pair first second operation =>
      apply bind_eq rfl
      intro left _
      apply bind_eq rfl
      intro right _
      exact bind_eq (applyPair_eq divisors operation left.grid right.grid)
        fun _ _ => rfl
  | list fields operation =>
      have known := reads fields operation rfl
      apply bind_eq (congrArg total (checkCounts_eq known))
      intro _ checked
      apply bind_eq rfl
      intro inputs readInputs
      have read := readAll_eq_ok_iff.mp readInputs
      rw [read.length_eq] at checked
      have each : ∀ input ∈ inputs, input.grid.Filled count := by
        intro input member
        obtain ⟨field, _, reads⟩ := exists_left_of_forall₂ read member
        exact filled.layer reads
      exact bind_eq
        (applyList_eq divisors context.range checked known.positive each)
        fun _ _ => rfl

end

end Guarded

namespace Node

/-- Compute a node with guards: none where some partial operation is used
outside its domain. -/
def attempt (allows : α → Bool) (node : Node α) (context : ResultContext α) :
    Option (Except (CommandError α) (Computed α)) :=
  (Guarded.compute allows node.command node.operation context).run

theorem attempt_eq {allows : α → Bool} (divisors : Guarded.Divisors allows)
    (node : Node α) {context : ResultContext α} {count : Nat → Nat → Nat}
    (filled : context.AllFilled count)
    (prints : node.operation.PrintsRectangles context)
    (wide : allows (context.range.low - context.range.high)) :
    node.attempt allows context = some (node.compute context) := by
  have reads : ∀ fields listed, node.operation = .list fields listed →
      node.command.ReadsList fields listed := by
    intro fields listed same
    have interpreted := node.interpreted
    rw [same] at interpreted
    exact Command.readsList_of_interpret interpreted
  rw [attempt, Guarded.compute_eq divisors filled prints wide reads]
  rfl

end Node

/-! ## Accepted ranges -/

/-- Whether the ends of a range make one. -/
def FuzzyRange.isAccepted (range : FuzzyRange α) : Bool :=
  (ofEnds range.low range.high).isOk

theorem FuzzyRange.isAccepted_iff {range : FuzzyRange α} :
    range.isAccepted ↔ Scalar.lt range.low range.high = true := by
  unfold isAccepted ofEnds
  split
  · rename_i below
    simp [below, Except.isOk, Except.toBool]
  · rename_i notBelow
    simp [notBelow, Except.isOk, Except.toBool]

/-- The range of a configuration that has been loaded is accepted. -/
theorem Config.all_accepted_load (workspace : Workspace) (path : String) :
    (load workspace path).toOption.all fun config =>
      config.range.isAccepted := by
  unfold load
  split
  · rfl
  · split
    · rfl
    · split
      · rfl
      · rename_i ends
        simp [Except.toOption, FuzzyRange.isAccepted, ends, Except.isOk,
          Except.toBool]

/-- Computing a node stays in bounds, and every mask fits, whatever the
arithmetic, if grids of one shape are of one size and what it prints is a rectangle.
In exact arithmetic and with an accepted range, no statistic, no slope and no
unmasked cell comes of a division by zero either; every configuration that is
loaded has an accepted range.  Grids that are made are of the size that words tell
of their shape.  Among them those that are no rectangles are printed out of bounds,
by a report and on their own, and they come of no rectangles. -/
theorem Node.stays_in_domain {α : Type} [Scalar α] (node : Node α)
    (context : ResultContext α) :
    (∀ count : Nat → Nat → Nat, context.AllFilled count →
      node.operation.PrintsRectangles context →
        node.attempt (fun _ => true) context = some (node.compute context)) ∧
    (∀ {K : Type} [ExactNumber K] (node : Node K) (context : ResultContext K)
        (count : Nat → Nat → Nat), context.AllFilled count → context.range.isAccepted →
      node.operation.PrintsRectangles context →
        node.attempt (fun divisor => decide (divisor ≠ 0)) context =
          some (node.compute context)) ∧
    (∀ computed, node.compute context = .ok computed → computed.result.Rectangular →
      Guarded.valueText computed.result.value = some computed.result.value.text) ∧
    (context.Sized →
      (¬node.operation.PrintsRectangles context →
        node.attempt (fun _ => true) context = none) ∧
      ∀ computed, node.compute context = .ok computed → ¬computed.result.Rectangular →
        Guarded.valueText computed.result.value = none) ∧
    (context.Rectangular →
      node.operation.PrintsRectangles context ∧
      ∀ computed, node.compute context = .ok computed → computed.result.Rectangular) ∧
    ∀ workspace path, (Config.load workspace path).toOption.all fun config =>
      config.range.isAccepted := by
  refine ⟨?_, ?_, ?_, ?_, ?_, Config.all_accepted_load⟩
  · intro count filled prints
    exact node.attempt_eq .all filled prints rfl
  · intro K _ node context count filled accepted prints
    have below := Scalar.lt_iff.mp (FuzzyRange.isAccepted_iff.mp accepted)
    exact node.attempt_eq .exact filled prints (decide_eq_true (sub_neg.mpr below).ne)
  · intro computed _ rectangular
    exact Guarded.valueText_eq rectangular
  · intro sized
    refine ⟨Guarded.compute_blocked sized, ?_⟩
    intro computed success
    exact Guarded.valueText_eq_none ((Node.compute_yields success).filled sized)
  · intro rectangular
    refine ⟨rectangular.printsRectangles node.operation, ?_⟩
    intro computed success
    exact (Node.compute_yields success).filled rectangular

namespace Sample

/-- One area is zero, and one count is masked. -/
theorem stays_in_domain_densities :
    let context := ((densities 7).evaluate unstarted).1.context
    let quotients : Result ℚ :=
      .layer ⟨1, 3, [⟨2, false⟩, ⟨0, true⟩, ⟨7 / 5, true⟩]⟩ .positiveFloat
    density.compute context = .ok ⟨quotients, none⟩ ∧
      density.attempt (fun _ => true) context = some (.ok ⟨quotients, none⟩) ∧
      density.attempt (fun divisor => decide (divisor ≠ 0)) context =
        some (.ok ⟨quotients, none⟩) ∧
      Guarded.valueText quotients.value = some "[[2 -- --]]" := by
  intro context quotients
  have leaves : (densities 7).Leaves .standard context :=
    .sequential (.ofFiles [])
  have inputs : ∀ input ∈ (densities 7).inputs, input.2.Rectangular := by
    intro input member
    simp only [densities, List.mem_cons, List.not_mem_nil, or_false] at member
    rcases member with rfl | rfl
    · exact Result.filled_layer (by decide) _
    · exact Result.filled_layer (by decide) _
  have rectangular : context.Rectangular := leaves.grown.filled inputs
  have accepted : context.range.isAccepted := by
    rw [leaves.grown.range_eq]
    decide +kernel
  have computed : density.compute context = .ok ⟨quotients, none⟩ :=
    ok_of_evaluated (by decide +kernel)
  obtain ⟨bounded, defined, shows, _, rectangles, _⟩ :=
    density.stays_in_domain context
  obtain ⟨prints, results⟩ := rectangles rectangular
  have inBounds := bounded _ rectangular prints
  have noZero := defined density context _ rectangular accepted prints
  have shown := shows _ computed (results _ computed)
  have text : quotients.value.text = "[[2 -- --]]" := by decide +kernel
  rw [computed] at inBounds noZero
  exact ⟨computed, inBounds, noZero, shown.trans (congrArg some text)⟩

/-- A square whose number of cells is nought as a word, and a context in which it
is the only result. -/
def hollow : Grid ℚ :=
  ⟨4294967296, 4294967296, []⟩

def hollowed : ResultContext ℚ :=
  ⟨.standard, .ofList [("Both", .layer hollow .float)]⟩

theorem eq_of_get?_hollowed {name : String} {result : Result ℚ}
    (held : hollowed.get? name = some result) :
    name = "Both" ∧ result = .layer hollow .float := by
  have entry : (name, result) ∈ [("Both", Result.layer hollow .float)] :=
    NameTable.mem_entries_iff.mpr held
  exact Prod.mk.inj (List.mem_singleton.mp entry)

/-- The square is made and held, and it is reported and printed out of bounds. -/
theorem hollow_unprinted :
    Grid.ofValues 4294967296 4294967296 [] = .ok hollow ∧
      hollowed.get? "Both" = some (.layer hollow .float) ∧ hollowed.size = 1 ∧
      hollowed.range.isAccepted = true ∧
      shown.attempt (fun _ => true) hollowed = none ∧
      Guarded.valueText (Result.layer hollow .float).value = none ∧
      ¬∀ (node : Node ℚ) (context : ResultContext ℚ), context.range.isAccepted →
        (∀ name result, context.get? name = some result →
          ∃ rows cols values grid dataType,
            Grid.ofValues rows cols values = .ok grid ∧
              result = .layer grid dataType) →
        (node.attempt (fun _ => true) context).isSome := by
  have made : Grid.ofValues 4294967296 4294967296 [] = .ok hollow := rfl
  have held : hollowed.get? "Both" = some (.layer hollow .float) := rfl
  have accepted : hollowed.range.isAccepted = true := by decide +kernel
  have sized : hollowed.Sized := by
    intro name result found
    obtain ⟨_, rfl⟩ := eq_of_get?_hollowed found
    exact Result.filled_layer (by decide) _
  have short : ¬shown.operation.PrintsRectangles hollowed := by
    intro prints
    have rectangular := (prints _ held).1 hollow rfl
    exact absurd rectangular (by decide)
  have unreported : shown.attempt (fun _ => true) hollowed = none :=
    Guarded.compute_blocked sized short
  have unprinted : Guarded.valueText (Result.layer hollow .float).value = none :=
    Guarded.text_eq_none (by decide)
  refine ⟨made, held, rfl, accepted, unreported, unprinted, ?_⟩
  intro stays
  have somewhere := stays shown hollowed accepted ?_
  · rw [unreported] at somewhere
    cases somewhere
  · intro name result found
    obtain ⟨_, rfl⟩ := eq_of_get?_hollowed found
    exact ⟨_, _, _, hollow, _, made, rfl⟩

end Sample

end FuzzyGrid
