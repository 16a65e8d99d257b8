import FuzzyGrid.Proofs.Operator.Blame

/-!
# Operations as readings

A reading is a computation that looks up one result at a time, for the command at
a place, and goes on with what it finds.  Every operation is one, and run against
a context it computes what the operation computes.  Written like this it is plain
which names are looked up: two contexts that agree on them give the same outcome,
and the only results an operation can miss are among them.
-/

namespace FuzzyGrid

/-- A computation that looks results up by name. -/
inductive Reading (α β : Type) where
  | done (value : β)
  | fail (error : CommandError α)
  | fetch (origin : Origin) (name : String) (next : Result α → Reading α β)

namespace Reading

variable {α β γ δ : Type}

/-- One reading after another. -/
def bind : Reading α β → (β → Reading α γ) → Reading α γ
  | done value, rest => rest value
  | fail error, _ => fail error
  | fetch origin name next, rest =>
    fetch origin name fun result => (next result).bind rest

/-- The result under a name. -/
def get (origin : Origin) (name : String) : Reading α (Result α) :=
  fetch origin name done

/-- An outcome that needs no result. -/
def lift : Except (CommandError α) β → Reading α β
  | .ok value => done value
  | .error error => fail error

/-- A reading for every item of a list, in order. -/
def each (read : δ → Reading α β) : List δ → Reading α (List β)
  | [] => done []
  | item :: rest =>
    (read item).bind fun value =>
      (each read rest).bind fun values => done (value :: values)

/-- Run a reading with every result taken from one context. -/
def run (context : ResultContext α) : Reading α β → Except (CommandError α) β
  | done value => .ok value
  | fail error => .error error
  | fetch origin name next =>
    match context.get? name with
    | some result => (next result).run context
    | none => .error ⟨.missingResult name, origin⟩

variable {context : ResultContext α} {origin : Origin}

@[simp] theorem run_done (value : β) :
    (done value : Reading α β).run context = .ok value :=
  rfl

@[simp] theorem run_lift (outcome : Except (CommandError α) β) :
    (lift outcome).run context = outcome := by
  cases outcome with
  | error fault => rfl
  | ok value => rfl

@[simp] theorem run_get (name : String) :
    (get origin name).run context = context.fetch origin name := by
  cases found : context.get? name with
  | none => simp [get, run, ResultContext.fetch, found]
  | some result => simp [get, run, ResultContext.fetch, found]

@[simp] theorem run_bind (reading : Reading α β) (rest : β → Reading α γ) :
    (reading.bind rest).run context =
      (reading.run context >>= fun value => (rest value).run context) := by
  induction reading with
  | done value => rfl
  | fail error => rfl
  | fetch origin name next induction =>
      cases found : context.get? name with
      | none => simp [bind, run, found, Bind.bind, Except.bind]
      | some result => simpa [bind, run, found] using induction result

@[simp] theorem run_each (read : δ → Reading α β) (items : List δ) :
    (each read items).run context =
      readAll (fun item => (read item).run context) items := by
  induction items with
  | nil => rfl
  | cons item rest induction =>
      cases head : (read item).run context with
      | error fault =>
          simp [each, readAll, head, Bind.bind, Except.bind]
      | ok value =>
          cases tail : readAll (fun item => (read item).run context) rest with
          | error fault =>
              simp [each, readAll, head, tail, induction, Bind.bind,
                Except.bind]
          | ok values =>
              simp [each, readAll, head, tail, induction, Bind.bind,
                Except.bind]

/-- A reading for the command at a place looks up listed names only, and where it
fails of itself it is for one of the given arguments. -/
inductive Confined (origin : Origin) (names args : List String) :
    Reading α β → Prop where
  | done (value : β) : Confined origin names args (done value)
  | fail {error : CommandError α} (blames : error.Blames origin args) :
      Confined origin names args (fail error)
  | fetch {name : String} {next : Result α → Reading α β}
      (listed : name ∈ names)
      (rest : ∀ result, Confined origin names args (next result)) :
      Confined origin names args (fetch origin name next)

namespace Confined

variable {names args : List String} {reading : Reading α β}

theorem bind {rest : β → Reading α γ} (first : Confined origin names args reading)
    (others : ∀ value, Confined origin names args (rest value)) :
    Confined origin names args (reading.bind rest) := by
  induction first with
  | done value => exact others value
  | fail blames => exact .fail blames
  | fetch listed _ induction => exact .fetch listed induction

theorem get {name : String} (listed : name ∈ names) :
    Confined (α := α) origin names args (get origin name) :=
  .fetch listed .done

theorem lift {outcome : Except (CommandError α) β}
    (failsFor : FailsFor origin args outcome) :
    Confined origin names args (lift outcome) := by
  cases outcome with
  | error fault => exact .fail (failsFor fault rfl)
  | ok value => exact .done value

theorem each {read : δ → Reading α β} {items : List δ}
    (confined : ∀ item ∈ items, Confined origin names args (read item)) :
    Confined origin names args (each read items) := by
  induction items with
  | nil => exact .done []
  | cons item rest induction =>
      apply bind (confined item List.mem_cons_self)
      intro value
      apply bind
      · apply induction
        intro other member
        exact confined other (List.mem_cons_of_mem _ member)
      · intro values
        exact .done (value :: values)

theorem mono {others : List String} (among : names ⊆ others)
    (confined : Confined origin names args reading) :
    Confined origin others args reading := by
  induction confined with
  | done value => exact .done value
  | fail blames => exact .fail blames
  | fetch listed _ induction => exact .fetch (among listed) induction

/-- Contexts that agree on the names a reading looks up give it the same
outcome. -/
theorem run_congr {first second : ResultContext α}
    (confined : Confined origin names args reading)
    (agree : ∀ name ∈ names, first.get? name = second.get? name) :
    reading.run first = reading.run second := by
  induction confined with
  | done value => rfl
  | fail blames => rfl
  | fetch listed _ induction =>
      unfold run
      rw [agree _ listed]
      split
      · exact induction _
      · rfl

/-- Where every name has a result, a reading fails only of itself. -/
theorem run_failsFor (confined : Confined origin names args reading)
    (present : ∀ name ∈ names, (context.get? name).isSome) :
    FailsFor origin args (reading.run context) := by
  induction confined with
  | done value => exact .ok value
  | fail blames => exact .error blames
  | fetch listed _ induction =>
      obtain ⟨result, found⟩ := Option.isSome_iff_exists.mp (present _ listed)
      unfold run
      rw [found]
      exact induction result

/-- A reading fails for one of the names that it looks up or of its arguments, and
at the place for which it reads. -/
theorem of_run_error {error : CommandError α}
    (confined : Confined origin names args reading)
    (failed : reading.run context = .error error) :
    error.origin = origin ∧
      (error.fault.subject ∈ names ∨ error.fault.subject ∈ args) := by
  induction confined with
  | done value => cases failed
  | fail blames =>
      cases failed
      exact ⟨blames.raised, .inr blames.subject⟩
  | @fetch name next listed _ induction =>
      rw [run] at failed
      cases held : context.get? name with
      | none =>
          rw [held] at failed
          cases failed
          exact ⟨rfl, .inl listed⟩
      | some result =>
          rw [held] at failed
          exact induction result failed

end Confined

end Reading

/-! ## The readings of operations -/

variable {α : Type}

/-- What a result has to be to serve as a layer: a layer of data of an allowed
type. -/
def Result.asLayer (origin : Origin) (allowed : List DataType) (field : String)
    (result : Result α) : Except (CommandError α) (InputGrid α) :=
  match result.layerGrid? with
  | none => .error ⟨.notADataLayer field, origin⟩
  | some grid =>
    if result.dataType.satisfies allowed then .ok ⟨grid, result.dataType⟩
    else .error ⟨.typeMismatch field result.dataType allowed, origin⟩

namespace Reading

/-- Read one layer. -/
def layer (origin : Origin) (allowed : List DataType) (field : String) :
    Reading α (InputGrid α) :=
  (get origin field).bind fun result => lift (result.asLayer origin allowed field)

@[simp] theorem run_layer (context : ResultContext α) (origin : Origin)
    (allowed : List DataType) (field : String) :
    (layer origin allowed field).run context =
      context.layer origin allowed field := by
  cases found : context.fetch origin field with
  | error fault =>
      simp [layer, found, ResultContext.layer, Bind.bind, Except.bind]
  | ok result =>
      cases kind : result.layerGrid? with
      | none =>
          simp [layer, found, ResultContext.layer, Result.asLayer, kind,
            Bind.bind, Except.bind]
      | some grid =>
          simp [layer, found, ResultContext.layer, Result.asLayer, kind,
            Bind.bind, Except.bind]

theorem Confined.layer {origin : Origin} {names args : List String}
    {field : String} (listed : field ∈ names) (blamed : field ∈ args)
    (allowed : List DataType) :
    Confined (α := α) origin names args (layer origin allowed field) := by
  apply Confined.bind (.get listed)
  intro result
  apply Confined.lift
  unfold Result.asLayer
  split
  · exact .error ⟨blamed, rfl, rfl⟩
  · split
    · exact .ok _
    · exact .error ⟨blamed, rfl, rfl⟩

end Reading

variable [Scalar α]

namespace Reading

/-- Read the line of a report for one result. -/
def line (origin : Origin) (field : String) : Reading α String :=
  (get origin field).bind fun result => .done (field ++ ": " ++ result.value.text)

@[simp] theorem run_line (context : ResultContext α) (origin : Origin)
    (field : String) :
    (line origin field).run context = reportLine origin context field := by
  simp [line, reportLine, pure, Except.pure]

end Reading

namespace Operation

open Reading (Confined)

/-- An operation as a reading. -/
def reading (origin : Origin) (range : FuzzyRange α) :
    Operation α → Reading α (Computed α)
  | copy field => (Reading.get origin field).bind fun result => .done ⟨result, none⟩
  | report fields destination =>
    (Reading.each (Reading.line origin) fields).bind fun lines =>
      .done ⟨⟨.flag true, .bool, false⟩, some ⟨destination, lines⟩⟩
  | layer field operation =>
    (Reading.layer origin operation.accepted field).bind fun input =>
      (Reading.lift (operation.apply origin range input.grid)).bind fun result =>
        .done ⟨result, none⟩
  | pair first second operation =>
    (Reading.layer origin DataType.numerics first).bind fun left =>
      (Reading.layer origin DataType.numerics second).bind fun right =>
        (Reading.lift (operation.apply origin left.grid right.grid)).bind
          fun result => .done ⟨result, none⟩
  | list fields operation =>
    (Reading.lift (operation.checkCounts origin fields.length)).bind fun _ =>
      (Reading.each (Reading.layer origin operation.accepted) fields).bind
        fun inputs =>
          (Reading.lift (operation.apply origin range inputs)).bind fun result =>
            .done ⟨result, none⟩

/-- The reading of an operation computes what the operation computes. -/
theorem run_reading (origin : Origin) (operation : Operation α)
    (context : ResultContext α) :
    (operation.reading origin context.range).run context =
      operation.compute origin context := by
  cases operation with
  | copy field => simp [reading, compute, pure, Except.pure]
  | report fields destination => simp [reading, compute, pure, Except.pure]
  | layer field operation => simp [reading, compute, pure, Except.pure]
  | pair first second operation => simp [reading, compute, pure, Except.pure]
  | list fields operation =>
      simp [reading, compute, pure, Except.pure, ResultContext.layers]

/-- An operation looks up its fields and fails for its own arguments. -/
theorem reading_confined (origin : Origin) (range : FuzzyRange α)
    (operation : Operation α) :
    Confined origin operation.fields operation.blamed
      (operation.reading origin range) := by
  cases operation with
  | copy field =>
      apply Confined.bind (.get List.mem_cons_self)
      intro result
      exact .done _
  | report fields destination =>
      apply Confined.bind
      · apply Confined.each
        intro field member
        apply Confined.bind (.get member)
        intro result
        exact .done _
      · intro lines
        exact .done _
  | layer field operation =>
      apply Confined.bind
      · exact .layer List.mem_cons_self List.mem_cons_self _
      · intro input
        apply Confined.bind
        · apply Confined.lift
          intro error failed
          exact (LayerOperation.apply_failsFor range operation input.grid
            error failed).mono (List.subset_cons_self _ _)
        · intro result
          exact .done _
  | pair first second operation =>
      apply Confined.bind
      · exact .layer (by simp [fields]) (by simp [blamed]) _
      · intro left
        apply Confined.bind
        · exact .layer (by simp [fields]) (by simp [blamed]) _
        · intro right
          apply Confined.bind
          · apply Confined.lift
            intro error failed
            exact (PairOperation.apply_failsFor operation left.grid right.grid
              error failed).mono (by simp [blamed])
          · intro result
            exact .done _
  | list names operation =>
      have among : operation.blamed ⊆ (Operation.list names operation).blamed :=
        List.subset_append_left _ _
      apply Confined.bind
      · apply Confined.lift
        exact ListOperation.checkCounts_failsFor
          (among operation.argument_mem_blamed) operation names.length
      · intro _
        apply Confined.bind
        · apply Confined.each
          intro field member
          exact .layer member (by simp [blamed, member]) _
        · intro inputs
          apply Confined.bind
          · apply Confined.lift
            intro error failed
            exact (ListOperation.apply_failsFor range operation inputs
              error failed).mono among
          · intro result
            exact .done _

end Operation

namespace Node

open Reading (Confined)

/-- A node as a reading. -/
def reading (node : Node α) (range : FuzzyRange α) :
    Reading α (Computed α) :=
  node.operation.reading node.command.origin range

theorem run_reading (node : Node α) (context : ResultContext α) :
    (node.reading context.range).run context = node.compute context :=
  node.operation.run_reading node.command.origin context

/-- A node looks up none but the names that it refers to, for its own command. -/
theorem reading_confined (node : Node α) (range : FuzzyRange α) :
    Confined node.command.origin node.dependencies node.operation.blamed
      (node.reading range) :=
  (node.operation.reading_confined _ range).mono fun _ member =>
    node.mem_dependencies_of_mem_fields member

/-- Contexts of one range that agree on the names a node refers to give it the
same outcome. -/
theorem compute_congr (node : Node α) {first second : ResultContext α}
    (sameRange : first.range = second.range)
    (agree : ∀ name ∈ node.dependencies,
      first.get? name = second.get? name) :
    node.compute first = node.compute second := by
  have sameRun : (node.reading first.range).run first =
      (node.reading first.range).run second :=
    (node.reading_confined first.range).run_congr agree
  rw [← run_reading node first, ← run_reading node second, sameRun, sameRange]

/-- Once everything that a node refers to is there, it fails for its own
arguments only. -/
theorem compute_error {node : Node α} {context : ResultContext α}
    {error : CommandError α}
    (present : ∀ name ∈ node.dependencies, (context.get? name).isSome)
    (failed : node.compute context = .error error) :
    error.Blames node.command.origin node.operation.blamed := by
  have failsFor :=
    (node.reading_confined context.range).run_failsFor present
  rw [← run_reading] at failed
  exact failsFor error failed

end Node

end FuzzyGrid
