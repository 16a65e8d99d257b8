import FuzzyGrid.Proofs.Evaluation.Lockstep
import FuzzyGrid.Proofs.Evaluation.Sorts
import FuzzyGrid.Proofs.Masking.Operations
import FuzzyGrid.Proofs.Number.Exact

/-!
# Masked scalars are not observed

Two runs from inputs that differ under their masks only go the same way, if they
end.  They fail with the same error or end with the same names, tags, shapes and
masks, with the same scalar in every unmasked cell, and have written the same
text.  Masked scalars are sorted like others, though, and a run in which many
layers are stacked may give up over them where the other one does not.

The two runs are followed side by side: alike contexts let an operation come to
alike results or to one error, and each step of a run keeps sessions alike.
-/

namespace FuzzyGrid

open List (Forall₂)

variable {α : Type}

/-! ## Sessions -/

/-- Sessions with alike contexts that have written the same. -/
structure Session.Alike (first second : Session α) : Prop where
  context : first.context.Alike second.context
  workspace : first.workspace = second.workspace

theorem Session.Alike.refl (session : Session α) : session.Alike session :=
  ⟨.refl session.context, rfl⟩

theorem Session.alike_iff_related {first second : Session α} :
    first.Alike second ↔ first.Related Result.Alike second :=
  ⟨fun alike =>
      ⟨ResultContext.alike_iff_related.mp alike.context, alike.workspace⟩,
    fun related =>
      ⟨ResultContext.alike_iff_related.mpr related.context, related.workspace⟩⟩

variable [Scalar α]

/-! ## Sorts -/

section

variable (origin : Origin) {first second : Grid α}

/-- A conversion follows unmasked cells only. -/
theorem LayerOperation.givesUp_eq_of_alike (operation : LayerOperation α)
    (alike : first.Alike second) :
    operation.givesUp first = operation.givesUp second := by
  have mean : first.mean? = second.mean? := by
    rw [Grid.mean?, Grid.mean?, alike.validValues_eq]
  have deviation : first.deviation? = second.deviation? := by
    rw [Grid.deviation?, Grid.deviation?, alike.validValues_eq, mean]
  cases operation with
  | toFuzzyCurveZScore scores fuzzy => simp only [givesUp, mean, deviation]
  | _ => rfl

namespace SortedStack

/-- The sort gives up on what some grids store at a place that one of them masks. -/
def UnsortedUnderMask (grids : List (Grid α)) : Prop :=
  ∃ cells ∈ columns grids, cells.any Cell.masked = true ∧
    Scalar.arrange? id (cells.map Cell.value) = none

theorem UnsortedUnderMask.insertionLimit_lt {grids : List (Grid α)}
    (unsorted : UnsortedUnderMask grids) : Scalar.insertionLimit < grids.length := by
  obtain ⟨cells, isColumn, _, gaveUp⟩ := unsorted
  by_contra few
  have short : (cells.map Cell.value).length ≤ Scalar.insertionLimit := by
    rw [List.length_map, length_of_mem_columns isColumn]
    exact not_lt.mp few
  have arranged := Scalar.isNone_arrange?_of_length_le id short
  rw [gaveUp] at arranged
  cases arranged

theorem givesUp_of_alike {grids others : List (Grid α)}
    (alike : Forall₂ Grid.Alike grids others) (gaveUp : givesUp grids = true) :
    givesUp others = true ∨ UnsortedUnderMask grids := by
  have columns := Grid.columns_alike alike
  unfold givesUp at gaveUp ⊢
  cases alike with
  | nil => exact .inl gaveUp
  | @cons grid twin rest others same tail =>
      have found := Grid.Alike.find?_shape tail grid.shape
      simp only [build, ← same.shape] at gaveUp ⊢
      generalize (rest.find? _) = one at found gaveUp
      generalize (others.find? _) = other at found ⊢
      cases found with
      | some _ => exact .inl gaveUp
      | none =>
          simp only [List.any_eq_true, Option.isNone_iff_eq_none] at gaveUp ⊢
          obtain ⟨cells, isColumn, unsorted⟩ := gaveUp
          obtain ⟨twins, isTwin, alike⟩ := exists_right_of_forall₂ columns isColumn
          obtain ⟨_, values⟩ := Grid.column_alike alike
          cases masked : cells.any Cell.masked with
          | true => exact .inr ⟨cells, isColumn, masked, unsorted⟩
          | false => exact .inl ⟨twins, isTwin, values masked ▸ unsorted⟩

end SortedStack

theorem ListOperation.givesUp_of_alike (operation : ListOperation α)
    {grids others : List (Grid α)} (alike : Forall₂ Grid.Alike grids others)
    (gaveUp : operation.givesUp grids = true) :
    operation.givesUp others = true ∨ SortedStack.UnsortedUnderMask grids := by
  cases operation with
  | fuzzySelectedUnion _ _ | fuzzyXor => exact SortedStack.givesUp_of_alike alike gaveUp
  | _ => cases gaveUp

namespace Operation

/-- An operation on a list of layers that are not sorted at a masked place. -/
def UnsortedUnderMask (operation : Operation α) (context : ResultContext α) : Prop :=
  ∃ fields stacking inputs, operation = .list fields stacking ∧
    context.layers origin stacking.accepted fields = .ok inputs ∧
    SortedStack.UnsortedUnderMask (inputs.map InputGrid.grid)

/-- An operation that gives up over what a masked cell stores. -/
def GivesUpUnderMask (operation : Operation α) (context : ResultContext α) : Prop :=
  operation.givesUp origin context = true ∧
    operation.UnsortedUnderMask origin context

/-- Whatever is sorted over again in an alike context, but for what is masked. -/
theorem sortGivesUp_of_alike (operation : Operation α)
    {first second : ResultContext α} (alike : first.Alike second)
    (gaveUp : operation.sortGivesUp origin first = true) :
    operation.sortGivesUp origin second = true ∨
      operation.UnsortedUnderMask origin first := by
  rcases sortGivesUp_iff.mp gaveUp with
    ⟨field, converting, input, rfl, read, sort⟩ |
    ⟨fields, stacking, inputs, rfl, read, sort⟩
  · rcases (alike.layer origin converting.accepted field).exists_eq with
      ⟨fault, failed, _⟩ | ⟨_, twin, found, foundToo, same⟩
    · cases read.symm.trans failed
    · cases read.symm.trans found
      rw [converting.givesUp_eq_of_alike same.grid] at sort
      exact .inl (sortGivesUp_iff.mpr (.inl ⟨field, _, twin, rfl, foundToo, sort⟩))
  · rcases (alike.layers origin stacking.accepted fields).exists_eq with
      ⟨fault, failed, _⟩ | ⟨_, twins, found, foundToo, same⟩
    · cases read.symm.trans failed
    · cases read.symm.trans found
      have grids := InputGrid.forall₂_grid same
      rcases stacking.givesUp_of_alike grids sort with also | unsorted
      · exact .inl (sortGivesUp_iff.mpr (.inr ⟨fields, _, twins, rfl, foundToo, also⟩))
      · exact .inr ⟨fields, _, inputs, rfl, read, unsorted⟩

theorem givesUp_of_alike (operation : Operation α) {first second : ResultContext α}
    (alike : first.Alike second) (gaveUp : operation.givesUp origin first = true) :
    operation.givesUp origin second = true ∨
      operation.GivesUpUnderMask origin first := by
  obtain ⟨sort, computes⟩ := Bool.and_eq_true_iff.mp gaveUp
  rcases operation.sortGivesUp_of_alike origin alike sort with also | unsorted
  · have computesToo : (operation.compute origin second).isOk = true := by
      rcases (operation.compute_alike origin alike).exists_eq with
        ⟨fault, failed, _⟩ | ⟨_, _, _, computed, _⟩
      · rw [failed] at computes
        cases computes
      · rw [computed]
        rfl
    exact .inl (Bool.and_eq_true_iff.mpr ⟨also, computesToo⟩)
  · exact .inr ⟨gaveUp, unsorted⟩

end Operation

end

/-! ## Runs -/

omit [Scalar α] in
theorem SameOutcome.outcomes {ε β : Type} {related : β → β → Prop}
    {first second : Except ε β} (same : SameOutcome related first second) :
    Outcomes Eq related first second := by
  cases same with
  | error fault => exact .error rfl
  | ok same => exact .ok same

/-- No operation comes to a different end where scalars differ under masks. -/
theorem respected_alike : Respected (α := α) Result.Alike Eq := by
  refine ⟨fun _ => rfl, ?_⟩
  intro origin operation first second related
  rcases (operation.compute_alike origin
    (ResultContext.alike_iff_related.mpr related)).outcomes.exists_eq with
    ⟨error, _, failed, failedToo, rfl⟩ |
    ⟨computed, twin, success, successToo, same⟩
  · rw [failed, failedToo]
    exact .error (.refl (fun _ => rfl) error)
  · rw [success, successToo]
    exact .ok ⟨same.result, same.report⟩

omit [Scalar α] in
theorem CommandError.eq_of_related {error twin : CommandError α}
    (related : error.Related Eq twin) : error = twin := by
  obtain ⟨fault, origin⟩ := error
  obtain ⟨sameFault, sameOrigin⟩ := related
  cases sameFault
  cases sameOrigin
  rfl

omit [Scalar α] in
theorem ModelError.eq_of_related {error twin : ModelError α}
    (related : error.Related Eq twin) : error = twin := by
  cases related with
  | schedule fault => rfl
  | notInjected name same => rw [CommandError.eq_of_related same]
  | aborted same => rw [CommandError.eq_of_related same]

/-- Two runs that leave alike sessions and come to one outcome, or both to none. -/
structure SameEnd {β : Type} (first second : Session α × Option β) : Prop where
  outcome : first.2 = second.2
  sessions : first.1.Alike second.1

/-- A run of some nodes that gives up at one of them over what a masked cell
stores. -/
def GivesUpUnderMask {β : Type} (nodes : List (Node α)) (run : Session α × Option β) :
    Prop :=
  run.2 = none ∧ ∃ node ∈ nodes,
    node.operation.GivesUpUnderMask node.command.origin run.1.context

omit [Scalar α] in
theorem SameEnd.map {β γ : Type} {first second : Session α × Option β}
    (same : SameEnd first second) (function : β → γ) :
    SameEnd (first.1, first.2.map function) (second.1, second.2.map function) :=
  ⟨congrArg (Option.map function) same.outcome, same.sessions⟩

theorem GivesUpUnderMask.map {β γ : Type} {nodes : List (Node α)}
    {run : Session α × Option β} (lost : GivesUpUnderMask nodes run)
    (function : β → γ) : GivesUpUnderMask nodes (run.1, run.2.map function) := by
  obtain ⟨none_, halted⟩ := lost
  exact ⟨Option.map_eq_none_iff.mpr none_, halted⟩

theorem GivesUpUnderMask.mono {β : Type} {nodes others : List (Node α)}
    {run : Session α × Option β} (lost : GivesUpUnderMask nodes run)
    (among : nodes ⊆ others) : GivesUpUnderMask others run := by
  obtain ⟨none_, node, member, gaveUp⟩ := lost
  exact ⟨none_, node, among member, gaveUp⟩

/-- No run gives up over a mask where no list of layers is long. -/
theorem not_givesUpUnderMask {β : Type} {nodes : List (Node α)}
    {run : Session α × Option β}
    (few : ∀ node ∈ nodes, ∀ fields stacking, node.operation = .list fields stacking →
      fields.length ≤ Scalar.insertionLimit) : ¬GivesUpUnderMask nodes run := by
  rintro ⟨_, node, member, _, fields, stacking, inputs, isList, read, unsorted⟩
  have long := unsorted.insertionLimit_lt
  rw [List.length_map, ← (readAll_eq_ok_iff.mp read).length_eq] at long
  exact absurd (few node member fields stacking isList) (not_le.mpr long)

namespace Node

variable {session twin : Session α}

/-- A node is known by its command. -/
theorem command_injective : Function.Injective (command (α := α)) := by
  intro first second same
  have read := first.interpreted
  rw [same, second.interpreted] at read
  cases first
  cases second
  cases same
  cases read
  rfl

theorem execute_sameEnd (node : Node α) (alike : session.Alike twin) :
    (node.execute session).2 = (node.execute twin).2 ∧
      (node.execute session).1.Alike (node.execute twin).1 := by
  obtain ⟨after, other, sessions,
    ⟨error, fault, ran, ranToo, same⟩ | ⟨_, _, ran, ranToo, _⟩⟩ :=
    (node.execute_related respected_alike
      (Session.alike_iff_related.mp alike)).exists_eq
  · rw [ran, ranToo, CommandError.eq_of_related same]
    exact ⟨rfl, Session.alike_iff_related.mpr sessions⟩
  · rw [ran, ranToo]
    exact ⟨rfl, Session.alike_iff_related.mpr sessions⟩

theorem execute?_alike (node : Node α) (alike : session.Alike twin) :
    SameEnd (node.execute? session) (node.execute? twin) ∨
      GivesUpUnderMask [node] (node.execute? session) ∨
      GivesUpUnderMask [node] (node.execute? twin) := by
  have lost {session : Session α}
      (gaveUp : node.operation.GivesUpUnderMask node.command.origin session.context) :
      GivesUpUnderMask [node] (node.execute? session) := by
    rw [execute?_eq_none_iff.mpr ⟨gaveUp.1, rfl⟩]
    exact ⟨rfl, node, List.mem_singleton_self node, gaveUp⟩
  cases gaveUp : node.givesUp session.context with
  | true =>
      rcases node.operation.givesUp_of_alike node.command.origin alike.context gaveUp with
        also | underMask
      · rw [execute?_eq_none_iff.mpr ⟨gaveUp, rfl⟩, execute?_eq_none_iff.mpr ⟨also, rfl⟩]
        exact .inl ⟨rfl, alike⟩
      · exact .inr (.inl (lost underMask))
  | false =>
      cases gaveUpToo : node.givesUp twin.context with
      | true =>
          rcases node.operation.givesUp_of_alike node.command.origin alike.context.symm
            gaveUpToo with also | underMask
          · cases also.symm.trans gaveUp
          · exact .inr (.inr (lost underMask))
      | false =>
          obtain ⟨same, sessions⟩ := node.execute_sameEnd alike
          rw [execute?_eq_some_iff.mpr ⟨gaveUp, rfl⟩,
            execute?_eq_some_iff.mpr ⟨gaveUpToo, rfl⟩]
          exact .inl ⟨congrArg some same, sessions⟩

/-- Along a run alike sessions stay alike, unless one of the runs gives up over
what a masked cell stores. -/
theorem executeAll?_alike (nodes : List (Node α)) (alike : session.Alike twin) :
    SameEnd (executeAll? nodes session) (executeAll? nodes twin) ∨
      GivesUpUnderMask nodes (executeAll? nodes session) ∨
      GivesUpUnderMask nodes (executeAll? nodes twin) := by
  induction nodes generalizing session twin with
  | nil => exact .inl ⟨rfl, alike⟩
  | cons node rest induction =>
      have among : [node] ⊆ node :: rest := by simp
      have step := node.execute?_alike alike
      unfold executeAll?
      generalize node.execute? session = first at step ⊢
      generalize node.execute? twin = second at step ⊢
      obtain ⟨after, outcome⟩ := first
      obtain ⟨other, outcomeToo⟩ := second
      rcases step with ⟨same, sessions⟩ | lost | lost
      · cases same
        rcases outcome with _ | error | _
        · exact .inl ⟨rfl, sessions⟩
        · exact .inl ⟨rfl, sessions⟩
        · have later : rest ⊆ node :: rest := List.subset_cons_self node rest
          exact (induction sessions).imp_right
            (Or.imp (fun lost => lost.mono later) fun lost => lost.mono later)
      · obtain ⟨none_, _⟩ := lost.mono among
        cases none_
        exact .inr (.inl (lost.mono among))
      · obtain ⟨none_, _⟩ := lost.mono among
        cases none_
        exact .inr (.inr (lost.mono among))

end Node

namespace Model

/-- Inputs of the same names with alike layers. -/
def AlikeInputs (first second : List (String × Result α)) : Prop :=
  Forall₂ (fun input twin => input.1 = twin.1 ∧ input.2.Alike twin.2)
    first second

variable {first second : Model α} {session twin : Session α}

theorem evaluate?_sameEnd
    (commands : first.nodes.map Node.command = second.nodes.map Node.command)
    (inputs : AlikeInputs first.inputs second.inputs)
    (alike : session.Alike twin) :
    SameEnd (first.evaluate? session) (second.evaluate? twin) ∨
      GivesUpUnderMask first.nodes (first.evaluate? session) ∨
      GivesUpUnderMask second.nodes (second.evaluate? twin) := by
  have nodes : first.nodes = second.nodes :=
    List.map_injective_iff.mpr Node.command_injective commands
  have sameLevels := levels_eq_of_inputsRelated nodes inputs
  cases scheduled : second.levels with
  | error fault =>
      simp only [evaluate?, sameLevels, scheduled]
      exact .inl ⟨rfl, alike⟩
  | ok levels =>
      obtain ⟨middle, other, sessions,
        ⟨error, _, injected, injectedToo, same⟩ | ⟨_, _, injected, injectedToo, _⟩⟩ :=
        (inject_related (fun _ => rfl) inputs
          (Session.alike_iff_related.mp alike)).exists_eq
      · simp only [evaluate?, sameLevels, scheduled, injected, injectedToo]
        exact .inl ⟨by rw [ModelError.eq_of_related same],
          Session.alike_iff_related.mpr sessions⟩
      · have nodesAt : first.nodesAt = second.nodesAt := by
          funext positions
          rw [Model.nodesAt, Model.nodesAt, nodes]
        have conclude : first.conclude levels = second.conclude levels := by
          funext outcome
          cases outcome <;> simp [Model.conclude, nodes, inputs.length_eq]
        rw [evaluate?_eq (sameLevels.trans scheduled) injected,
          evaluate?_eq scheduled injectedToo, nodesAt, nodes, conclude]
        have among := second.nodesAt_subset levels.flatten
        rcases Node.executeAll?_alike (second.nodesAt levels.flatten)
          (Session.alike_iff_related.mpr sessions) with same | lost | lost
        · exact .inl (same.map _)
        · exact .inr (.inl ((lost.mono among).map _))
        · exact .inr (.inr ((lost.mono among).map _))

/-- Models with the same commands whose inputs differ under their masks only are
told apart in one way: a run gives up over what a masked cell stores, at a node that
sorts more layers than are arranged by insertion.  Else the evaluations succeed
or fail with the same error, if they end, and leave alike sessions: the same names
are published with the same tags, shapes and masks and with the same scalars in
unmasked cells, and the same text has been written. -/
theorem evaluate_alike_or_givesUp
    (commands : first.nodes.map Node.command = second.nodes.map Node.command)
    (inputs : AlikeInputs first.inputs second.inputs)
    (alike : session.Alike twin) :
    let run := first.evaluate? session
    let other := second.evaluate? twin
    (SameEnd run other ∨ GivesUpUnderMask first.nodes run ∨
        GivesUpUnderMask second.nodes other) ∧
      (∀ outcome ending, run.2 = some outcome → other.2 = some ending →
        outcome = ending ∧ run.1.Alike other.1) ∧
      ((∀ node ∈ first.nodes, ∀ fields stacking, node.operation = .list fields stacking →
          fields.length ≤ Scalar.insertionLimit) → SameEnd run other) := by
  intro run other
  have ways := evaluate?_sameEnd commands inputs alike
  refine ⟨ways, ?_, ?_⟩
  · intro outcome ending ended endedToo
    rcases ways with same | ⟨none_, _⟩ | ⟨none_, _⟩
    · have outcomes := same.outcome
      rw [ended, endedToo] at outcomes
      exact ⟨Option.some.inj outcomes, same.sessions⟩
    · cases none_.symm.trans ended
    · cases none_.symm.trans endedToo
  · intro few
    have nodes : first.nodes = second.nodes :=
      List.map_injective_iff.mpr Node.command_injective commands
    rcases ways with same | lost | lost
    · exact same
    · exact absurd lost (not_givesUpUnderMask few)
    · exact absurd lost (not_givesUpUnderMask (nodes ▸ few))

end Model

namespace Sample

/-- The small exact model runs through, and nobody can tell what is stored
under the mask of its counts. -/
theorem evaluate_alike_densities :
    (densities 0).inputs ≠ (densities 7).inputs ∧
      ((densities 0).evaluate? unstarted).2.bind Except.toOption = some ⟨2, 3, 3⟩ ∧
      SameEnd ((densities 0).evaluate? unstarted)
        ((densities 7).evaluate? unstarted) := by
  have countsAlike : (counts 0).Alike (counts 7) :=
    ⟨.grid ⟨rfl, rfl⟩, rfl, rfl⟩
  have inputs : Model.AlikeInputs (densities 0).inputs (densities 7).inputs :=
    .cons ⟨rfl, countsAlike⟩ (.cons ⟨rfl, .refl areas⟩ .nil)
  have commands : (densities 0).nodes.map Node.command =
      (densities 7).nodes.map Node.command := rfl
  obtain ⟨_, _, few⟩ :=
    Model.evaluate_alike_or_givesUp commands inputs (.refl unstarted)
  refine ⟨by decide, by decide +kernel, few ?_⟩
  intro node member fields stacking isList
  simp only [densities, List.mem_cons, List.not_mem_nil, or_false] at member
  rcases member with rfl | rfl | rfl
  · cases isList
    decide
  · cases isList
  · cases isList

/-! ### A share of nothing -/

/-- The share of a count in itself. -/
def share : Node Float where
  command := ⟨"Share", "ADividedByB", ⟨[("A", .text "Count"), ("B", .text "Count")],
    by decide⟩, .unknown⟩
  operator := .divide
  operation := .pair "Count" "Count" .divide
  interpreted := rfl

def gap : Node Float where
  command := ⟨"Gap", "CvtToFuzzy", ⟨[("FalseThreshold", .number (.real 0)),
    ("InFieldName", .text "Share"), ("TrueThreshold", .number (.real 1))],
    by decide⟩, .unknown⟩
  operator := .toFuzzy
  operation := .layer "Share" (.toFuzzy (some 1) (some 0) none)
  interpreted := rfl

/-- Two layers of their own, each given several times. -/
def contrastedFields : List String :=
  "High" :: "Low" :: List.replicate 8 "High" ++ "Gap" :: List.replicate 10 "Low"

def contrastedAll : Node Float where
  command := ⟨"Contrast", "FuzzyXOr",
    ⟨[("InFieldNames", .list (contrastedFields.map .text))], by simp⟩, .unknown⟩
  operator := .fuzzyXor
  operation := .list contrastedFields .fuzzyXor
  interpreted := rfl

/-- A count under a mask, and two layers. -/
def divided (hidden : Float) : Model Float :=
  ⟨[("Count", .layer ⟨1, 1, [⟨hidden, true⟩]⟩ .float),
    ("High", .layer ⟨1, 1, [⟨0.5, false⟩]⟩ .fuzzy),
    ("Low", .layer ⟨1, 1, [⟨-0.5, false⟩]⟩ .fuzzy)], [share, gap, contrastedAll]⟩

/-- A masked zero is divided by itself, and the sort gives up on what comes of it. -/
theorem divided_told_apart :
    let fresh : Session Float := ⟨.empty .standard, .ofFiles []⟩
    ((divided 1).evaluate? fresh).2.bind Except.toOption = some ⟨3, 3, 3⟩ ∧
      ((divided 0).evaluate? fresh).2 = none ∧
      ¬∀ first second : Model Float,
        first.nodes.map Node.command = second.nodes.map Node.command →
        Model.AlikeInputs first.inputs second.inputs →
        (first.evaluate? fresh).2 = (second.evaluate? fresh).2 := by
  intro fresh
  have ended : ((divided 1).evaluate? fresh).2.bind Except.toOption = some ⟨3, 3, 3⟩ := by
    decide +kernel
  have gaveUp : ((divided 0).evaluate? fresh).2 = none :=
    Option.isNone_iff_eq_none.mp (by decide +kernel)
  refine ⟨ended, gaveUp, ?_⟩
  intro together
  have inputs : Model.AlikeInputs (divided 1).inputs (divided 0).inputs :=
    .cons ⟨rfl, .grid ⟨rfl, rfl⟩, rfl, rfl⟩
      (.cons ⟨rfl, .refl _⟩ (.cons ⟨rfl, .refl _⟩ .nil))
  have same := together (divided 1) (divided 0) rfl inputs
  rw [same, gaveUp] at ended
  cases ended

end Sample

end FuzzyGrid
