import FuzzyGrid.Proofs.Evaluation.Growth

/-!
# Where evaluation stops

Evaluation stops at the first thing that fails, over whatever context it
starts from: before anything is published where the model has no levels, at an
input whose name is taken, or at a node.  What has been published by then is
what stands before it, and nothing that was held is touched.
-/

namespace FuzzyGrid

variable {α : Type} [Scalar α]

/-- A context that holds inputs and the results of nodes beside all that an
earlier one held, which held nothing under their names. -/
structure Gained (inputs : List (String × Result α)) (nodes : List (Node α))
    (start context : ResultContext α) : Prop where
  range : context.range = start.range
  distinct : (inputs.map Prod.fst ++ nodes.map Node.name).Nodup
  fresh : ∀ name ∈ inputs.map Prod.fst ++ nodes.map Node.name,
    start.get? name = none
  given : ∀ input ∈ inputs, context.get? input.1 = some input.2
  solved : ∀ node ∈ nodes, node.SolvedBy context
  others : ∀ name ∉ inputs.map Prod.fst ++ nodes.map Node.name,
    context.get? name = start.get? name

section Gained

variable {inputs : List (String × Result α)} {nodes : List (Node α)}
  {start middle context : ResultContext α}

theorem Gained.refl (context : ResultContext α) :
    Gained [] [] context context :=
  ⟨rfl, List.nodup_nil, by simp, by simp, by simp, fun _ _ => rfl⟩

theorem Gained.extends (gained : Gained inputs nodes start context) :
    context.Extends start := by
  refine ⟨gained.range, ?_⟩
  intro name held
  apply gained.others
  intro member
  simp [gained.fresh name member] at held

/-- Publishing an input before the others adds it to them. -/
theorem Gained.cons {origin : Origin} {name : String} {result : Result α}
    (publishes : start.publish origin name result = .ok middle)
    (gained : Gained inputs [] middle context) :
    Gained ((name, result) :: inputs) [] start context := by
  have absent := (ResultContext.publish_ok_iff.mp publishes).1
  have holds := ResultContext.get?_publish publishes
  have outside :
      name ∉ inputs.map Prod.fst ++ ([] : List (Node α)).map Node.name := by
    intro member
    have unheld := gained.fresh name member
    simp [holds] at unheld
  refine ⟨gained.range.trans (ResultContext.range_publish publishes), ?_, ?_,
    ?_, by simp, ?_⟩
  · exact List.nodup_cons.mpr ⟨outside, gained.distinct⟩
  · intro sought member
    rcases List.mem_cons.mp member with same | later
    · exact same ▸ absent
    · have different : sought ≠ name := fun same => outside (same ▸ later)
      rw [← gained.fresh sought later, holds, if_neg different]
  · intro input member
    rcases List.mem_cons.mp member with same | later
    · subst input
      rw [gained.others name outside, holds, if_pos rfl]
    · exact gained.given input later
  · intro sought notHere
    have ⟨different, notLater⟩ : sought ≠ name ∧
        sought ∉ inputs.map Prod.fst ++ ([] : List (Node α)).map Node.name :=
      not_or.mp (notHere ∘ List.mem_cons.mpr)
    rw [gained.others sought notLater, holds, if_neg different]

/-- Nodes that are solved over the inputs are gained beside them. -/
theorem Gained.solve (gained : Gained inputs [] start middle)
    (solves : Solves nodes middle context)
    (distinct : (nodes.map Node.name).Nodup)
    (fresh : ∀ node ∈ nodes, middle.get? node.name = none) :
    Gained inputs nodes start context := by
  have grows := solves.extends fresh
  have unheld : ∀ name ∈ nodes.map Node.name, middle.get? name = none := by
    intro name member
    obtain ⟨node, isNode, rfl⟩ := List.mem_map.mp member
    exact fresh node isNode
  have apart : ∀ name ∈ nodes.map Node.name, name ∉ inputs.map Prod.fst := by
    intro name produced given
    obtain ⟨input, isInput, rfl⟩ := List.mem_map.mp given
    have held := gained.given input isInput
    rw [unheld input.1 produced] at held
    cases held
  have before : ∀ name ∉ inputs.map Prod.fst,
      middle.get? name = start.get? name :=
    fun name notInput => gained.others name (by simpa using notInput)
  refine ⟨solves.range.trans gained.range, ?_, ?_, ?_, solves.solved, ?_⟩
  · refine List.nodup_append.mpr ⟨?_, distinct, ?_⟩
    · simpa using gained.distinct
    · intro name given other produced same
      exact apart other produced (same ▸ given)
  · intro name member
    rcases List.mem_append.mp member with given | produced
    · exact gained.fresh name (List.mem_append_left _ given)
    · rw [← before name (apart name produced), unheld name produced]
  · intro input member
    have held := gained.given input member
    rw [grows.kept input.1 (by simp [held]), held]
  · intro name outside
    rw [List.mem_append, not_or] at outside
    rw [solves.kept name outside.2, before name outside.1]

end Gained

/-! ## Inputs -/

namespace Model

variable {session stopped : Session α}

theorem inject_ok {inputs : List (String × Result α)}
    (run : inject inputs session = (stopped, .ok ())) :
    Gained inputs [] session.context stopped.context := by
  induction inputs generalizing session with
  | nil =>
      cases run
      exact .refl _
  | cons input rest induction =>
      unfold inject at run
      split at run
      · cases run
      · rename_i publishes
        exact .cons publishes (induction run)

/-- Inputs are published up to the first whose name is held. -/
theorem inject_error {inputs : List (String × Result α)} {error : ModelError α}
    (run : inject inputs session = (stopped, .error error)) :
    ∃ before name result after, inputs = before ++ (name, result) :: after ∧
      Gained before [] session.context stopped.context ∧
      (stopped.context.get? name).isSome ∧
      error = .notInjected name ⟨.duplicateResult name, Origin.unknown⟩ := by
  induction inputs generalizing session with
  | nil => cases run
  | cons input rest induction =>
      unfold inject at run
      split at run
      · rename_i failure
        cases run
        obtain ⟨held, rfl⟩ := ResultContext.publish_error_iff.mp failure
        exact ⟨[], _, _, rest, rfl, .refl _, held, rfl⟩
      · rename_i publishes
        obtain ⟨before, name, result, after, rfl, gained, held, failed⟩ :=
          induction run
        exact ⟨_ :: before, name, result, after, rfl, .cons publishes gained,
          held, failed⟩

omit [Scalar α] in
theorem inject_append (first second : List (String × Result α))
    (session : Session α) :
    inject (first ++ second) session =
      match inject first session with
      | (after, .error error) => (after, .error error)
      | (after, .ok ()) => inject second after := by
  induction first generalizing session with
  | nil => rfl
  | cons input rest induction =>
      simp only [List.cons_append, inject]
      split
      · rfl
      · rw [induction]

end Model

/-! ## Nodes -/

namespace Node

variable {node : Node α} {session stopped : Session α}

theorem compute_origin {context : ResultContext α} {error : CommandError α}
    (failed : node.compute context = .error error) :
    error.origin = node.command.origin := by
  rw [← run_reading] at failed
  exact ((node.reading_confined context.range).of_run_error failed).1

/-- A node that fails publishes nothing, and the error is its own. -/
theorem execute_failed {error : CommandError α}
    (run : node.execute session = (stopped, .error error)) :
    stopped.context = session.context ∧
      error.origin = node.command.origin := by
  have ways := node.executed session
  rw [run] at ways
  cases ways with
  | failed failure => exact ⟨rfl, compute_origin failure⟩
  | undelivered _ failure => exact ⟨rfl, Workspace.origin_of_deliverAny failure⟩
  | refused _ _ failure =>
      obtain ⟨_, rfl⟩ := ResultContext.publish_error_iff.mp failure
      exact ⟨rfl, rfl⟩

/-- Nothing was held under the names of nodes that have been executed. -/
theorem unheld_of_executeAll {nodes : List (Node α)}
    (run : executeAll nodes session = (stopped, .ok ())) :
    ∀ node ∈ nodes, session.context.get? node.name = none := by
  induction nodes generalizing session with
  | nil => simp
  | cons first rest induction =>
      unfold executeAll at run
      split at run
      · cases run
      · rename_i after executed
        obtain ⟨computed, _, publishes⟩ := execute_ok executed
        have absent := (ResultContext.publish_ok_iff.mp publishes).1
        have grows := ResultContext.extends_publish publishes
        intro node member
        rcases List.mem_cons.mp member with same | later
        · exact same ▸ absent
        · have unheld := induction run node later
          by_contra held
          rw [← ne_eq, Option.ne_none_iff_isSome] at held
          rw [← grows.kept node.name held, unheld] at held
          cases held

end Node

/-! ## Models -/

namespace Model

/-- The first of the inputs before which an evaluation stops, as there is a
result under its name. -/
structure TakenAt (model : Model α) (session : Session α)
    (before : List (String × Result α)) (name : String) : Prop where
  ordered : ∃ levels, model.levels = .ok levels
  split : ∃ result after, model.inputs = before ++ (name, result) :: after
  free : ∀ input ∈ before, session.context.get? input.1 = none
  held : (session.context.get? name).isSome

/-- A node that fails when it is its turn, once the inputs have been published
and the nodes at the earlier positions of the order executed. -/
structure FailsAt (model : Model α) (session : Session α)
    (earlier : List Nat) (node : Node α) (later : List Nat)
    (stopped : Session α) (failure : CommandError α) : Prop where
  turn : ∃ position, model.order = .ok (earlier ++ position :: later) ∧
    model.nodes[position]? = some node
  fails : ∃ injected middle,
    inject model.inputs session = (injected, .ok ()) ∧
    Node.executeAll (model.nodesAt earlier) injected = (middle, .ok ()) ∧
    node.execute middle = (stopped, .error failure)

variable {model : Model α} {session stopped : Session α}
  {earlier later : List Nat} {node : Node α} {failure : CommandError α}

theorem order_eq_ok_iff {order : List Nat} :
    model.order = .ok order ↔
      ∃ levels, model.levels = .ok levels ∧ levels.flatten = order := by
  unfold Model.order
  cases model.levels with
  | error fault => simp [Except.map]
  | ok levels => simp [Except.map]

theorem nodesAt_split (earlier later : List Nat) {position : Nat}
    (found : model.nodes[position]? = some node) :
    model.nodesAt (earlier ++ position :: later) =
      model.nodesAt earlier ++ node :: model.nodesAt later := by
  simp [nodesAt, List.filterMap_append, found]

/-- Nodes in order come from positions in order. -/
theorem exists_split_of_nodesAt {positions : List Nat}
    {before after : List (Node α)}
    (split : model.nodesAt positions = before ++ node :: after) :
    ∃ earlier position later, positions = earlier ++ position :: later ∧
      model.nodesAt earlier = before ∧
      model.nodes[position]? = some node := by
  obtain ⟨first, second, rfl, sameBefore, sameRest⟩ :=
    List.filterMap_eq_append_iff.mp split
  obtain ⟨skipped, position, later, rfl, absent, found, _⟩ :=
    List.filterMap_eq_cons_iff.mp sameRest
  refine ⟨first ++ skipped, position, later, by simp, ?_, found⟩
  rw [nodesAt, List.filterMap_append, sameBefore,
    List.filterMap_eq_nil_iff.mpr absent, List.append_nil]

/-- Once the inputs are there, the nodes of an order that have been executed
are gained beside them, whatever was held before. -/
theorem gained_of_executeAll {before after : List (Node α)}
    {levels : List (List Nat)} {injected middle : Session α}
    (ordered : model.levels = .ok levels)
    (split : (model.stages levels).flatten = before ++ after)
    (injects : inject model.inputs session = (injected, .ok ()))
    (ran : Node.executeAll before injected = (middle, .ok ())) :
    Gained model.inputs before session.context middle.context := by
  have staged := staged_of_levels ordered
  have gained := inject_ok injects
  have unheld := Node.unheld_of_executeAll ran
  have inOrder := staged.layered.ordered
  have distinct := staged.distinct_flatten
  rw [split, ordered_append_iff] at inOrder
  rw [split, List.map_append] at distinct
  have beforeDistinct := (List.nodup_append.mp distinct).1
  have runnable : Runnable model.inputNames before injected.context := by
    refine ⟨inOrder.1, beforeDistinct, ?_, unheld⟩
    intro name member
    obtain ⟨input, isInput, rfl⟩ := List.mem_map.mp member
    simp [gained.given input isInput]
  exact gained.solve (runnable.solves_executeAll ran) beforeDistinct unheld

/-- Where an input is taken, the inputs before it are all that is gained. -/
theorem TakenAt.evaluate {before : List (String × Result α)} {name : String}
    (taken : model.TakenAt session before name) :
    ∃ stopped, model.evaluate session = (stopped,
        .error (.notInjected name ⟨.duplicateResult name, Origin.unknown⟩)) ∧
      Gained before [] session.context stopped.context := by
  obtain ⟨levels, ordered⟩ := taken.ordered
  obtain ⟨result, after, split⟩ := taken.split
  have distinct := (staged_of_levels ordered).inputsDistinct
  rw [inputNames, split, List.map_append] at distinct
  obtain ⟨beforeDistinct, _, apart⟩ := List.nodup_append.mp distinct
  obtain ⟨stopped, run, injected⟩ := inject_injected beforeDistinct taken.free
  have outside : name ∉ before.map Prod.fst := fun member =>
    apart name member name (by simp) rfl
  have refused : stopped.context.publish Origin.unknown name result =
      .error ⟨.duplicateResult name, Origin.unknown⟩ := by
    refine ResultContext.publish_error_iff.mpr ⟨?_, rfl⟩
    rw [injected.kept name outside]
    exact taken.held
  refine ⟨stopped, ?_, inject_ok run⟩
  simp only [Model.evaluate, ordered, split, inject_append, run, inject,
    refused]

theorem FailsAt.evaluate
    (failsAt : model.FailsAt session earlier node later stopped failure) :
    model.evaluate session = (stopped, .error (.aborted failure)) := by
  obtain ⟨position, inOrder, found⟩ := failsAt.turn
  obtain ⟨injected, middle, injects, ran, fails⟩ := failsAt.fails
  obtain ⟨levels, ordered, sameOrder⟩ := order_eq_ok_iff.mp inOrder
  rw [evaluate_eq ordered injects, ← nodesAt_flatten, sameOrder,
    nodesAt_split earlier later found, Node.executeAll_append, ran]
  simp only [Node.executeAll, fails]

/-- Where a node fails, the inputs and the results of the nodes before it are
all that is gained. -/
theorem FailsAt.gained
    (failsAt : model.FailsAt session earlier node later stopped failure) :
    Gained model.inputs (model.nodesAt earlier) session.context
      stopped.context := by
  obtain ⟨position, inOrder, found⟩ := failsAt.turn
  obtain ⟨injected, middle, injects, ran, fails⟩ := failsAt.fails
  obtain ⟨levels, ordered, sameOrder⟩ := order_eq_ok_iff.mp inOrder
  have split := nodesAt_split earlier later found
  rw [← sameOrder, nodesAt_flatten] at split
  rw [(Node.execute_failed fails).1]
  exact gained_of_executeAll ordered split injects ran

/-- Neither the node that fails nor any later one publishes anything. -/
theorem FailsAt.unpublished
    (failsAt : model.FailsAt session earlier node later stopped failure) :
    ∀ other ∈ node :: model.nodesAt later,
      stopped.context.get? other.name = session.context.get? other.name := by
  intro other member
  apply failsAt.gained.others
  obtain ⟨position, inOrder, found⟩ := failsAt.turn
  obtain ⟨levels, ordered, sameOrder⟩ := order_eq_ok_iff.mp inOrder
  have staged := staged_of_levels ordered
  have distinct := staged.distinct_flatten
  have split := nodesAt_split earlier later found
  rw [← sameOrder, nodesAt_flatten] at split
  have isNode : other.name ∈ model.nodeNames := by
    rw [← staged.mem_names_iff, split]
    exact List.mem_map_of_mem (List.mem_append_right _ member)
  rw [split, List.map_append] at distinct
  rw [List.mem_append, not_or]
  refine ⟨staged.apart _ isNode, ?_⟩
  intro inEarlier
  exact (List.nodup_append.mp distinct).2.2 _ inEarlier _
    (List.mem_map_of_mem member) rfl

/-- Inputs that cannot all be published have a first one that is taken. -/
theorem takenAt_of_inject {levels : List (List Nat)} {error : ModelError α}
    (ordered : model.levels = .ok levels)
    (injects : inject model.inputs session = (stopped, .error error)) :
    ∃ before name, model.TakenAt session before name ∧
      error = .notInjected name ⟨.duplicateResult name, Origin.unknown⟩ := by
  obtain ⟨before, name, result, after, split, gained, held, rfl⟩ :=
    inject_error injects
  have distinct := (staged_of_levels ordered).inputsDistinct
  rw [inputNames, split, List.map_append] at distinct
  have outside : name ∉ before.map Prod.fst := fun member =>
    (List.nodup_append.mp distinct).2.2 name member name (by simp) rfl
  rw [gained.others name (by simpa using outside)] at held
  have free : ∀ input ∈ before, session.context.get? input.1 = none :=
    fun input member => gained.fresh input.1
      (List.mem_append_left _ (List.mem_map_of_mem member))
  exact ⟨before, name,
    ⟨⟨levels, ordered⟩, ⟨result, after, split⟩, free, held⟩, rfl⟩

theorem failsAt_of_executeAll {levels : List (List Nat)}
    {injected : Session α} (ordered : model.levels = .ok levels)
    (injects : inject model.inputs session = (injected, .ok ()))
    (run : Node.executeAll (model.nodesAt levels.flatten) injected =
      (stopped, .error failure)) :
    ∃ earlier node later,
      model.FailsAt session earlier node later stopped failure := by
  obtain ⟨before, node, after, middle, split, ran, fails⟩ :=
    Node.executeAll_error run
  obtain ⟨earlier, position, later, inOrder, rfl, found⟩ :=
    exists_split_of_nodesAt split
  have order := order_eq_ok_iff.mpr ⟨levels, ordered, inOrder⟩
  exact ⟨earlier, node, later, ⟨position, order, found⟩,
    injected, middle, injects, ran, fails⟩

/-- There is no other way for an evaluation to stop. -/
theorem evaluate_error {error : ModelError α}
    (failed : model.evaluate session = (stopped, .error error)) :
    (∃ fault, model.levels = .error fault ∧ error = .schedule fault) ∨
    (∃ before name, model.TakenAt session before name ∧
      error = .notInjected name ⟨.duplicateResult name, Origin.unknown⟩) ∨
    ∃ earlier node later failure,
      model.FailsAt session earlier node later stopped failure ∧
        error = .aborted failure := by
  unfold Model.evaluate at failed
  split at failed
  · rename_i fault noLevels
    cases failed
    exact Or.inl ⟨fault, noLevels, rfl⟩
  · rename_i levels ordered
    split at failed
    · rename_i injects
      cases failed
      exact Or.inr (Or.inl (takenAt_of_inject ordered injects))
    · rename_i injects
      split at failed
      · rename_i failure run
        cases failed
        obtain ⟨earlier, node, later, failsAt⟩ :=
          failsAt_of_executeAll ordered injects run
        exact Or.inr (Or.inr ⟨earlier, node, later, failure, failsAt, rfl⟩)
      · cases failed

/-- An evaluation that succeeds gains all inputs and all results. -/
theorem gained_of_evaluate {summary : Summary}
    (succeeded : model.evaluate session = (stopped, .ok summary)) :
    ∃ levels, model.levels = .ok levels ∧
      Gained model.inputs (model.stages levels).flatten session.context
        stopped.context := by
  unfold Model.evaluate at succeeded
  split at succeeded
  · cases succeeded
  · rename_i levels ordered
    split at succeeded
    · cases succeeded
    · rename_i injects
      split at succeeded
      · cases succeeded
      · rename_i run
        cases succeeded
        rw [nodesAt_flatten] at run
        exact ⟨levels, ordered, gained_of_executeAll ordered
          (List.append_nil _).symm injects run⟩

/-- Evaluation leaves what is held as it is. -/
theorem evaluate_extends (model : Model α) (session : Session α) :
    (model.evaluate session).1.context.Extends session.context := by
  cases run : model.evaluate session with
  | mk stopped outcome =>
      cases outcome with
      | ok summary =>
          obtain ⟨_, _, gained⟩ := gained_of_evaluate run
          exact gained.extends
      | error error =>
          rcases evaluate_error run with ⟨fault, noLevels, _⟩ |
            ⟨before, name, taken, _⟩ | ⟨_, _, _, _, failsAt, _⟩
          · simp only [Model.evaluate, noLevels] at run
            cases run
            exact ⟨rfl, fun _ _ => rfl⟩
          · obtain ⟨last, evaluates, gained⟩ := taken.evaluate
            rw [evaluates] at run
            cases run
            exact gained.extends
          · exact failsAt.gained.extends

/-- Evaluation fails fast, whatever the context holds at the start.  Without
levels it changes nothing; at an input whose name is taken it has published
the inputs before it; at a node that fails it has published all inputs and the
results of the nodes before, and it returns the node's own error.  It fails in
no other way, and what was held it always leaves as it was. -/
theorem evaluate_fails_fast (model : Model α) (session : Session α) :
    (∀ fault, model.levels = .error fault →
      model.evaluate session = (session, .error (.schedule fault))) ∧
    (∀ before name, model.TakenAt session before name →
      ∃ stopped, model.evaluate session = (stopped, .error
          (.notInjected name ⟨.duplicateResult name, Origin.unknown⟩)) ∧
        Gained before [] session.context stopped.context) ∧
    (∀ earlier node later stopped failure,
      model.FailsAt session earlier node later stopped failure →
        model.evaluate session = (stopped, .error (.aborted failure)) ∧
        Gained model.inputs (model.nodesAt earlier) session.context
          stopped.context ∧
        (∀ other ∈ node :: model.nodesAt later,
          stopped.context.get? other.name =
            session.context.get? other.name) ∧
        ∃ turn, turn.context = stopped.context ∧
          node.execute turn = (stopped, .error failure) ∧
          failure.origin = node.command.origin) ∧
    (∀ stopped error, model.evaluate session = (stopped, .error error) →
      (∃ fault, model.levels = .error fault ∧ error = .schedule fault) ∨
      (∃ before name, model.TakenAt session before name ∧
        error = .notInjected name ⟨.duplicateResult name, Origin.unknown⟩) ∨
      ∃ earlier node later failure,
        model.FailsAt session earlier node later stopped failure ∧
          error = .aborted failure) ∧
    (model.evaluate session).1.context.Extends session.context := by
  refine ⟨?_, ?_, ?_, ?_, model.evaluate_extends session⟩
  · intro fault noLevels
    simp only [Model.evaluate, noLevels]
  · intro before name taken
    exact taken.evaluate
  · intro earlier node later stopped failure failsAt
    obtain ⟨_, turn, _, _, fails⟩ := failsAt.fails
    obtain ⟨sameContext, own⟩ := Node.execute_failed fails
    exact ⟨failsAt.evaluate, failsAt.gained, failsAt.unpublished, turn,
      sameContext.symm, fails, own⟩
  · intro stopped error failed
    exact evaluate_error failed

end Model

namespace Sample

/-- A model in whose second level the first node fails. -/
def hasty : Model Float :=
  ⟨model.inputs, [alone, dry, suitable]⟩

/-- A session that starts with one result. -/
def startingWith (name : String) : Session Float :=
  session.withContext
    ⟨.standard, NameTable.empty.insert name (layer 1)⟩

/-- Beside an older result the hasty model gains the inputs and the complement
of wetness; where there is wetness already it gains slope alone. -/
theorem evaluate_fails_fast_hasty :
    (∃ stopped, hasty.evaluate (startingWith "Height") =
        (stopped, .error (.aborted
          ⟨.tooFewInputs "InFieldNames" 2 1, alone.command.origin⟩)) ∧
      Gained hasty.inputs [dry] (startingWith "Height").context
        stopped.context ∧
      stopped.context.get? "Alone" = none ∧
      stopped.context.get? "Suitable" = none ∧
      stopped.context.get? "Height" = some (layer 1)) ∧
    ∃ stopped, hasty.evaluate (startingWith "Water") =
        (stopped, .error (.notInjected "Water"
          ⟨.duplicateResult "Water", Origin.unknown⟩)) ∧
      Gained [("Slope", layer 0.25)] [] (startingWith "Water").context
        stopped.context := by
  have ordered : hasty.levels = .ok [[1], [0, 2]] := rfl
  have inOrder : hasty.order = .ok ([1] ++ 0 :: [2]) := rfl
  obtain ⟨_, _, fails, _, grows⟩ :=
    hasty.evaluate_fails_fast (startingWith "Height")
  constructor
  · have failsAt : hasty.FailsAt (startingWith "Height") [1] alone [2] _
        ⟨.tooFewInputs "InFieldNames" 2 1, alone.command.origin⟩ :=
      ⟨⟨0, inOrder, rfl⟩, _, _, Prod.ext rfl rfl, Prod.ext rfl rfl,
        Prod.ext rfl rfl⟩
    obtain ⟨evaluates, gained, unpublished, _⟩ := fails _ _ _ _ _ failsAt
    rw [evaluates] at grows
    have kept := grows.kept "Height" rfl
    refine ⟨_, evaluates, gained, ?_, ?_, kept⟩
    · exact unpublished alone (by simp)
    · exact unpublished suitable (by simp [Model.nodesAt, hasty])
  · have takenAt : hasty.TakenAt (startingWith "Water")
        [("Slope", layer 0.25)] "Water" := by
      refine ⟨⟨_, ordered⟩, ⟨_, [], rfl⟩, ?_, rfl⟩
      intro input member
      rw [List.mem_singleton.mp member]
      rfl
    exact (hasty.evaluate_fails_fast _).2.1 _ _ takenAt

end Sample

end FuzzyGrid
