import FuzzyGrid.Proofs.Evaluation.Success
import FuzzyGrid.Proofs.Operator.Placement

/-!
# Precursors

Precursors say that a node has to wait for others.  They change the levels of
a model and with them the order in which its nodes run, but no operation reads
them.  Models whose commands differ in such remarks alone have the same
equations, so that they succeed together and publish the same.
-/

namespace FuzzyGrid

variable {α : Type} [Scalar α]

namespace Node

variable {node twin : Node α}

theorem SolvedBy.of_sameButRemarks {context : ResultContext α}
    (solved : node.SolvedBy context)
    (same : node.command.SameButRemarks twin.command) :
    twin.SolvedBy context := by
  obtain ⟨computed, computes, holds⟩ := solved
  have sameName : node.name = twin.name := same.result
  exact ⟨computed, compute_of_operation (operation_eq_of_sameButRemarks same) computes,
    sameName ▸ holds⟩

end Node

namespace Model

/-- Models with the same inputs and, in whatever order, the same commands but
for remarks. -/
structure SameButRemarks (first second : Model α) : Prop where
  inputs : ∀ input, input ∈ first.inputs ↔ input ∈ second.inputs
  forth : ∀ node ∈ first.nodes, ∃ twin ∈ second.nodes,
    node.command.SameButRemarks twin.command
  back : ∀ twin ∈ second.nodes, ∃ node ∈ first.nodes,
    node.command.SameButRemarks twin.command

namespace SameButRemarks

variable {first second : Model α}

theorem symm (same : first.SameButRemarks second) :
    second.SameButRemarks first := by
  refine ⟨fun input => (same.inputs input).symm, ?_, ?_⟩
  · intro twin member
    obtain ⟨node, isNode, twins⟩ := same.back twin member
    exact ⟨node, isNode, twins.symm⟩
  · intro node member
    obtain ⟨twin, isTwin, twins⟩ := same.forth node member
    exact ⟨twin, isTwin, twins.symm⟩

theorem mem_inputNames_iff (same : first.SameButRemarks second)
    {name : String} : name ∈ first.inputNames ↔ name ∈ second.inputNames := by
  simp only [inputNames, List.mem_map, same.inputs]

theorem nodeNames_subset (same : first.SameButRemarks second) :
    first.nodeNames ⊆ second.nodeNames := by
  intro name member
  obtain ⟨node, isNode, rfl⟩ := List.mem_map.mp member
  obtain ⟨twin, isTwin, twins⟩ := same.forth node isNode
  exact List.mem_map.mpr ⟨twin, isTwin, twins.result.symm⟩

theorem solvedBy (same : first.SameButRemarks second)
    {context : ResultContext α} (solved : first.SolvedBy context) :
    second.SolvedBy context := by
  constructor
  · intro input member
    exact solved.inputs input ((same.inputs input).mpr member)
  · intro twin member
    obtain ⟨node, isNode, twins⟩ := same.back twin member
    exact (solved.nodes node isNode).of_sameButRemarks twins

theorem solution (same : first.SameButRemarks second)
    {start context : ResultContext α} (solution : first.Solution start context) :
    second.Solution start context := by
  have solved := same.solvedBy solution.solvedBy
  refine ⟨solution.range, solved.inputs, solved.nodes, ?_⟩
  intro name notInput notNode
  exact solution.others name (fun given => notInput (same.mem_inputNames_iff.mp given))
    fun produced => notNode (same.nodeNames_subset produced)

end SameButRemarks

end Model

namespace Sample

end Sample

end FuzzyGrid
