import FuzzyGrid.Operator.Compute

/-!
# Sorts that give up

Two kinds of operation sort: those that stack their layers and those that follow
a curve.  A sort is begun when all that can be found wrong has been checked, and
one that gives up ends the run without an error to return.
-/

namespace FuzzyGrid

variable {α : Type} [Scalar α]

/-- Whether the sort gives up that an operation on a layer begins. -/
def LayerOperation.givesUp (operation : LayerOperation α) (grid : Grid α) : Bool :=
  match operation with
  | toFuzzyCurve raw fuzzy => Curve.givesUp (raw.map Numeral.value) fuzzy
  | toFuzzyCurveZScore scores fuzzy =>
    match grid.mean?, grid.deviation? with
    | some mean, some deviation =>
      Curve.givesUp (scores.map fun score => mean + score.value * deviation) fuzzy
    | _, _ => false
  | _ => false

/-- Whether a sort gives up that an operation on a list of layers begins. -/
def ListOperation.givesUp (operation : ListOperation α) (grids : List (Grid α)) :
    Bool :=
  match operation with
  | fuzzySelectedUnion _ _ | fuzzyXor => SortedStack.givesUp grids
  | _ => false

namespace Operation

/-- Whether a sort gives up over the layers that an operation reads. -/
def sortGivesUp (origin : Origin) (operation : Operation α)
    (context : ResultContext α) : Bool :=
  match operation with
  | layer field operation =>
    match context.layer origin operation.accepted field with
    | .ok input => operation.givesUp input.grid
    | .error _ => false
  | list fields operation =>
    match context.layers origin operation.accepted fields with
    | .ok inputs => operation.givesUp (inputs.map InputGrid.grid)
    | .error _ => false
  | _ => false

/-- Whether computing an operation gives up: a sort does, and nothing has been
found wrong before. -/
def givesUp (origin : Origin) (operation : Operation α) (context : ResultContext α) :
    Bool :=
  operation.sortGivesUp origin context && (operation.compute origin context).isOk

end Operation

end FuzzyGrid
