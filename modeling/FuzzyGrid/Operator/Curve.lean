import FuzzyGrid.Grid.Basic
import FuzzyGrid.FuzzyRange
import FuzzyGrid.Ascending

/-!
# Lines and curves

The functions of one scalar that conversions apply to every cell: a line
through two points, and a curve of straight segments through control points in
ascending order.
-/

namespace FuzzyGrid

variable {α : Type} [Scalar α]

/-- The line through `(x₁, y₁)` and `(x₂, y₂)`. -/
def lineThrough (x₁ y₁ x₂ y₂ x : α) : α :=
  (x - x₁) * ((y₂ - y₁) / (x₂ - x₁)) + y₁

namespace Curve

/-- Control points by ascending position, those of one position in their given
order. -/
def ascendingPoints (positions heights : List α) : List (α × α) :=
  Scalar.arrange Prod.fst (positions.zip heights)

/-- Whether the sort of the control points gives up. -/
def givesUp (positions heights : List α) : Bool :=
  (Scalar.arrange? Prod.fst (positions.zip heights)).isNone

/-- The segment between two control points, as slope and intercept. -/
def segment (left right : α × α) (x : α) : α :=
  let slope := (right.2 - left.2) / (right.1 - left.1)
  slope * x + (left.2 - slope * left.1)

/-- The height at `x` on the first segment that has `x` above its left end and
not above its right end. -/
def onSegments? (x : α) : List (α × α) → Option α
  | left :: right :: rest =>
    if Scalar.lt left.1 x && Scalar.le x right.1 then some (segment left right x)
    else onSegments? x (right :: rest)
  | _ => none

/-- The height of a curve: level before the first point and after the last
one, straight segments in between. -/
def height (points : List (α × α)) (x : α) : α :=
  match points.head?, points.getLast? with
  | some first, some last =>
    if Scalar.le x first.1 then first.2
    else if Scalar.lt last.1 x then last.2
    else (onSegments? x points).getD last.2
  | _, _ => x

end Curve

end FuzzyGrid
