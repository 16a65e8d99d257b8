/-!
# Scalars

Grid cells, weights and thresholds are scalars.  Every operator is written
against the interface below, so that the same definitions run on machine
numbers and can be read in any other arithmetic.  Comparisons are tests:
a cell that is not a number compares false with everything, itself included.
Sorting is part of the interface where such entries leave it open.
-/

namespace FuzzyGrid

/-- The operations on numbers that a model uses. -/
class Scalar (α : Type) extends Add α, Sub α, Mul α, Div α where
  sqrt : α → α
  /-- The scalar nearest to an integer. -/
  ofInt : Int → α
  /-- The value of an empty sum, from which every sum starts. -/
  emptySum : α
  lt : α → α → Bool
  le : α → α → Bool
  /-- Equal as numbers. -/
  eq : α → α → Bool
  /-- The same number, zeros of either sign counting as one. -/
  identical : α → α → Bool
  /-- The text that a number counts as when it is compared with a text. -/
  code : α → String
  /-- The text of a number in a message. -/
  plainText : α → String
  /-- The text of a number in a printed grid. -/
  cellText : α → String
  /-- What sorting by a key leaves of a long list that the keys do not order: its
  entries in some order, or nothing where the sort gives up. -/
  unordered? {β : Type} (key : β → α) (entries : List β) :
    Option {left : List β // left.Perm entries}

namespace Scalar

variable {α : Type} [Scalar α]

def ofNat (count : Nat) : α :=
  ofInt count

/-- The lesser of two scalars; the other one where one is not a number. -/
def lesser (left right : α) : α :=
  if eq left left then (if lt right left then right else left) else right

/-- The greater of two scalars; the other one where one is not a number. -/
def greater (left right : α) : α :=
  if eq left left then (if lt left right then right else left) else right

/-- The sum of a list, added up from the left. -/
def total (values : List α) : α :=
  values.foldl (fun sum value => sum + value) emptySum

/-- `value` moved to the nearer bound if it lies outside `low` and `high`. -/
def clamp (low high value : α) : α :=
  if lt value low then low else if lt high value then high else value

/-- The least value of a list by `le`, a later one winning where the two do
not compare. -/
def least? : List α → Option α :=
  List.foldl (fun best value =>
    match best with
    | some least => if le least value then some least else some value
    | none => some value) none

/-- The greatest value of a list by `le`, a later one winning where the two do
not compare. -/
def greatest? : List α → Option α :=
  List.foldl (fun best value =>
    match best with
    | some greatest => if le value greatest then some greatest else some value
    | none => some value) none

end Scalar

end FuzzyGrid
