import Mathlib.Algebra.Order.Ring.Cast
import FuzzyGrid.Proofs.Safety.Rectangular

/-!
# Partial operations

Division, taking away from a count, looking up an entry by its place and
cutting a piece out of a list are partial.  The total operations of Lean give
them a value everywhere; the guarded ones below have none outside their domain.
Statistics, lines, curves, stacks and printed grids are written with guarded
operations here, step by step as they are computed, and shown to come to the
same as the total definitions.  So none of the guards is ever in the way.
-/

namespace FuzzyGrid

variable {α β γ : Type}

/-! ## Computations with guards -/

/-- A computation that has no outcome where a guard is in the way. -/
abbrev Attempt (α β : Type) := ExceptT (CommandError α) Option β

namespace Attempt

/-- A computation without guards. -/
def total (outcome : Except (CommandError α) β) : Attempt α β :=
  ExceptT.mk (some outcome)

/-- The value of a guarded operation. -/
def guarded (value : Option β) : Attempt α β :=
  ExceptT.mk (value.map Except.ok)

/-- Two steps after each other are total if the second one is for everything
that the first one can yield. -/
theorem bind_eq {first : Attempt α β} {next : β → Attempt α γ}
    {outcome : Except (CommandError α) β} {rest : β → Except (CommandError α) γ}
    (same : first = total outcome)
    (rests : ∀ value, outcome = .ok value → next value = total (rest value)) :
    (first >>= next) = total (outcome >>= rest) := by
  subst same
  cases outcome with
  | error fault => rfl
  | ok value => exact rests value rfl

theorem guarded_eq {value : Option β} {found : β}
    (same : value = some found) :
    (guarded value : Attempt α β) = total (.ok found) := by
  rw [same]
  rfl

theorem guarded_bind_eq {value : Option β} {found : β}
    {next : β → Attempt α γ} (same : value = some found) :
    (guarded value >>= next) = next found := by
  subst same
  rfl

/-- What has no outcome after a first step has none. -/
theorem bind_blocked {first : Attempt α β} {next : β → Attempt α γ} {found : β}
    (same : first = total (.ok found)) (blocked : (next found).run = none) :
    (first >>= next).run = none := by
  subst same
  exact blocked

end Attempt

namespace Guarded

section Lists

/-- Taking away from a count what is at most as much. -/
def less (count taken : Nat) : Option Nat :=
  if taken ≤ count then some (count - taken) else none

/-- The entries of a list from one place up to another. -/
def slice (start stop : Nat) (entries : List β) : Option (List β) :=
  if start ≤ stop ∧ stop ≤ entries.length then
    some ((entries.take stop).drop start)
  else none

theorem less_eq {count taken : Nat} (enough : taken ≤ count) :
    less count taken = some (count - taken) :=
  if_pos enough

theorem slice_eq {start stop : Nat} {entries : List β} (ordered : start ≤ stop)
    (inside : stop ≤ entries.length) :
    slice start stop entries = some ((entries.take stop).drop start) :=
  if_pos ⟨ordered, inside⟩

/-- Where every item has a value, the list has the list of the values. -/
theorem mapM_eq_some {items : List β} {step : β → Option γ} {function : β → γ}
    (same : ∀ item ∈ items, step item = some (function item)) :
    items.mapM step = some (items.map function) := by
  induction items with
  | nil => rfl
  | cons item rest induction =>
      have rests := induction fun other member =>
        same other (List.mem_cons_of_mem _ member)
      simp [List.mapM_cons, same item List.mem_cons_self, rests]

/-- Where one item has no value, the list has none. -/
theorem mapM_eq_none {items : List β} {step : β → Option γ} {item : β}
    (member : item ∈ items) (fails : step item = none) : items.mapM step = none := by
  induction items with
  | nil => cases member
  | cons next rest induction =>
      rw [List.mapM_cons]
      rcases List.mem_cons.mp member with rfl | later
      · rw [fails]
        rfl
      · cases step next with
        | none => rfl
        | some value => simp [induction later]

private theorem mapM_range_take {step : Nat → Option β} {count : Nat}
    {entries : List β} (inside : count ≤ entries.length)
    (same : ∀ place < count, step place = entries[place]?) :
    (List.range count).mapM step = some (entries.take count) := by
  induction count with
  | zero => rfl
  | succ count induction =>
      have earlier := induction (Nat.le_of_succ_le inside) fun place before =>
        same place (Nat.lt_succ_of_lt before)
      have last := same count (Nat.lt_succ_self count)
      rw [List.range_succ, List.mapM_append, earlier, List.take_add_one]
      simp [last, List.getElem?_eq_getElem inside]

/-- Looking up all places of a list in order gives the list. -/
theorem mapM_range_eq {step : Nat → Option β} {count : Nat} {entries : List β}
    (length : entries.length = count)
    (same : ∀ place < count, step place = entries[place]?) :
    (List.range count).mapM step = some entries := by
  rw [mapM_range_take (Nat.le_of_eq length.symm) same, ← length,
    List.take_length]

end Lists

section Divisions

variable [Scalar α] (allows : α → Bool)

/-- A quotient by an allowed divisor. -/
def divide (dividend divisor : α) : Option α :=
  if allows divisor then some (dividend / divisor) else none

theorem divide_eq {allows : α → Bool} {divisor : α} (allowed : allows divisor)
    (dividend : α) : divide allows dividend divisor = some (dividend / divisor) :=
  if_pos allowed

/-- The divisors that the checks of the operations let through: these are
allowed. -/
structure Divisors : Prop where
  count {count : Nat} (some : 0 < count) : allows (Scalar.ofNat count)
  nonzero {value : α} (isNot : Scalar.eq value zero = false) : allows value
  /-- The width of an extent or of a pair of thresholds. -/
  apart {first second : α} (differ : Scalar.eq first second = false) :
    allows (first - second) ∧ allows (second - first)
  /-- The distance of a fuzzy value from the lower end of the range. -/
  above {low value : α} (notBelow : Scalar.le value low = false) :
    allows (value - low)
  /-- The width of a segment with a scalar on it. -/
  segment {left right value : α} (after : Scalar.lt left value = true)
    (upTo : Scalar.le value right = true) : allows (right - left)

/-- Machine numbers have a quotient for every divisor. -/
theorem Divisors.all : Divisors fun _ : α => true := by
  constructor <;> simp

/-- In exact arithmetic the checks keep zero out. -/
theorem Divisors.exact {K : Type} [ExactNumber K] :
    Divisors fun divisor : K => decide (divisor ≠ 0) where
  count some := by
    have positive : (0 : K) < (Scalar.ofNat _ : K) :=
      Int.cast_pos.mpr (Int.natCast_pos.mpr some)
    exact decide_eq_true positive.ne'
  nonzero isNot := by
    have isZero : (zero : K) = 0 := Int.cast_zero
    have isNot := mt Scalar.eq_iff.mpr (Bool.eq_false_iff.mp isNot)
    exact decide_eq_true (isZero ▸ isNot)
  apart differ := by
    have differ := mt Scalar.eq_iff.mpr (Bool.eq_false_iff.mp differ)
    exact ⟨decide_eq_true (sub_ne_zero.mpr differ),
      decide_eq_true (sub_ne_zero.mpr (Ne.symm differ))⟩
  above notBelow := by
    have above := mt Scalar.le_iff.mpr (Bool.eq_false_iff.mp notBelow)
    exact decide_eq_true (sub_pos.mpr (not_le.mp above)).ne'
  segment after upTo := by
    have wide := (Scalar.lt_iff.mp after).trans_le (Scalar.le_iff.mp upTo)
    exact decide_eq_true (sub_pos.mpr wide).ne'

example : divide (fun divisor : ℚ => decide (divisor ≠ 0)) 1 0 = none := by
  decide

end Divisions

end Guarded

end FuzzyGrid
