import FuzzyGrid.Number.Scalar

/-!
# Ascending order

A stable insertion sort by a strict comparison test.  Entries that do not
compare keep their places, so equal entries stay in their given order.

Entries are arranged by a scalar key.  A short list is arranged by insertion
whatever its entries, and so is a list that the keys order.  A long list that
they do not order is left to the arithmetic, and there the sort may give up.
-/

namespace FuzzyGrid

namespace Ascending

variable {α : Type}

/-- Put `entry` before the first entry that is not below it. -/
def insert (below : α → α → Bool) (entry : α) : List α → List α
  | [] => [entry]
  | next :: rest =>
    if below next entry then next :: insert below entry rest
    else entry :: next :: rest

def sort (below : α → α → Bool) : List α → List α
  | [] => []
  | entry :: rest => insert below entry (sort below rest)

theorem insert_perm (below : α → α → Bool) (entry : α) (entries : List α) :
    (insert below entry entries).Perm (entry :: entries) := by
  induction entries with
  | nil => exact List.Perm.refl _
  | cons next rest induction =>
      unfold insert
      split
      · exact (induction.cons next).trans (List.Perm.swap entry next rest)
      · exact List.Perm.refl _

/-- Sorting keeps every entry as often as it occurs. -/
theorem sort_perm (below : α → α → Bool) (entries : List α) :
    (sort below entries).Perm entries := by
  induction entries with
  | nil => exact List.Perm.refl _
  | cons entry rest induction =>
      exact (insert_perm below entry _).trans (induction.cons entry)

@[simp] theorem length_sort (below : α → α → Bool) (entries : List α) :
    (sort below entries).length = entries.length :=
  (sort_perm below entries).length_eq

@[simp] theorem mem_sort {below : α → α → Bool} {entry : α} {entries : List α} :
    entry ∈ sort below entries ↔ entry ∈ entries :=
  (sort_perm below entries).mem_iff

/-- Whether a test orders some entries: no two of them are below each other, and
every entry is above the lower or below the upper of any two that are apart. -/
def orders (below : α → α → Bool) (entries : List α) : Bool :=
  entries.all fun first => entries.all fun second =>
    !(below first second && below second first) &&
      entries.all fun third =>
        !below first second || below first third || below third second

end Ascending

namespace Scalar

variable {α β : Type} [Scalar α]

/-- Whether an entry has the lower key. -/
def below (key : β → α) (first second : β) : Bool :=
  lt (key first) (key second)

/-- The length up to which a list is arranged by insertion alone. -/
def insertionLimit : Nat :=
  20

/-- Whether the arrangement of a list by a key is settled. -/
def settles (key : β → α) (entries : List β) : Bool :=
  decide (entries.length ≤ insertionLimit) || Ascending.orders (below key) entries

/-- Arrange a list by a key; none where the sort gives up. -/
def arrange? (key : β → α) (entries : List β) : Option (List β) :=
  if settles key entries then some (Ascending.sort (below key) entries)
  else (unordered? key entries).map Subtype.val

/-- The arrangement of a list in a run in which no sort gives up. -/
def arrange (key : β → α) (entries : List β) : List β :=
  (arrange? key entries).getD (Ascending.sort (below key) entries)

variable {key : β → α} {entries : List β}

theorem settles_of_length_le (short : entries.length ≤ insertionLimit) :
    settles key entries = true := by
  rw [settles, decide_eq_true short, Bool.true_or]

theorem arrange?_of_settles (settled : settles key entries = true) :
    arrange? key entries = some (Ascending.sort (below key) entries) :=
  if_pos settled

theorem arrange_of_settles (settled : settles key entries = true) :
    arrange key entries = Ascending.sort (below key) entries := by
  rw [arrange, arrange?_of_settles settled, Option.getD_some]

theorem arrange_of_arrange? {left : List β}
    (arranged : arrange? key entries = some left) :
    arrange key entries = left := by
  rw [arrange, arranged, Option.getD_some]

theorem perm_of_arrange? {left : List β} (arranged : arrange? key entries = some left) :
    left.Perm entries := by
  unfold arrange? at arranged
  split at arranged
  · cases arranged
    exact Ascending.sort_perm _ _
  · obtain ⟨⟨left, perm⟩, _, rfl⟩ := Option.map_eq_some_iff.mp arranged
    exact perm

/-- Arranging keeps every entry as often as it occurs. -/
theorem arrange_perm (key : β → α) (entries : List β) :
    (arrange key entries).Perm entries := by
  unfold arrange
  cases arranged : arrange? key entries with
  | none => exact Ascending.sort_perm _ _
  | some left => exact perm_of_arrange? arranged

@[simp] theorem length_arrange (key : β → α) (entries : List β) :
    (arrange key entries).length = entries.length :=
  (arrange_perm key entries).length_eq

@[simp] theorem mem_arrange {entry : β} :
    entry ∈ arrange key entries ↔ entry ∈ entries :=
  (arrange_perm key entries).mem_iff

end Scalar

end FuzzyGrid
