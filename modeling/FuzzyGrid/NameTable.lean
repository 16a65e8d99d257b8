/-!
# Tables by name

A finite map from names to values, kept in ascending order of the names, so
that two tables with the same entries are equal.  Names are ordered by code
points, which is also the order of their bytes.
-/

namespace FuzzyGrid

/-- Entries with strictly ascending names. -/
structure NameTable (β : Type) where
  /-- The entries in order. -/
  entries : List (String × β)
  /-- Names ascend strictly. -/
  ascending : entries.Pairwise fun first second => first.1 < second.1

namespace NameTable

variable {β : Type}

/-- Put an entry into its place among ascending entries, in the stead of one
of the same name. -/
def place (name : String) (value : β) : List (String × β) → List (String × β)
  | [] => [(name, value)]
  | next :: rest =>
    if name < next.1 then (name, value) :: next :: rest
    else if name = next.1 then (name, value) :: rest
    else next :: place name value rest

theorem mem_place {name : String} {value : β} {entry : String × β}
    {entries : List (String × β)} (member : entry ∈ place name value entries) :
    entry = (name, value) ∨ entry ∈ entries := by
  induction entries with
  | nil => simpa [place] using member
  | cons next rest induction =>
      unfold place at member
      split at member
      · simpa using member
      · split at member
        · rcases List.mem_cons.mp member with same | later
          · exact Or.inl same
          · exact Or.inr (List.mem_cons_of_mem _ later)
        · rcases List.mem_cons.mp member with same | later
          · exact Or.inr (by simp [same])
          · rcases induction later with same | old
            · exact Or.inl same
            · exact Or.inr (List.mem_cons_of_mem _ old)

theorem place_ascending (name : String) (value : β)
    {entries : List (String × β)}
    (ascending : entries.Pairwise fun first second => first.1 < second.1) :
    (place name value entries).Pairwise fun first second =>
      first.1 < second.1 := by
  induction entries with
  | nil => simp [place]
  | cons next rest induction =>
      have ⟨nextBelow, restAscending⟩ := List.pairwise_cons.mp ascending
      unfold place
      split
      · rename_i before
        refine List.pairwise_cons.mpr ⟨?_, ascending⟩
        intro entry member
        rcases List.mem_cons.mp member with same | later
        · exact same ▸ before
        · exact String.lt_trans before (nextBelow entry later)
      · split
        · rename_i same
          exact List.pairwise_cons.mpr
            ⟨fun entry member => same ▸ nextBelow entry member, restAscending⟩
        · rename_i notBefore different
          have after : next.1 < name :=
            String.not_le.mp fun atMost =>
              different (String.le_antisymm atMost (String.not_lt.mp notBefore))
          refine List.pairwise_cons.mpr ⟨?_, induction restAscending⟩
          intro entry member
          rcases mem_place member with same | old
          · exact same ▸ after
          · exact nextBelow entry old

def empty : NameTable β :=
  ⟨[], List.Pairwise.nil⟩

instance : Inhabited (NameTable β) := ⟨empty⟩

def get? (table : NameTable β) (name : String) : Option β :=
  table.entries.lookup name

def contains (table : NameTable β) (name : String) : Bool :=
  (table.get? name).isSome

/-- Set the value under a name; an earlier value is replaced. -/
def insert (table : NameTable β) (name : String) (value : β) : NameTable β :=
  ⟨place name value table.entries, place_ascending name value table.ascending⟩

def names (table : NameTable β) : List String :=
  table.entries.map Prod.fst

def size (table : NameTable β) : Nat :=
  table.entries.length

/-- The table of a list of pairs; of two pairs with one name the later wins. -/
def ofList (pairs : List (String × β)) : NameTable β :=
  pairs.foldl (fun table pair => table.insert pair.1 pair.2) empty

theorem lookup_cons_eq (name sought : String) (value : β)
    (entries : List (String × β)) :
    ((name, value) :: entries).lookup sought =
      if sought = name then some value else entries.lookup sought := by
  by_cases same : sought = name
  · simp [same]
  · have different : (sought == name) = false := by simpa using same
    simp [List.lookup_cons, different, same]

theorem lookup_place (name sought : String) (value : β)
    (entries : List (String × β)) :
    (place name value entries).lookup sought =
      if sought = name then some value else entries.lookup sought := by
  induction entries with
  | nil => by_cases same : sought = name <;> simp [place, lookup_cons_eq, same]
  | cons next rest induction =>
      obtain ⟨nextName, nextValue⟩ := next
      unfold place
      by_cases before : name < nextName
      · by_cases same : sought = name <;>
          simp [before, lookup_cons_eq, same]
      · by_cases equal : name = nextName
        · by_cases same : sought = nextName <;>
            simp [equal, lookup_cons_eq, same]
        · by_cases atNext : sought = nextName
          · have different : ¬nextName = name := fun reversed => equal reversed.symm
            simp [before, equal, atNext, different]
          · simp [before, equal, lookup_cons_eq, atNext, induction]

/-- What a table holds after an entry is set: the new value under its own
name, and under every other name what was there. -/
theorem get?_insert (table : NameTable β) (name sought : String) (value : β) :
    (table.insert name value).get? sought =
      if sought = name then some value else table.get? sought :=
  lookup_place name sought value table.entries

@[simp] theorem get?_empty (name : String) :
    (empty : NameTable β).get? name = none :=
  rfl

end NameTable

end FuzzyGrid
