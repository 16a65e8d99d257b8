import FuzzyGrid.Context
import Mathlib.Data.List.Sort

/-!
# Contexts by their look-ups

A context is known by its range and by what it holds under each name.  A
result is published where nothing is held, and every later context extends the
earlier ones: what a name holds it keeps.
-/

namespace FuzzyGrid

variable {α β : Type}

namespace NameTable

theorem lookup_of_mem {entries : List (String × β)}
    (ascending : entries.Pairwise fun first second => first.1 < second.1)
    {name : String} {value : β} (member : (name, value) ∈ entries) :
    entries.lookup name = some value := by
  induction entries with
  | nil => cases member
  | cons next rest induction =>
      obtain ⟨nextName, nextValue⟩ := next
      have ⟨below, restAscending⟩ := List.pairwise_cons.mp ascending
      rw [lookup_cons_eq]
      rcases List.mem_cons.mp member with same | later
      · cases same
        rw [if_pos rfl]
      · have different : name ≠ nextName :=
          (String.ne_of_lt (below _ later)).symm
        rw [if_neg different]
        exact induction restAscending later

theorem mem_of_lookup {entries : List (String × β)} {name : String} {value : β}
    (found : entries.lookup name = some value) : (name, value) ∈ entries := by
  induction entries with
  | nil => cases found
  | cons next rest induction =>
      obtain ⟨nextName, nextValue⟩ := next
      rw [lookup_cons_eq] at found
      split at found
      · rename_i same
        cases found
        exact same ▸ List.mem_cons_self
      · exact List.mem_cons_of_mem _ (induction found)

theorem mem_entries_iff {table : NameTable β} {name : String} {value : β} :
    (name, value) ∈ table.entries ↔ table.get? name = some value :=
  ⟨lookup_of_mem table.ascending, mem_of_lookup⟩

/-- Tables that hold the same under every name are equal. -/
theorem ext_get? {first second : NameTable β}
    (same : ∀ name, first.get? name = second.get? name) : first = second := by
  have sameMembers : ∀ entry,
      entry ∈ first.entries ↔ entry ∈ second.entries := by
    intro entry
    rw [mem_entries_iff, mem_entries_iff, same]
  have asymmetric : Std.Asymm fun left right : String × β =>
      left.1 < right.1 :=
    ⟨fun _ _ before after => String.lt_asymm before after⟩
  have sameEntries : first.entries = second.entries :=
    List.Pairwise.eq_of_mem_iff first.ascending second.ascending sameMembers
  cases first
  cases second
  cases sameEntries
  rfl

theorem length_place {entries : List (String × β)} {name : String} {value : β}
    (absent : entries.lookup name = none) :
    (place name value entries).length = entries.length + 1 := by
  induction entries with
  | nil => rfl
  | cons next rest induction =>
      obtain ⟨nextName, nextValue⟩ := next
      rw [lookup_cons_eq] at absent
      unfold place
      split
      · rfl
      · split at absent
        · cases absent
        · rename_i different
          rw [if_neg different, List.length_cons, induction absent,
            List.length_cons]

theorem mem_names_iff {table : NameTable β} {name : String} :
    name ∈ table.names ↔ table.contains name = true := by
  rw [names, contains, Option.isSome_iff_exists]
  constructor
  · intro member
    obtain ⟨⟨_, value⟩, held, rfl⟩ := List.mem_map.mp member
    exact ⟨value, mem_entries_iff.mp held⟩
  · intro held
    obtain ⟨value, held⟩ := held
    exact List.mem_map.mpr ⟨(name, value), mem_entries_iff.mpr held, rfl⟩

end NameTable

namespace ResultContext

/-- Contexts of one range that hold the same under every name are equal. -/
theorem ext_get? {first second : ResultContext α}
    (sameRange : first.range = second.range)
    (same : ∀ name, first.get? name = second.get? name) : first = second := by
  have sameResults := NameTable.ext_get? same
  cases first
  cases second
  cases sameRange
  cases sameResults
  rfl

theorem publish_ok_iff {context grown : ResultContext α} {origin : Origin}
    {name : String} {result : Result α} :
    context.publish origin name result = .ok grown ↔
      context.get? name = none ∧
        grown = ⟨context.range, context.results.insert name result⟩ := by
  have contains_eq : context.contains name = (context.get? name).isSome := rfl
  unfold publish
  rw [contains_eq]
  cases held : context.get? name with
  | none => simp [eq_comm]
  | some other => simp

theorem publish_error_iff {context : ResultContext α} {origin : Origin}
    {name : String} {result : Result α} {error : CommandError α} :
    context.publish origin name result = .error error ↔
      (context.get? name).isSome ∧ error = ⟨.duplicateResult name, origin⟩ := by
  have contains_eq : context.contains name = (context.get? name).isSome := rfl
  unfold publish
  rw [contains_eq]
  cases held : context.get? name with
  | none => simp
  | some other => simp [eq_comm]

/-- What a context holds after a result has been published. -/
theorem get?_publish {context grown : ResultContext α} {origin : Origin}
    {name : String} {result : Result α}
    (published : context.publish origin name result = .ok grown)
    (sought : String) :
    grown.get? sought =
      if sought = name then some result else context.get? sought := by
  obtain ⟨_, rfl⟩ := publish_ok_iff.mp published
  exact context.results.get?_insert name sought result

theorem range_publish {context grown : ResultContext α} {origin : Origin}
    {name : String} {result : Result α}
    (published : context.publish origin name result = .ok grown) :
    grown.range = context.range := by
  obtain ⟨_, rfl⟩ := publish_ok_iff.mp published
  rfl

theorem size_publish {context grown : ResultContext α} {origin : Origin}
    {name : String} {result : Result α}
    (published : context.publish origin name result = .ok grown) :
    grown.size = context.size + 1 := by
  obtain ⟨absent, rfl⟩ := publish_ok_iff.mp published
  exact NameTable.length_place absent

/-- A later context has the range and every result of an earlier one. -/
structure Extends (later earlier : ResultContext α) : Prop where
  range : later.range = earlier.range
  kept : ∀ name, (earlier.get? name).isSome →
    later.get? name = earlier.get? name

namespace Extends

theorem present {later earlier : ResultContext α}
    (grows : later.Extends earlier) {name : String}
    (held : (earlier.get? name).isSome) : (later.get? name).isSome := by
  rw [grows.kept name held]
  exact held

end Extends

end ResultContext

end FuzzyGrid
