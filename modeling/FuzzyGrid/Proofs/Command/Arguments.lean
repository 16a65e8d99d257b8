import FuzzyGrid.Proofs.Lists.Blending

/-!
# Arguments as they are read

An argument is read as one value or item by item, a single value being a list of
itself.  The search for a repeated entry keeps the entries it has passed, and
what it has compared when it finds none is every entry with every earlier one.
-/

namespace FuzzyGrid

variable {α : Type}

namespace Command

variable {β : Type} {command : Command α} {arg : String}
  {read? : ArgValue α → Option β} {reason : ArgValue α → ArgReason α}

/-- An argument that is read as a given value. -/
def Holds (command : Command α) (arg : String) (read? : ArgValue α → Option β)
    (value : β) : Prop :=
  ∃ held, command.get? arg = some held ∧ read? held = some value

/-- An argument whose items are read as given values. -/
def Lists (command : Command α) (arg : String) (read? : ArgValue α → Option β)
    (values : List β) : Prop :=
  ∃ held, command.get? arg = some held ∧ held.items.map read? = values.map some

theorem readOne_eq_ok_iff {value : β} :
    command.readOne arg read? reason = .ok value ↔
      command.Holds arg read? value := by
  rw [readOne, bind_eq_ok, Holds]
  simp only [require_eq_ok, readValue_eq_ok]

theorem readMany_eq_ok_iff {values : List β} :
    command.readMany arg read? reason = .ok values ↔
      command.Lists arg read? values := by
  rw [readMany, bind_eq_ok, Lists]
  simp only [require_eq_ok, readAll_eq_ok_iff, readValue_eq_ok]
  simp only [← List.forall₂_eq_eq_eq, List.forall₂_map_left_iff,
    List.forall₂_map_right_iff]

end Command

variable [Scalar α]

namespace ArgValue

theorem sameEntry_number (left right : Numeral α) :
    sameEntry (number left) (number right) =
      Scalar.identical left.value right.value :=
  rfl

/-- Entries none of which repeats an earlier one or one already seen. -/
theorem firstRepeat?_eq_none_iff {seen items : List (ArgValue α)} :
    firstRepeat? seen items = none ↔
      (∀ item ∈ items, ∀ earlier ∈ seen, ¬sameEntry earlier item = true) ∧
        items.Pairwise fun earlier item => ¬sameEntry earlier item = true := by
  induction items generalizing seen with
  | nil => simp [firstRepeat?]
  | cons item rest induction =>
      rw [firstRepeat?, List.pairwise_cons]
      by_cases repeats : (seen.any fun earlier => sameEntry earlier item) = true
      · rw [if_pos repeats]
        obtain ⟨earlier, member, same⟩ := List.any_eq_true.mp repeats
        refine iff_of_false nofun ?_
        rintro ⟨apart, _⟩
        exact apart item List.mem_cons_self earlier member same
      · rw [if_neg repeats, induction]
        have new : ∀ earlier ∈ seen, ¬sameEntry earlier item = true := by
          intro earlier member same
          exact repeats (List.any_eq_true.mpr ⟨earlier, member, same⟩)
        constructor
        · rintro ⟨apart, pairwise⟩
          refine ⟨List.forall_mem_cons.mpr ⟨new, ?_⟩, ?_, pairwise⟩
          · intro later isLater earlier member
            exact apart later isLater earlier (List.mem_cons_of_mem _ member)
          · intro later isLater
            exact apart later isLater item List.mem_cons_self
        · rintro ⟨apart, fromItem, pairwise⟩
          refine ⟨?_, pairwise⟩
          intro later isLater
          refine List.forall_mem_cons.mpr ⟨fromItem later isLater, ?_⟩
          exact apart later (List.mem_cons_of_mem _ isLater)

end ArgValue

theorem Fault.checkDistinct_eq_ok_iff {origin : Origin} {arg : String}
    {items : List (ArgValue α)} :
    checkDistinct origin arg items = .ok () ↔
      items.Pairwise fun earlier item =>
        ¬ArgValue.sameEntry earlier item = true := by
  have unrepeated : ArgValue.firstRepeat? [] items = none ↔ _ :=
    ArgValue.firstRepeat?_eq_none_iff
  rw [checkDistinct]
  cases found : ArgValue.firstRepeat? [] items with
  | none =>
      rw [found] at unrepeated
      exact iff_of_true rfl (unrepeated.mp rfl).2
  | some item =>
      rw [found] at unrepeated
      refine iff_of_false nofun fun pairwise => ?_
      cases unrepeated.mpr ⟨fun _ _ _ => nofun, pairwise⟩

end FuzzyGrid
