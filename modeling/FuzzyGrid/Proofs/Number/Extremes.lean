import FuzzyGrid.Proofs.Number.Exact

/-!
# Least and greatest exact numbers

A list has a least and a greatest value unless it is empty.  Among exact numbers
they do not depend on which of two equal numbers wins.
-/

namespace FuzzyGrid.Scalar

/-- Searching for a best value is folding the choice between two. -/
private theorem foldl_best {α : Type} (keeps : α → α → Bool)
    {choice : α → α → α}
    (chooses : ∀ best value,
      (if keeps best value then best else value) = choice best value)
    (first : α) (rest : List α) :
    rest.foldl (fun best value =>
        match best with
        | some best => if keeps best value then some best else some value
        | none => some value) (some first) =
      some (rest.foldl choice first) := by
  induction rest generalizing first with
  | nil => rfl
  | cons next rest induction =>
      rw [List.foldl_cons, List.foldl_cons, ← chooses, ← induction]
      dsimp only
      split <;> rfl

section

variable {α : Type} [Scalar α] {values : List α}

theorem least?_eq_none_iff : least? values = none ↔ values = [] := by
  cases values with
  | nil => exact iff_of_true rfl rfl
  | cons first rest =>
      have found : least? (first :: rest) = some _ :=
        foldl_best le (fun _ _ => rfl) first rest
      simp [found]

theorem greatest?_eq_none_iff : greatest? values = none ↔ values = [] := by
  cases values with
  | nil => exact iff_of_true rfl rfl
  | cons first rest =>
      have found : greatest? (first :: rest) = some _ :=
        foldl_best (fun best value => le value best) (fun _ _ => rfl) first rest
      simp [found]

end

variable {K : Type} [ExactNumber K]

theorem least?_eq_min? (values : List K) : least? values = values.min? := by
  cases values with
  | nil => rfl
  | cons first rest =>
      rw [List.min?_cons']
      apply foldl_best
      intro best value
      simp only [le_iff, min_def]

theorem greatest?_eq_max? (values : List K) : greatest? values = values.max? := by
  cases values with
  | nil => rfl
  | cons first rest =>
      rw [List.max?_cons']
      apply foldl_best
      intro best value
      simp only [le_iff, max_comm best, max_def]

end FuzzyGrid.Scalar
