import FuzzyGrid.Proofs.Fuzzy.Duality

/-!
# Selected unions

The union of the falsest values rises with their number, from the least value
to the mean of all values.  By duality the union of the truest values falls with
their number, from the greatest value to the same mean.  So the selected unions
of layers form a chain between the conjunction and the disjunction, with the
plain union in its middle.
-/

namespace FuzzyGrid

open Grid (foldValues)

variable {K : Type} [ExactNumber K]

namespace ListOperation

/-! ## Values -/

section

variable (range : FuzzyRange K) (values : List K)

theorem falsest_mono {fewer more : Nat} (positive : 1 ≤ fewer)
    (atMost : fewer ≤ more) (enough : more ≤ values.length) :
    (fuzzySelectedUnion .falsest fewer).combine range values ≤
      (fuzzySelectedUnion .falsest more).combine range values := by
  rw [combine_falsest, combine_falsest]
  apply Scalar.mean_take_mono (Ascending.pairwise_sort values) positive atMost
  rwa [Ascending.length_sort]

private theorem sum_sort :
    (Ascending.sort Scalar.lt values).sum = values.sum :=
  (Ascending.sort_perm Scalar.lt values).sum_eq

theorem falsest_all :
    (fuzzySelectedUnion .falsest values.length).combine range values =
      fuzzyUnion.combine range values := by
  have all := List.take_length (l := Ascending.sort Scalar.lt values)
  rw [Ascending.length_sort] at all
  rw [combine_falsest, combine_fuzzyUnion, all, sum_sort]

theorem truest_all :
    (fuzzySelectedUnion .truest values.length).combine range values =
      fuzzyUnion.combine range values := by
  rw [combine_truest, combine_fuzzyUnion, Nat.sub_self, List.drop_zero, sum_sort]

variable {values} (some : values ≠ [])

include some

theorem falsest_one :
    (fuzzySelectedUnion .falsest 1).combine range values =
      fuzzyAnd.combine range values := by
  obtain ⟨first, rest, rfl⟩ := List.exists_cons_of_ne_nil some
  have least := Ascending.head?_sort (first :: rest)
  rw [List.min?_cons', List.head?_eq_some_iff] at least
  obtain ⟨others, sorted⟩ := least
  rw [combine_falsest, combine_fuzzyAnd, sorted, foldValues]
  simp

/-- The truest values are the falsest of the values with the opposite sign. -/
private theorem truest_eq {considered : Nat} (positive : 1 ≤ considered)
    (enough : considered ≤ values.length) :
    (fuzzySelectedUnion .truest considered).combine range values =
      0 - (fuzzySelectedUnion .falsest considered).combine range
        (values.map fun value => 0 - value) := by
  rw [(Dual.truest positive enough).combine_reflect range 0
    (List.length_pos_iff.mpr some) rfl, sub_sub_cancel]

theorem truest_antitone {fewer more : Nat} (positive : 1 ≤ fewer)
    (atMost : fewer ≤ more) (enough : more ≤ values.length) :
    (fuzzySelectedUnion .truest more).combine range values ≤
      (fuzzySelectedUnion .truest fewer).combine range values := by
  rw [truest_eq range some (positive.trans atMost) enough,
    truest_eq range some positive (atMost.trans enough)]
  apply sub_le_sub_left
  exact falsest_mono range _ positive atMost (by rwa [List.length_map])

theorem truest_one :
    (fuzzySelectedUnion .truest 1).combine range values =
      fuzzyOr.combine range values := by
  have positive := List.length_pos_iff.mpr some
  have reflected : values.map (fun value => 0 - value) ≠ [] :=
    mt List.map_eq_nil_iff.mp some
  rw [truest_eq range some (le_refl 1) positive, falsest_one range reflected,
    Dual.fuzzyOr.combine_reflect range 0 positive rfl, sub_sub_cancel]

end

/-! ## Layers -/

/-- Selected unions of layers rise from their conjunction through their union
to their disjunction. -/
theorem selected_unions_chain {range : FuzzyRange K} {grids : List (Grid K)}
    (proper : range.low < range.high) (some : grids ≠ [])
    (shapes : Grid.SameShape grids) :
    ∃ falsest truest : Nat → Grid K,
      (∀ count, 1 ≤ count → count ≤ grids.length →
        (fuzzySelectedUnion .falsest count).Makes range grids (falsest count) ∧
        (fuzzySelectedUnion .truest count).Makes range grids (truest count)) ∧
      fuzzyAnd.Makes range grids (falsest 1) ∧
      fuzzyUnion.Makes range grids (falsest grids.length) ∧
      falsest grids.length = truest grids.length ∧
      fuzzyOr.Makes range grids (truest 1) ∧
      ∀ fewer more, 1 ≤ fewer → fewer ≤ more → more ≤ grids.length →
        (falsest fewer).AtMost (falsest more) ∧
        (truest more).AtMost (truest fewer) := by
  have positive : 0 < grids.length := List.length_pos_iff.mpr some
  have conjoins : (fuzzyAnd : ListOperation K).Takes grids.length :=
    .of_unweighted rfl positive rfl
  have unites : (fuzzyUnion : ListOperation K).Takes grids.length :=
    .of_unweighted rfl positive rfl
  have disjoins : (fuzzyOr : ListOperation K).Takes grids.length :=
    .of_unweighted rfl positive rfl
  have nonempty : ∀ values : List K, values.length = grids.length →
      values ≠ [] := by
    rintro _ length rfl
    exact positive.ne length
  refine ⟨fun count => (fuzzySelectedUnion .falsest count).clampedBlend range grids,
    fun count => (fuzzySelectedUnion .truest count).clampedBlend range grids,
    ?_, ?_, ?_, ?_, ?_, ?_⟩
  · intro count one enough
    exact ⟨(takes_fuzzySelectedUnion .falsest one enough).makes range shapes,
      (takes_fuzzySelectedUnion .truest one enough).makes range shapes⟩
  · dsimp only
    rw [clampedBlend_congr fun values length =>
      falsest_one range (nonempty values length)]
    exact conjoins.makes range shapes
  · dsimp only
    rw [clampedBlend_congr fun values length => length ▸ falsest_all range values]
    exact unites.makes range shapes
  · apply clampedBlend_congr
    intro values length
    rw [← length, falsest_all, truest_all]
  · dsimp only
    rw [clampedBlend_congr fun values length =>
      truest_one range (nonempty values length)]
    exact disjoins.makes range shapes
  · intro fewer more one atMost enough
    constructor
    · apply Grid.AtMost.clampUnmasked _ proper.le
      apply Grid.blend_atMost
      intro values length
      exact falsest_mono range values one atMost (length ▸ enough)
    · apply Grid.AtMost.clampUnmasked _ proper.le
      apply Grid.blend_atMost
      intro values length
      exact truest_antitone range (nonempty values length) one atMost
        (length ▸ enough)

end ListOperation

namespace Sample

/-- Three layers of which one is masked at the last place. -/
theorem selected_unions_chain_three :
    let range : FuzzyRange ℚ := ⟨0, 4⟩
    let grids : List (Grid ℚ) :=
      [⟨1, 3, [⟨1, false⟩, ⟨4, false⟩, ⟨9, true⟩]⟩,
        ⟨1, 3, [⟨3, false⟩, ⟨0, false⟩, ⟨2, false⟩]⟩,
        ⟨1, 3, [⟨2, false⟩, ⟨3, false⟩, ⟨1, false⟩]⟩]
    let fields := ["First", "Second", "Third"]
    let context := holding range (fields.zip grids)
    let lower : Grid ℚ := ⟨1, 3, [⟨3 / 2, false⟩, ⟨3 / 2, false⟩, ⟨3 / 2, true⟩]⟩
    let mean : Grid ℚ := ⟨1, 3, [⟨2, false⟩, ⟨7 / 3, false⟩, ⟨4, true⟩]⟩
    let selected selection count := Operation.list fields
      (.fuzzySelectedUnion selection count)
    (selected .falsest 2).compute .unknown context = .ok ⟨.layer lower .fuzzy, none⟩ ∧
      (Operation.list fields .fuzzyUnion).compute .unknown context =
        .ok ⟨.layer mean .fuzzy, none⟩ ∧
      lower.AtMost mean ∧
      (selected .truest 3).compute .unknown context =
        (Operation.list fields .fuzzyUnion).compute .unknown context ∧
      (selected .truest 1).compute .unknown context =
        (Operation.list fields .fuzzyOr).compute .unknown context := by
  intro range grids fields context lower mean selected
  have proper : range.low < range.high := by decide +kernel
  have shapes : Grid.SameShape grids := by decide +kernel
  obtain ⟨falsest, truest, makes, _, union, same, disjunction, rises⟩ :=
    ListOperation.selected_unions_chain proper (List.cons_ne_nil _ _) shapes
  have held : context.HoldsFuzzy fields grids := by decide +kernel
  have lowerMade := (makes 2 (by decide) (by decide)).1 .unknown context fields rfl held
  have meanMade := union .unknown context fields rfl held
  have isLower : falsest 2 = lower := eq_of_evaluated lowerMade (by decide +kernel)
  have isMean : falsest 3 = mean := eq_of_evaluated meanMade (by decide +kernel)
  have atMost := (rises 2 3 (by decide) (by decide) (by decide)).1
  have truestMade := (makes 3 (by decide) (by decide)).2 .unknown context fields rfl held
  have greatestMade :=
    (makes 1 (by decide) (by decide)).2 .unknown context fields rfl held
  refine ⟨isLower ▸ lowerMade, isMean ▸ meanMade, ?_, ?_, ?_⟩
  · rw [← isLower, ← isMean]
    exact atMost
  · rw [truestMade, meanMade, same]
    rfl
  · rw [greatestMade, disjunction .unknown context fields rfl held]

end Sample

end FuzzyGrid
