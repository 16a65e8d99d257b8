import Mathlib.Algebra.Order.BigOperators.Group.List
import Mathlib.Algebra.Order.Field.Rat
import FuzzyGrid.Grid.Statistics
import FuzzyGrid.Proofs.Grid.Seen
import FuzzyGrid.Proofs.Number.Extremes
import FuzzyGrid.Proofs.Number.Mean

/-!
# The spread of a layer

In exact arithmetic the unmasked cells of a layer either have no spread or show
two different values.  Two values make the extremes of the layer differ, and its
variance is zero just where there are no two.  The deviation is said to be exact
where the square root takes the variance to its root, which need not exist in
every ordered field.
-/

namespace FuzzyGrid

namespace Grid

variable {α : Type} {grid : Grid α}

/-- Unmasked cells show different values. -/
def Varied (grid : Grid α) : Prop :=
  ∃ one ∈ grid.validValues, ∃ other ∈ grid.validValues, one ≠ other

instance [DecidableEq α] (grid : Grid α) : Decidable grid.Varied :=
  inferInstanceAs (Decidable (∃ one ∈ grid.validValues,
    ∃ other ∈ grid.validValues, one ≠ other))

/-- There are unmasked cells, and all of them show one value. -/
structure Level (grid : Grid α) (value : α) : Prop where
  shown : value ∈ grid.validValues
  alone : ∀ other ∈ grid.validValues, other = value

theorem Varied.exists_valid (varied : grid.Varied) : grid.validValues ≠ [] := by
  obtain ⟨one, member, _⟩ := varied
  exact List.ne_nil_of_mem member

theorem Level.not_varied {value : α} (level : grid.Level value) :
    ¬grid.Varied := by
  rintro ⟨one, isOne, other, isOther, different⟩
  exact different ((level.alone one isOne).trans (level.alone other isOther).symm)

theorem exists_level (some_ : grid.validValues ≠ []) (same : ¬grid.Varied) :
    ∃ value, grid.Level value := by
  obtain ⟨value, shown⟩ := List.exists_mem_of_ne_nil _ some_
  refine ⟨value, shown, ?_⟩
  intro other isOther
  by_contra different
  exact same ⟨other, isOther, value, shown, different⟩

end Grid

variable {K : Type} [ExactNumber K]

/-- The square root of a number is its root that is not negative. -/
structure Scalar.HasRoot (value : K) : Prop where
  nonnegative : 0 ≤ Scalar.sqrt value
  square : Scalar.sqrt value * Scalar.sqrt value = value

instance (value : K) : Decidable (Scalar.HasRoot value) :=
  decidable_of_iff (0 ≤ Scalar.sqrt value ∧
      Scalar.sqrt value * Scalar.sqrt value = value)
    ⟨fun both => ⟨both.1, both.2⟩, fun root => ⟨root.nonnegative, root.square⟩⟩

theorem Scalar.HasRoot.sqrt_eq_zero_iff {value : K} (root : HasRoot value) :
    Scalar.sqrt value = 0 ↔ value = 0 := by
  rw [← mul_self_eq_zero, root.square]

namespace Grid

variable {grid : Grid K}

/-! ## Extremes -/

theorem least?_eq_some_iff {least : K} :
    grid.least? = some least ↔ IsLeast {value | value ∈ grid.validValues} least := by
  rw [least?, Scalar.least?_eq_min?, List.min?_eq_some_iff]
  rfl

theorem greatest?_eq_some_iff {greatest : K} :
    grid.greatest? = some greatest ↔
      IsGreatest {value | value ∈ grid.validValues} greatest := by
  rw [greatest?, Scalar.greatest?_eq_max?, List.max?_eq_some_iff]
  rfl

theorem Level.extremes_eq {value : K} (level : grid.Level value) :
    grid.least? = some value ∧ grid.greatest? = some value := by
  rw [least?_eq_some_iff, greatest?_eq_some_iff]
  exact ⟨⟨level.shown, fun other member => (level.alone other member).ge⟩,
    level.shown, fun other member => (level.alone other member).le⟩

/-- A rising function takes extremes to extremes. -/
theorem extremes_map {function : K → K} (rises : Monotone function) {least greatest : K}
    (isLeast : grid.least? = some least) (isGreatest : grid.greatest? = some greatest) :
    (grid.map function).least? = some (function least) ∧
      (grid.map function).greatest? = some (function greatest) := by
  rw [least?_eq_some_iff] at isLeast
  rw [greatest?_eq_some_iff] at isGreatest
  rw [least?_eq_some_iff, greatest?_eq_some_iff, validValues_map]
  refine ⟨⟨List.mem_map_of_mem isLeast.1, ?_⟩, List.mem_map_of_mem isGreatest.1, ?_⟩
  · intro value member
    obtain ⟨source, shown, rfl⟩ := List.mem_map.mp member
    exact rises (isLeast.2 shown)
  · intro value member
    obtain ⟨source, shown, rfl⟩ := List.mem_map.mp member
    exact rises (isGreatest.2 shown)

/-- Two values make the extremes differ. -/
theorem Varied.exists_extremes (varied : grid.Varied) :
    ∃ least greatest, grid.least? = some least ∧ grid.greatest? = some greatest ∧
      least < greatest ∧
      ∀ value ∈ grid.validValues, least ≤ value ∧ value ≤ greatest := by
  obtain ⟨least, isLeast⟩ :=
    Option.isSome_iff_exists.mp (List.isSome_min?_of_ne_nil varied.exists_valid)
  obtain ⟨greatest, isGreatest⟩ :=
    Option.isSome_iff_exists.mp (List.isSome_max?_of_ne_nil varied.exists_valid)
  have above := (List.min?_eq_some_iff.mp isLeast).2
  have below := (List.max?_eq_some_iff.mp isGreatest).2
  have within : ∀ value ∈ grid.validValues, least ≤ value ∧ value ≤ greatest :=
    fun value member => ⟨above value member, below value member⟩
  refine ⟨least, greatest, (Scalar.least?_eq_min? _).trans isLeast,
    (Scalar.greatest?_eq_max? _).trans isGreatest, ?_, within⟩
  obtain ⟨one, isOne, other, isOther, different⟩ := varied
  rcases lt_or_gt_of_ne different with less | more
  · exact (within one isOne).1.trans_lt (less.trans_le (within other isOther).2)
  · exact (within other isOther).1.trans_lt (more.trans_le (within one isOne).2)

/-! ## Mean and variance -/

/-- The mean of the unmasked cells, where there are any. -/
def mean (grid : Grid K) : K :=
  grid.validValues.sum / grid.validValues.length

/-- The mean square of the distances of the unmasked cells from their mean. -/
def variance (grid : Grid K) : K :=
  (grid.validValues.map (squaredDistance grid.mean)).sum / grid.validValues.length

theorem mean?_eq_none (none_ : grid.validValues = []) : grid.mean? = none := by
  rw [mean?, none_]
  rfl

theorem mean?_eq (some_ : grid.validValues ≠ []) :
    grid.mean? = some grid.mean := by
  rw [mean?, meanOf?, if_neg (by simpa using some_), Scalar.total_eq_sum,
    Scalar.ofNat_eq_cast, mean]

theorem deviation?_eq (some_ : grid.validValues ≠ []) :
    grid.deviation? = some (Scalar.sqrt grid.variance) := by
  rw [deviation?, mean?_eq some_, Option.map_some, Scalar.total_eq_sum,
    Scalar.ofNat_eq_cast, variance]

theorem Level.mean_eq {value : K} (level : grid.Level value) :
    grid.mean = value := by
  have count : (grid.validValues.length : K) ≠ 0 :=
    Nat.cast_ne_zero.mpr (List.length_pos_of_mem level.shown).ne'
  rw [mean, List.sum_eq_card_nsmul _ value level.alone, nsmul_eq_mul,
    mul_div_cancel_left₀ _ count]

/-- The variance is zero just where all unmasked cells show one value. -/
theorem variance_eq_zero_iff (some_ : grid.validValues ≠ []) :
    grid.variance = 0 ↔ ¬grid.Varied := by
  have count : (grid.validValues.length : K) ≠ 0 :=
    Nat.cast_ne_zero.mpr (List.length_pos_iff.mpr some_).ne'
  rw [variance, div_eq_zero_iff, or_iff_left count]
  constructor
  · rintro noSum ⟨one, isOne, other, isOther, different⟩
    have atMean : ∀ value ∈ grid.validValues, value = grid.mean := by
      intro value member
      have noDistance : squaredDistance grid.mean value = 0 := by
        apply List.all_zero_of_le_zero_le_of_sum_eq_zero _ noSum
          (List.mem_map_of_mem member)
        rintro _ isSquare
        obtain ⟨other, _, rfl⟩ := List.mem_map.mp isSquare
        exact mul_self_nonneg _
      exact sub_eq_zero.mp (mul_self_eq_zero.mp noDistance)
    exact different ((atMean one isOne).trans (atMean other isOther).symm)
  · intro same
    obtain ⟨value, level⟩ := exists_level some_ same
    apply List.sum_eq_zero
    rintro _ isSquare
    obtain ⟨other, member, rfl⟩ := List.mem_map.mp isSquare
    rw [squaredDistance, level.mean_eq, level.alone other member, sub_self,
      mul_zero]

/-- The number that lies a number of deviations from the mean of the unmasked
cells. -/
def atScore (grid : Grid K) (score : K) : K :=
  grid.mean + score * Scalar.sqrt grid.variance

/-- Where there is a spread, distances from the mean are told apart. -/
theorem Varied.atScore_injective (varied : grid.Varied)
    (root : Scalar.HasRoot grid.variance) : Function.Injective grid.atScore := by
  have spread : Scalar.sqrt grid.variance ≠ 0 := by
    rw [ne_eq, root.sqrt_eq_zero_iff, variance_eq_zero_iff varied.exists_valid]
    exact not_not_intro varied
  intro score other same
  exact mul_right_cancel₀ spread (add_left_cancel same)

/-- Where there is none, all of them are the same. -/
theorem Level.atScore_eq {value : K} (level : grid.Level value)
    (root : Scalar.HasRoot grid.variance) (score : K) :
    grid.atScore score = value := by
  have flat : grid.variance = 0 :=
    (variance_eq_zero_iff (List.ne_nil_of_mem level.shown)).mpr level.not_varied
  rw [atScore, level.mean_eq, root.sqrt_eq_zero_iff.mpr flat, mul_zero, add_zero]

end Grid

end FuzzyGrid
