import FuzzyGrid.Proofs.Conversion.Layers
import FuzzyGrid.Proofs.Masking.Operations

/-!
# The listing of control points

Control points given by their distances from the mean of a layer are told apart
by these distances, but they come into order by the positions they stand for.
In a layer without spread all of them stand at its mean, and the one that is
listed first decides.
-/

namespace FuzzyGrid

private theorem eq_of_perm_of_few {β : Type} {items permuted : List β}
    (same : permuted.Perm items) (few : ¬2 ≤ items.length) : permuted = items := by
  match items with
  | [] => exact same.eq_nil
  | [item] => exact List.perm_singleton.mp same
  | _ :: _ :: _ => exact absurd (Nat.le_add_left 2 _) few

namespace LayerOperation

variable {K : Type} [ExactNumber K] {points permuted : List (Numeral K × K)}

section

variable {grid : Grid K} (root : Scalar.HasRoot grid.variance)

include root

/-- Where there is a spread, the curve does not depend on how its points are
listed. -/
theorem scoreCurve_perm (varied : grid.Varied) (same : permuted.Perm points)
    (distinct : (points.map fun point => point.1.value).Nodup) :
    scoreCurve permuted grid = scoreCurve points grid := by
  obtain ⟨ascending, orders⟩ := exists_orders_atScore varied root distinct
  rw [scoreCurve_eq orders, scoreCurve_eq (orders.perm (same.map _))]

/-- Where there is none, an unmasked cell gets the height of the point that is
listed first. -/
theorem scoreCurve_of_level {value : K} (level : grid.Level value)
    {first : Numeral K × K} (isFirst : points.head? = some first) :
    scoreCurve points grid value = first.2 := by
  have atMean : ∀ position ∈ (points.map Prod.fst).map fun score =>
      grid.atScore score.value, position = value := by
    intro position member
    obtain ⟨score, _, rfl⟩ := List.mem_map.mp member
    exact level.atScore_eq root score.value
  have head : (points.map fun point =>
      (grid.atScore point.1.value, point.2)).head? = some (value, first.2) := by
    rw [List.head?_map, isFirst, Option.map_some, level.atScore_eq root]
  rw [scoreCurve, Curve.ascendingPoints_of_level atMean, Curve.zip_eq]
  exact Curve.height_of_head? head

/-- Two listings make alike layers, unless there is no spread and the points
listed first differ in the range. -/
theorem mapInto_scoreCurve_alike_iff {range : FuzzyRange K}
    (some_ : grid.validValues ≠ []) (same : permuted.Perm points)
    (distinct : (points.map fun point => point.1.value).Nodup)
    (listed : points ≠ []) :
    (grid.mapInto range (scoreCurve permuted grid)).Alike
        (grid.mapInto range (scoreCurve points grid)) ↔
      ∀ value first other, grid.Level value → points.head? = some first →
        permuted.head? = some other →
          Scalar.clamp range.low range.high other.2 =
            Scalar.clamp range.low range.high first.2 := by
  by_cases varied : grid.Varied
  · -- Nothing is asked of a layer with a spread.
    rw [scoreCurve_perm root varied same distinct]
    refine iff_of_true (.refl _) ?_
    intro _ _ _ level
    exact absurd varied level.not_varied
  · obtain ⟨value, level⟩ := Grid.exists_level some_ varied
    rw [Grid.mapInto_alike_iff]
    constructor
    · intro alike shown first other levelToo isFirst isOther
      have heights := alike shown levelToo.shown
      rwa [scoreCurve_of_level root levelToo isFirst,
        scoreCurve_of_level root levelToo isOther] at heights
    · intro heights shown member
      cases level.alone shown member
      have listedToo : permuted ≠ [] := by
        rintro rfl
        exact listed same.nil_eq.symm
      have isFirst := List.head?_eq_some_head listed
      have isOther := List.head?_eq_some_head listedToo
      rw [scoreCurve_of_level root level isFirst,
        scoreCurve_of_level root level isOther]
      exact heights value _ _ level isFirst isOther

end

/-- In exact arithmetic, two listings of the same control points at different
distances from the mean come to the same outcome, unless the layer has unmasked cells
that all show one value.  Then both go through, and they come to the same only if
the points listed first have the same height in the range. -/
theorem toFuzzyCurveZScore_sameOutcome_iff {context : ResultContext K}
    {origin : Origin} {field : String} (same : permuted.Perm points)
    (distinct : (points.map fun point => point.1.value).Nodup)
    (rooted : ∀ input, context.layer origin DataType.numericsOrFuzzy field = .ok input →
      Scalar.HasRoot input.grid.variance) :
    SameOutcome Computed.Alike
        ((Operation.layer field (.toFuzzyCurveZScore (permuted.map Prod.fst)
          (permuted.map Prod.snd))).compute origin context)
        ((Operation.layer field (.toFuzzyCurveZScore (points.map Prod.fst)
          (points.map Prod.snd))).compute origin context) ↔
      ∀ input, context.layer origin DataType.numericsOrFuzzy field = .ok input →
        ∀ value first other, input.grid.Level value →
          points.head? = some first → permuted.head? = some other →
          Scalar.clamp context.range.low context.range.high other.2 =
            Scalar.clamp context.range.low context.range.high first.2 := by
  by_cases enough : 2 ≤ points.length
  case neg =>
    -- Fewer than two points are refused, but they also have one listing only.
    cases eq_of_perm_of_few same enough
    refine iff_of_true (Operation.compute_alike origin _ (.refl context)) ?_
    intro _ _ _ first other _ isFirst isOther
    cases isFirst.symm.trans isOther
    rfl
  have enoughToo : 2 ≤ permuted.length := same.length_eq ▸ enough
  have distinctToo : (permuted.map fun point => point.1.value).Nodup :=
    (same.map _).nodup_iff.mpr distinct
  cases read : context.layer origin DataType.numericsOrFuzzy field with
  | error fault =>
      simp only [Operation.compute, accepted, read]
      refine iff_of_true (.error fault) ?_
      intro input isRead
      cases isRead
  | ok input =>
      simp only [Except.ok.injEq, forall_eq']
      by_cases none_ : input.grid.validValues = []
      · rw [compute_of_apply read
            (apply_toFuzzyCurveZScore_of_masked origin enoughToo distinctToo none_),
          compute_of_apply read
            (apply_toFuzzyCurveZScore_of_masked origin enough distinct none_)]
        refine iff_of_true (sameOutcome_layers_iff.mpr (.refl _)) ?_
        intro _ _ _ level
        exact absurd level.shown (none_ ▸ List.not_mem_nil)
      · rw [compute_of_apply read
            (apply_toFuzzyCurveZScore origin enoughToo distinctToo none_),
          compute_of_apply read (apply_toFuzzyCurveZScore origin enough distinct none_),
          sameOutcome_layers_iff]
        exact mapInto_scoreCurve_alike_iff (rooted input read) none_ same distinct
          (List.length_pos_iff.mp (Nat.lt_of_lt_of_le two_pos enough))

end LayerOperation

namespace Sample

/-- Points on either side of the mean of an uneven layer, listed both ways. -/
theorem toFuzzyCurveZScore_sameOutcome_uneven :
    let uneven : Grid ℚ := ⟨1, 3, [⟨2, false⟩, ⟨4, false⟩, ⟨9, true⟩]⟩
    let context := holdingOne .standard "Uneven" uneven .float
    let points : List (Numeral ℚ × ℚ) := [(.whole (-1), -1 / 2), (.real 1, 1)]
    let converted (points : List (Numeral ℚ × ℚ)) :=
      (Operation.layer "Uneven" (.toFuzzyCurveZScore (points.map Prod.fst)
        (points.map Prod.snd))).compute .unknown context
    points.reverse.Perm points ∧
      (points.map fun point => point.1.value).Nodup ∧
      Scalar.HasRoot uneven.variance ∧ uneven.Varied ∧
      SameOutcome Computed.Alike (converted points.reverse) (converted points) := by
  intro uneven context points converted
  have same : points.reverse.Perm points := List.reverse_perm _
  have distinct : (points.map fun point => point.1.value).Nodup := by decide +kernel
  have root : Scalar.HasRoot uneven.variance := by decide +kernel
  have varied : uneven.Varied := by decide +kernel
  have read : context.layer .unknown DataType.numericsOrFuzzy "Uneven" =
      .ok ⟨uneven, .float⟩ :=
    holdingOne_layer _ _ _ _ rfl
  refine ⟨same, distinct, root, varied, ?_⟩
  refine (LayerOperation.toFuzzyCurveZScore_sameOutcome_iff same distinct ?_).mpr ?_
  · intro input isRead
    cases read.symm.trans isRead
    exact root
  · intro input isRead value _ _ level
    cases read.symm.trans isRead
    exact absurd varied level.not_varied

/-- The same points on either side of the mean of a flat layer. -/
theorem toFuzzyCurveZScore_flat :
    let flat (value : ℚ) : Grid ℚ := ⟨1, 2, [⟨value, false⟩, ⟨value, false⟩]⟩
    let points : List (Numeral ℚ × ℚ) := [(.real (-1), -1), (.real 1, 1)]
    let converted (points : List (Numeral ℚ × ℚ)) :=
      (Operation.layer "Flat" (.toFuzzyCurveZScore (points.map Prod.fst)
        (points.map Prod.snd))).compute .unknown
          (holdingOne .standard "Flat" (flat 5) .float)
    points.reverse.Perm points ∧
      (points.map fun point => point.1.value).Nodup ∧
      Scalar.HasRoot (flat 5).variance ∧
      (converted points).toOption = some ⟨.layer (flat (-1)) .fuzzy, none⟩ ∧
      (converted points.reverse).toOption = some ⟨.layer (flat 1) .fuzzy, none⟩ ∧
      ¬SameOutcome Computed.Alike (converted points.reverse) (converted points) := by
  intro flat points converted
  have listed : (converted points).toOption =
      some ⟨.layer (flat (-1)) .fuzzy, none⟩ := by decide +kernel
  have reversed : (converted points.reverse).toOption =
      some ⟨.layer (flat 1) .fuzzy, none⟩ := by decide +kernel
  refine ⟨List.reverse_perm _, by decide +kernel, by decide +kernel, listed, reversed,
    ?_⟩
  intro same
  rcases same.exists_eq with ⟨_, failed, _⟩ | ⟨_, _, made, madeToo, alike⟩
  · rw [failed] at reversed
    cases reversed
  · rw [made] at reversed
    rw [madeToo] at listed
    cases reversed
    cases listed
    cases alike.result.value with
    | grid grids => exact absurd grids.seen (by decide +kernel)

end Sample

end FuzzyGrid
