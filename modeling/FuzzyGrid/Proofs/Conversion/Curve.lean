import FuzzyGrid.Proofs.Number.Ascending
import FuzzyGrid.Proofs.Number.Line

/-!
# Curves through control points

A curve through control points in ascending order is level before the first
point and after the last one, and goes straight from each point to the next in
between.  `PassesThrough` says so without an order of search, and in exact
arithmetic the heights that are computed are those it allows.  From there the
curve is seen to pass through its points, to stay between their heights, and to
rise where they do.
-/

namespace FuzzyGrid.Curve

variable {K : Type} [ExactNumber K]

/-- Control points at strictly ascending positions. -/
def Ascends (points : List (K × K)) : Prop :=
  points.Pairwise fun left right => left.1 < right.1

instance (points : List (K × K)) : Decidable (Ascends points) :=
  inferInstanceAs (Decidable (points.Pairwise fun left right => left.1 < right.1))

/-- The segment from the control point at a place to the next one has a
position above its left end and not above its right end. -/
structure Spans (points : List (K × K)) (place : Nat) (left right : K × K)
    (x : K) : Prop where
  leftAt : points[place]? = some left
  rightAt : points[place + 1]? = some right
  above : left.1 < x
  upTo : x ≤ right.1

/-- The height of the curve through control points at a position. -/
inductive PassesThrough (points : List (K × K)) (x : K) : K → Prop where
  | before {first : K × K} (isFirst : points.head? = some first)
      (upTo : x ≤ first.1) : PassesThrough points x first.2
  | between {place : Nat} {left right : K × K}
      (spans : Spans points place left right x) :
      PassesThrough points x
        (left.2 + (x - left.1) * (right.2 - left.2) / (right.1 - left.1))
  | after {last : K × K} (isLast : points.getLast? = some last)
      (above : last.1 < x) : PassesThrough points x last.2

variable {points : List (K × K)} {x y : K}

/-! ## Ascending points -/

namespace Ascends

theorem lt_of_lt (ascends : Ascends points) {place later : Nat}
    {left right : K × K} (leftAt : points[place]? = some left)
    (rightAt : points[later]? = some right) (before : place < later) :
    left.1 < right.1 := by
  obtain ⟨here, rfl⟩ := List.getElem?_eq_some_iff.mp leftAt
  obtain ⟨there, rfl⟩ := List.getElem?_eq_some_iff.mp rightAt
  exact List.pairwise_iff_getElem.mp ascends place later here there before

theorem le_of_le (ascends : Ascends points) {place later : Nat}
    {left right : K × K} (leftAt : points[place]? = some left)
    (rightAt : points[later]? = some right) (upTo : place ≤ later) :
    left.1 ≤ right.1 := by
  rcases upTo.eq_or_lt with rfl | before
  · cases leftAt.symm.trans rightAt
    exact le_refl _
  · exact (ascends.lt_of_lt leftAt rightAt before).le

theorem first_le (ascends : Ascends points) {first point : K × K}
    (isFirst : points.head? = some first) (member : point ∈ points) :
    first.1 ≤ point.1 := by
  obtain ⟨place, pointAt⟩ := List.mem_iff_getElem?.mp member
  rw [List.head?_eq_getElem?] at isFirst
  exact ascends.le_of_le isFirst pointAt place.zero_le

theorem le_last (ascends : Ascends points) {last point : K × K}
    (isLast : points.getLast? = some last) (member : point ∈ points) :
    point.1 ≤ last.1 := by
  obtain ⟨place, pointAt⟩ := List.mem_iff_getElem?.mp member
  obtain ⟨inside, _⟩ := List.getElem?_eq_some_iff.mp pointAt
  rw [List.getLast?_eq_getElem?] at isLast
  exact ascends.le_of_le pointAt isLast (Nat.le_sub_one_of_lt inside)

end Ascends

namespace Spans

variable {place : Nat} {left right : K × K}

theorem left_mem (spans : Spans points place left right x) : left ∈ points :=
  List.mem_of_getElem? spans.leftAt

theorem right_mem (spans : Spans points place left right x) : right ∈ points :=
  List.mem_of_getElem? spans.rightAt

theorem wide (spans : Spans points place left right x) : left.1 < right.1 :=
  spans.above.trans_le spans.upTo

/-- A position lies on one segment only. -/
theorem place_eq (ascends : Ascends points) {other : Nat} {start stop : K × K}
    (spans : Spans points place left right x)
    (also : Spans points other start stop x) : place = other := by
  have notAfter : ∀ {one two : Nat} {first second third fourth : K × K},
      Spans points one first second x → Spans points two third fourth x →
      two ≤ one := by
    intro one two first second third fourth here there
    by_contra before
    have order := ascends.le_of_le here.rightAt there.leftAt
      (Nat.succ_le_of_lt (not_le.mp before))
    exact absurd (here.upTo.trans order) (not_le.mpr there.above)
  exact le_antisymm (notAfter also spans) (notAfter spans also)

/-- A control point that is not before a segment is not before its right end,
unless it is the left one. -/
theorem right_le (ascends : Ascends points) {point : K × K}
    (spans : Spans points place left right x)
    (member : point ∈ points) (after : left.1 < point.1) :
    right.1 ≤ point.1 := by
  obtain ⟨other, pointAt⟩ := List.mem_iff_getElem?.mp member
  have later : place < other := by
    by_contra upTo
    have order := ascends.le_of_le pointAt spans.leftAt (not_lt.mp upTo)
    exact absurd after (not_lt.mpr order)
  exact ascends.le_of_le spans.rightAt pointAt later

end Spans

/-- Every position after the first point and up to the last one lies on a
segment. -/
theorem exists_spans {first last : K × K} (isFirst : points.head? = some first)
    (isLast : points.getLast? = some last) (above : first.1 < x)
    (upTo : x ≤ last.1) : ∃ place left right, Spans points place left right x := by
  induction points generalizing first with
  | nil => cases isFirst
  | cons point rest induction =>
      cases isFirst
      cases rest with
      | nil =>
          cases isLast
          exact absurd upTo (not_le.mpr above)
      | cons next others =>
          by_cases upToNext : x ≤ next.1
          · exact ⟨0, point, next, rfl, rfl, above, upToNext⟩
          · rw [List.getLast?_cons_cons] at isLast
            obtain ⟨place, left, right, spans⟩ :=
              induction rfl isLast (not_le.mp upToNext)
            exact ⟨place + 1, left, right, spans.leftAt, spans.rightAt,
              spans.above, spans.upTo⟩

/-! ## Computed heights -/

/-- The search for a segment finds the one that spans the position. -/
theorem onSegments?_eq (ascends : Ascends points) {place : Nat}
    {left right : K × K} (spans : Spans points place left right x) :
    onSegments? x points = some (segment left right x) := by
  induction points generalizing place with
  | nil => cases spans.leftAt
  | cons point rest induction =>
      cases rest with
      | nil => cases spans.rightAt
      | cons next others =>
          cases place with
          | zero =>
              obtain ⟨leftAt, rightAt, above, upTo⟩ := spans
              cases leftAt
              cases rightAt
              simp [onSegments?, above, upTo]
          | succ place =>
              have ascendsRest : Ascends (next :: others) :=
                List.Pairwise.of_cons ascends
              -- An earlier segment ends before the one that spans the position
              -- starts.
              have nextAt : (next :: others)[0]? = some next := rfl
              have order := ascendsRest.le_of_le nextAt spans.leftAt place.zero_le
              have notHere : ¬x ≤ next.1 :=
                not_le.mpr (order.trans_lt spans.above)
              rw [onSegments?, if_neg (by simp [notHere])]
              exact induction ascendsRest
                ⟨spans.leftAt, spans.rightAt, spans.above, spans.upTo⟩

/-- At the position of the point that comes first the height is that of this
point, also where other points are at this position. -/
theorem height_of_head? {first : K × K} (isFirst : points.head? = some first) :
    height points first.1 = first.2 := by
  cases points with
  | nil => cases isFirst
  | cons point rest =>
      cases isFirst
      simp [height, List.getLast?_cons]

theorem segment_eq (left right : K × K) (x : K) :
    segment left right x =
      left.2 + (x - left.1) * (right.2 - left.2) / (right.1 - left.1) := by
  unfold segment
  ring

theorem PassesThrough.exists_point (passes : PassesThrough points x y) :
    points ≠ [] := by
  rintro rfl
  cases passes with
  | before isFirst => cases isFirst
  | between spans => cases spans.leftAt
  | after isLast => cases isLast

theorem height_eq_of_passesThrough (ascends : Ascends points)
    (passes : PassesThrough points x y) : height points x = y := by
  obtain ⟨first, isFirst⟩ : ∃ first, points.head? = some first :=
    ⟨_, List.head?_eq_some_head passes.exists_point⟩
  obtain ⟨last, isLast⟩ : ∃ last, points.getLast? = some last :=
    ⟨_, List.getLast?_eq_some_getLast passes.exists_point⟩
  unfold height
  simp only [isFirst, isLast, Scalar.le_iff, Scalar.lt_iff]
  cases passes with
  | before isAlso upTo =>
      cases isFirst.symm.trans isAlso
      rw [if_pos upTo]
  | between spans =>
      have above := (ascends.first_le isFirst spans.left_mem).trans_lt spans.above
      have upTo := spans.upTo.trans (ascends.le_last isLast spans.right_mem)
      rw [if_neg (not_le.mpr above), if_neg (not_lt.mpr upTo),
        onSegments?_eq ascends spans, Option.getD_some, segment_eq]
  | after isAlso above =>
      cases isLast.symm.trans isAlso
      have order := ascends.first_le isFirst (List.mem_of_getLast? isLast)
      rw [if_neg (not_le.mpr (order.trans_lt above)), if_pos above]

theorem exists_passesThrough (some_ : points ≠ []) (x : K) :
    ∃ y, PassesThrough points x y := by
  have isFirst := List.head?_eq_some_head some_
  have isLast := List.getLast?_eq_some_getLast some_
  by_cases upTo : x ≤ (points.head some_).1
  · exact ⟨_, .before isFirst upTo⟩
  · by_cases above : (points.getLast some_).1 < x
    · exact ⟨_, .after isLast above⟩
    · obtain ⟨place, left, right, spans⟩ :=
        exists_spans isFirst isLast (not_le.mp upTo) (not_lt.mp above)
      exact ⟨_, .between spans⟩

theorem passesThrough_iff (ascends : Ascends points) (some_ : points ≠ []) :
    PassesThrough points x y ↔ height points x = y := by
  refine ⟨height_eq_of_passesThrough ascends, ?_⟩
  rintro rfl
  obtain ⟨y, passes⟩ := exists_passesThrough some_ x
  rwa [height_eq_of_passesThrough ascends passes]

/-- After the first point and up to the last one a position lies on one segment,
and the search for it comes to the height there. -/
theorem existsUnique_spans (ascends : Ascends points) {first last : K × K}
    (isFirst : points.head? = some first) (isLast : points.getLast? = some last)
    (above : first.1 < x) (upTo : x ≤ last.1) :
    (∃! place, ∃ left right, Spans points place left right x) ∧
      onSegments? x points = some (height points x) := by
  obtain ⟨place, left, right, spans⟩ := exists_spans isFirst isLast above upTo
  constructor
  · refine ⟨place, ⟨left, right, spans⟩, ?_⟩
    rintro other ⟨start, stop, also⟩
    exact also.place_eq ascends spans
  · rw [onSegments?_eq ascends spans, segment_eq]
    exact congrArg some (height_eq_of_passesThrough ascends (.between spans)).symm

/-! ## The course of a curve -/

theorem passesThrough_of_mem {point : K × K} (member : point ∈ points)
    (ascends : Ascends points) : PassesThrough points point.1 point.2 := by
  obtain ⟨place, pointAt⟩ := List.mem_iff_getElem?.mp member
  cases place with
  | zero => exact .before (List.head?_eq_getElem? ▸ pointAt) (le_refl _)
  | succ place =>
      obtain ⟨inside, _⟩ := List.getElem?_eq_some_iff.mp pointAt
      have leftAt := List.getElem?_eq_getElem (Nat.lt_of_succ_lt inside)
      have below := ascends.lt_of_lt leftAt pointAt place.lt_succ_self
      have passes := PassesThrough.between
        ⟨leftAt, pointAt, below, le_refl point.1⟩
      rwa [mul_div_cancel_left₀ _ (sub_ne_zero.mpr below.ne'),
        add_sub_cancel] at passes

/-- On a segment the height lies between the heights of its ends. -/
theorem Spans.height_mem {place : Nat} {left right : K × K}
    (spans : Spans points place left right x) :
    min left.2 right.2 ≤
        left.2 + (x - left.1) * (right.2 - left.2) / (right.1 - left.1) ∧
      left.2 + (x - left.1) * (right.2 - left.2) / (right.1 - left.1) ≤
        max left.2 right.2 := by
  rw [← segment_eq, segment_eq_lineThrough]
  exact lineThrough_mem spans.wide spans.above.le spans.upTo

/-- A curve stays between the heights of its points. -/
theorem PassesThrough.exists_bounds (passes : PassesThrough points x y) :
    ∃ lower ∈ points, ∃ upper ∈ points, lower.2 ≤ y ∧ y ≤ upper.2 := by
  cases passes with
  | @before first isFirst _ =>
      have member := List.mem_of_head? isFirst
      exact ⟨first, member, first, member, le_refl _, le_refl _⟩
  | @between place left right spans =>
      obtain ⟨above, upTo⟩ := spans.height_mem
      rcases le_total left.2 right.2 with rising | falling
      · rw [min_eq_left rising] at above
        rw [max_eq_right rising] at upTo
        exact ⟨left, spans.left_mem, right, spans.right_mem, above, upTo⟩
      · rw [min_eq_right falling] at above
        rw [max_eq_left falling] at upTo
        exact ⟨right, spans.right_mem, left, spans.left_mem, above, upTo⟩
  | @after last isLast _ =>
      have member := List.mem_of_getLast? isLast
      exact ⟨last, member, last, member, le_refl _, le_refl _⟩

/-- Heights do not fall with the positions of their points. -/
def Rises (points : List (K × K)) : Prop :=
  ∀ point ∈ points, ∀ other ∈ points, point.1 ≤ other.1 → point.2 ≤ other.2

namespace Rises

variable {other height : K}

/-- A rising curve is not above the points that are still to come. -/
theorem le_of_upTo (rises : Rises points) (ascends : Ascends points)
    (passes : PassesThrough points x y) {point : K × K} (member : point ∈ points)
    (upTo : x ≤ point.1) : y ≤ point.2 := by
  cases passes with
  | before isFirst _ =>
      exact rises _ (List.mem_of_head? isFirst) point member
        (ascends.first_le isFirst member)
  | between spans =>
      have order := spans.right_le ascends member (spans.above.trans_le upTo)
      have rising := rises _ spans.left_mem _ spans.right_mem spans.wide.le
      have highest := spans.height_mem.2
      rw [max_eq_right rising] at highest
      exact highest.trans (rises _ spans.right_mem point member order)
  | after isLast above =>
      have order := ascends.le_last isLast member
      exact absurd (above.trans_le upTo) (not_lt.mpr order)

/-- A curve rises if its points do. -/
theorem height_le (rises : Rises points) (ascends : Ascends points)
    (passes : PassesThrough points x y) (also : PassesThrough points other height)
    (upTo : x ≤ other) : y ≤ height := by
  cases also with
  | before isFirst before =>
      exact rises.le_of_upTo ascends passes (List.mem_of_head? isFirst)
        (upTo.trans before)
  | @between place left right spans =>
      have rising := rises _ spans.left_mem _ spans.right_mem spans.wide.le
      by_cases before : x ≤ left.1
      · have lowest := spans.height_mem.1
        rw [min_eq_left rising] at lowest
        exact (rises.le_of_upTo ascends passes spans.left_mem before).trans lowest
      · -- Both positions lie on the same segment.
        have here : Spans points place left right x :=
          ⟨spans.leftAt, spans.rightAt, not_le.mp before, upTo.trans spans.upTo⟩
        have line := lineThrough_monotone spans.wide.le rising upTo
        rw [← height_eq_of_passesThrough ascends passes,
          height_eq_of_passesThrough ascends (.between here)]
        rwa [← segment_eq_lineThrough, ← segment_eq_lineThrough, segment_eq,
          segment_eq] at line
  | after isLast _ =>
      obtain ⟨_, _, upper, member, _, atMost⟩ := passes.exists_bounds
      exact atMost.trans (rises upper member _ (List.mem_of_getLast? isLast)
        (ascends.le_last isLast member))

end Rises

/-! ## Points in any order -/

/-- Control points put into ascending order. -/
structure Orders (points ascending : List (K × K)) : Prop where
  ascends : Ascends ascending
  same : ascending.Perm points

theorem ascends_iff : Ascends points ↔
    points.Pairwise (Prod.fst · ≤ Prod.fst ·) ∧ (points.map Prod.fst).Nodup := by
  rw [List.nodup_iff_pairwise_ne, List.pairwise_map, ← List.pairwise_and_iff]
  constructor
  · exact List.Pairwise.imp fun below => ⟨below.le, below.ne⟩
  · exact List.Pairwise.imp fun both => both.1.lt_of_ne both.2

namespace Orders

variable {ascending permuted : List (K × K)}

theorem distinct (orders : Orders points ascending) :
    (points.map Prod.fst).Nodup :=
  (orders.same.map Prod.fst).nodup_iff.mp (ascends_iff.mp orders.ascends).2

theorem perm (orders : Orders points ascending) (same : permuted.Perm points) :
    Orders permuted ascending :=
  ⟨orders.ascends, orders.same.trans same.symm⟩

/-- There is one order in which given points ascend. -/
theorem unique (orders : Orders points ascending)
    (also : Orders points permuted) : ascending = permuted := by
  refine (orders.same.trans also.same.symm).eq_of_pairwise ?_ orders.ascends
    also.ascends
  intro one other _ _ before after
  exact absurd before (not_lt.mpr after.le)

end Orders

variable {positions heights : List K}

theorem ascendingPoints_eq_sort (positions heights : List K) :
    ascendingPoints positions heights =
      Ascending.sort (fun first second => Scalar.lt first.1 second.1)
        (positions.zip heights) :=
  Scalar.arrange_eq_sort Prod.fst _

theorem ascendingPoints_eq_insertionSort (positions heights : List K) :
    ascendingPoints positions heights =
      (positions.zip heights).insertionSort (Prod.fst · ≤ Prod.fst ·) :=
  (ascendingPoints_eq_sort positions heights).trans
    (Ascending.sort_eq_insertionSort Prod.fst _)

theorem orders_ascendingPoints
    (distinct : ((positions.zip heights).map Prod.fst).Nodup) :
    Orders (positions.zip heights) (ascendingPoints positions heights) := by
  rw [ascendingPoints_eq_sort]
  have same := Ascending.sort_perm
    (fun first second => Scalar.lt first.1 second.1) (positions.zip heights)
  refine ⟨ascends_iff.mpr ⟨Ascending.pairwise_sort_by Prod.fst _, ?_⟩, same⟩
  exact (same.map Prod.fst).nodup_iff.mpr distinct

theorem exists_orders (distinct : (points.map Prod.fst).Nodup) :
    ∃ ascending, Orders points ascending := by
  have zipped : (points.map Prod.fst).zip (points.map Prod.snd) = points := by
    rw [List.zip_map']
    exact List.map_id points
  have orders := orders_ascendingPoints (zipped.symm ▸ distinct)
  rw [zipped] at orders
  exact ⟨_, orders⟩

theorem Orders.ascendingPoints_eq {ascending : List (K × K)}
    (orders : Orders (positions.zip heights) ascending) :
    ascendingPoints positions heights = ascending :=
  (orders_ascendingPoints orders.distinct).unique orders

/-- A curve through two points is the line through them, between their
heights. -/
theorem height_pair {left right : K × K} (ordered : left.1 < right.1) (x : K) :
    height [left, right] x = Scalar.clamp (min left.2 right.2)
      (max left.2 right.2) (lineThrough left.1 left.2 right.1 right.2 x) := by
  have ascends : Ascends [left, right] := List.pairwise_pair.mpr ordered
  apply height_eq_of_passesThrough ascends
  rw [← lineThrough_clamp ordered, Scalar.clamp_eq ordered.le]
  by_cases before : x ≤ left.1
  · rw [max_eq_left ((min_le_left _ _).trans before), lineThrough_first]
    exact .before rfl before
  · by_cases upTo : x ≤ right.1
    · have spans : Spans [left, right] 0 left right x :=
        ⟨rfl, rfl, not_le.mp before, upTo⟩
      rw [min_eq_left upTo, max_eq_right spans.above.le, ← segment_eq_lineThrough,
        segment_eq]
      exact .between spans
    · rw [min_eq_right (not_le.mp upTo).le, max_eq_right ordered.le,
        lineThrough_second ordered.ne]
      exact .after rfl (not_le.mp upTo)

theorem Orders.height_of_two {one other : K × K} {ascending : List (K × K)}
    (orders : Orders [one, other] ascending) (x : K) :
    height ascending x = Scalar.clamp (min one.2 other.2) (max one.2 other.2)
      (lineThrough one.1 one.2 other.1 other.2 x) := by
  have apart : one.1 ≠ other.1 := by simpa using orders.distinct
  rcases lt_or_gt_of_ne apart with ordered | reversed
  · have same : ascending = [one, other] :=
      orders.unique ⟨List.pairwise_pair.mpr ordered, .refl _⟩
    rw [same, height_pair ordered]
  · have same : ascending = [other, one] :=
      orders.unique ⟨List.pairwise_pair.mpr reversed, .swap _ _ _⟩
    rw [same, height_pair reversed, lineThrough_comm apart, min_comm, max_comm]

/-- Points of one position stay in the order in which they are given. -/
theorem ascendingPoints_of_level {position : K}
    (level : ∀ other ∈ positions, other = position) :
    ascendingPoints positions heights = positions.zip heights := by
  rw [ascendingPoints_eq_sort]
  apply Ascending.sort_of_pairwise Prod.fst
  apply List.pairwise_of_forall_mem_list
  intro one isOne other isOther
  rw [level _ (List.of_mem_zip isOne).1, level _ (List.of_mem_zip isOther).1]

end FuzzyGrid.Curve
