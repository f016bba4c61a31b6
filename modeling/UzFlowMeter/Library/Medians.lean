import Mathlib.Algebra.Order.Ring.Abs
import Mathlib.Data.List.GetD
import Mathlib.Data.List.Sort
import UzFlowMeter.Library.Spread

/-!
# Medians

A median has as many items below it as above it.  It is a center with the
least sum of distances, so that it is no further from the mean than one
standard deviation.  The middle of a sorted list is a median.
-/

namespace Spread

section Medians

variable {alpha : Type*} [LinearOrder alpha]

/-- As many items are put below the median as above it; the others are equal
to it. -/
def IsMedian (items : List alpha) (median : alpha) : Prop :=
  ∃ lower center upper : List alpha,
    items.Perm (lower ++ center ++ upper) ∧
      lower.length = upper.length ∧
      (∀ item ∈ lower, item ≤ median) ∧
      (∀ item ∈ center, item = median) ∧
      ∀ item ∈ upper, median ≤ item

variable {items : List alpha} {median : alpha}

theorem IsMedian.of_perm
    {sorted : List alpha} (isMedian : IsMedian sorted median)
    (perm : sorted.Perm items) : IsMedian items median := by
  obtain ⟨lower, center, upper, split, rest⟩ := isMedian
  exact ⟨lower, center, upper, perm.symm.trans split, rest⟩

variable [Zero alpha]

theorem getD_le_getD
    (sorted : items.Pairwise (· ≤ ·)) {left right : Nat}
    (before : left ≤ right) (inside : right < items.length) :
    items.getD left 0 ≤ items.getD right 0 := by
  rw [List.getD_eq_getElem _ _ inside,
    List.getD_eq_getElem _ _ (lt_of_le_of_lt before inside)]
  exact sorted.sortedLE.getElem_le_getElem_of_le before

/-- A median from the positions of the items around it. -/
theorem isMedian_of_positions
    {count : Nat} (half : 2 * count ≤ items.length)
    (below : ∀ index < count, items.getD index 0 ≤ median)
    (center : ∀ index, count ≤ index → index < items.length - count →
      items.getD index 0 = median)
    (above : ∀ index, items.length - count ≤ index →
      index < items.length → median ≤ items.getD index 0) :
    IsMedian items median := by
  refine ⟨items.take count,
    (items.drop count).take (items.length - 2 * count),
    items.drop (items.length - count), ?_, ?_, ?_, ?_, ?_⟩
  · have rest : items.drop (items.length - count) =
        (items.drop count).drop (items.length - 2 * count) := by
      rw [List.drop_drop]
      congr 1
      omega
    rw [rest, List.append_assoc, List.take_append_drop,
      List.take_append_drop]
  · rw [List.length_take, List.length_drop]
    omega
  · intro item member
    obtain ⟨index, inside, rfl⟩ := List.mem_take_iff_getElem.mp member
    rw [← List.getD_eq_getElem items 0]
    exact below index (by omega)
  · intro item member
    obtain ⟨index, inside, rfl⟩ := List.mem_take_iff_getElem.mp member
    rw [List.length_drop] at inside
    rw [List.getElem_drop, ← List.getD_eq_getElem items 0]
    exact center (count + index) (by omega) (by omega)
  · intro item member
    obtain ⟨index, inside, rfl⟩ := List.mem_drop_iff_getElem.mp member
    rw [← List.getD_eq_getElem items 0]
    exact above _ (by omega) (by omega)

end Medians

section Deviations

variable {alpha : Type*} [Field alpha]

theorem sum_deviations (center : alpha) (items : List alpha) :
    (items.map fun item => item - center).sum =
      items.sum - items.length * center := by
  induction items with
  | nil =>
      simp
  | cons item items inductionHypothesis =>
      rw [List.map_cons, List.sum_cons, inductionHypothesis, List.sum_cons,
        List.length_cons]
      push_cast
      ring

variable [LinearOrder alpha]

/-- The sum of the distances from a center. -/
def distances (center : alpha) (items : List alpha) : alpha :=
  (items.map fun item => |item - center|).sum

theorem distances_append (center : alpha) (left right : List alpha) :
    distances center (left ++ right) =
      distances center left + distances center right := by
  rw [distances, List.map_append, List.sum_append, distances, distances]

theorem distances_perm
    {left right : List alpha} (perm : left.Perm right) (center : alpha) :
    distances center left = distances center right :=
  (perm.map fun item => |item - center|).sum_eq

end Deviations

variable {alpha : Type*} [Field alpha] [LinearOrder alpha]
  [IsStrictOrderedRing alpha]

theorem distances_nonneg (center : alpha) (items : List alpha) :
    0 ≤ distances center items := by
  apply List.sum_nonneg
  intro distance member
  obtain ⟨item, -, rfl⟩ := List.mem_map.mp member
  exact abs_nonneg _

/-- Above the center the distances are the deviations. -/
theorem distances_of_le
    {center : alpha} {items : List alpha}
    (above : ∀ item ∈ items, center ≤ item) :
    distances center items = items.sum - items.length * center := by
  rw [distances, ← sum_deviations]
  congr 1
  apply List.map_congr_left
  intro item member
  exact abs_of_nonneg (sub_nonneg.mpr (above item member))

theorem distances_of_ge
    {center : alpha} {items : List alpha}
    (below : ∀ item ∈ items, item ≤ center) :
    distances center items = items.length * center - items.sum := by
  rw [← neg_sub, ← sum_deviations, List.sum_neg, List.map_map, distances]
  congr 1
  apply List.map_congr_left
  intro item member
  exact abs_of_nonpos (sub_nonpos.mpr (below item member))

theorem abs_sum_sub_le (center : alpha) (items : List alpha) :
    |items.sum - items.length * center| ≤ distances center items := by
  rw [← sum_deviations]
  induction items with
  | nil =>
      exact le_of_eq abs_zero
  | cons item items inductionHypothesis =>
      rw [distances, List.map_cons, List.map_cons, List.sum_cons,
        List.sum_cons]
      exact le_trans (abs_add_le _ _)
        (add_le_add (le_refl _) inductionHypothesis)

/-- The square of the distances against the squared deviations. -/
theorem sq_distances_le (center : alpha) (items : List alpha) :
    distances center items ^ 2 ≤ items.length * squares center items := by
  have bound := sq_sum_le (items.map fun item => |item - center|)
  rw [List.length_map, List.map_map] at bound
  have same : items.map ((fun item => item ^ 2) ∘
      fun item => |item - center|) =
        items.map fun item => (item - center) ^ 2 := by
    apply List.map_congr_left
    intro item _
    exact sq_abs _
  rw [same] at bound
  exact bound

variable {items : List alpha} {median : alpha}

/-- No center has a smaller sum of distances than a median. -/
theorem IsMedian.distances_le
    (isMedian : IsMedian items median) (other : alpha) :
    distances median items ≤ distances other items := by
  obtain ⟨lower, center, upper, perm, balanced, below, equal, above⟩ :=
    isMedian
  have balancedCast : (lower.length : alpha) = upper.length := by
    rw [balanced]
  have onCenter : distances median center = 0 := by
    apply List.sum_eq_zero
    intro distance member
    obtain ⟨item, itemMember, rfl⟩ := List.mem_map.mp member
    rw [equal item itemMember, sub_self, abs_zero]
  have fromMedian : distances median items = upper.sum - lower.sum := by
    rw [distances_perm perm, distances_append, distances_append, onCenter,
      distances_of_ge below, distances_of_le above, balancedCast]
    ring
  have lowerBound := neg_le_of_abs_le (abs_sum_sub_le other lower)
  have upperBound := le_of_abs_le (abs_sum_sub_le other upper)
  have centerBound := distances_nonneg other center
  rw [fromMedian, distances_perm perm, distances_append, distances_append]
  rw [balancedCast] at lowerBound
  linarith

/-- A median is within one standard deviation of the mean. -/
theorem IsMedian.sq_mean_sub_le
    (isMedian : IsMedian items median) (nonempty : items ≠ []) :
    (mean items - median) ^ 2 ≤ variance items := by
  have positive : (0 : alpha) < items.length := length_pos_cast nonempty
  have fromMedian := abs_sum_sub_le median items
  have shorter := isMedian.distances_le (mean items)
  have spread := sq_distances_le (mean items) items
  have scaled : (items.length * (mean items - median)) ^ 2 ≤
      items.length * (items.length * variance items) := by
    rw [length_mul_variance, mul_sub, length_mul_mean, ← sq_abs]
    refine le_trans ?_ spread
    exact pow_le_pow_left₀ (abs_nonneg _) (le_trans fromMedian shorter) 2
  apply le_of_mul_le_mul_left _ (mul_pos positive positive)
  linarith

/-- The item in the middle, or the mean of the two items in the middle. -/
def middle (items : List alpha) : alpha :=
  if items.length % 2 = 1 then items.getD (items.length / 2) 0
  else
    (items.getD (items.length / 2 - 1) 0 +
      items.getD (items.length / 2) 0) / 2

theorem isMedian_middle (sorted : items.Pairwise (· ≤ ·)) :
    IsMedian items (middle items) := by
  have half : 2 * (items.length / 2) ≤ items.length := by omega
  rw [middle]
  split_ifs with odd
  · apply isMedian_of_positions half
    · intro index before
      exact getD_le_getD sorted (by omega) (by omega)
    · intro index after before
      have isMiddle : index = items.length / 2 := by omega
      rw [isMiddle]
    · intro index after inside
      exact getD_le_getD sorted (by omega) inside
  · apply isMedian_of_positions half
    · intro index before
      have toFirst : items.getD index 0 ≤
          items.getD (items.length / 2 - 1) 0 :=
        getD_le_getD sorted (by omega) (by omega)
      have toSecond : items.getD index 0 ≤
          items.getD (items.length / 2) 0 :=
        getD_le_getD sorted (by omega) (by omega)
      linarith
    · intro index after before
      omega
    · intro index after inside
      have fromFirst : items.getD (items.length / 2 - 1) 0 ≤
          items.getD index 0 :=
        getD_le_getD sorted (by omega) inside
      have fromSecond : items.getD (items.length / 2) 0 ≤
          items.getD index 0 :=
        getD_le_getD sorted (by omega) inside
      linarith

end Spread
