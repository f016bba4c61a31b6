import Mathlib.Algebra.BigOperators.Ring.List
import Mathlib.Algebra.Order.BigOperators.Group.List
import Mathlib.Algebra.Order.Field.Basic
import Mathlib.Tactic.Linarith
import Mathlib.Tactic.Ring

/-!
# The spread of a list

Mean, squared deviations and variance of a list over an ordered field.  They
depend on the items and their multiplicities only; the squared deviations of
parts combine by the parallel axis law.
-/

namespace Spread

section Field

variable {alpha : Type*} [Field alpha]

/-- Zero for the empty list. -/
def mean (items : List alpha) : alpha :=
  items.sum / items.length

/-- The sum of the squared deviations from a center. -/
def squares (center : alpha) (items : List alpha) : alpha :=
  (items.map fun item => (item - center) ^ 2).sum

/-- The mean squared deviation from the mean. -/
def variance (items : List alpha) : alpha :=
  squares (mean items) items / items.length

@[simp]
theorem squares_nil (center : alpha) :
    squares center [] = 0 := rfl

@[simp]
theorem squares_cons (center item : alpha) (items : List alpha) :
    squares center (item :: items) =
      (item - center) ^ 2 + squares center items := by
  rw [squares, List.map_cons, List.sum_cons, squares]

theorem squares_append (center : alpha) (left right : List alpha) :
    squares center (left ++ right) =
      squares center left + squares center right := by
  rw [squares, List.map_append, List.sum_append, squares, squares]

theorem squares_expand (center : alpha) (items : List alpha) :
    squares center items =
      (items.map fun item => item ^ 2).sum - 2 * center * items.sum +
        items.length * center ^ 2 := by
  induction items with
  | nil =>
      simp
  | cons item items inductionHypothesis =>
      rw [squares_cons, inductionHypothesis]
      simp only [List.map_cons, List.sum_cons, List.length_cons]
      push_cast
      ring

section Perm

variable {left right : List alpha} (perm : left.Perm right)

include perm

theorem mean_perm : mean left = mean right := by
  rw [mean, mean, perm.sum_eq, perm.length_eq]

theorem squares_perm (center : alpha) :
    squares center left = squares center right :=
  (perm.map fun item => (item - center) ^ 2).sum_eq

theorem variance_perm : variance left = variance right := by
  rw [variance, variance, mean_perm perm, squares_perm perm,
    perm.length_eq]

end Perm

section CharZero

variable [CharZero alpha]

theorem length_mul_mean (items : List alpha) :
    (items.length : alpha) * mean items = items.sum := by
  rw [mean]
  cases items with
  | nil =>
      simp
  | cons item items =>
      have nonzero : ((item :: items).length : alpha) ≠ 0 := by
        simp only [List.length_cons]
        exact Nat.cast_ne_zero.mpr (Nat.succ_ne_zero _)
      exact mul_div_cancel₀ _ nonzero

theorem length_mul_variance (items : List alpha) :
    (items.length : alpha) * variance items =
      squares (mean items) items := by
  rw [variance]
  cases items with
  | nil =>
      simp
  | cons item items =>
      have nonzero : ((item :: items).length : alpha) ≠ 0 := by
        simp only [List.length_cons]
        exact Nat.cast_ne_zero.mpr (Nat.succ_ne_zero _)
      exact mul_div_cancel₀ _ nonzero

/-- The parallel axis law. -/
theorem squares_eq_add (center : alpha) (items : List alpha) :
    squares center items =
      squares (mean items) items +
        items.length * (mean items - center) ^ 2 := by
  rw [squares_expand, squares_expand (mean items), ← length_mul_mean items]
  ring

theorem length_mul_variance_eq (items : List alpha) :
    (items.length : alpha) * variance items =
      (items.map fun item => item ^ 2).sum -
        items.length * mean items ^ 2 := by
  rw [length_mul_variance, squares_expand, ← length_mul_mean items]
  ring

theorem length_mul_mean_append (left right : List alpha) :
    ((left ++ right).length : alpha) * mean (left ++ right) =
      left.length * mean left + right.length * mean right := by
  rw [length_mul_mean, length_mul_mean, length_mul_mean, List.sum_append]

/-- The variance of two parts together. -/
theorem length_mul_variance_append (left right : List alpha) :
    ((left ++ right).length : alpha) * variance (left ++ right) =
      left.length *
          (variance left + (mean left - mean (left ++ right)) ^ 2) +
        right.length *
          (variance right + (mean right - mean (left ++ right)) ^ 2) := by
  rw [length_mul_variance, squares_append, squares_eq_add _ left,
    squares_eq_add _ right, mul_add, mul_add, length_mul_variance,
    length_mul_variance]

end CharZero

end Field

/-! ## Bounds -/

section Ordered

variable {alpha : Type*} [Field alpha] [LinearOrder alpha]
  [IsStrictOrderedRing alpha] {items : List alpha}

theorem squares_nonneg (center : alpha) (items : List alpha) :
    0 ≤ squares center items := by
  apply List.sum_nonneg
  intro square member
  obtain ⟨item, -, rfl⟩ := List.mem_map.mp member
  exact sq_nonneg _

theorem variance_nonneg (items : List alpha) : 0 ≤ variance items :=
  div_nonneg (squares_nonneg _ items) (Nat.cast_nonneg _)

/-- The square of a sum against the sum of the squares. -/
theorem sq_sum_le (items : List alpha) :
    items.sum ^ 2 ≤
      items.length * (items.map fun item => item ^ 2).sum := by
  have nonneg : 0 ≤ (items.length : alpha) *
      ((items.map fun item => item ^ 2).sum -
        items.length * mean items ^ 2) := by
    rw [← length_mul_variance_eq]
    exact mul_nonneg (Nat.cast_nonneg _)
      (mul_nonneg (Nat.cast_nonneg _) (variance_nonneg items))
  have square : items.sum ^ 2 =
      items.length * (items.length * mean items ^ 2) := by
    rw [← length_mul_mean items]
    ring
  rw [square]
  linarith

theorem length_pos_cast (nonempty : items ≠ []) :
    (0 : alpha) < items.length :=
  Nat.cast_pos.mpr (List.length_pos_of_ne_nil nonempty)

theorem le_mean {low : alpha} (nonempty : items ≠ [])
    (bound : ∀ item ∈ items, low ≤ item) : low ≤ mean items := by
  have total := List.card_nsmul_le_sum items low bound
  rw [nsmul_eq_mul] at total
  rw [mean, le_div_iff₀ (length_pos_cast nonempty), mul_comm]
  exact total

theorem mean_le {high : alpha} (nonempty : items ≠ [])
    (bound : ∀ item ∈ items, item ≤ high) : mean items ≤ high := by
  have total := List.sum_le_card_nsmul items high bound
  rw [nsmul_eq_mul] at total
  rw [mean, div_le_iff₀ (length_pos_cast nonempty), mul_comm]
  exact total

/-- Items within bounds have squares below the chord. -/
theorem sum_sq_le_chord {low high : alpha}
    (within : ∀ item ∈ items, low ≤ item ∧ item ≤ high) :
    (items.map fun item => item ^ 2).sum ≤
      (low + high) * items.sum - items.length * (low * high) := by
  induction items with
  | nil =>
      simp
  | cons item items inductionHypothesis =>
      have itemWithin := within item (by simp)
      have rest := inductionHypothesis fun other member =>
        within other (List.mem_cons_of_mem item member)
      have product := mul_nonneg (sub_nonneg.mpr itemWithin.1)
        (sub_nonneg.mpr itemWithin.2)
      simp only [List.map_cons, List.sum_cons, List.length_cons]
      push_cast
      linarith

/-- The variance of items within bounds, by the distances of the mean from
the bounds. -/
theorem variance_le {low high : alpha} (nonempty : items ≠ [])
    (within : ∀ item ∈ items, low ≤ item ∧ item ≤ high) :
    variance items ≤ (high - mean items) * (mean items - low) := by
  have chord := sum_sq_le_chord within
  have positive : (0 : alpha) < items.length := length_pos_cast nonempty
  apply le_of_mul_le_mul_left _ positive
  rw [length_mul_variance_eq]
  have sum := length_mul_mean items
  rw [← sum] at chord
  linarith

theorem variance_eq_zero_iff (items : List alpha) :
    variance items = 0 ↔ ∀ item ∈ items, item = mean items := by
  constructor
  · intro zero item member
    have total : squares (mean items) items = 0 := by
      rw [← length_mul_variance, zero, mul_zero]
    have squareNonneg : ∀ square ∈ items.map
        (fun item => (item - mean items) ^ 2), 0 ≤ square := by
      intro square squareMember
      obtain ⟨other, -, rfl⟩ := List.mem_map.mp squareMember
      exact sq_nonneg _
    have square : (item - mean items) ^ 2 = 0 :=
      List.all_zero_of_le_zero_le_of_sum_eq_zero squareNonneg total
        (List.mem_map_of_mem member)
    exact sub_eq_zero.mp (pow_eq_zero_iff two_ne_zero |>.mp square)
  · intro constant
    have total : squares (mean items) items = 0 := by
      apply List.sum_eq_zero
      intro square squareMember
      obtain ⟨item, member, rfl⟩ := List.mem_map.mp squareMember
      rw [constant item member, sub_self, zero_pow two_ne_zero]
    rw [variance, total, zero_div]

/-- Nothing deviates from the mean if and only if all items are equal. -/
theorem variance_eq_zero_iff_all_equal (items : List alpha) :
    variance items = 0 ↔
      ∀ item ∈ items, ∀ other ∈ items, item = other := by
  rw [variance_eq_zero_iff]
  constructor
  · intro constant item member other otherMember
    rw [constant item member, constant other otherMember]
  · intro equal item member
    have nonempty := List.ne_nil_of_mem member
    apply le_antisymm
    · exact le_mean nonempty fun other otherMember =>
        le_of_eq (equal item member other otherMember)
    · exact mean_le nonempty fun other otherMember =>
        le_of_eq (equal other otherMember item member)

/-- The part of a variance that equal items contribute. -/
theorem length_mul_sq_mean_replicate
    (size : Nat) (value center : alpha) :
    (size : alpha) * (mean (List.replicate size value) - center) ^ 2 =
      size * (value - center) ^ 2 := by
  rcases Nat.eq_zero_or_pos size with rfl | positive
  · simp
  · have nonzero : (size : alpha) ≠ 0 :=
      Nat.cast_ne_zero.mpr (Nat.ne_of_gt positive)
    rw [mean, List.sum_replicate, List.length_replicate, nsmul_eq_mul,
      mul_div_cancel_left₀ value nonzero]

/-- A value that occurs often is close to the mean. -/
theorem sq_mean_sub_mul_count_le
    [DecidableEq alpha] (value : alpha) (items : List alpha) :
    (mean items - value) ^ 2 * items.count value ≤
      variance items * (items.length - items.count value) := by
  rcases eq_or_ne items [] with rfl | nonempty
  · simp
  obtain ⟨rest, perm⟩ : ∃ rest,
      (List.replicate (items.count value) value ++ rest).Perm items := by
    refine ⟨items.filter fun item => ! decide (item = value), ?_⟩
    rw [← List.filter_eq]
    exact List.filter_append_perm _ items
  have positive : (0 : alpha) < items.length := length_pos_cast nonempty
  have lengths : (items.length : alpha) = items.count value + rest.length := by
    rw [← perm.length_eq, List.length_append, List.length_replicate]
    push_cast
    rfl
  -- The mean of the others lies on the other side.
  have balance : (rest.length : alpha) * (mean rest - mean items) =
      items.count value * (mean items - value) := by
    have total := length_mul_mean items
    rw [← perm.sum_eq, List.sum_append, List.sum_replicate, nsmul_eq_mul,
      ← length_mul_mean rest, lengths] at total
    linarith
  have parts := length_mul_variance_append
    (List.replicate (items.count value) value) rest
  rw [mean_perm perm, variance_perm perm, perm.length_eq,
    List.length_replicate, mul_add,
    length_mul_sq_mean_replicate] at parts
  have equalItems : 0 ≤ (items.count value : alpha) *
      variance (List.replicate (items.count value) value) :=
    mul_nonneg (Nat.cast_nonneg _) (variance_nonneg _)
  have otherItems : 0 ≤ (rest.length : alpha) * variance rest :=
    mul_nonneg (Nat.cast_nonneg _) (variance_nonneg _)
  have atLeast : (items.count value : alpha) * (value - mean items) ^ 2 +
      rest.length * (mean rest - mean items) ^ 2 ≤
        items.length * variance items := by
    rw [parts, mul_add]
    linarith
  have restNonneg : (0 : alpha) ≤ rest.length := Nat.cast_nonneg _
  have scaled := mul_le_mul_of_nonneg_left atLeast restNonneg
  apply le_of_mul_le_mul_left _ positive
  calc (items.length : alpha) *
        ((mean items - value) ^ 2 * items.count value) =
      rest.length * (items.count value * (value - mean items) ^ 2) +
        (items.count value * (mean items - value)) ^ 2 := by
        rw [lengths]
        ring
    _ = rest.length * (items.count value * (value - mean items) ^ 2 +
        rest.length * (mean rest - mean items) ^ 2) := by
        rw [← balance]
        ring
    _ ≤ rest.length * (items.length * variance items) := scaled
    _ = items.length *
        (variance items * (items.length - items.count value)) := by
        rw [lengths]
        ring

theorem sum_sq_le_sq_sum
    (nonneg : ∀ item ∈ items, 0 ≤ item) :
    (items.map fun item => item ^ 2).sum ≤ items.sum ^ 2 := by
  induction items with
  | nil =>
      simp
  | cons item items inductionHypothesis =>
      have itemNonneg := nonneg item (by simp)
      have restNonneg : ∀ other ∈ items, 0 ≤ other :=
        fun other member => nonneg other (List.mem_cons_of_mem item member)
      have product := mul_nonneg itemNonneg (List.sum_nonneg restNonneg)
      have rest := inductionHypothesis restNonneg
      rw [List.map_cons, List.sum_cons, List.sum_cons, add_sq]
      linarith

/-- The deviation of items that are not negative is limited by their mean and
their number. -/
theorem variance_le_of_nonneg
    (nonempty : items ≠ []) (nonneg : ∀ item ∈ items, 0 ≤ item) :
    variance items ≤ (items.length - 1) * mean items ^ 2 := by
  have positive : (0 : alpha) < items.length := length_pos_cast nonempty
  have squaresLe := sum_sq_le_sq_sum nonneg
  rw [← length_mul_mean items] at squaresLe
  apply le_of_mul_le_mul_left _ positive
  rw [length_mul_variance_eq]
  linarith

end Ordered

end Spread
