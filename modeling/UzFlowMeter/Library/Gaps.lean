import Mathlib.Algebra.Order.BigOperators.Group.List
import Mathlib.Algebra.Order.Group.Abs
import Mathlib.Algebra.Order.Group.Defs
import Mathlib.Algebra.Order.Group.Unbundled.Basic
import Mathlib.Tactic.Abel

/-!
# Gaps of a sequence of times

The differences of neighbours in a list.  They telescope, they do not change
when the list is shifted, and they are nonnegative when the list is sorted.
-/

namespace Gaps

variable {alpha : Type*} [AddCommGroup alpha]

/-- The differences of neighbours. -/
def gaps : List alpha → List alpha
  | [] => []
  | [_] => []
  | first :: second :: rest => (second - first) :: gaps (second :: rest)

@[simp]
theorem gaps_nil : gaps ([] : List alpha) = [] := rfl

@[simp]
theorem gaps_singleton (item : alpha) : gaps [item] = [] := rfl

@[simp]
theorem gaps_cons_cons (first second : alpha) (rest : List alpha) :
    gaps (first :: second :: rest) =
      (second - first) :: gaps (second :: rest) := rfl

theorem gaps_concat (items : List alpha) (last item : alpha) :
    gaps (items ++ [last] ++ [item]) =
      gaps (items ++ [last]) ++ [item - last] := by
  induction items with
  | nil =>
      rfl
  | cons first items inductionHypothesis =>
      cases items with
      | nil =>
          rfl
      | cons second items =>
          simpa using inductionHypothesis

theorem length_gaps (items : List alpha) :
    (gaps items).length = items.length - 1 := by
  induction items with
  | nil =>
      rfl
  | cons first items inductionHypothesis =>
      cases items with
      | nil =>
          rfl
      | cons second items =>
          simpa using inductionHypothesis

/-- The gaps add up to the difference of the last item and the first. -/
theorem sum_gaps (first : alpha) (rest : List alpha) :
    (gaps (first :: rest)).sum = rest.getLastD first - first := by
  induction rest generalizing first with
  | nil =>
      simp
  | cons second rest inductionHypothesis =>
      rw [gaps_cons_cons, List.sum_cons, inductionHypothesis,
        List.getLastD_cons]
      abel

/-- The first gaps add up to the difference of some item and the first. -/
theorem exists_sum_of_prefix
    {first : alpha} {rest part : List alpha}
    (initial : part <+: gaps (first :: rest)) :
    ∃ last ∈ first :: rest, part.sum = last - first := by
  induction rest generalizing first part with
  | nil =>
      have none : part = [] := List.prefix_nil.mp initial
      exact ⟨first, by simp, by rw [none, List.sum_nil, sub_self]⟩
  | cons second rest inductionHypothesis =>
      rcases List.prefix_cons_iff.mp initial with none | ⟨part, rfl, later⟩
      · exact ⟨first, by simp, by rw [none, List.sum_nil, sub_self]⟩
      · obtain ⟨last, member, sum⟩ := inductionHypothesis later
        refine ⟨last, List.mem_cons_of_mem first member, ?_⟩
        rw [List.sum_cons, sum]
        abel

/-- Neighbouring gaps add up to the difference of two items. -/
theorem exists_sum_of_infix
    {items part : List alpha} (block : part <:+: gaps items) :
    part = [] ∨
      ∃ first ∈ items, ∃ last ∈ items, part.sum = last - first := by
  induction items with
  | nil =>
      exact Or.inl (List.infix_nil.mp block)
  | cons head items inductionHypothesis =>
      cases items with
      | nil =>
          exact Or.inl (List.infix_nil.mp block)
      | cons second items =>
          rcases List.infix_cons_iff.mp block with initial | later
          · right
            exact ⟨head, by simp, exists_sum_of_prefix initial⟩
          · rcases inductionHypothesis later with
              none | ⟨first, firstMember, last, lastMember, sum⟩
            · exact Or.inl none
            · right
              exact ⟨first, List.mem_cons_of_mem head firstMember, last,
                List.mem_cons_of_mem head lastMember, sum⟩

theorem gaps_map_add_right (items : List alpha) (shift : alpha) :
    gaps (items.map fun item => item + shift) = gaps items := by
  induction items with
  | nil =>
      rfl
  | cons first items inductionHypothesis =>
      cases items with
      | nil =>
          rfl
      | cons second items =>
          rw [List.map_cons] at inductionHypothesis
          rw [List.map_cons, List.map_cons, gaps_cons_cons,
            gaps_cons_cons, inductionHypothesis, add_sub_add_right_eq_sub]

section Ordered

variable [LinearOrder alpha] [IsOrderedAddMonoid alpha]

theorem gaps_nonneg {items : List alpha}
    (sorted : items.Pairwise (· ≤ ·)) : ∀ gap ∈ gaps items, 0 ≤ gap := by
  induction items with
  | nil =>
      simp
  | cons first items inductionHypothesis =>
      cases items with
      | nil =>
          simp
      | cons second items =>
          have ordered := List.pairwise_cons.mp sorted
          simp only [gaps_cons_cons, List.mem_cons, forall_eq_or_imp]
          exact ⟨sub_nonneg.mpr (ordered.1 second (by simp)),
            inductionHypothesis ordered.2⟩

/-- The gaps that are kept add up to at most the whole sequence. -/
theorem sum_filter_gaps_le {items : List alpha}
    (sorted : items.Pairwise (· ≤ ·)) (keep : alpha → Bool) :
    ((gaps items).filter keep).sum ≤ (gaps items).sum :=
  List.filter_sublist.sum_le_sum (gaps_nonneg sorted)

/-- The gaps of items within bounds add up to no more than the bounds
allow. -/
theorem sum_gaps_le {items : List alpha} {low high : alpha}
    (ordered : low ≤ high)
    (within : ∀ item ∈ items, low ≤ item ∧ item ≤ high) :
    (gaps items).sum ≤ high - low := by
  cases items with
  | nil =>
      simpa using ordered
  | cons first rest =>
      have firstWithin := within first (by simp)
      have lastWithin := within (rest.getLastD first)
        (List.getLastD_mem_cons)
      rw [sum_gaps]
      exact sub_le_sub lastWithin.2 firstWithin.1

/-- Neighbouring gaps of items within bounds add up to no more than the
bounds allow, in either sense. -/
theorem abs_sum_infix_le
    {items part : List alpha} {low high : alpha} (ordered : low ≤ high)
    (within : ∀ item ∈ items, low ≤ item ∧ item ≤ high)
    (block : part <:+: gaps items) : |part.sum| ≤ high - low := by
  rcases exists_sum_of_infix block with
    none | ⟨first, firstMember, last, lastMember, sum⟩
  · rw [none, List.sum_nil, abs_zero]
    exact sub_nonneg.mpr ordered
  · have firstWithin := within first firstMember
    have lastWithin := within last lastMember
    rw [sum, abs_sub_le_iff]
    exact ⟨sub_le_sub lastWithin.2 firstWithin.1,
      sub_le_sub firstWithin.2 lastWithin.1⟩

end Ordered

end Gaps
