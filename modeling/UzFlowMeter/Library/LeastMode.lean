import Mathlib.Algebra.Order.Group.Nat
import Mathlib.Data.List.Count

/-!
# The least mode of a list

A mode of a list is an item that occurs as often as any value does.  The
least one is found run by run when the runs of equal items come in order.
-/

namespace LeastMode

variable {alpha : Type*} [LinearOrder alpha]

/-- The least of the items that occur most often. -/
structure IsLeastMode (items : List alpha) (mode : alpha) : Prop where
  occurs : mode ∈ items
  maximal : ∀ value, items.count value ≤ items.count mode
  least : ∀ value, items.count value = items.count mode → mode ≤ value

theorem IsLeastMode.of_perm
    {left right : List alpha} {mode : alpha}
    (isLeastMode : IsLeastMode left mode) (perm : left.Perm right) :
    IsLeastMode right mode where
  occurs := perm.mem_iff.mp isLeastMode.occurs
  maximal := by
    intro value
    rw [← perm.count_eq, ← perm.count_eq]
    exact isLeastMode.maximal value
  least := by
    intro value
    rw [← perm.count_eq, ← perm.count_eq]
    exact isLeastMode.least value

theorem isLeastMode_replicate
    {size : Nat} (positive : 0 < size) (value : alpha) :
    IsLeastMode (List.replicate size value) value where
  occurs := List.mem_replicate.mpr ⟨Nat.ne_of_gt positive, rfl⟩
  maximal := by
    intro other
    rw [List.count_replicate_self]
    exact le_trans List.count_le_length
      (le_of_eq List.length_replicate)
  least := by
    intro other same
    rw [List.count_replicate_self, List.count_replicate] at same
    split_ifs at same with equal
    · exact le_of_eq (eq_of_beq equal)
    · exact absurd same (Nat.ne_of_lt positive)

theorem count_append_run_other
    {other value : alpha} (settled : List alpha) (size : Nat)
    (different : other ≠ value) :
    (settled ++ List.replicate size value).count other =
      settled.count other := by
  have absent : other ∉ List.replicate size value :=
    fun member => different (List.eq_of_mem_replicate member)
  rw [List.count_append, List.count_eq_zero_of_not_mem absent, add_zero]

section Run

variable {settled : List alpha} {value : alpha}
  (below : ∀ item ∈ settled, item < value) (size : Nat)

include below

/-- The run is that of the last value. -/
theorem count_append_run_self :
    (settled ++ List.replicate size value).count value = size := by
  have absent : value ∉ settled :=
    fun member => lt_irrefl value (below value member)
  rw [List.count_append, List.count_eq_zero_of_not_mem absent,
    List.count_replicate_self, zero_add]

/-- A longer run of a greater value takes over. -/
theorem IsLeastMode.append_longer
    {mode : alpha} (isLeastMode : IsLeastMode settled mode)
    (longer : settled.count mode < size) :
    IsLeastMode (settled ++ List.replicate size value) value where
  occurs := by
    have positive : size ≠ 0 := Nat.ne_zero_of_lt longer
    exact List.mem_append_right _ (List.mem_replicate.mpr ⟨positive, rfl⟩)
  maximal := by
    intro other
    rw [count_append_run_self below]
    by_cases same : other = value
    · rw [same, count_append_run_self below]
    · rw [count_append_run_other settled size same]
      exact le_trans (isLeastMode.maximal other) (le_of_lt longer)
  least := by
    intro other equal
    rw [count_append_run_self below] at equal
    by_cases same : other = value
    · exact le_of_eq same.symm
    · rw [count_append_run_other settled size same] at equal
      have bound := isLeastMode.maximal other
      omega

/-- A run that is not longer changes nothing. -/
theorem IsLeastMode.append_other
    {mode : alpha} (isLeastMode : IsLeastMode settled mode)
    (notLonger : size ≤ settled.count mode) :
    IsLeastMode (settled ++ List.replicate size value) mode := by
  have less : mode < value := below mode isLeastMode.occurs
  have modeCount := count_append_run_other settled size
    (ne_of_lt less)
  refine ⟨List.mem_append_left _ isLeastMode.occurs, ?_, ?_⟩
  · intro other
    rw [modeCount]
    by_cases same : other = value
    · rw [same, count_append_run_self below]
      exact notLonger
    · rw [count_append_run_other settled size same]
      exact isLeastMode.maximal other
  · intro other equal
    rw [modeCount] at equal
    by_cases same : other = value
    · rw [same]
      exact le_of_lt less
    · rw [count_append_run_other settled size same] at equal
      exact isLeastMode.least other equal

end Run

end LeastMode
