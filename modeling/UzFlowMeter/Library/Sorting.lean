import Mathlib.Data.List.Sort

/-!
# Sorting with a comparator

The C function `qsort`, for a comparator that agrees with a linear order.
Which of two equal items comes first is not specified; since they cannot be
told apart, the sorted array is determined.
-/

namespace Sorting

variable {alpha : Type*}

/-- `qsort`: a permutation of the array that is sorted by the comparator. -/
def qsort (compare : alpha → alpha → Int) (array : List alpha) :
    List alpha :=
  array.insertionSort fun left right => compare left right ≤ 0

theorem qsort_perm (compare : alpha → alpha → Int) (array : List alpha) :
    (qsort compare array).Perm array :=
  List.perm_insertionSort _ array

section Agreeing

variable [LinearOrder alpha]

/-- The comparator puts the items in the order of the type. -/
def Agrees (compare : alpha → alpha → Int) : Prop :=
  ∀ left right, compare left right ≤ 0 ↔ left ≤ right

variable {compare : alpha → alpha → Int} (agrees : Agrees compare)

include agrees

theorem qsort_sorted (array : List alpha) :
    (qsort compare array).Pairwise (· ≤ ·) := by
  have total : Std.Total fun left right => compare left right ≤ 0 :=
    ⟨fun left right => by
      rw [agrees, agrees]
      exact le_total left right⟩
  have trans : IsTrans alpha fun left right => compare left right ≤ 0 :=
    ⟨fun left middle right first second => by
      rw [agrees] at first second ⊢
      exact le_trans first second⟩
  have sorted := List.pairwise_insertionSort
    (fun left right => compare left right ≤ 0) array
  exact sorted.imp fun ordered => (agrees _ _).mp ordered

/-- Every implementation returns this array. -/
theorem eq_qsort
    {array result : List alpha} (perm : result.Perm array)
    (sorted : result.Pairwise fun left right => compare left right ≤ 0) :
    result = qsort compare array := by
  have ordered : result.Pairwise (· ≤ ·) :=
    sorted.imp fun ordered => (agrees _ _).mp ordered
  exact (perm.trans (qsort_perm compare array).symm).eq_of_pairwise'
    ordered (qsort_sorted agrees array)

end Agreeing

end Sorting
