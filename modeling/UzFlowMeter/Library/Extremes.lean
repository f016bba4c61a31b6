import Mathlib.Data.List.MinMax
import Mathlib.Order.Bounds.Image

/-!
# The extremes of a list

The greatest and the least item of a list, as scans compute them.  Either is
determined by the set of the items alone.
-/

namespace Extremes

variable {alpha : Type*}

theorem setOf_mem_append (left right : List alpha) :
    {item | item ∈ left ++ right} =
      {item | item ∈ left} ∪ {item | item ∈ right} :=
  Set.ext fun _ => List.mem_append

/-- Looking at an item twice makes no difference. -/
theorem setOf_mem_cons_of_mem
    {items : List alpha} {item : alpha} (member : item ∈ items) :
    {other | other ∈ item :: items} = {other | other ∈ items} := by
  ext other
  refine ⟨?_, List.mem_cons_of_mem item⟩
  intro inCons
  rcases List.mem_cons.mp inCons with isItem | inItems
  · exact isItem ▸ member
  · exact inItems

theorem setOf_mem_perm
    {left right : List alpha} (perm : left.Perm right) :
    {item | item ∈ left} = {item | item ∈ right} :=
  Set.ext fun _ => perm.mem_iff

variable [LinearOrder alpha]

/-- One round of a scan for the greatest item. -/
theorem ite_gt_eq_max (best item : alpha) :
    (if item > best then item else best) = max best item := by
  rw [max_def_lt]

theorem ite_lt_eq_min (best item : alpha) :
    (if item < best then item else best) = min best item := by
  rw [min_comm, min_def_lt]

/-- A scan from the first item ends with the greatest one. -/
theorem isGreatest_foldl_max (first : alpha) (rest : List alpha) :
    IsGreatest {item | item ∈ first :: rest} (rest.foldl max first) := by
  have scanned : (first :: rest).max? = some (rest.foldl max first) :=
    List.max?_cons'
  have found := List.max?_eq_some_iff.mp scanned
  exact ⟨found.1, fun item member => found.2 item member⟩

theorem isLeast_foldl_min (first : alpha) (rest : List alpha) :
    IsLeast {item | item ∈ first :: rest} (rest.foldl min first) := by
  have scanned : (first :: rest).min? = some (rest.foldl min first) :=
    List.min?_cons'
  have found := List.min?_eq_some_iff.mp scanned
  exact ⟨found.1, fun item member => found.2 item member⟩

/-- The last item may be a new greatest one. -/
theorem isGreatest_concat
    {items : List alpha} {greatest : alpha}
    (isGreatest : IsGreatest {item | item ∈ items} greatest)
    (last : alpha) :
    IsGreatest {item | item ∈ items ++ [last]} (max greatest last) := by
  have alone : IsGreatest {item | item ∈ [last]} last :=
    isGreatest_foldl_max last []
  rw [setOf_mem_append]
  exact isGreatest.union alone

/-! A sorted list has its extremes at its ends. -/

theorem isLeast_of_sorted
    {first : alpha} {rest : List alpha}
    (sorted : (first :: rest).Pairwise (· ≤ ·)) :
    IsLeast {item | item ∈ first :: rest} first := by
  refine ⟨List.mem_cons_self, ?_⟩
  intro item member
  rcases List.mem_cons.mp member with isFirst | later
  · exact le_of_eq isFirst.symm
  · exact (List.pairwise_cons.mp sorted).1 item later

theorem isGreatest_of_sorted
    {first : alpha} {rest : List alpha}
    (sorted : (first :: rest).Pairwise (· ≤ ·)) :
    IsGreatest {item | item ∈ first :: rest} (rest.getLastD first) := by
  induction rest generalizing first with
  | nil =>
      exact isGreatest_foldl_max first []
  | cons second rest inductionHypothesis =>
      have ordered := List.pairwise_cons.mp sorted
      have greatest := inductionHypothesis ordered.2
      rw [List.getLastD_cons]
      refine ⟨List.mem_cons_of_mem first greatest.1, ?_⟩
      intro item member
      rcases List.mem_cons.mp member with isFirst | later
      · rw [isFirst]
        exact ordered.1 _ greatest.1
      · exact greatest.2 later

/-! Every list with an item has extremes. -/

theorem exists_extremes {items : List alpha} (nonempty : items ≠ []) :
    ∃ least greatest, IsLeast {item | item ∈ items} least ∧
      IsGreatest {item | item ∈ items} greatest := by
  obtain ⟨first, rest, rfl⟩ := List.exists_cons_of_ne_nil nonempty
  exact ⟨_, _, isLeast_foldl_min first rest,
    isGreatest_foldl_max first rest⟩

section Map

variable {beta : Type*} [LinearOrder beta] {image : alpha → beta}
  {items : List alpha}

theorem isGreatest_map (monotone : Monotone image) {greatest : alpha}
    (isGreatest : IsGreatest {item | item ∈ items} greatest) :
    IsGreatest {item | item ∈ items.map image} (image greatest) := by
  have images : {item | item ∈ items.map image} =
      image '' {item | item ∈ items} :=
    Set.ext fun _ => List.mem_map
  rw [images]
  exact monotone.map_isGreatest isGreatest

theorem isLeast_map (monotone : Monotone image) {least : alpha}
    (isLeast : IsLeast {item | item ∈ items} least) :
    IsLeast {item | item ∈ items.map image} (image least) := by
  have images : {item | item ∈ items.map image} =
      image '' {item | item ∈ items} :=
    Set.ext fun _ => List.mem_map
  rw [images]
  exact monotone.map_isLeast isLeast

end Map

end Extremes
