import Mathlib.Data.List.Basic

/-!
# A table as a family of queues

Items with keys stand in one list.  The items under one key, in their order,
are the queue of the key: a search finds its head, erasing the first item
under the key removes its head, and appending an item extends the queue of
the key of that item.  Other queues do not change.
-/

namespace KeyQueues

variable {alpha kappa : Type*} [BEq kappa] (keyOf : alpha → kappa)

/-- The items under a key, in the order of the table. -/
def queue (key : kappa) (table : List alpha) : List alpha :=
  table.filter fun item => keyOf item == key

theorem queue_append (key : kappa) (table later : List alpha) :
    queue keyOf key (table ++ later) =
      queue keyOf key table ++ queue keyOf key later :=
  List.filter_append ..

theorem head?_queue (key : kappa) (table : List alpha) :
    (queue keyOf key table).head? =
      table.find? fun item => keyOf item == key :=
  List.head?_filter

variable [LawfulBEq kappa] {keyOf}

theorem mem_queue_iff {key : kappa} {table : List alpha} {item : alpha} :
    item ∈ queue keyOf key table ↔ item ∈ table ∧ keyOf item = key := by
  simp [queue]

theorem queue_eq_nil_iff {key : kappa} {table : List alpha} :
    queue keyOf key table = [] ↔ ∀ item ∈ table, keyOf item ≠ key := by
  simp [queue, List.filter_eq_nil_iff]

theorem queue_singleton_self (item : alpha) :
    queue keyOf (keyOf item) [item] = [item] := by
  simp [queue]

theorem queue_singleton_of_ne {key : kappa} {item : alpha}
    (different : keyOf item ≠ key) : queue keyOf key [item] = [] :=
  queue_eq_nil_iff.mpr fun _ member =>
    (List.mem_singleton.mp member) ▸ different

theorem queue_cons_self (item : alpha) (table : List alpha) :
    queue keyOf (keyOf item) (item :: table) =
      item :: queue keyOf (keyOf item) table := by
  simp [queue]

theorem queue_cons_of_ne {key : kappa} {item : alpha} {table : List alpha}
    (different : keyOf item ≠ key) :
    queue keyOf key (item :: table) = queue keyOf key table := by
  simp [queue, different]

/-- Erasing the first item under a key removes the head of its queue. -/
theorem queue_eraseP_self (key : kappa) (table : List alpha) :
    queue keyOf key (table.eraseP fun item => keyOf item == key) =
      (queue keyOf key table).tail := by
  induction table with
  | nil =>
      rfl
  | cons item table inductionHypothesis =>
      by_cases matched : keyOf item = key
      · subst matched
        rw [queue_cons_self, List.tail_cons, List.eraseP_cons_of_pos]
        exact beq_self_eq_true _
      · rw [List.eraseP_cons_of_neg (by simpa using matched),
          queue_cons_of_ne matched, queue_cons_of_ne matched,
          inductionHypothesis]

/-- Erasing an item under another key keeps the queue. -/
theorem queue_eraseP_of_ne {key other : kappa} (different : other ≠ key)
    (table : List alpha) :
    queue keyOf other (table.eraseP fun item => keyOf item == key) =
      queue keyOf other table := by
  induction table with
  | nil =>
      rfl
  | cons item table inductionHypothesis =>
      by_cases matched : keyOf item = key
      · rw [List.eraseP_cons_of_pos (by simpa using matched),
          queue_cons_of_ne fun same => different (same.symm.trans matched)]
      · rw [List.eraseP_cons_of_neg (by simpa using matched)]
        by_cases own : keyOf item = other
        · subst own
          rw [queue_cons_self, queue_cons_self, inductionHypothesis]
        · rw [queue_cons_of_ne own, queue_cons_of_ne own,
            inductionHypothesis]

/-- The head of a queue stands behind items under other keys only. -/
theorem exists_split_of_queue_cons
    {key : kappa} {table : List alpha} {head : alpha} {rest : List alpha}
    (queued : queue keyOf key table = head :: rest) :
    ∃ before after, table = before ++ head :: after ∧
      (∀ item ∈ before, keyOf item ≠ key) ∧ keyOf head = key ∧
      queue keyOf key after = rest := by
  have found := head?_queue keyOf key table
  rw [queued, List.head?_cons] at found
  obtain ⟨matched, before, after, split, earlier⟩ :=
    List.find?_eq_some_iff_append.mp found.symm
  have own : keyOf head = key := by simpa using matched
  have others : ∀ item ∈ before, keyOf item ≠ key := by
    intro item member
    simpa using earlier item member
  refine ⟨before, after, split, others, own, ?_⟩
  subst own
  rw [split, queue_append, queue_eq_nil_iff.mpr others, List.nil_append,
    queue_cons_self] at queued
  exact (List.cons.inj queued).2

end KeyQueues
