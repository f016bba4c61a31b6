import Mathlib.Data.List.Perm.Lattice
import Mathlib.Data.List.Perm.Subperm
import UzFlowMeter.Library.KeyQueues
import UzFlowMeter.Library.KeySweep

/-!
# The progress of a sweep

A sweep may end before it has looked at every key, so that queues with a dead
head are left.  What is left in such queues is never more than what the sweep
has removed: every removal brings the end one step closer, and no more than
that.  Repeated sweeps halve the rest each time.
-/

namespace KeySweep

open KeyQueues

variable {alpha kappa : Type*} [BEq kappa] [LawfulBEq kappa]
  (keyOf : alpha → kappa) (dead : alpha → Bool)

/-- The head of the queue of a key is dead. -/
def headDead (table : List alpha) (key : kappa) : Bool :=
  (queue keyOf key table).head?.any dead

/-- The items that stand in a queue with a dead head. -/
def overdue (table : List alpha) : List alpha :=
  table.filter fun item => headDead keyOf dead table (keyOf item)

variable {keyOf dead}

theorem queue_overdue (table : List alpha) (key : kappa) :
    queue keyOf key (overdue keyOf dead table) =
      if headDead keyOf dead table key then queue keyOf key table
      else [] := by
  rw [overdue, queue, List.filter_filter]
  split_ifs with isDead
  · apply List.filter_congr
    intro item member
    by_cases matched : keyOf item = key
    · rw [matched, isDead, Bool.and_true]
    · simp [matched]
  · apply List.filter_eq_nil_iff.mpr
    intro item member both
    rw [Bool.and_eq_true, beq_iff_eq] at both
    rw [both.1] at both
    exact isDead both.2

omit [LawfulBEq kappa] in
theorem count_keys_eq_length_queue (key : kappa) (table : List alpha) :
    (table.map keyOf).count key = (queue keyOf key table).length := by
  rw [List.count, List.countP_map, List.countP_eq_length_filter]
  rfl

variable (keyOf dead) in
/-- The keys to come cover the items that are overdue. -/
def Covers (keys : List kappa) (table : List alpha) : Prop :=
  ∀ key, headDead keyOf dead table key = true →
    (queue keyOf key table).length ≤ keys.count key

omit [LawfulBEq kappa] in
theorem covers_keys (table : List alpha) :
    Covers keyOf dead (table.map keyOf) table :=
  fun key _ => Nat.le_of_eq (count_keys_eq_length_queue key table).symm

theorem Covers.length_overdue_le
    {keys : List kappa} {table : List alpha}
    (covers : Covers keyOf dead keys table) :
    (overdue keyOf dead table).length ≤ keys.length := by
  have contained :
      ((overdue keyOf dead table).map keyOf).Subperm keys := by
    apply List.subperm_ext_iff.mpr
    intro key member
    rw [count_keys_eq_length_queue, queue_overdue]
    split_ifs with isDead
    · exact covers key isDead
    · exact Nat.zero_le _
  simpa using contained.length_le

omit [LawfulBEq kappa] in
/-- A lookup removes the head of the queue if it is dead. -/
theorem probe_fst (key : kappa) (table : List alpha) :
    (probe keyOf dead key table).1 =
      if headDead keyOf dead table key then
        table.eraseP fun item => keyOf item == key
      else table := by
  rw [probe, headDead, head?_queue]
  cases table.find? fun item => keyOf item == key with
  | none =>
      rfl
  | some item =>
      by_cases isDead : dead item = true
      · simp [isDead]
      · simp [isDead]

theorem Covers.probe
    {key : kappa} {keys : List kappa} {table : List alpha}
    (covers : Covers keyOf dead (key :: keys) table) :
    Covers keyOf dead keys
      (KeySweep.probe keyOf dead key table).1 := by
  intro other otherDead
  rw [probe_fst] at otherDead ⊢
  by_cases same : other = key
  · subst same
    by_cases headIsDead : headDead keyOf dead table other = true
    · have room := covers other headIsDead
      rw [List.count_cons_self] at room
      rw [if_pos headIsDead, queue_eraseP_self, List.length_tail]
      omega
    · rw [if_neg headIsDead] at otherDead
      exact absurd otherDead headIsDead
  · have kept : queue keyOf other
        (if headDead keyOf dead table key then
          table.eraseP fun item => keyOf item == key
        else table) = queue keyOf other table := by
      split_ifs
      · exact queue_eraseP_of_ne same table
      · rfl
    rw [headDead, kept] at otherDead
    have room := covers other otherDead
    rw [List.count_cons_of_ne fun equal => same equal.symm] at room
    rw [kept]
    exact room

/-- When the sweep ends, what stays and what is overdue together are no more
than the keys there were. -/
theorem Covers.length_sweepFrom_le
    {keys : List kappa} {table : List alpha}
    (covers : Covers keyOf dead keys table) {i : Nat}
    (bounded : table.length ≤ i + keys.length) :
    (overdue keyOf dead (sweepFrom keyOf dead keys i table).1).length +
        (sweepFrom keyOf dead keys i table).1.length ≤
      i + keys.length := by
  induction keys generalizing i table with
  | nil =>
      have none := covers.length_overdue_le
      rw [List.length_nil] at none bounded ⊢
      change (overdue keyOf dead table).length + table.length ≤ i + 0
      omega
  | cons key keys inductionHypothesis =>
      rw [sweepFrom]
      by_cases inside : i < table.length
      · have shorter :=
          (probe_sublist keyOf dead key table).length_le
        rw [List.length_cons] at bounded ⊢
        have swept := @inductionHypothesis
          (KeySweep.probe keyOf dead key table).1 covers.probe (i + 1)
          (by omega)
        simp only [inside, if_true]
        omega
      · have left := covers.length_overdue_le
        simp only [inside, if_false]
        rw [List.length_cons] at left ⊢
        change (overdue keyOf dead table).length + table.length ≤ _
        omega

/-- A sweep leaves no more overdue items than it removes. -/
theorem length_overdue_sweep_le (table : List alpha) :
    (overdue keyOf dead (sweep keyOf dead table).1).length ≤
      (sweep keyOf dead table).2.length := by
  have covers : Covers keyOf dead (table.map keyOf) table :=
    covers_keys table
  have counted : table.length ≤ 0 + (table.map keyOf).length := by simp
  have bound := covers.length_sweepFrom_le counted
  have split := (sweepFrom_perm keyOf dead (table.map keyOf) 0
    table).length_eq
  rw [List.length_append] at split
  rw [List.length_map] at bound
  rw [sweep]
  omega

theorem sweep_queue (table : List alpha) (key : kappa) :
    queue keyOf key table =
      queue keyOf key (sweep keyOf dead table).2 ++
        queue keyOf key (sweep keyOf dead table).1 :=
  sweepFrom_filter_key keyOf dead _ 0 table key

/-- The queue of a removed item had a dead head. -/
theorem headDead_of_removed
    {table : List alpha} {item : alpha}
    (member : item ∈ (sweep keyOf dead table).2) :
    headDead keyOf dead table (keyOf item) = true := by
  have queued : item ∈
      queue keyOf (keyOf item) (sweep keyOf dead table).2 :=
    mem_queue_iff.mpr ⟨member, rfl⟩
  rw [headDead, @sweep_queue _ _ _ _ keyOf dead]
  cases removed : queue keyOf (keyOf item) (sweep keyOf dead table).2 with
  | nil =>
      rw [removed] at queued
      exact absurd queued List.not_mem_nil
  | cons head rest =>
      have headMember : head ∈
          queue keyOf (keyOf item) (sweep keyOf dead table).2 := by
        rw [removed]
        exact List.mem_cons_self
      exact sweepFrom_removed_dead keyOf dead _ 0 table head
        (mem_queue_iff.mp headMember).1

/-- A queue with a dead head after the sweep had one before. -/
theorem headDead_of_kept
    {table : List alpha} {key : kappa}
    (left : headDead keyOf dead (sweep keyOf dead table).1 key = true) :
    headDead keyOf dead table key = true := by
  cases removed : queue keyOf key (sweep keyOf dead table).2 with
  | nil =>
      rw [headDead, @sweep_queue _ _ _ _ keyOf dead, removed, List.nil_append]
      exact left
  | cons head rest =>
      have headMember : head ∈
          queue keyOf key (sweep keyOf dead table).2 := by
        rw [removed]
        exact List.mem_cons_self
      obtain ⟨member, rfl⟩ := mem_queue_iff.mp headMember
      exact headDead_of_removed member

/-- What a sweep removes and what it leaves overdue was overdue before. -/
theorem length_overdue_add_removed_le (table : List alpha) :
    (overdue keyOf dead (sweep keyOf dead table).1).length +
        (sweep keyOf dead table).2.length ≤
      (overdue keyOf dead table).length := by
  have split := (sweepFrom_perm keyOf dead (table.map keyOf) 0
    table).countP_eq fun item => headDead keyOf dead table (keyOf item)
  have removed : (sweep keyOf dead table).2.countP
      (fun item => headDead keyOf dead table (keyOf item)) =
        (sweep keyOf dead table).2.length :=
    List.countP_eq_length.mpr fun item member =>
      headDead_of_removed member
  have kept : (overdue keyOf dead (sweep keyOf dead table).1).length ≤
      (sweep keyOf dead table).1.countP
        fun item => headDead keyOf dead table (keyOf item) := by
    rw [overdue, ← List.countP_eq_length_filter]
    exact List.countP_mono_left fun item _ left => headDead_of_kept left
  have whole : (overdue keyOf dead table).length =
      table.countP fun item => headDead keyOf dead table (keyOf item) := by
    rw [overdue, ← List.countP_eq_length_filter]
  rw [List.countP_append] at split
  rw [sweep] at removed kept ⊢
  omega

end KeySweep
