import UzFlowMeter.Collection
import UzFlowMeter.FlowQueues

/-!
# The progress of garbage collection

A single collection may miss expired flows.  It never leaves more flows
waiting behind an expired one than it exports, and collections that follow
one another halve the number of these flows each time.
-/

namespace UzFlowMeter

namespace Meter

/-- The entries whose key leads to an expired flow first. -/
def overdue (meter : Meter) (latestTime : ℚ) : List Flows :=
  KeySweep.overdue Flows.key (meter.expiredAt latestTime)
    meter.session.entries

/-- A number of collections, one after the other. -/
def collectRounds (meter : Meter) (latestTime : ℚ) : Nat → Meter
  | 0 => meter
  | rounds + 1 =>
      (meter.collectRounds latestTime rounds).garbageCollect latestTime

private theorem mem_overdue_iff
    {meter : Meter} {latestTime : ℚ} {entry : Flows} :
    entry ∈ meter.overdue latestTime ↔
      entry ∈ meter.session.entries ∧
        ∃ flow, getFlowByItsKey meter.session entry.key = some flow ∧
          (meter.heap flow).Expired latestTime := by
  rw [overdue, KeySweep.overdue, List.mem_filter, getFlowByItsKey_eq_head,
    KeySweep.headDead, FlowSession.queue, Option.any_eq_true]
  simp only [Option.map_eq_some_iff, expiredAt, decide_eq_true_eq]
  refine and_congr_right fun _ => ?_
  constructor
  · rintro ⟨head, isHead, expired⟩
    exact ⟨head.flow, ⟨head, isHead, rfl⟩, expired⟩
  · rintro ⟨_, ⟨head, isHead, rfl⟩, expired⟩
    exact ⟨head, isHead, expired⟩

section OneCollection

variable (meter : Meter) (latestTime : ℚ)

private theorem garbageCollect_overdue :
    (meter.garbageCollect latestTime).overdue latestTime =
      KeySweep.overdue Flows.key (meter.expiredAt latestTime)
        (meter.collection latestTime).1 := by
  have sameTest := (garbageCollect_collected meter latestTime).expiredAt_eq
    latestTime
  rw [overdue, garbageCollect_entries, sameTest]
  rfl

/-- What stays overdue is no more than what is exported, and both together
were overdue before. -/
theorem length_garbageCollect_overdue_le :
    ((meter.garbageCollect latestTime).overdue latestTime).length ≤
        (meter.collection latestTime).2.length ∧
      ((meter.garbageCollect latestTime).overdue latestTime).length +
          (meter.collection latestTime).2.length ≤
        (meter.overdue latestTime).length := by
  rw [garbageCollect_overdue]
  exact ⟨KeySweep.length_overdue_sweep_le _,
    KeySweep.length_overdue_add_removed_le _⟩

end OneCollection

private theorem two_pow_mul_overdue_le
    (meter : Meter) (latestTime : ℚ) (rounds : Nat) :
    2 ^ rounds *
        ((meter.collectRounds latestTime rounds).overdue latestTime).length ≤
      (meter.overdue latestTime).length := by
  induction rounds with
  | zero =>
      rw [pow_zero, one_mul]
      exact le_refl _
  | succ rounds inductionHypothesis =>
      obtain ⟨few, all⟩ := length_garbageCollect_overdue_le
        (meter.collectRounds latestTime rounds) latestTime
      have halved :
          2 * ((meter.collectRounds latestTime (rounds + 1)).overdue
              latestTime).length ≤
            ((meter.collectRounds latestTime rounds).overdue
              latestTime).length := by
        rw [collectRounds]
        omega
      refine le_trans ?_ inductionHypothesis
      rw [pow_succ, mul_assoc]
      exact Nat.mul_le_mul_left _ halved

/-- A collection leaves no more flows waiting behind an expired one than it
exports; after as many collections as the number of flows has binary digits,
no key leads to an expired flow. -/
theorem garbageCollect_converges (meter : Meter) (latestTime : ℚ) :
    ((meter.garbageCollect latestTime).overdue latestTime).length +
        meter.exported.length ≤
      (meter.garbageCollect latestTime).exported.length ∧
    ∀ rounds, meter.session.flowCount < 2 ^ rounds →
      ∀ key flow,
        getFlowByItsKey (meter.collectRounds latestTime rounds).session
            key = some flow →
          ¬ ((meter.collectRounds latestTime rounds).heap flow).Expired
            latestTime := by
  constructor
  · have few := (length_garbageCollect_overdue_le meter latestTime).1
    rw [garbageCollect_exported, List.length_append, List.length_map]
    omega
  · intro rounds enough key flow found expired
    have halved := two_pow_mul_overdue_le meter latestTime rounds
    have bounded : (meter.overdue latestTime).length ≤
        meter.session.flowCount := List.length_filter_le _ _
    obtain ⟨entry, present, rfl⟩ := Option.map_eq_some_iff.mp found
    have waiting : entry ∈
        (meter.collectRounds latestTime rounds).overdue latestTime := by
      have matched : entry.key = key := by
        simpa using List.find?_some present
      rw [mem_overdue_iff, matched]
      exact ⟨List.mem_of_find?_eq_some present, entry.flow, found, expired⟩
    have positive := List.length_pos_of_mem waiting
    have larger : 2 ^ rounds * 1 ≤ 2 ^ rounds *
        ((meter.collectRounds latestTime rounds).overdue
          latestTime).length := Nat.mul_le_mul_left _ positive
    omega

end Meter

end UzFlowMeter
