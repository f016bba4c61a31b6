import UzFlowMeter.RecordedFlows
import UzFlowMeter.Statistics

/-!
# Exported times

The inter-arrival, active and idle times of a flow are exported in
microseconds as `int` values.  They fit as long as the flow does not last
longer than the largest `int` of microseconds, about 2147 seconds.
-/

namespace UzFlowMeter

open Gaps MachineInt

namespace Activity

/-- What the machine has recorded and what it still holds, against the sum of
the gaps it has seen. -/
structure Bounded (activity : Activity) (total : ℚ) : Prop where
  startNonneg : 0 ≤ activity.startActive
  lastNonneg : 0 ≤ activity.lastActive
  idleNonneg : ∀ value ∈ activity.idle.items, 0 ≤ value
  activeNonneg : ∀ value ∈ activity.active.items, 0 ≤ value
  idle : activity.idle.items.sum ≤ 1000000 * total
  active : activity.active.items.sum +
    1000000 * max activity.startActive activity.lastActive ≤
      1000000 * total

theorem Bounded.update
    {activity : Activity} {total gap : ℚ}
    (bounded : activity.Bounded total) (nonneg : 0 ≤ gap) :
    (activity.update gap).Bounded (total + gap) := by
  obtain ⟨startNonneg, lastNonneg, idleNonneg, activeNonneg, idle, active⟩ :=
    bounded
  have startLe := le_max_left activity.startActive activity.lastActive
  have lastLe := le_max_right activity.startActive activity.lastActive
  by_cases long : gap - activity.lastActive > activeTimeout
  · obtain ⟨start, last, idleItems, activeItems⟩ := update_of_long long
    have longer : 0 ≤ gap - activity.lastActive :=
      le_of_lt (lt_trans (by norm_num [activeTimeout]) long)
    have activeTime :
        |activity.lastActive - activity.startActive| ≤
          max activity.startActive activity.lastActive := by
      rw [abs_le]
      constructor <;> linarith
    refine ⟨?_, ?_, ?_, ?_, ?_, ?_⟩
    · rw [start]
      exact nonneg
    · rw [last]
      exact nonneg
    · rw [idleItems]
      intro value member
      rcases List.mem_append.mp member with old | new
      · exact idleNonneg value old
      · rw [List.mem_singleton.mp new]
        linarith
    · rw [activeItems]
      intro value member
      rcases List.mem_append.mp member with old | new
      · exact activeNonneg value old
      · split_ifs at new
        · exact absurd new List.not_mem_nil
        · rw [List.mem_singleton.mp new]
          positivity
    · rw [idleItems, List.sum_append, List.sum_singleton]
      linarith
    · rw [activeItems, start, last, max_self, List.sum_append]
      split_ifs
      · rw [List.sum_nil]
        linarith
      · rw [List.sum_singleton]
        linarith
  · rw [update_of_short long]
    refine ⟨startNonneg, nonneg, idleNonneg, activeNonneg, ?_, ?_⟩
    · dsimp only
      linarith
    · have held : max activity.startActive gap ≤
          max activity.startActive activity.lastActive + gap := by
        apply max_le <;> linarith
      dsimp only
      linarith

/-- The machine never records more than the gaps it has seen. -/
theorem Bounded.foldl
    {activity : Activity} {total : ℚ} (bounded : activity.Bounded total)
    {gapList : List ℚ} (nonneg : ∀ gap ∈ gapList, 0 ≤ gap) :
    (gapList.foldl Activity.update activity).Bounded
      (total + gapList.sum) := by
  induction gapList generalizing activity total with
  | nil =>
      rw [List.sum_nil, add_zero]
      exact bounded
  | cons gap gapList inductionHypothesis =>
      rw [List.foldl_cons, List.sum_cons, ← add_assoc]
      apply inductionHypothesis
      · exact bounded.update (nonneg gap (by simp))
      · exact fun other member =>
          nonneg other (List.mem_cons_of_mem _ member)

theorem Bounded.mono
    {activity : Activity} {total larger : ℚ}
    (bounded : activity.Bounded total) (more : total ≤ larger) :
    activity.Bounded larger where
  startNonneg := bounded.startNonneg
  lastNonneg := bounded.lastNonneg
  idleNonneg := bounded.idleNonneg
  activeNonneg := bounded.activeNonneg
  idle := by
    have := bounded.idle
    linarith
  active := by
    have := bounded.active
    linarith

private theorem bounded_initial : ({} : Activity).Bounded 0 := by
  constructor <;> simp

end Activity

/-- Every field of every statistic is in the range of `int` and can be
converted. -/
def Flow.TimesExportable (flow : Flow) : Prop :=
  ∀ stats ∈ flow.statistics, ∀ value ∈ stats.values, Convertible value

/-- No packet comes later after the first one than the largest `int` of
microseconds. -/
def Flow.Short (flow : Flow) : Prop :=
  ∀ time ∈ timesOf flow.pairs,
    1000000 * (time - (timesOf flow.pairs).headD 0) ≤ intMax

private theorem within_gaps
    {times : List ℚ} {low : ℚ} (sorted : times.Pairwise (· ≤ ·))
    (near : ∀ time ∈ times,
      low ≤ time ∧ 1000000 * (time - low) ≤ intMax) :
    Within ((gaps times).map fun gap => 1000000 * gap) intMax := by
  have total : (gaps times).sum ≤ low + intMax / 1000000 - low := by
    apply sum_gaps_le
    · have : (0 : ℚ) ≤ intMax / 1000000 := by norm_num [intMax]
      linarith
    · intro time member
      obtain ⟨later, close⟩ := near time member
      exact ⟨later, by linarith⟩
  refine ⟨?_, ?_⟩
  · intro value member
    obtain ⟨gap, gapMember, rfl⟩ := List.mem_map.mp member
    have nonneg := gaps_nonneg sorted gap gapMember
    linarith
  · rw [List.sum_map_mul_left]
    simp only [List.map_id']
    linarith

section Short

variable {flow : Flow}

theorem Flow.Short.near
    (short : flow.Short) (inOrder : InOrder (timesOf flow.pairs)) :
    ∀ time ∈ timesOf flow.pairs, (timesOf flow.pairs).headD 0 ≤ time ∧
      1000000 * (time - (timesOf flow.pairs).headD 0) ≤ intMax := by
  intro time member
  refine ⟨?_, short time member⟩
  have sorted := inOrder.sorted
  cases times : timesOf flow.pairs with
  | nil =>
      rw [times] at member
      exact absurd member List.not_mem_nil
  | cons first rest =>
      rw [times] at sorted member
      rcases List.mem_cons.mp member with rfl | later
      · exact le_refl _
      · exact (List.pairwise_cons.mp sorted).1 time later

private theorem Flow.Short.within_packetIat
    (short : flow.Short) (inOrder : InOrder (timesOf flow.pairs))
    (direction : PacketDirection) :
    Within (getPacketIat flow direction) intMax := by
  have sublist : (timesOf (flow.pairs.filter fun pair =>
      pair.direction = direction)).Sublist (timesOf flow.pairs) :=
    List.filter_sublist.map _
  rw [getPacketIat_eq]
  apply within_gaps (inOrder.sorted.sublist sublist)
  exact fun time member => short.near inOrder time (sublist.subset member)

/-- The machine of a flow in a session has seen the long gaps between its
packets. -/
theorem Flow.Recorded.activity_bounded
    (recorded : flow.Recorded) (inOrder : InOrder (timesOf flow.pairs)) :
    flow.activity.Bounded (gaps (timesOf flow.pairs)).sum := by
  have nonneg : ∀ gap ∈ longGaps (timesOf flow.pairs), 0 ≤ gap :=
    fun gap member =>
      gaps_nonneg inOrder.sorted gap (List.mem_filter.mp member).1
  have bounded := Activity.bounded_initial.foldl nonneg
  rw [zero_add] at bounded
  rw [recorded.activity, flowOf_activity inOrder]
  exact bounded.mono (sum_filter_gaps_le inOrder.sorted _)

theorem Flow.Recorded.timesExportable
    (recorded : flow.Recorded) (inOrder : InOrder (timesOf flow.pairs))
    (short : flow.Short) : flow.TimesExportable := by
  have whole := within_gaps inOrder.sorted (short.near inOrder)
  have total := whole.sumLe
  rw [List.sum_map_mul_left] at total
  simp only [List.map_id'] at total
  have activity := recorded.activity_bounded inOrder
  have held : 0 ≤ max flow.activity.startActive flow.activity.lastActive :=
    le_max_of_le_left activity.startNonneg
  have interarrival :
      Within flow.flowInterarrivalTime.items (intMax : ℚ) := by
    rw [recorded.interarrivalTimes, flowOf_interarrivalTimes inOrder]
    exact whole
  have idle : Within flow.idle.items (intMax : ℚ) :=
    ⟨activity.idleNonneg, le_trans activity.idle total⟩
  have active : Within flow.active.items (intMax : ℚ) := by
    refine ⟨activity.activeNonneg, ?_⟩
    have bound : flow.active.items.sum +
        1000000 * max flow.activity.startActive flow.activity.lastActive ≤
          1000000 * (gaps (timesOf flow.pairs)).sum := activity.active
    linarith
  have exportable : ∀ {array : List ℚ}, Within array (intMax : ℚ) →
      ∀ value ∈ (getStatistics array).values, Convertible value :=
    fun within =>
      (within.bounded_getStatistics (by norm_num [intMax])).convertible
        (le_refl _)
  intro stats member
  simp only [Flow.statistics, List.mem_cons, List.not_mem_nil,
    or_false] at member
  rcases member with rfl | rfl | rfl | rfl | rfl
  · exact exportable interarrival
  · exact exportable (short.within_packetIat inOrder .forward)
  · exact exportable (short.within_packetIat inOrder .reverse)
  · exact exportable idle
  · exact exportable active

end Short

/-! ## Whole runs -/

namespace Meter

/-- Every flow that the packet joins began no longer ago than the largest
`int` of microseconds. -/
def JoinsInRange (meter : Meter) (packet : Packet) : Prop :=
  ∀ entry ∈ meter.session.entries, meter.Joins packet entry →
    1000000 * (packet.time - (meter.heap entry.flow).startTimestamp) ≤
      intMax

instance (meter : Meter) (packet : Packet) :
    Decidable (meter.JoinsInRange packet) :=
  inferInstanceAs (Decidable (∀ entry ∈ meter.session.entries, _))

private theorem short_recordLabels
    {flow : Flow} {packet : Packet} (labels : List PacketDirection)
    (short : flow.Short)
    (near : timesOf flow.pairs ≠ [] →
      1000000 * (packet.time - (timesOf flow.pairs).headD 0) ≤ intMax) :
    (recordLabels flow packet labels).Short := by
  rw [Flow.Short, timesOf_recordLabels]
  cases times : timesOf flow.pairs with
  | nil =>
      intro time member
      have now : ∀ time ∈ labels.map (fun _ => packet.time),
          time = packet.time := by
        intro time member
        obtain ⟨_, -, same⟩ := List.mem_map.mp member
        exact same.symm
      rw [List.nil_append] at member ⊢
      have head : (labels.map fun _ => packet.time).headD 0 =
          packet.time := by
        cases labels with
        | nil =>
            exact absurd member List.not_mem_nil
        | cons label labels =>
            rfl
      rw [now time member, head, sub_self, mul_zero]
      norm_num [intMax]
  | cons first rest =>
      rw [Flow.Short, times] at short
      rw [times] at near
      intro time member
      rcases List.mem_append.mp member with old | new
      · exact short time old
      · obtain ⟨_, -, rfl⟩ := List.mem_map.mp new
        exact near (List.cons_ne_nil first rest)

theorem short_run
    {capacity : Nat} {frames : List Frame}
    (chronological : Chronological frames) (timed : Timed frames)
    (inRange : Runs.EveryStep UzFlowMeter.onPacketReceived
      (fun meter frame => frame.parsed.Accepted →
        meter.JoinsInRange frame.parsed) (initial capacity) frames) :
    (run capacity frames).AllFlows Flow.Short := by
  induction frames using List.reverseRecOn with
  | nil =>
      exact allFlows_initial _ capacity
  | append_singleton frames last inductionHypothesis =>
      have earlier := (List.pairwise_append.mp chronological).1
      have timedBefore : Timed frames := fun frame member =>
        timed frame (List.mem_append_left _ member)
      rw [Runs.everyStep_concat] at inRange
      have short := inductionHypothesis earlier timedBefore inRange.1
      rw [run_concat]
      apply short.onPacketReceived
      · intro route _
        apply short_recordLabels
        · exact fun time member => absurd member List.not_mem_nil
        · exact fun nonempty => absurd rfl nonempty
      · intro route entry member accepted selects closed sameKey sameCount
          shortBefore
        have created := (tracked_run capacity frames).live_lt member
        have inOrder := inOrder_run earlier timedBefore capacity entry.flow
          created
        have recorded := recorded_run capacity frames entry.flow created
        have joins := ((distinct_run capacity frames).joins_iff selects
          member).mpr ⟨closed, sameKey, sameCount⟩
        have near := inRange.2 accepted entry member joins
        have start := recorded.start
        rw [flowOf_startTimestamp inOrder.positive] at start
        apply short_recordLabels _ shortBefore
        intro _
        rw [← start]
        exact near

/-- In a chronological run in which no packet joins a flow that began longer
ago than the largest `int` of microseconds, every statistic of time of every
exported flow is in the range of `int`. -/
theorem exportedTimes_of_run
    (capacity : Nat) (frames : List Frame)
    (chronological : Chronological frames) (timed : Timed frames)
    (inRange : Runs.EveryStep UzFlowMeter.onPacketReceived
      (fun meter frame => frame.parsed.Accepted →
        meter.JoinsInRange frame.parsed) (initial capacity) frames) :
    ∀ snapshot ∈ (run capacity frames).exported,
      snapshot.contents.TimesExportable := by
  have tracked := tracked_run capacity frames
  intro snapshot member
  have created := tracked.exported_lt member
  rw [tracked.frozen snapshot member]
  apply Flow.Recorded.timesExportable
  · exact recorded_run capacity frames snapshot.flow created
  · exact inOrder_run chronological timed capacity snapshot.flow created
  · exact short_run chronological timed inRange snapshot.flow created

/-- A flow of two minutes, exported because of its length. -/
def twoMinutes : List Frame :=
  [clientFrame 1, clientFrame 40, clientFrame 80, clientFrame 119,
    clientFrame 125]

theorem exportedTimes_twoMinutes :
    (run 10 twoMinutes).exported.length = 1 ∧
      ∀ snapshot ∈ (run 10 twoMinutes).exported,
        snapshot.contents.TimesExportable :=
  ⟨by decide +kernel,
    exportedTimes_of_run 10 twoMinutes (by decide +kernel)
      (by decide +kernel) (by decide +kernel)⟩

/-- An answer after fifty minutes is recorded before the expiry is tested;
the flow is exported with a gap beyond the range. -/
theorem late_answer_out_of_range :
    Chronological [clientFrame 1, serverFrame 3000] ∧
      Timed [clientFrame 1, serverFrame 3000] ∧
      ¬ ∀ snapshot ∈ (run 10 [clientFrame 1, serverFrame 3000]).exported,
        snapshot.contents.TimesExportable := by
  refine ⟨by decide +kernel, by decide +kernel, ?_⟩
  have large : (run 10 [clientFrame 1, serverFrame 3000]).exported.any
      (fun snapshot => decide ((intMax : ℚ) <
        (getFlowInterarrivalStatistics
          snapshot.contents.flowInterarrivalTime).max)) = true := by
    decide +kernel
  intro exportable
  obtain ⟨snapshot, member, found⟩ := List.any_eq_true.mp large
  have beyond := of_decide_eq_true found
  have isStatistic : getFlowInterarrivalStatistics
      snapshot.contents.flowInterarrivalTime ∈
        snapshot.contents.statistics := List.mem_cons_self
  have converted := exportable snapshot member _ isStatistic
    ((getFlowInterarrivalStatistics
      snapshot.contents.flowInterarrivalTime).max : ℚ)
    (by simp [Statistics.values])
  have inRange := converted.inRange.2
  have small : (getFlowInterarrivalStatistics
      snapshot.contents.flowInterarrivalTime).max ≤ (intMax : ℚ) := by
    exact_mod_cast inRange
  exact absurd small (not_le_of_gt beyond)

end Meter

end UzFlowMeter
