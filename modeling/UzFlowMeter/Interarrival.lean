import Mathlib.Algebra.BigOperators.Ring.List
import Mathlib.Algebra.Order.Ring.Abs
import Mathlib.Data.List.Infix
import UzFlowMeter.FlowHistory

/-!
# Inter-arrival times of packets in any order

The inter-arrival times of a flow are taken from the latest packet so far,
those of a direction from the packet before.  `get_flow_duration` counts from
the first packet, `get_duration` from the earliest one.
-/

namespace UzFlowMeter

open Extremes Gaps

/-- The timestamps and inter-arrival times of a flow after packets with the
given times. -/
structure Flow.TracksTimes (flow : Flow) (times : List ℚ) : Prop where
  start : times.head? = some flow.startTimestamp
  latest : IsGreatest {time | time ∈ times} flow.latestTimestamp
  count : flow.flowInterarrivalTime.count + 1 = times.length
  entry : ∀ (index : Nat) (time : ℚ), times[index + 1]? = some time →
    ∃ latest, IsGreatest {time | time ∈ times.take (index + 1)} latest ∧
      flow.flowInterarrivalTime.items[index]? =
        some (1000000 * (time - latest))

/-- A flow that only knows its first packet. -/
theorem tracksTimes_record_first
    (first : Pair) (positive : 0 < first.packet.time) :
    (Flow.record {} first).TracksTimes [first.packet.time] where
  start := by
    rw [Flow.record, addPacketToFlow_startTimestamp, if_pos rfl]
    rfl
  latest := by
    rw [Flow.record, addPacketToFlow_latestTimestamp]
    have unset : ({} : Flow).latestTimestamp = 0 := rfl
    rw [unset, max_eq_right (le_of_lt positive)]
    exact isGreatest_foldl_max first.packet.time []
  count := by
    rw [GrowArray.count, Flow.record, addPacketToFlow_interarrivalTimes]
    rfl
  entry := by
    intro index time beyond
    exact absurd beyond (by simp)

/-- A later packet appends its distance from the latest one so far. -/
theorem Flow.TracksTimes.record
    {flow : Flow} {times : List ℚ} (tracks : flow.TracksTimes times)
    (started : flow.startTimestamp ≠ 0) (pair : Pair) :
    (flow.record pair).TracksTimes (times ++ [pair.packet.time]) := by
  have appended : (flow.record pair).flowInterarrivalTime.items =
      flow.flowInterarrivalTime.items ++
        [1000000 * (pair.packet.time - flow.latestTimestamp)] := by
    rw [Flow.record, addPacketToFlow_interarrivalTimes, if_neg started]
  have count := tracks.count
  rw [GrowArray.count] at count
  refine ⟨?_, ?_, ?_, ?_⟩
  · rw [Flow.record, addPacketToFlow_startTimestamp, if_neg started,
      List.head?_append, tracks.start]
    rfl
  · rw [Flow.record, addPacketToFlow_latestTimestamp]
    exact isGreatest_concat tracks.latest pair.packet.time
  · rw [GrowArray.count, appended, List.length_append, List.length_append,
      List.length_singleton, List.length_singleton, count]
  · intro index time found
    rw [appended]
    rcases lt_or_ge (index + 1) times.length with old | new
    · -- the entry and the packets before it were there already
      rw [List.getElem?_append_left old] at found
      obtain ⟨latest, isLatest, entry⟩ := tracks.entry index time found
      refine ⟨latest, ?_, ?_⟩
      · rw [List.take_append_of_le_length (le_of_lt old)]
        exact isLatest
      · rw [List.getElem?_append_left (by omega)]
        exact entry
    · have isLast : index + 1 = times.length := by
        have inside := (List.getElem?_eq_some_iff.mp found).1
        rw [List.length_append, List.length_singleton] at inside
        omega
      rw [isLast, List.getElem?_concat_length, Option.some.injEq] at found
      refine ⟨flow.latestTimestamp, ?_, ?_⟩
      · rw [isLast, List.take_left]
        exact tracks.latest
      · have position : index = flow.flowInterarrivalTime.items.length := by
          omega
        rw [position, List.getElem?_concat_length, found]

/-- A zeroed flow tracks the times of its packets. -/
theorem tracksTimes_flowOf
    {first : Pair} {rest : List Pair}
    (positive : ∀ time ∈ timesOf (first :: rest), 0 < time) :
    (flowOf (first :: rest)).TracksTimes (timesOf (first :: rest)) := by
  induction rest using List.reverseRecOn with
  | nil =>
      exact tracksTimes_record_first first (positive _ (by simp [timesOf]))
  | append_singleton rest last inductionHypothesis =>
      rw [← List.cons_append, timesOf_concat] at positive
      have earlier : ∀ time ∈ timesOf (first :: rest), 0 < time :=
        fun time member => positive time (List.mem_append_left _ member)
      have tracks := inductionHypothesis earlier
      have started : (flowOf (first :: rest)).startTimestamp ≠ 0 :=
        ne_of_gt (earlier _ (List.mem_of_head? tracks.start))
      rw [← List.cons_append, flowOf_concat, timesOf_concat]
      exact tracks.record started last

/-- The duration from the first packet is the duration from the earliest one
unless a packet is earlier than the first. -/
theorem Flow.TracksTimes.getFlowDuration_eq_iff
    {flow : Flow} (tracks : flow.TracksTimes (timesOf flow.pairs)) :
    getFlowDuration flow = getDuration flow ↔
      ∀ time ∈ timesOf flow.pairs, flow.startTimestamp ≤ time := by
  have startMember := List.mem_of_head? tracks.start
  obtain ⟨earliest, -, isEarliest, -⟩ :=
    exists_extremes (List.ne_nil_of_mem startMember)
  rw [getFlowDuration, getDuration_eq tracks.latest isEarliest,
    sub_right_inj]
  constructor
  · intro same time member
    rw [same]
    exact isEarliest.2 member
  · intro first
    exact le_antisymm (first _ isEarliest.1) (isEarliest.2 startMember)

/-- The inter-arrival bookkeeping of a zeroed flow after packets with
positive times in any order. -/
theorem flowOf_interarrivalBookkeeping
    (first : Pair) (rest : List Pair)
    (positive : ∀ time ∈ timesOf (first :: rest), 0 < time) :
    (flowOf (first :: rest)).TracksTimes (timesOf (first :: rest)) ∧
      (getFlowDuration (flowOf (first :: rest)) =
          getDuration (flowOf (first :: rest)) ↔
        ∀ time ∈ timesOf (first :: rest), first.packet.time ≤ time) ∧
      ((timesOf (first :: rest)).Pairwise (· ≤ ·) →
        (∀ entry ∈ (flowOf (first :: rest)).flowInterarrivalTime.items,
            0 ≤ entry) ∧
          (flowOf (first :: rest)).flowInterarrivalTime.items.sum =
            1000000 * getDuration (flowOf (first :: rest))) := by
  have tracks := tracksTimes_flowOf positive
  refine ⟨tracks, ?_, ?_⟩
  · have start : (flowOf (first :: rest)).startTimestamp =
        first.packet.time :=
      (Option.some.inj tracks.start).symm
    have ownTimes : (flowOf (first :: rest)).TracksTimes
        (timesOf (flowOf (first :: rest)).pairs) := by
      rw [flowOf_pairs]
      exact tracks
    have durations := ownTimes.getFlowDuration_eq_iff
    rw [flowOf_pairs, start] at durations
    exact durations
  · intro sorted
    have gapsNonneg := gaps_nonneg sorted
    rw [flowOf_interarrivalTimes ⟨positive, sorted⟩]
    constructor
    · intro entry member
      obtain ⟨gap, gapMember, rfl⟩ := List.mem_map.mp member
      exact mul_nonneg (by norm_num) (gapsNonneg gap gapMember)
    · rw [List.sum_map_mul_left, List.map_id', getDuration_of_sorted,
        flowOf_pairs]
      rw [flowOf_pairs]
      exact sorted

/-- A packet that is earlier than the first one. -/
theorem interarrivalBookkeeping_unordered :
    getFlowDuration (flowOf [tcpPair .forward 0 5, tcpPair .reverse 0 3,
        tcpPair .forward 0 9]) ≠
      getDuration (flowOf [tcpPair .forward 0 5, tcpPair .reverse 0 3,
        tcpPair .forward 0 9]) := by
  have bookkeeping := flowOf_interarrivalBookkeeping (tcpPair .forward 0 5)
    [tcpPair .reverse 0 3, tcpPair .forward 0 9] (by decide +kernel)
  rw [ne_eq, bookkeeping.2.1]
  decide +kernel

/-- The times of the packets of a direction. -/
def Flow.timesAlong (flow : Flow) (packetDirection : PacketDirection) :
    List ℚ :=
  timesOf (flow.pairs.filter fun pair => pair.direction = packetDirection)

private theorem getPacketIat_eq_gaps
    (flow : Flow) (direction : PacketDirection) :
    getPacketIat flow direction =
      (gaps (flow.timesAlong direction)).map fun gap => 1000000 * gap :=
  getPacketIat_eq flow direction

private theorem timesAlong_subset (flow : Flow) (direction : PacketDirection) :
    flow.timesAlong direction ⊆ timesOf flow.pairs :=
  List.map_subset _ (List.filter_subset_self _)

/-- All times lie in an interval as long as the duration. -/
theorem exists_interval (flow : Flow) :
    ∃ low high : ℚ, low ≤ high ∧ high - low = getDuration flow ∧
      ∀ time ∈ timesOf flow.pairs, low ≤ time ∧ time ≤ high := by
  by_cases empty : timesOf flow.pairs = []
  · have noPairs : flow.pairs = [] := List.map_eq_nil_iff.mp empty
    have zero : getDuration flow = 0 := by
      rw [getDuration, getPacketTimes, noPairs]
    refine ⟨0, 0, le_refl 0, by rw [zero, sub_zero], ?_⟩
    rw [empty]
    simp
  · obtain ⟨earliest, latest, isEarliest, isLatest⟩ :=
      exists_extremes empty
    exact ⟨earliest, latest, isEarliest.2 isLatest.1,
      (getDuration_eq isLatest isEarliest).symm,
      fun time member => ⟨isEarliest.2 member, isLatest.2 member⟩⟩

private theorem getDuration_nonneg (flow : Flow) : 0 ≤ getDuration flow := by
  obtain ⟨low, high, ordered, duration, -⟩ := exists_interval flow
  rw [← duration]
  exact sub_nonneg.mpr ordered

/-- The order of the packets does not matter for the duration. -/
theorem getDuration_of_perm
    {left right : Flow} (perm : left.pairs.Perm right.pairs) :
    getDuration left = getDuration right := by
  by_cases empty : timesOf left.pairs = []
  · have noPairs : left.pairs = [] := List.map_eq_nil_iff.mp empty
    rw [noPairs] at perm
    rw [getDuration, getDuration, getPacketTimes, getPacketTimes, noPairs,
      List.nil_perm.mp perm]
  · obtain ⟨earliest, latest, isEarliest, isLatest⟩ :=
      exists_extremes empty
    have sameTimes := setOf_mem_perm
      (perm.map fun pair => pair.packet.time)
    rw [getDuration_eq isLatest isEarliest]
    rw [timesOf, sameTimes] at isLatest isEarliest
    rw [getDuration_eq isLatest isEarliest]

/-- Neighbouring inter-arrival times of a direction add up to no more than
the flow lasts. -/
theorem abs_sum_getPacketIat_le
    {flow : Flow} {direction : PacketDirection} {part : List ℚ}
    (block : part <:+: getPacketIat flow direction) :
    |part.sum| ≤ 1000000 * getDuration flow := by
  rw [getPacketIat_eq_gaps] at block
  obtain ⟨inSeconds, gapBlock, rfl⟩ := List.infix_map_iff.mp block
  obtain ⟨low, high, ordered, duration, within⟩ := exists_interval flow
  have bound := abs_sum_infix_le ordered
    (fun time member => within time (timesAlong_subset flow direction member))
    gapBlock
  rw [List.sum_map_mul_left, List.map_id', abs_mul, ← duration]
  have scale : |(1000000 : ℚ)| = 1000000 := abs_of_pos (by norm_num)
  rw [scale]
  exact mul_le_mul_of_nonneg_left bound (by norm_num)

private theorem sum_getPacketIat (flow : Flow) (direction : PacketDirection) :
    (getPacketIat flow direction).sum =
      1000000 * ((flow.timesAlong direction).getLastD 0 -
        (flow.timesAlong direction).headD 0) := by
  rw [getPacketIat_eq_gaps, List.sum_map_mul_left, List.map_id']
  cases flow.timesAlong direction with
  | nil =>
      simp
  | cons first rest =>
      rw [sum_gaps, List.getLastD_cons]
      rfl

/-- The inter-arrival times of a direction telescope and stay within the
duration of the flow, which does not depend on the order of the pairs. -/
theorem getPacketIat_withinDuration
    (flow : Flow) (direction : PacketDirection) :
    (getPacketIat flow direction).length =
        (flow.pairs.countP fun pair => pair.direction = direction) - 1 ∧
      (getPacketIat flow direction).sum =
        1000000 * ((flow.timesAlong direction).getLastD 0 -
          (flow.timesAlong direction).headD 0) ∧
      (∀ part, part <:+: getPacketIat flow direction →
        |part.sum| ≤ 1000000 * getDuration flow) ∧
      (∀ entry ∈ getPacketIat flow direction,
        |entry| ≤ 1000000 * getDuration flow) ∧
      0 ≤ getDuration flow ∧
      ∀ other : Flow, other.pairs.Perm flow.pairs →
        getDuration other = getDuration flow := by
  refine ⟨?_, sum_getPacketIat flow direction, ?_, ?_,
    getDuration_nonneg flow, ?_⟩
  · rw [getPacketIat_eq_gaps, List.length_map, length_gaps,
      Flow.timesAlong, timesOf, List.length_map,
      List.countP_eq_length_filter]
  · intro part block
    exact abs_sum_getPacketIat_le block
  · intro entry member
    have alone := (List.singleton_infix_iff entry _).mpr member
    have bound := abs_sum_getPacketIat_le alone
    rw [List.sum_singleton] at bound
    exact bound
  · intro other perm
    exact getDuration_of_perm perm

end UzFlowMeter
