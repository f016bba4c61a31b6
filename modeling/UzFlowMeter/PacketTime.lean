import Mathlib.Tactic.Linarith
import UzFlowMeter.Flow
import UzFlowMeter.Library.Extremes
import UzFlowMeter.Library.Gaps

/-!
# Packet times of a flow

The model of `get_duration` and `get_packet_iat` in `packet_time.c` and of
the list of relative times the duration is computed from.
-/

namespace UzFlowMeter

/-- `_get_packet_times`: the times relative to the first packet.  It reads
the first pair in any case; the flows of its callers are not empty. -/
def getPacketTimes (flow : Flow) : List ℚ :=
  match flow.pairs with
  | [] => []
  | first :: rest =>
      (first :: rest).map fun pair => pair.packet.time - first.packet.time

/-- One round of the loop of `get_duration` on the pair of `max_time` and
`min_time`. -/
def extendTimeBounds (bounds : ℚ × ℚ) (time : ℚ) : ℚ × ℚ :=
  (if time > bounds.1 then time else bounds.1,
    if time < bounds.2 then time else bounds.2)

/-- `get_duration`. -/
def getDuration (flow : Flow) : ℚ :=
  match getPacketTimes flow with
  | [] => 0
  | [_] => 0
  | first :: rest =>
      let bounds := rest.foldl extendTimeBounds (first, first)
      bounds.1 - bounds.2

/-- The loop of `get_packet_iat` over the filtered packets. -/
def interarrivalTimes : List Pair → List ℚ
  | [] => []
  | [_] => []
  | previous :: pair :: rest =>
      1000000 * (pair.packet.time - previous.packet.time) ::
        interarrivalTimes (pair :: rest)

/-- `get_packet_iat`. -/
def getPacketIat (flow : Flow) (packetDirection : PacketDirection) :
    List ℚ :=
  let filteredPackets :=
    flow.pairs.filter fun pair => pair.direction = packetDirection
  if filteredPackets.length < 2 then []
  else interarrivalTimes filteredPackets

open Gaps

/-- The times of recorded packets. -/
def timesOf (pairs : List Pair) : List ℚ :=
  pairs.map fun pair => pair.packet.time

private theorem interarrivalTimes_eq (pairs : List Pair) :
    interarrivalTimes pairs =
      (gaps (timesOf pairs)).map fun gap => 1000000 * gap := by
  induction pairs with
  | nil =>
      rfl
  | cons first pairs inductionHypothesis =>
      cases pairs with
      | nil =>
          rfl
      | cons second pairs =>
          rw [interarrivalTimes, inductionHypothesis]
          rfl

/-- The list is empty for fewer than two packets, too. -/
theorem getPacketIat_eq (flow : Flow) (direction : PacketDirection) :
    getPacketIat flow direction =
      (gaps (timesOf (flow.pairs.filter fun pair =>
        pair.direction = direction))).map fun gap => 1000000 * gap := by
  rw [getPacketIat, interarrivalTimes_eq]
  split_ifs with few
  · have noGaps : (gaps (timesOf (flow.pairs.filter fun pair =>
        pair.direction = direction))).length = 0 := by
      rw [length_gaps, timesOf, List.length_map]
      omega
    rw [List.length_eq_zero_iff.mp noGaps]
    rfl
  · rfl

theorem getPacketTimes_eq
    {flow : Flow} {first : Pair} {rest : List Pair}
    (recorded : flow.pairs = first :: rest) :
    getPacketTimes flow =
      (timesOf flow.pairs).map fun time => time + -first.packet.time := by
  rw [getPacketTimes, recorded]
  simp [timesOf, sub_eq_add_neg]

open Extremes

private theorem foldl_extendTimeBounds_eq (high low : ℚ) (times : List ℚ) :
    times.foldl extendTimeBounds (high, low) =
      (times.foldl max high, times.foldl min low) := by
  induction times generalizing high low with
  | nil =>
      rfl
  | cons time times inductionHypothesis =>
      have step : extendTimeBounds (high, low) time =
          (max high time, min low time) := by
        rw [extendTimeBounds, ite_gt_eq_max, ite_lt_eq_min]
      rw [List.foldl_cons, step, inductionHypothesis]
      rfl

private theorem getDuration_of_relative
    {flow : Flow} {first : ℚ} {rest : List ℚ}
    (relative : getPacketTimes flow = first :: rest) :
    getDuration flow = rest.foldl max first - rest.foldl min first := by
  rw [getDuration, relative]
  cases rest with
  | nil =>
      exact (sub_self first).symm
  | cons second rest =>
      dsimp only
      rw [foldl_extendTimeBounds_eq]

/-- A flow lasts from its earliest packet to its latest one. -/
theorem getDuration_eq
    {flow : Flow} {latest earliest : ℚ}
    (isLatest : IsGreatest {time | time ∈ timesOf flow.pairs} latest)
    (isEarliest : IsLeast {time | time ∈ timesOf flow.pairs} earliest) :
    getDuration flow = latest - earliest := by
  cases recorded : flow.pairs with
  | nil =>
      have member := isLatest.1
      rw [recorded] at member
      exact absurd member List.not_mem_nil
  | cons first pairs =>
      have relative := getPacketTimes_eq recorded
      have monotone : Monotone fun time : ℚ =>
          time + -first.packet.time :=
        fun _ _ later => add_le_add_left later _
      have relativeLatest := isGreatest_map monotone isLatest
      have relativeEarliest := isLeast_map monotone isEarliest
      rw [← relative] at relativeLatest relativeEarliest
      cases times : getPacketTimes flow with
      | nil =>
          rw [times] at relativeLatest
          exact absurd relativeLatest.1 List.not_mem_nil
      | cons start rest =>
          rw [times] at relativeLatest relativeEarliest
          rw [getDuration_of_relative times,
            (isGreatest_foldl_max start rest).unique relativeLatest,
            (isLeast_foldl_min start rest).unique relativeEarliest,
            add_sub_add_right_eq_sub]

/-- A flow whose packets are in order lasts as long as its gaps together. -/
theorem getDuration_of_sorted
    {flow : Flow} (sorted : (timesOf flow.pairs).Pairwise (· ≤ ·)) :
    getDuration flow = (gaps (timesOf flow.pairs)).sum := by
  cases times : timesOf flow.pairs with
  | nil =>
      have noPairs : flow.pairs = [] := List.map_eq_nil_iff.mp times
      rw [getDuration, getPacketTimes, noPairs]
      rfl
  | cons first rest =>
      rw [times] at sorted
      have isEarliest := isLeast_of_sorted sorted
      have isLatest := isGreatest_of_sorted sorted
      rw [← times] at isEarliest isLatest
      rw [getDuration_eq isLatest isEarliest, sum_gaps]

end UzFlowMeter
