import Mathlib.Data.List.Induction
import UzFlowMeter.PacketTime

/-!
# The history of a flow

What a flow is after a sequence of calls of `add_packet_to_flow`.  Each call
is described by what it does to one group of fields in terms of the same
group before; the groups are the recorded pairs, the inter-arrival times,
the timestamps, the initial windows, and the fields of the two machines.
-/

namespace UzFlowMeter

/-- `add_packet_to_flow` for a packet with its direction. -/
def Flow.record (flow : Flow) (pair : Pair) : Flow :=
  addPacketToFlow flow pair.packet pair.direction

/-- The flow after a sequence of calls. -/
def Flow.recordAll (flow : Flow) (pairs : List Pair) : Flow :=
  pairs.foldl Flow.record flow

/-- A zeroed flow after a sequence of calls. -/
def flowOf (pairs : List Pair) : Flow :=
  Flow.recordAll {} pairs

@[simp]
theorem Flow.recordAll_nil (flow : Flow) : flow.recordAll [] = flow := rfl

private theorem Flow.recordAll_cons
    (flow : Flow) (pair : Pair) (pairs : List Pair) :
    flow.recordAll (pair :: pairs) = (flow.record pair).recordAll pairs :=
  rfl

private theorem Flow.recordAll_concat (flow : Flow) (pairs : List Pair)
    (last : Pair) :
    flow.recordAll (pairs ++ [last]) = (flow.recordAll pairs).record last :=
  List.foldl_append

theorem flowOf_concat (pairs : List Pair) (last : Pair) :
    flowOf (pairs ++ [last]) = (flowOf pairs).record last :=
  Flow.recordAll_concat {} pairs last

@[simp]
theorem Flow.recordAll_pairs (flow : Flow) (pairs : List Pair) :
    (flow.recordAll pairs).pairs = flow.pairs ++ pairs := by
  induction pairs generalizing flow with
  | nil =>
      simp
  | cons pair pairs inductionHypothesis =>
      rw [recordAll_cons, inductionHypothesis, record,
        addPacketToFlow_pairs]
      simp

@[simp]
theorem flowOf_pairs (pairs : List Pair) : (flowOf pairs).pairs = pairs :=
  Flow.recordAll_pairs {} pairs

section Fields

variable (flow : Flow) (packet : Packet) (direction : PacketDirection)

/-- The first half of a call, before `update_subflow`, changes nothing but
the pairs and the fields of the bulk machine. -/
theorem bulk_recordPair_frame {beta : Type} (field : Flow → beta)
    (readsBulk : ∀ flow : Flow, field flow.clearBulk = field flow)
    (readsPackets : ∀ flow : Flow, ∀ packets,
      field { flow with packets := packets } = field flow) :
    field (updateFlowBulk (recordPair flow packet direction) packet
      direction) = field flow := by
  rw [← readsBulk, updateFlowBulk_clearBulk, readsBulk, recordPair_eq,
    readsPackets]

/-- The machines leave a field alone that neither of them keeps and that the
array of pairs is not. -/
private theorem machines_recordPair {beta : Type} (field : Flow → beta)
    (readsBulk : ∀ flow : Flow, field flow.clearBulk = field flow)
    (readsActivity : ∀ flow : Flow, field flow.clearActivity = field flow)
    (readsPackets : ∀ flow : Flow, ∀ packets,
      field { flow with packets := packets } = field flow) :
    field (updateSubflow (updateFlowBulk (recordPair flow packet direction)
      packet direction) packet) = field flow := by
  rw [← readsActivity, updateSubflow_clearActivity, readsActivity,
    bulk_recordPair_frame flow packet direction field readsBulk
      readsPackets]

@[simp]
theorem addPacketToFlow_startTimestamp :
    (addPacketToFlow flow packet direction).startTimestamp =
      if flow.startTimestamp = 0 then packet.time
      else flow.startTimestamp := by
  have unchanged := machines_recordPair flow packet direction
    Flow.startTimestamp (fun _ => rfl) (fun _ => rfl) (fun _ _ => rfl)
  rw [addPacketToFlow, recordStart_eq, recordWindow_eq, recordLatest,
    recordInterarrival_eq]
  simp only [unchanged]

/-- The first packet names the protocol. -/
theorem addPacketToFlow_protocol :
    (addPacketToFlow flow packet direction).protocol =
      if flow.startTimestamp = 0 then packet.protocol
      else flow.protocol := by
  have start := machines_recordPair flow packet direction
    Flow.startTimestamp (fun _ => rfl) (fun _ => rfl) (fun _ _ => rfl)
  have protocol := machines_recordPair flow packet direction
    Flow.protocol (fun _ => rfl) (fun _ => rfl) (fun _ _ => rfl)
  rw [addPacketToFlow, recordStart_eq, recordWindow_eq, recordLatest,
    recordInterarrival_eq]
  simp only [start, protocol]

private theorem recordInterarrival_items :
    (recordInterarrival flow packet).flowInterarrivalTime.items =
      flow.flowInterarrivalTime.items ++
        if flow.startTimestamp = 0 then []
        else [1000000 * (packet.time - flow.latestTimestamp)] := by
  have allocated :=
    flow.flowInterarrivalTime.items_allocated initialCapacity
  have base :
      (if flow.flowInterarrivalTime.count = 0 then
          { flow with flowInterarrivalTime := initializeFlowInterarrivalTime }
        else flow) =
        { flow with
          flowInterarrivalTime :=
            if flow.flowInterarrivalTime.count = 0 then
              initializeFlowInterarrivalTime
            else flow.flowInterarrivalTime } := by
    split_ifs <;> rfl
  rw [recordInterarrival, base]
  by_cases first : flow.startTimestamp = 0
  · simp only [first, ne_eq, not_true_eq_false, if_false, if_true,
      List.append_nil]
    exact allocated
  · simp only [first, ne_eq, not_false_eq_true, if_false, if_true,
      appendFlowInterarrivalTime_items]
    exact congrArg (· ++ _) allocated

/-- One inter-arrival time is appended unless the packet is the first. -/
theorem addPacketToFlow_interarrivalTimes :
    (addPacketToFlow flow packet direction).flowInterarrivalTime.items =
      flow.flowInterarrivalTime.items ++
        if flow.startTimestamp = 0 then []
        else [1000000 * (packet.time - flow.latestTimestamp)] := by
  have start := machines_recordPair flow packet direction
    Flow.startTimestamp (fun _ => rfl) (fun _ => rfl) (fun _ _ => rfl)
  have latest := machines_recordPair flow packet direction
    Flow.latestTimestamp (fun _ => rfl) (fun _ => rfl) (fun _ _ => rfl)
  have times := machines_recordPair flow packet direction
    Flow.flowInterarrivalTime (fun _ => rfl) (fun _ => rfl) (fun _ _ => rfl)
  rw [addPacketToFlow, recordStart_eq, recordWindow_eq, recordLatest]
  dsimp only
  rw [recordInterarrival_items, start, latest, times]

/-- The windows do not depend on times. -/
theorem addPacketToFlow_initWindowSize :
    (addPacketToFlow flow packet direction).initWindowSize =
      (recordWindow flow packet direction).initWindowSize := by
  have window := machines_recordPair flow packet direction
    Flow.initWindowSize (fun _ => rfl) (fun _ => rfl) (fun _ _ => rfl)
  have reads : ∀ other : Flow,
      other.initWindowSize = flow.initWindowSize →
        (recordWindow other packet direction).initWindowSize =
          (recordWindow flow packet direction).initWindowSize := by
    intro other same
    rw [recordWindow, recordWindow, same]
    split_ifs <;> simp only [same]
  rw [addPacketToFlow, recordStart_eq]
  dsimp only
  apply reads
  rw [recordLatest, recordInterarrival_eq]
  exact window

end Fields

/-- Positive times that never go back. -/
structure InOrder (times : List ℚ) : Prop where
  positive : ∀ time ∈ times, 0 < time
  sorted : times.Pairwise (· ≤ ·)

instance (times : List ℚ) : Decidable (InOrder times) :=
  decidable_of_iff
    ((∀ time ∈ times, 0 < time) ∧ times.Pairwise (· ≤ ·))
    ⟨fun both => ⟨both.1, both.2⟩, fun order => ⟨order.1, order.2⟩⟩

theorem timesOf_concat (pairs : List Pair) (last : Pair) :
    timesOf (pairs ++ [last]) = timesOf pairs ++ [last.packet.time] := by
  simp [timesOf]

theorem InOrder.initial
    {times : List ℚ} {last : ℚ} (inOrder : InOrder (times ++ [last])) :
    InOrder times where
  positive := fun time member =>
    inOrder.positive time (List.mem_append_left _ member)
  sorted := (List.pairwise_append.mp inOrder.sorted).1

private theorem InOrder.le_last
    {times : List ℚ} {last : ℚ} (inOrder : InOrder (times ++ [last])) :
    ∀ time ∈ times, time ≤ last := by
  intro time member
  exact (List.pairwise_append.mp inOrder.sorted).2.2 time member last
    (List.mem_singleton_self last)

/-- The latest timestamp of packets in order is that of the last one. -/
theorem flowOf_latestTimestamp
    {pairs : List Pair} (inOrder : InOrder (timesOf pairs)) :
    (flowOf pairs).latestTimestamp = (timesOf pairs).getLastD 0 := by
  induction pairs using List.reverseRecOn with
  | nil =>
      rfl
  | append_singleton pairs last inductionHypothesis =>
      rw [timesOf_concat] at inOrder ⊢
      have before := inductionHypothesis inOrder.initial
      have positive := inOrder.positive last.packet.time (by simp)
      have earlier : (timesOf pairs).getLastD 0 ≤ last.packet.time := by
        rcases List.mem_cons.mp (List.getLastD_mem_cons
          (l := timesOf pairs) (a := 0)) with unset | member
        · rw [unset]
          exact le_of_lt positive
        · exact inOrder.le_last _ member
      rw [flowOf_concat, Flow.record, addPacketToFlow_latestTimestamp,
        before, max_eq_right earlier, List.getLastD_concat]

theorem InOrder.append_now
    {times : List ℚ} {now : ℚ} (inOrder : InOrder times)
    (past : ∀ time ∈ times, time ≤ now) (positive : 0 < now)
    (labels : List PacketDirection) :
    InOrder (times ++ labels.map fun _ => now) := by
  have isNow : ∀ time ∈ labels.map (fun _ => now), time = now := by
    intro time member
    obtain ⟨_, -, same⟩ := List.mem_map.mp member
    exact same.symm
  refine ⟨?_, ?_⟩
  · intro time member
    rcases List.mem_append.mp member with old | new
    · exact inOrder.positive time old
    · rw [isNow time new]
      exact positive
  · rw [List.pairwise_append]
    refine ⟨inOrder.sorted, ?_, ?_⟩
    · rw [List.pairwise_map]
      exact List.pairwise_of_forall fun _ _ => le_refl now
    · intro left leftMember right rightMember
      rw [isNow right rightMember]
      exact past left leftMember

/-- The start of a flow is the time of its first packet. -/
theorem flowOf_startTimestamp
    {pairs : List Pair} (positive : ∀ time ∈ timesOf pairs, 0 < time) :
    (flowOf pairs).startTimestamp = (timesOf pairs).headD 0 := by
  induction pairs using List.reverseRecOn with
  | nil =>
      rfl
  | append_singleton pairs last inductionHypothesis =>
      rw [timesOf_concat] at positive ⊢
      have before := inductionHypothesis fun time member =>
        positive time (List.mem_append_left _ member)
      rw [flowOf_concat, Flow.record, addPacketToFlow_startTimestamp,
        before]
      cases times : timesOf pairs with
      | nil =>
          rfl
      | cons first rest =>
          have set : first ≠ 0 := by
            apply ne_of_gt
            apply positive
            rw [times]
            simp
          exact if_neg set

/-- The inter-arrival times of packets in order are the gaps between them,
in microseconds. -/
theorem flowOf_interarrivalTimes
    {pairs : List Pair} (inOrder : InOrder (timesOf pairs)) :
    (flowOf pairs).flowInterarrivalTime.items =
      (Gaps.gaps (timesOf pairs)).map fun gap => 1000000 * gap := by
  induction pairs using List.reverseRecOn with
  | nil =>
      rfl
  | append_singleton pairs last inductionHypothesis =>
      rw [timesOf_concat] at inOrder ⊢
      have positive := inOrder.initial.positive
      rw [flowOf_concat, Flow.record, addPacketToFlow_interarrivalTimes,
        inductionHypothesis inOrder.initial,
        flowOf_startTimestamp positive,
        flowOf_latestTimestamp inOrder.initial]
      rcases List.eq_nil_or_concat' (timesOf pairs) with
        first | ⟨times, previous, split⟩
      · rw [first]
        rfl
      · have set : (timesOf pairs).headD 0 ≠ 0 := by
          rw [split] at positive ⊢
          apply ne_of_gt
          cases times with
          | nil =>
              exact positive previous (by simp)
          | cons head rest =>
              exact positive head (by simp)
        rw [if_neg set, split, Gaps.gaps_concat, List.map_append,
          List.getLastD_concat]
        rfl

/-- A TCP packet with a payload, recorded under a direction. -/
def tcpPair (direction : PacketDirection) (payloadSize : Int) (time : ℚ) :
    Pair :=
  ⟨{ protocol := ipprotoTcp, time := time, payloadSize := payloadSize },
    direction⟩

end UzFlowMeter
