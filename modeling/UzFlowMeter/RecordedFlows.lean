import UzFlowMeter.Activity
import UzFlowMeter.BulkMachine
import UzFlowMeter.Segments

/-!
# The flows of a session as histories

A flow of a session has been through the same calls of `add_packet_to_flow`
as a zeroed flow with the same pairs; only the fields that name it differ.
In a run with packets in order its pairs are in order, too.
-/

namespace UzFlowMeter

/-- What recording and the features see of a packet. -/
def Packet.anonymous (packet : Packet) : Packet where
  protocol := packet.protocol
  time := packet.time
  window := packet.window
  payloadSize := packet.payloadSize
  flags := packet.flags
  headerSize := packet.headerSize

def Pair.anonymous (pair : Pair) : Pair :=
  ⟨pair.packet.anonymous, pair.direction⟩

/-- The flows agree on all that recording keeps beside the pairs. -/
structure Flow.SameTraces (flow other : Flow) : Prop where
  latest : flow.latestTimestamp = other.latestTimestamp
  start : flow.startTimestamp = other.startTimestamp
  activity : flow.activity = other.activity
  interarrivalTimes : flow.flowInterarrivalTime.items =
    other.flowInterarrivalTime.items
  bulk : ∀ side, flow.bulk side = other.bulk side
  initWindowSize : flow.initWindowSize = other.initWindowSize

/-- Packets that look the same to recording leave the same traces. -/
theorem Flow.SameTraces.record
    {flow other : Flow} (same : flow.SameTraces other) {pair otherPair : Pair}
    (alike : pair.anonymous = otherPair.anonymous) :
    (flow.record pair).SameTraces (other.record otherPair) := by
  have sameField : ∀ {beta : Type} (field : Pair → beta),
      (∀ pair : Pair, field pair.anonymous = field pair) →
        field pair = field otherPair := by
    intro beta field reads
    rw [← reads pair, alike, reads]
  have sameDirection := sameField Pair.direction fun _ => rfl
  have sameProtocol := sameField (fun pair => pair.packet.protocol)
    fun _ => rfl
  have sameWindow := sameField (fun pair => pair.packet.window) fun _ => rfl
  have samePayload := sameField (fun pair => getPayload pair.packet)
    fun _ => rfl
  have sameTime := sameField (fun pair => pair.packet.time) fun _ => rfl
  rw [Flow.record, Flow.record, sameDirection]
  exact {
    latest := by
      rw [addPacketToFlow_latestTimestamp, addPacketToFlow_latestTimestamp,
        same.latest, sameTime]
    start := by
      rw [addPacketToFlow_startTimestamp, addPacketToFlow_startTimestamp,
        same.start, sameTime]
    activity := by
      rw [addPacketToFlow_activity, addPacketToFlow_activity, same.latest,
        same.activity, sameTime]
    interarrivalTimes := by
      rw [addPacketToFlow_interarrivalTimes,
        addPacketToFlow_interarrivalTimes, same.interarrivalTimes,
        same.start, same.latest, sameTime]
    bulk := by
      intro side
      rcases bulk_eq_or_opposite side otherPair.direction with own | opposite
      · rw [own, own, addPacketToFlow_bulk_self, addPacketToFlow_bulk_self,
          same.bulk, same.bulk, samePayload, sameTime]
      · rw [opposite, opposite, addPacketToFlow_bulk_opposite,
          addPacketToFlow_bulk_opposite, same.bulk]
    initWindowSize := by
      rw [addPacketToFlow_initWindowSize, addPacketToFlow_initWindowSize,
        recordWindow, recordWindow, same.initWindowSize, sameProtocol,
        sameWindow]
      simp only [apply_ite Flow.initWindowSize, same.initWindowSize] }

/-- The flow is what its pairs have made of a zeroed flow. -/
def Flow.Recorded (flow : Flow) : Prop :=
  flow.SameTraces (flowOf flow.pairs)

theorem Flow.recorded_newFlow (packett : Packet) :
    (newFlow packett).Recorded :=
  ⟨rfl, rfl, rfl, rfl, fun side => by cases side <;> rfl, rfl⟩

theorem Flow.Recorded.record
    {flow : Flow} (recorded : flow.Recorded) (pair : Pair) :
    (flow.record pair).Recorded := by
  have pairs : (flow.record pair).pairs = flow.pairs ++ [pair] :=
    addPacketToFlow_pairs flow pair.packet pair.direction
  rw [Flow.Recorded, pairs, flowOf_concat]
  exact SameTraces.record recorded rfl

theorem Flow.Recorded.recordLabels
    {flow : Flow} (recorded : flow.Recorded) (packet : Packet)
    (labels : List PacketDirection) :
    (UzFlowMeter.recordLabels flow packet labels).Recorded := by
  induction labels generalizing flow with
  | nil =>
      exact recorded
  | cons label labels inductionHypothesis =>
      exact inductionHypothesis (recorded.record ⟨packet, label⟩)

/-- A flow with packets has the protocol that recording them leaves. -/
def Flow.KeepsProtocol (flow : Flow) : Prop :=
  flow.pairs ≠ [] → flow.protocol = (flowOf flow.pairs).protocol

private theorem Flow.Recorded.keepsProtocol_record
    {flow : Flow} (recorded : flow.Recorded) (keeps : flow.KeepsProtocol)
    (pair : Pair) : (flow.record pair).KeepsProtocol := by
  intro _
  have pairs : (flow.record pair).pairs = flow.pairs ++ [pair] :=
    addPacketToFlow_pairs flow pair.packet pair.direction
  rw [pairs, flowOf_concat, Flow.record, Flow.record,
    addPacketToFlow_protocol, addPacketToFlow_protocol, ← recorded.start]
  by_cases unset : flow.startTimestamp = 0
  · rw [if_pos unset, if_pos unset]
  · rw [if_neg unset, if_neg unset]
    apply keeps
    intro empty
    have start := recorded.start
    rw [empty] at start
    exact unset start

private theorem Flow.Recorded.keepsProtocol_recordLabels
    {flow : Flow} (recorded : flow.Recorded) (keeps : flow.KeepsProtocol)
    (packet : Packet) (labels : List PacketDirection) :
    (UzFlowMeter.recordLabels flow packet labels).KeepsProtocol := by
  induction labels generalizing flow with
  | nil =>
      exact keeps
  | cons label labels inductionHypothesis =>
      exact inductionHypothesis (recorded.record ⟨packet, label⟩)
        (recorded.keepsProtocol_record keeps ⟨packet, label⟩)

namespace Meter

theorem recorded_run (capacity : Nat) (frames : List Frame) :
    (run capacity frames).AllFlows Flow.Recorded := by
  apply allFlows_run Flow.recorded_newFlow
  intro frame route flow _ recorded
  exact recorded.recordLabels frame.parsed route.labels

theorem keepsProtocol_run (capacity : Nat) (frames : List Frame) :
    (run capacity frames).AllFlows Flow.KeepsProtocol := by
  have both : (run capacity frames).AllFlows fun flow =>
      flow.Recorded ∧ flow.KeepsProtocol := by
    apply allFlows_run
    · exact fun packet => ⟨Flow.recorded_newFlow packet,
        fun nonempty => absurd rfl nonempty⟩
    · rintro frame route flow _ ⟨recorded, keeps⟩
      exact ⟨recorded.recordLabels frame.parsed route.labels,
        recorded.keepsProtocol_recordLabels keeps frame.parsed route.labels⟩
  exact fun flow created => (both flow created).2

/-- The frames bring accepted packets at positive times only. -/
def Timed (frames : List Frame) : Prop :=
  ∀ frame ∈ frames, frame.parsed.Accepted → 0 < frame.parsed.time

instance (frames : List Frame) : Decidable (Timed frames) :=
  inferInstanceAs (Decidable (∀ frame ∈ frames, _))

theorem timesOf_recordLabels
    (flow : Flow) (packet : Packet) (labels : List PacketDirection) :
    timesOf (recordLabels flow packet labels).pairs =
      timesOf flow.pairs ++ labels.map fun _ => packet.time := by
  simp [timesOf, Function.comp_def]

/-- In a chronological run the pairs of every flow are in order. -/
theorem inOrder_run
    {frames : List Frame} (chronological : Chronological frames)
    (timed : Timed frames) (capacity : Nat) :
    (run capacity frames).AllFlows fun flow =>
      InOrder (timesOf flow.pairs) := by
  induction frames using List.reverseRecOn with
  | nil =>
      exact allFlows_initial _ capacity
  | append_singleton frames last inductionHypothesis =>
      have earlier := (List.pairwise_append.mp chronological).1
      have before := inductionHypothesis earlier fun frame member =>
        timed frame (List.mem_append_left _ member)
      rw [run_concat]
      apply before.onPacketReceived
      · intro route accepted
        have positive := timed last (by simp) accepted
        rw [timesOf_recordLabels]
        apply InOrder.append_now _ _ positive
        · exact ⟨fun time member => absurd member List.not_mem_nil,
            List.Pairwise.nil⟩
        · exact fun time member => absurd member List.not_mem_nil
      · intro route entry member accepted _ _ _ _ inOrder
        have positive := timed last (by simp) accepted
        have created := (tracked_run capacity frames).live_lt member
        rw [timesOf_recordLabels]
        apply inOrder.append_now _ positive
        intro time timeMember
        obtain ⟨pair, pairMember, rfl⟩ := List.mem_map.mp timeMember
        exact recordedBy_run chronological accepted capacity entry.flow
          created pair pairMember

/-- The packet goes into the flow of the entry: behind stale segments of its
own orientation as long as the flow is young enough for its place, or, with
no flow of its own orientation, whatever the age of the flow. -/
def Joins (meter : Meter) (packet : Packet) (entry : Flows) : Prop :=
  (entry.key = packet.fiveTuple.key ∧
      StaleBelow meter.lookup packet entry.count ∧
      packet.time - (meter.heap entry.flow).latestTimestamp ≤
        expiredUpdate * (entry.count + 1)) ∨
    (meter.MatchesReverseOnly packet ∧
      entry.key = packet.fiveTuple.swap.key ∧ entry.count = 0)

instance (meter : Meter) (packet : Packet) (entry : Flows) :
    Decidable (meter.Joins packet entry) :=
  inferInstanceAs (Decidable (_ ∨ _))

/-- A packet joins the flow that its route finds and no other. -/
theorem Distinct.joins_iff
    {meter : Meter} (distinct : meter.Distinct) {packett : Packet}
    {route : Route} (selects : Selects meter.lookup packett route)
    {entry : Flows} (member : entry ∈ meter.session.entries) :
    meter.Joins packett entry ↔
      route.opens = false ∧ entry.key = (route.tuple packett).key ∧
        entry.count = route.count := by
  have contents : meter.lookup entry.key entry.count =
      some (meter.heap entry.flow) :=
    lookup_eq_some_iff.mpr ⟨entry.flow, distinct.getFlow_eq member, rfl⟩
  constructor
  · rintro (⟨sameKey, staleHere, young⟩ | ⟨reverseOnly, sameKey, zero⟩)
    · rw [sameKey] at contents
      have stopsHere : StopsAt meter.lookup packett entry.count := by
        intro flow found
        rw [contents] at found
        cases found
        exact young
      have sameCount := selects.count_eq staleHere stopsHere
      rw [sameCount] at contents
      cases route with
      | fresh =>
          rw [Route.count, selects.1] at contents
          cases contents
      | forward =>
          exact ⟨rfl, sameKey, sameCount⟩
      | reverse =>
          rw [Route.count, selects.1] at contents
          cases contents
      | segment count =>
          exact ⟨rfl, sameKey, sameCount⟩
      | newSegment count =>
          rw [Route.count, selects.2.2] at contents
          cases contents
    · rw [(matchesReverseOnly_iff selects).mp reverseOnly]
      exact ⟨rfl, sameKey, zero⟩
  · rintro ⟨closed, sameKey, sameCount⟩
    obtain ⟨stale, stops⟩ := selects.stale_and_stops
    rw [sameKey, sameCount] at contents
    rw [← sameCount] at stale stops
    cases route with
    | fresh =>
        exact absurd closed.symm Bool.false_ne_true
    | newSegment count =>
        exact absurd closed.symm Bool.false_ne_true
    | reverse =>
        exact Or.inr ⟨(matchesReverseOnly_iff selects).mpr rfl, sameKey,
          sameCount⟩
    | forward =>
        rw [← sameCount] at contents
        exact Or.inl ⟨sameKey, stale, stops _ contents⟩
    | segment count =>
        rw [← sameCount] at contents
        exact Or.inl ⟨sameKey, stale, stops _ contents⟩

end Meter

end UzFlowMeter
