import UzFlowMeter.Recording
import UzFlowMeter.RecordedFlows

/-!
# The flows of a run demultiplex the stream

A run assigns every accepted packet to one flow, with the labels under which
it is recorded there.  The flows, live or exported, are what this assignment
makes of the stream: each holds the packets assigned to it, in the order of
their arrival, and its other fields are those of the history of its pairs.
-/

namespace UzFlowMeter

/-- A packet with the flow that it is recorded in and the labels under which
it is recorded, in order. -/
structure Assignment where
  packet : Packet
  flow : FlowPtr
  labels : List PacketDirection

/-- The pairs that the assignment adds to its flow. -/
def Assignment.pairs (assignment : Assignment) : List Pair :=
  assignment.labels.map (Pair.mk assignment.packet)

/-- The pairs that a list of assignments adds to one flow. -/
def pairsAssigned (log : List Assignment) (flow : FlowPtr) : List Pair :=
  (log.filter fun assignment => assignment.flow = flow).flatMap
    Assignment.pairs

/-- The packets of the frames that `on_packet_received` works on. -/
def acceptedPackets (frames : List Frame) : List Packet :=
  (frames.map Frame.parsed).filter fun packet => packet.Accepted

/-- The ways to label a packet: recorded once, recorded twice by the branch
for a new flow, or recorded by the branch for the other orientation. -/
def labelings : List (List PacketDirection) :=
  [[.forward], [.forward, .forward], [.reverse, .forward]]

private theorem Route.labels_mem_labelings (route : Route) :
    route.labels ∈ labelings := by
  cases route <;> simp [Route.labels, labelings]

private theorem pairsAssigned_concat_self
    (log : List Assignment) (last : Assignment) :
    pairsAssigned (log ++ [last]) last.flow =
      pairsAssigned log last.flow ++ last.pairs := by
  simp [pairsAssigned]

private theorem pairsAssigned_concat_of_ne
    (log : List Assignment) {last : Assignment} {flow : FlowPtr}
    (different : last.flow ≠ flow) :
    pairsAssigned (log ++ [last]) flow = pairsAssigned log flow := by
  simp [pairsAssigned, different]

namespace Meter

/-- The flows of the meter hold what the assignments put into them. -/
structure Demultiplexes (meter : Meter) (log : List Assignment) : Prop where
  created : ∀ assignment ∈ log, assignment.flow < meter.nextFlow
  labeled : ∀ assignment ∈ log, assignment.labels ∈ labelings
  pairs : ∀ flow, meter.pairsOf flow = pairsAssigned log flow
  opened : ∀ flow < meter.nextFlow, pairsAssigned log flow ≠ []

private theorem demultiplexes_initial (capacity : Nat) :
    (initial capacity).Demultiplexes [] where
  created := fun _ member => absurd member List.not_mem_nil
  labeled := fun _ member => absurd member List.not_mem_nil
  pairs := fun flow => pairsOf_of_le (Nat.zero_le flow)
  opened := fun flow created => absurd created (Nat.not_lt_zero flow)

/-- Recording a packet in one flow extends the list of assignments. -/
theorem Demultiplexes.concat
    {before after : Meter} {log : List Assignment}
    (demultiplexes : before.Demultiplexes log) {packet : Packet}
    {route : Route} {flow : FlowPtr}
    (records : RecordsIn before after packet route.labels flow)
    (oneNew : ∀ other < after.nextFlow,
      other < before.nextFlow ∨ other = flow) :
    after.Demultiplexes (log ++ [⟨packet, flow, route.labels⟩]) where
  created := by
    intro assignment member
    rcases List.mem_append.mp member with earlier | last
    · exact Nat.lt_of_lt_of_le (demultiplexes.created assignment earlier)
        records.grows
    · rw [List.mem_singleton.mp last]
      exact records.created
  labeled := by
    intro assignment member
    rcases List.mem_append.mp member with earlier | last
    · exact demultiplexes.labeled assignment earlier
    · rw [List.mem_singleton.mp last]
      exact route.labels_mem_labelings
  pairs := by
    intro other
    by_cases same : flow = other
    · subst same
      have grown := pairsAssigned_concat_self log
        ⟨packet, flow, route.labels⟩
      rw [records.appended, demultiplexes.pairs, grown]
      rfl
    · rw [records.others other fun equal => same equal.symm,
        demultiplexes.pairs, pairsAssigned_concat_of_ne log same]
  opened := by
    intro other created
    by_cases same : flow = other
    · subst same
      have nonempty : route.labels.map (Pair.mk packet) ≠ [] := by
        simpa using route.labels_ne_nil
      have grown := pairsAssigned_concat_self log
        ⟨packet, flow, route.labels⟩
      rw [grown]
      exact List.append_ne_nil_of_right_ne_nil _ nonempty
    · rw [pairsAssigned_concat_of_ne log same]
      rcases oneNew other created with old | new
      · exact demultiplexes.opened other old
      · exact absurd new.symm same

private theorem Target.oneNew
    {meter : Meter} {packett : Packet} {route : Route} {flow : FlowPtr}
    (target : meter.Target packett route flow) :
    ∀ other < (meter.record packett route).nextFlow,
      other < meter.nextFlow ∨ other = flow := by
  intro other created
  rcases target with ⟨opens, rfl⟩ | ⟨closed, found⟩
  · rw [record_of_opens opens] at created
    exact Nat.lt_succ_iff_lt_or_eq.mp created
  · rw [record_of_found closed found] at created
    exact Or.inl created

private theorem Tracked.onPacketReceived_demultiplexes
    {meter : Meter} (tracked : meter.Tracked) {log : List Assignment}
    (demultiplexes : meter.Demultiplexes log) (frame : Frame) :
    ∃ added : List Assignment,
      added.map Assignment.packet = acceptedPackets [frame] ∧
        (UzFlowMeter.onPacketReceived meter frame).Demultiplexes
          (log ++ added) := by
  by_cases accepted : frame.parsed.Accepted
  · obtain ⟨route, selects, received⟩ := meter.receivePacket_spec accepted
    obtain ⟨flow, target, records⟩ := tracked.record_recordsIn selects
    refine ⟨[⟨frame.parsed, flow, route.labels⟩], ?_, ?_⟩
    · simp [acceptedPackets, accepted]
    · rw [UzFlowMeter.onPacketReceived, received, finished]
      split
      · apply demultiplexes.concat
          (records.garbageCollect frame.parsed.time)
        rw [garbageCollect_nextFlow]
        exact target.oneNew
      · exact demultiplexes.concat records target.oneNew
  · refine ⟨[], ?_, ?_⟩
    · simp [acceptedPackets, accepted]
    · rw [UzFlowMeter.onPacketReceived,
        receivePacket_of_not_accepted meter accepted, List.append_nil]
      exact demultiplexes

/-- A run assigns every accepted packet, in the order of arrival, to one
flow, and every flow it has created, live or exported, is what a zeroed flow
becomes by recording the packets assigned to it. -/
theorem demultiplexes_run (capacity : Nat) (frames : List Frame) :
    ∃ log : List Assignment,
      log.map Assignment.packet = acceptedPackets frames ∧
        (run capacity frames).Demultiplexes log ∧
        ∀ snapshot ∈ (run capacity frames).flows,
          snapshot.contents.pairs = pairsAssigned log snapshot.flow ∧
            snapshot.contents.SameTraces
              (flowOf (pairsAssigned log snapshot.flow)) ∧
            snapshot.contents.protocol =
              (flowOf (pairsAssigned log snapshot.flow)).protocol := by
  have tracked := tracked_run capacity frames
  have assigned : ∃ log : List Assignment,
      log.map Assignment.packet = acceptedPackets frames ∧
        (run capacity frames).Demultiplexes log := by
    induction frames using List.reverseRecOn with
    | nil =>
        exact ⟨[], rfl, demultiplexes_initial capacity⟩
    | append_singleton frames last inductionHypothesis =>
        have before := tracked_run capacity frames
        obtain ⟨log, packets, demultiplexes⟩ := inductionHypothesis before
        obtain ⟨added, last, grown⟩ :=
          before.onPacketReceived_demultiplexes demultiplexes last
        refine ⟨log ++ added, ?_, ?_⟩
        · rw [List.map_append, packets, last, acceptedPackets,
            acceptedPackets, acceptedPackets, List.map_append,
            List.filter_append]
        · rw [run_concat]
          exact grown
  obtain ⟨log, packets, demultiplexes⟩ := assigned
  refine ⟨log, packets, demultiplexes, ?_⟩
  intro snapshot member
  obtain ⟨created, contents⟩ := tracked.mem_flows_iff.mp member
  have recorded := recorded_run capacity frames snapshot.flow created
  have pairs : snapshot.contents.pairs = pairsAssigned log snapshot.flow := by
    rw [contents, ← pairsOf_of_lt created, demultiplexes.pairs]
  have nonempty := demultiplexes.opened snapshot.flow created
  rw [← pairs, contents] at nonempty
  refine ⟨pairs, ?_⟩
  rw [← pairs, contents]
  exact ⟨recorded,
    keepsProtocol_run capacity frames snapshot.flow created nonempty⟩

end Meter

end UzFlowMeter
