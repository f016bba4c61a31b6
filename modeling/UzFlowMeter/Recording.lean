import Mathlib.Algebra.BigOperators.Group.Finset.Basic
import UzFlowMeter.Lifecycle
import UzFlowMeter.WireFormat

/-!
# How often a packet is recorded

Every accepted packet is recorded in a single flow, but not always once: the
branch for a new flow and the branch for the other orientation record it,
and so does the end of `on_packet_received`.
-/

namespace UzFlowMeter

namespace Meter

/-- The pairs recorded so far through a pointer, none before `malloc` has
returned it. -/
def pairsOf (meter : Meter) (flow : FlowPtr) : List Pair :=
  if flow < meter.nextFlow then (meter.heap flow).pairs else []

theorem pairsOf_of_lt {meter : Meter} {flow : FlowPtr}
    (created : flow < meter.nextFlow) :
    meter.pairsOf flow = (meter.heap flow).pairs :=
  if_pos created

theorem pairsOf_of_le {meter : Meter} {flow : FlowPtr}
    (uncreated : meter.nextFlow ≤ flow) : meter.pairsOf flow = [] :=
  if_neg (Nat.not_lt.mpr uncreated)

/-- Between two states a packet was recorded in one flow under the given
labels and nowhere else.  The flow was in the session or is a new one. -/
structure RecordsIn (before after : Meter) (packet : Packet)
    (labels : List PacketDirection) (flow : FlowPtr) : Prop where
  place :
    flow = before.nextFlow ∨ flow ∈ before.session.entries.map Flows.flow
  created : flow < after.nextFlow
  grows : before.nextFlow ≤ after.nextFlow
  appended :
    after.pairsOf flow = before.pairsOf flow ++ labels.map (Pair.mk packet)
  others : ∀ other, other ≠ flow → after.pairsOf other = before.pairsOf other

private theorem opened_recordsIn
    (meter : Meter) (packett : Packet) (count : Nat)
    (labels : List PacketDirection) :
    RecordsIn meter (meter.opened packett count labels) packett labels
      meter.nextFlow where
  place := Or.inl rfl
  created := Nat.lt_succ_self meter.nextFlow
  grows := Nat.le_succ meter.nextFlow
  appended := by
    have created :
        meter.nextFlow < (meter.opened packett count labels).nextFlow :=
      Nat.lt_succ_self meter.nextFlow
    rw [pairsOf_of_lt created, pairsOf_of_le (le_refl meter.nextFlow),
      opened_heap_new, recordLabels_pairs]
    rfl
  others := by
    intro other different
    by_cases created : other < meter.nextFlow
    · have stillCreated :
          other < (meter.opened packett count labels).nextFlow :=
        Nat.lt_succ_of_lt created
      rw [pairsOf_of_lt created, pairsOf_of_lt stillCreated,
        opened_heap_of_ne _ _ _ _ different]
    · have uncreated : meter.nextFlow ≤ other := Nat.not_lt.mp created
      have beyond : (meter.opened packett count labels).nextFlow ≤ other :=
        Nat.lt_of_le_of_ne uncreated (Ne.symm different)
      rw [pairsOf_of_le uncreated, pairsOf_of_le beyond]

private theorem Tracked.extended_recordsIn
    {meter : Meter} (tracked : meter.Tracked) (packett : Packet)
    {entry : Flows} (member : entry ∈ meter.session.entries)
    (labels : List PacketDirection) :
    RecordsIn meter (meter.extended packett entry.flow labels) packett
      labels entry.flow where
  place := Or.inr (List.mem_map_of_mem member)
  created := tracked.live_lt member
  grows := le_refl meter.nextFlow
  appended := by
    have created :
        entry.flow < (meter.extended packett entry.flow labels).nextFlow :=
      tracked.live_lt member
    rw [pairsOf_of_lt created, pairsOf_of_lt (tracked.live_lt member),
      extended_heap_self, recordLabels_pairs]
  others := by
    intro other different
    rw [pairsOf, pairsOf, extended_heap_of_ne _ _ _ different,
      extended_nextFlow]

theorem RecordsIn.garbageCollect
    {before after : Meter} {packet : Packet}
    {labels : List PacketDirection} {flow : FlowPtr}
    (records : RecordsIn before after packet labels flow)
    (latestTime : ℚ) :
    RecordsIn before (after.garbageCollect latestTime) packet labels
      flow := by
  have samePairs :
      (after.garbageCollect latestTime).pairsOf = after.pairsOf := by
    funext other
    rw [pairsOf, pairsOf, garbageCollect_nextFlow, garbageCollect_heap]
  refine ⟨records.place, ?_, ?_, ?_, ?_⟩
  · rw [garbageCollect_nextFlow]
    exact records.created
  · rw [garbageCollect_nextFlow]
    exact records.grows
  · rw [samePairs]
    exact records.appended
  · rw [samePairs]
    exact records.others

/-- The flow that a route leads to: a new one, or the one that the lookup of
the route finds. -/
def Target (meter : Meter) (packett : Packet) (route : Route)
    (flow : FlowPtr) : Prop :=
  (route.opens = true ∧ flow = meter.nextFlow) ∨
    (route.opens = false ∧
      getFlow meter.session (route.tuple packett).key route.count =
        some flow)

theorem Tracked.record_recordsIn
    {meter : Meter} (tracked : meter.Tracked) {packett : Packet}
    {route : Route} (selects : Selects meter.lookup packett route) :
    ∃ flow, meter.Target packett route flow ∧
      RecordsIn meter (meter.record packett route) packett route.labels
        flow := by
  rcases record_cases selects with
    ⟨opens, -, recorded⟩ | ⟨closed, entry, member, -, -, found, recorded⟩
  · rw [recorded]
    exact ⟨meter.nextFlow, Or.inl ⟨opens, rfl⟩,
      meter.opened_recordsIn packett route.count route.labels⟩
  · rw [recorded]
    exact ⟨entry.flow, Or.inr ⟨closed, found⟩,
      tracked.extended_recordsIn packett member route.labels⟩

/-- A call on an accepted packet records it in the flow of its route, under
the labels of the route, and nowhere else. -/
theorem Tracked.onPacketReceived_recordsIn
    {meter : Meter} (tracked : meter.Tracked) {frame : Frame}
    (accepted : frame.parsed.Accepted) :
    ∃ route flow, Selects meter.lookup frame.parsed route ∧
      meter.Target frame.parsed route flow ∧
      RecordsIn meter (UzFlowMeter.onPacketReceived meter frame)
        frame.parsed route.labels flow := by
  obtain ⟨route, selects, received⟩ := meter.receivePacket_spec accepted
  obtain ⟨flow, target, records⟩ := tracked.record_recordsIn selects
  refine ⟨route, flow, selects, target, ?_⟩
  rw [UzFlowMeter.onPacketReceived, received, finished]
  split
  · exact records.garbageCollect frame.parsed.time
  · exact records

/-- Between two states a packet was recorded once, in one flow. -/
def RecordsOnce (before after : Meter) (packet : Packet) : Prop :=
  ∃ flow label, RecordsIn before after packet [label] flow

/-- The session has a flow for the packet in its own orientation. -/
def MatchesForward (meter : Meter) (packet : Packet) : Prop :=
  meter.session.Has packet.fiveTuple.key 0

instance (meter : Meter) (packet : Packet) :
    Decidable (meter.MatchesForward packet) :=
  inferInstanceAs (Decidable (meter.session.Has _ _))

/-- The number of labels does not depend on how the recording is
described. -/
theorem RecordsIn.length_labels
    {before after : Meter} {packet : Packet}
    {first second : List PacketDirection} {flow other : FlowPtr}
    (recordsFirst : RecordsIn before after packet first flow)
    (recordsSecond : RecordsIn before after packet second other)
    (nonempty : first ≠ []) : first.length = second.length := by
  have appended := recordsFirst.appended
  by_cases same : flow = other
  · subst same
    rw [recordsSecond.appended, List.append_cancel_left_eq] at appended
    simpa using (congrArg List.length appended).symm
  · rw [recordsSecond.others flow same, List.self_eq_append_right,
      List.map_eq_nil_iff] at appended
    exact absurd appended nonempty

/-- The routes with a single label are those of packets with a flow in their
own orientation. -/
theorem length_labels_eq_one_iff
    {meter : Meter} {packett : Packet} {route : Route}
    (selects : Selects meter.lookup packett route) :
    route.labels.length = 1 ↔ meter.MatchesForward packett := by
  cases route with
  | fresh =>
      have missing := lookup_eq_none_iff_not_has.mp selects.1
      exact iff_of_false (by decide) missing
  | forward =>
      obtain ⟨flow, found, -⟩ := selects
      exact iff_of_true rfl (has_of_lookup found)
  | reverse =>
      have missing := lookup_eq_none_iff_not_has.mp selects.1
      exact iff_of_false (by decide) missing
  | segment count =>
      obtain ⟨positive, stale, -⟩ := selects
      obtain ⟨flow, found, -⟩ := stale 0 positive
      exact iff_of_true rfl (has_of_lookup found)
  | newSegment count =>
      obtain ⟨positive, stale, -⟩ := selects
      obtain ⟨flow, found, -⟩ := stale 0 positive
      exact iff_of_true rfl (has_of_lookup found)

private theorem length_labels_eq_two
    {route : Route} (several : route.labels.length ≠ 1) :
    route.labels.length = 2 := by
  cases route with
  | fresh =>
      rfl
  | forward =>
      exact absurd rfl several
  | reverse =>
      rfl
  | segment count =>
      exact absurd rfl several
  | newSegment count =>
      exact absurd rfl several

private theorem Tracked.recordsOnce_iff
    {meter : Meter} (tracked : meter.Tracked) {frame : Frame}
    (accepted : frame.parsed.Accepted) :
    RecordsOnce meter (UzFlowMeter.onPacketReceived meter frame)
        frame.parsed ↔
      meter.MatchesForward frame.parsed := by
  obtain ⟨route, flow, selects, -, records⟩ :=
    tracked.onPacketReceived_recordsIn accepted
  rw [← length_labels_eq_one_iff selects]
  constructor
  · rintro ⟨other, label, once⟩
    exact (records.length_labels once route.labels_ne_nil)
  · intro single
    obtain ⟨label, labels⟩ := List.length_eq_one_iff.mp single
    rw [labels] at records
    exact ⟨flow, label, records⟩

/-! ## The number of recorded pairs -/

/-- The number of pairs in the live and the exported flows. -/
def recordedPairs (meter : Meter) : Nat :=
  (meter.flows.map fun snapshot => snapshot.contents.pairs.length).sum

private theorem Tracked.recordedPairs_eq
    {meter : Meter} (tracked : meter.Tracked) {bound : Nat}
    (large : meter.nextFlow ≤ bound) :
    meter.recordedPairs =
      ∑ flow ∈ Finset.range bound, (meter.pairsOf flow).length := by
  have contents :
      meter.flows.map (fun snapshot => snapshot.contents.pairs.length) =
        (meter.session.entries.map Flows.flow ++
          meter.exported.map FlowSnapshot.flow).map
            fun flow => (meter.heap flow).pairs.length := by
    rw [flows, List.map_append, List.map_append, List.map_map,
      List.map_map, List.map_map]
    congr 1
    apply List.map_congr_left
    intro snapshot member
    rw [tracked.frozen snapshot member]
    rfl
  have permuted := tracked.custody.map fun flow =>
    (meter.heap flow).pairs.length
  have small :
      ∑ flow ∈ Finset.range meter.nextFlow, (meter.pairsOf flow).length =
        ((List.range meter.nextFlow).map fun flow =>
          (meter.heap flow).pairs.length).sum := by
    apply Finset.sum_congr rfl
    intro flow created
    rw [pairsOf_of_lt (Finset.mem_range.mp created)]
  rw [recordedPairs, contents, permuted.sum_eq, ← small]
  apply Finset.sum_subset
  · exact Finset.range_subset_range.mpr large
  · intro flow _ uncreated
    rw [pairsOf_of_le (by simpa using uncreated), List.length_nil]

private theorem RecordsIn.recordedPairs_eq
    {before after : Meter} {packet : Packet}
    {labels : List PacketDirection} {flow : FlowPtr}
    (records : RecordsIn before after packet labels flow)
    (trackedBefore : before.Tracked) (trackedAfter : after.Tracked) :
    after.recordedPairs = before.recordedPairs + labels.length := by
  have inRange : flow ∈ Finset.range after.nextFlow :=
    Finset.mem_range.mpr records.created
  have split := fun meter : Meter =>
    Finset.add_sum_erase _ (fun other => (meter.pairsOf other).length)
      inRange
  have others : ∀ other ∈ (Finset.range after.nextFlow).erase flow,
      (after.pairsOf other).length = (before.pairsOf other).length := by
    intro other member
    rw [records.others other (Finset.ne_of_mem_erase member)]
  rw [trackedBefore.recordedPairs_eq records.grows,
    trackedAfter.recordedPairs_eq (le_refl after.nextFlow),
    ← split after, ← split before, Finset.sum_congr rfl others,
    records.appended, List.length_append, List.length_map]
  exact Nat.add_right_comm _ _ _

/-- The number of accepted packets that come without a flow in their own
orientation. -/
def unmatched (meter : Meter) : List Frame → Nat
  | [] => 0
  | frame :: frames =>
      (if frame.parsed.Accepted ∧ ¬ meter.MatchesForward frame.parsed
        then 1 else 0) +
        (onPacketReceived meter frame).unmatched frames

private theorem unmatched_eq_zero_iff (meter : Meter) (frames : List Frame) :
    meter.unmatched frames = 0 ↔
      Runs.EveryStep UzFlowMeter.onPacketReceived
        (fun meter frame => frame.parsed.Accepted →
          meter.MatchesForward frame.parsed) meter frames := by
  induction frames generalizing meter with
  | nil =>
      exact iff_of_true rfl True.intro
  | cons frame frames inductionHypothesis =>
      rw [unmatched, Nat.add_eq_zero_iff, inductionHypothesis,
        Runs.EveryStep]
      refine and_congr_left fun _ => ?_
      simp

/-- A call records as many pairs as the packet is accepted, and one more when
the packet has no flow in its own orientation. -/
theorem Tracked.onPacketReceived_recordedPairs
    {meter : Meter} (tracked : meter.Tracked) (frame : Frame) :
    (UzFlowMeter.onPacketReceived meter frame).recordedPairs =
      meter.recordedPairs +
        ((if frame.parsed.Accepted then 1 else 0) +
          if frame.parsed.Accepted ∧ ¬ meter.MatchesForward frame.parsed
            then 1 else 0) := by
  by_cases accepted : frame.parsed.Accepted
  · obtain ⟨route, flow, selects, -, records⟩ :=
      tracked.onPacketReceived_recordsIn accepted
    rw [records.recordedPairs_eq tracked (tracked.onPacketReceived frame)]
    have single := length_labels_eq_one_iff selects
    by_cases matched : meter.MatchesForward frame.parsed
    · simp [accepted, matched, single.mpr matched]
    · have several : route.labels.length = 2 :=
        length_labels_eq_two fun one => matched (single.mp one)
      simp [accepted, matched, several]
  · rw [UzFlowMeter.onPacketReceived,
      receivePacket_of_not_accepted meter accepted]
    simp [accepted]

private theorem Tracked.recordedPairs_foldl
    {meter : Meter} (tracked : meter.Tracked) (frames : List Frame) :
    (frames.foldl UzFlowMeter.onPacketReceived meter).recordedPairs =
      meter.recordedPairs +
        (frames.countP (fun frame => frame.parsed.Accepted) +
          meter.unmatched frames) := by
  induction frames generalizing meter with
  | nil =>
      rfl
  | cons frame frames inductionHypothesis =>
      rw [List.foldl_cons,
        inductionHypothesis (tracked.onPacketReceived frame),
        tracked.onPacketReceived_recordedPairs frame, unmatched,
        List.countP_cons]
      simp only [decide_eq_true_eq]
      omega

private theorem recordedPairs_run (capacity : Nat) (frames : List Frame) :
    (run capacity frames).recordedPairs =
      frames.countP (fun frame => frame.parsed.Accepted) +
        (initial capacity).unmatched frames := by
  have counted := (tracked_initial capacity).recordedPairs_foldl frames
  have empty : (initial capacity).recordedPairs = 0 := rfl
  rw [empty, Nat.zero_add] at counted
  exact counted

/-- Recording over whole runs.  A call records its packet exactly once if
and only if the session has a flow for the packet in its own orientation.
The live and the exported flows hold one pair for every accepted packet and
another one for every accepted packet without such a flow; the two numbers
agree when all accepted packets have one. -/
theorem recording_of_run (capacity : Nat) (frames : List Frame) :
    (∀ frame,
      (frame.parsed.Accepted →
        RecordsOnce (run capacity frames)
          (run capacity (frames ++ [frame])) frame.parsed) ↔
        (frame.parsed.Accepted →
          (run capacity frames).MatchesForward frame.parsed)) ∧
      (run capacity frames).recordedPairs =
        frames.countP (fun frame => frame.parsed.Accepted) +
          (initial capacity).unmatched frames ∧
      ((run capacity frames).recordedPairs =
          frames.countP (fun frame => frame.parsed.Accepted) ↔
        Runs.EveryStep UzFlowMeter.onPacketReceived
          (fun meter frame => frame.parsed.Accepted →
            meter.MatchesForward frame.parsed)
          (initial capacity) frames) := by
  refine ⟨?_, recordedPairs_run capacity frames, ?_⟩
  · intro frame
    rw [run_concat]
    exact forall_congr' fun accepted =>
      (tracked_run capacity frames).recordsOnce_iff accepted
  · rw [recordedPairs_run, ← unmatched_eq_zero_iff]
    omega

/-- A single packet is recorded twice. -/
theorem recordedPairs_single_packet :
    (run 10 [clientFrame 1]).recordedPairs ≠
      [clientFrame 1].countP (fun frame => frame.parsed.Accepted) := by
  decide +kernel

end Meter

end UzFlowMeter
