import UzFlowMeter.Recording

/-!
# Expiry

A packet that comes more than the update interval after the last packet of a
flow should start a new flow.  Two ways through `on_packet_received` break
this: a packet in the other orientation is recorded before the test, and the
walk over segments grants every segment another interval.
-/

namespace UzFlowMeter

namespace Meter

/-- Between two states a packet was recorded in keeping with the expiry: a
flow of the session took it only within the update interval, and if none
did, a new flow was started for it. -/
structure RespectsExpiry (before after : Meter) (packet : Packet) :
    Prop where
  inTime : ∀ entry ∈ before.session.entries,
    after.pairsOf entry.flow ≠ before.pairsOf entry.flow →
      packet.time - (before.heap entry.flow).latestTimestamp ≤
        expiredUpdate
  otherwiseNew :
    (∀ entry ∈ before.session.entries,
      after.pairsOf entry.flow = before.pairsOf entry.flow) →
      ∃ labels, labels ≠ [] ∧
        RecordsIn before after packet labels before.nextFlow

/-- No flow takes the packet beyond the update interval: neither a flow that
matches in the other orientation only, nor a later segment that the walk
reaches over stale ones and that is within the stretched limit. -/
structure NothingStretched (meter : Meter) (packet : Packet) : Prop where
  reverse : ∀ flow,
    meter.lookup packet.fiveTuple.key 0 = none →
    meter.lookup packet.fiveTuple.swap.key 0 = some flow →
    packet.time - flow.latestTimestamp ≤ expiredUpdate
  segment : ∀ count flow,
    0 < count → StaleBelow meter.lookup packet count →
    meter.lookup packet.fiveTuple.key count = some flow →
    packet.time - flow.latestTimestamp ≤ expiredUpdate * (count + 1) →
    packet.time - flow.latestTimestamp ≤ expiredUpdate

/-- The condition in terms of the route: the flow that the route finds is
within the interval. -/
theorem nothingStretched_iff
    {meter : Meter} {packett : Packet} {route : Route}
    (selects : Selects meter.lookup packett route) :
    meter.NothingStretched packett ↔
      (route.opens = false → ∀ flow,
        meter.lookup (route.tuple packett).key route.count = some flow →
        packett.time - flow.latestTimestamp ≤ expiredUpdate) := by
  constructor
  · intro nothingStretched closed flow found
    cases route with
    | fresh =>
        exact absurd closed.symm Bool.false_ne_true
    | newSegment count =>
        exact absurd closed.symm Bool.false_ne_true
    | forward =>
        obtain ⟨first, firstFound, young⟩ := selects
        obtain rfl : first = flow :=
          Option.some.inj (firstFound.symm.trans found)
        exact young
    | reverse =>
        exact nothingStretched.reverse flow selects.1 found
    | segment count =>
        obtain ⟨positive, stale, first, firstFound, young⟩ := selects
        obtain rfl : first = flow :=
          Option.some.inj (firstFound.symm.trans found)
        exact nothingStretched.segment count first positive stale found
          young
  · intro young
    constructor
    · intro flow missing found
      have reverse : Selects meter.lookup packett .reverse :=
        ⟨missing, flow, found⟩
      obtain rfl := selects.unique reverse
      exact young rfl flow found
    · intro count flow positive stale found stretched
      have segment : Selects meter.lookup packett (.segment count) :=
        ⟨positive, stale, flow, found, stretched⟩
      obtain rfl := selects.unique segment
      exact young rfl flow found

private theorem RecordsIn.pairsOf_ne
    {before after : Meter} {packet : Packet}
    {labels : List PacketDirection} {flow : FlowPtr}
    (records : RecordsIn before after packet labels flow)
    (nonempty : labels ≠ []) :
    after.pairsOf flow ≠ before.pairsOf flow := by
  rw [records.appended]
  intro same
  rw [List.append_right_eq_self, List.map_eq_nil_iff] at same
  exact nonempty same

private theorem Tracked.respectsExpiry_iff
    {meter : Meter} (tracked : meter.Tracked) {frame : Frame}
    (accepted : frame.parsed.Accepted) :
    RespectsExpiry meter (UzFlowMeter.onPacketReceived meter frame)
        frame.parsed ↔
      meter.NothingStretched frame.parsed := by
  obtain ⟨route, flow, selects, target, records⟩ :=
    tracked.onPacketReceived_recordsIn accepted
  have changed := records.pairsOf_ne route.labels_ne_nil
  rw [nothingStretched_iff selects]
  rcases target with ⟨opens, rfl⟩ | ⟨closed, found⟩
  · refine iff_of_true ⟨?_, ?_⟩ ?_
    · intro entry member entryChanged
      have older : entry.flow ≠ meter.nextFlow :=
        Nat.ne_of_lt (tracked.live_lt member)
      exact absurd (records.others entry.flow older) entryChanged
    · intro _
      exact ⟨route.labels, route.labels_ne_nil, records⟩
    · intro closed
      rw [opens] at closed
      exact absurd closed.symm Bool.false_ne_true
  · obtain ⟨entry, member, -, -, rfl⟩ := getFlow_eq_some found
    have foundContents :=
      lookup_eq_some_iff.mpr ⟨entry.flow, found, rfl⟩
    constructor
    · intro respects _ contents contentsFound
      obtain rfl : meter.heap entry.flow = contents :=
        Option.some.inj (foundContents.symm.trans contentsFound)
      exact respects.inTime entry member changed
    · intro young
      constructor
      · intro other _ otherChanged
        have same : other.flow = entry.flow := by
          by_contra different
          exact otherChanged (records.others other.flow different)
        rw [same]
        exact young closed (meter.heap entry.flow) foundContents
      · intro unchanged
        exact absurd (unchanged entry member) changed

/-- In every run a packet is recorded in keeping with the expiry exactly when
nothing is stretched for it. -/
theorem expiry_of_run
    (capacity : Nat) (frames : List Frame) (frame : Frame) :
    (frame.parsed.Accepted →
      RespectsExpiry (run capacity frames)
        (run capacity (frames ++ [frame])) frame.parsed) ↔
      (frame.parsed.Accepted →
        (run capacity frames).NothingStretched frame.parsed) := by
  rw [run_concat]
  exact forall_congr' fun accepted =>
    (tracked_run capacity frames).respectsExpiry_iff accepted

/-- Packets at 1, 50 and 100 seconds: the third one is recorded in the flow
of the second one, fifty seconds after its last packet. -/
theorem late_packet_recorded :
    ¬ RespectsExpiry (run 10 [clientFrame 1, clientFrame 50])
      (run 10 [clientFrame 1, clientFrame 50, clientFrame 100])
      (clientFrame 100).parsed := by
  have late :
      (run 10 [clientFrame 1, clientFrame 50]).session.entries.any
        (fun entry => decide
          ((run 10 [clientFrame 1, clientFrame 50,
              clientFrame 100]).pairsOf entry.flow ≠
              (run 10 [clientFrame 1, clientFrame 50]).pairsOf
                entry.flow ∧
            ¬ (clientFrame 100).parsed.time -
                ((run 10 [clientFrame 1, clientFrame 50]).heap
                  entry.flow).latestTimestamp ≤ expiredUpdate)) =
        true := by
    decide +kernel
  intro respects
  obtain ⟨entry, member, found⟩ := List.any_eq_true.mp late
  obtain ⟨changed, beyond⟩ := of_decide_eq_true found
  exact beyond (respects.inTime entry member changed)

end Meter

end UzFlowMeter
