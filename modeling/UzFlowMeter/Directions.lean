import UzFlowMeter.Isolation
import UzFlowMeter.WireFormat

/-!
# Direction labels

A pair should carry the direction in which its packet travels between the
endpoints of the flow.  A packet that is matched in the other orientation is
stored under both directions, so its flow has a wrong label from then on;
nothing else goes wrong.
-/

namespace UzFlowMeter

/-- The label of a pair says how its packet travels: `FORWARD` from the
source of the flow to its destination, `REVERSE` the other way if the two
endpoints differ. -/
def Pair.LabelledRight (flow : Flow) (pair : Pair) : Prop :=
  (pair.direction = .forward ↔
      pair.packet.fiveTuple.source = flow.fiveTuple.source ∧
        pair.packet.fiveTuple.destination = flow.fiveTuple.destination) ∧
    (flow.fiveTuple.source ≠ flow.fiveTuple.destination →
      (pair.direction = .reverse ↔
        pair.packet.fiveTuple.source = flow.fiveTuple.destination ∧
          pair.packet.fiveTuple.destination = flow.fiveTuple.source))

def Flow.LabelsRight (flow : Flow) : Prop :=
  ∀ pair ∈ flow.pairs, pair.LabelledRight flow

private theorem Flow.labelsRight_recordLabels_iff
    {flow : Flow} {packet : Packet} {labels : List PacketDirection}
    (sameProtocol : packet.protocol = flow.protocol) :
    (recordLabels flow packet labels).LabelsRight ↔
      flow.LabelsRight ∧
        ∀ label ∈ labels, Pair.LabelledRight flow ⟨packet, label⟩ := by
  have sameTuple := recordLabels_fiveTuple labels sameProtocol
  have samePairs : ∀ pair : Pair,
      pair.LabelledRight (recordLabels flow packet labels) ↔
        pair.LabelledRight flow := by
    intro pair
    rw [Pair.LabelledRight, Pair.LabelledRight, sameTuple]
  simp only [Flow.LabelsRight, recordLabels_pairs, samePairs,
    List.mem_append, List.mem_map, or_imp, forall_and]
  refine and_congr_right fun _ => ?_
  constructor
  · intro right label member
    exact right ⟨packet, label⟩ ⟨label, member, rfl⟩
  · rintro right pair ⟨label, member, rfl⟩
    exact right label member

/-- A packet along the flow is labelled right as `FORWARD`. -/
theorem Pair.labelledRight_forward
    {flow : Flow} {packet : Packet}
    (sameTuple : flow.fiveTuple = packet.fiveTuple) :
    Pair.LabelledRight flow ⟨packet, .forward⟩ := by
  rw [Pair.LabelledRight, sameTuple]
  refine ⟨iff_of_true rfl ⟨rfl, rfl⟩, ?_⟩
  intro different
  refine iff_of_false PacketDirection.noConfusion ?_
  rintro ⟨source, -⟩
  exact different source

/-- A packet against the flow is not. -/
theorem Pair.not_labelledRight_forward
    {flow : Flow} {packet : Packet}
    (swapped : flow.fiveTuple = packet.fiveTuple.swap)
    (different : packet.fiveTuple.source ≠ packet.fiveTuple.destination) :
    ¬ Pair.LabelledRight flow ⟨packet, .forward⟩ := by
  rw [Pair.LabelledRight, swapped]
  rintro ⟨forward, -⟩
  exact different (forward.mp rfl).1

private theorem FiveTuple.source_ne_destination
    {tuple : FiveTuple} (different : tuple.key ≠ tuple.swap.key) :
    tuple.source ≠ tuple.destination := by
  intro same
  apply different
  have swapped : tuple.swap = tuple :=
    FiveTuple.ext same.symm same rfl
  rw [swapped]

namespace Meter

/-- Every pair of every flow, live or exported, is labelled right. -/
def LabelsRight (meter : Meter) : Prop :=
  ∀ snapshot ∈ meter.flows, snapshot.contents.LabelsRight

/-- The packet finds a flow in the other orientation only. -/
def MatchesReverseOnly (meter : Meter) (packet : Packet) : Prop :=
  ¬ meter.session.Has packet.fiveTuple.key 0 ∧
    meter.session.Has packet.fiveTuple.swap.key 0

instance (meter : Meter) (packet : Packet) :
    Decidable (meter.MatchesReverseOnly packet) :=
  inferInstanceAs (Decidable (¬ meter.session.Has _ _ ∧ _))

theorem matchesReverseOnly_iff
    {meter : Meter} {packett : Packet} {route : Route}
    (selects : Selects meter.lookup packett route) :
    meter.MatchesReverseOnly packett ↔ route = .reverse := by
  cases route with
  | fresh =>
      have missing := lookup_eq_none_iff_not_has.mp selects.2
      exact iff_of_false (fun both => missing both.2) (by simp)
  | forward =>
      obtain ⟨flow, found, -⟩ := selects
      exact iff_of_false (fun both => both.1 (has_of_lookup found)) (by simp)
  | reverse =>
      obtain ⟨missing, flow, found⟩ := selects
      exact iff_of_true
        ⟨lookup_eq_none_iff_not_has.mp missing, has_of_lookup found⟩ rfl
  | segment count =>
      obtain ⟨positive, stale, -⟩ := selects
      obtain ⟨flow, found, -⟩ := stale 0 positive
      exact iff_of_false (fun both => both.1 (has_of_lookup found)) (by simp)
  | newSegment count =>
      obtain ⟨positive, stale, -⟩ := selects
      obtain ⟨flow, found, -⟩ := stale 0 positive
      exact iff_of_false (fun both => both.1 (has_of_lookup found)) (by simp)

private theorem Tracked.labelsRight_opened_iff
    {meter : Meter} (tracked : meter.Tracked) {packett : Packet}
    {count : Nat} {labels : List PacketDirection}
    (allForward : ∀ label ∈ labels, label = .forward) :
    (meter.opened packett count labels).LabelsRight ↔
      meter.LabelsRight := by
  have newRight :
      (recordLabels (newFlow packett) packett labels).LabelsRight := by
    apply (Flow.labelsRight_recordLabels_iff rfl).mpr
    constructor
    · intro pair member
      exact absurd member List.not_mem_nil
    · intro label member
      rw [allForward label member]
      exact Pair.labelledRight_forward rfl
  rw [LabelsRight, LabelsRight, tracked.forall_flows_iff,
    (tracked.opened packett count labels).forall_flows_iff]
  constructor
  · intro right flow created
    have older : flow ≠ meter.nextFlow := Nat.ne_of_lt created
    have kept := right flow (Nat.lt_succ_of_lt created)
    rw [opened_heap_of_ne _ _ _ _ older] at kept
    exact kept
  · intro right
    exact opened_forall_heap _ _ _ _ Flow.LabelsRight right newRight

private theorem Tracked.labelsRight_extended_iff
    {meter : Meter} (tracked : meter.Tracked) {packett : Packet}
    {entry : Flows} (member : entry ∈ meter.session.entries)
    {labels : List PacketDirection}
    (sameProtocol :
      packett.protocol = (meter.heap entry.flow).protocol) :
    (meter.extended packett entry.flow labels).LabelsRight ↔
      meter.LabelsRight ∧ ∀ label ∈ labels,
        Pair.LabelledRight (meter.heap entry.flow) ⟨packett, label⟩ := by
  have created := tracked.live_lt member
  rw [LabelsRight, LabelsRight, tracked.forall_flows_iff,
    (tracked.extended packett member labels).forall_flows_iff]
  constructor
  · intro right
    have target := right entry.flow created
    rw [extended_heap_self,
      Flow.labelsRight_recordLabels_iff sameProtocol] at target
    refine ⟨?_, target.2⟩
    intro flow flowCreated
    by_cases recorded : flow = entry.flow
    · rw [recorded]
      exact target.1
    · have kept := right flow flowCreated
      rw [extended_heap_of_ne _ _ _ recorded] at kept
      exact kept
  · rintro ⟨right, labelsRight⟩
    apply extended_forall_heap _ _ _ Flow.LabelsRight right
    intro _
    exact (Flow.labelsRight_recordLabels_iff sameProtocol).mpr
      ⟨right entry.flow created, labelsRight⟩

private theorem Filed.labelsRight_record_iff
    {meter : Meter} (filed : meter.Filed) {packett : Packet}
    (wellFormed : packett.fiveTuple.WellFormed) {route : Route}
    (selects : Selects meter.lookup packett route) :
    (meter.record packett route).LabelsRight ↔
      meter.LabelsRight ∧ route ≠ .reverse := by
  rcases record_cases selects with
    ⟨opens, -, recorded⟩ | ⟨closed, entry, member, sameKey, -, -, recorded⟩
  · have notReverse : route ≠ .reverse := by
      rintro rfl
      exact Bool.false_ne_true opens
    have allForward : ∀ label ∈ route.labels, label = .forward := by
      cases route with
      | reverse =>
          exact absurd rfl notReverse
      | _ =>
          simp [Route.labels]
    rw [recorded, filed.toTracked.labelsRight_opened_iff allForward]
    exact (and_iff_left notReverse).symm
  · have sameTuple := filed.fiveTuple_of_key member
      (Route.tuple_wellFormed wellFormed route) sameKey
    have sameProtocol :
        packett.protocol = (meter.heap entry.flow).protocol := by
      have sameConversation := congrArg FiveTuple.conversation sameTuple
      rw [Route.tuple_conversation] at sameConversation
      exact (congrArg Conversation.protocol sameConversation).symm
    rw [recorded, filed.toTracked.labelsRight_extended_iff member
      sameProtocol]
    refine and_congr_right fun _ => ?_
    by_cases reverse : route = .reverse
    · subst reverse
      have different : packett.fiveTuple.key ≠ packett.fiveTuple.swap.key := by
        obtain ⟨missing, flow, found⟩ := selects
        intro same
        rw [same, found] at missing
        cases missing
      refine iff_of_false ?_ (fun distinct => distinct rfl)
      intro right
      exact Pair.not_labelledRight_forward sameTuple
        (FiveTuple.source_ne_destination different)
        (right .forward (by simp [Route.labels]))
    · refine iff_of_true ?_ reverse
      intro label labelMember
      cases route with
      | reverse =>
          exact absurd rfl reverse
      | fresh =>
          exact absurd closed.symm Bool.false_ne_true
      | newSegment count =>
          exact absurd closed.symm Bool.false_ne_true
      | forward =>
          rw [List.mem_singleton.mp labelMember]
          exact Pair.labelledRight_forward sameTuple
      | segment count =>
          rw [List.mem_singleton.mp labelMember]
          exact Pair.labelledRight_forward sameTuple

private theorem Tracked.labelsRight_garbageCollect_iff
    {meter : Meter} (tracked : meter.Tracked) (latestTime : ℚ) :
    (meter.garbageCollect latestTime).LabelsRight ↔ meter.LabelsRight := by
  rw [LabelsRight, LabelsRight, tracked.forall_flows_iff,
    (tracked.garbageCollect latestTime).forall_flows_iff,
    garbageCollect_nextFlow, garbageCollect_heap]

/-- One call keeps all labels right exactly when it does not record a packet
that is matched in the other orientation. -/
theorem Filed.labelsRight_onPacketReceived_iff
    {meter : Meter} (filed : meter.Filed) (frame : Frame) :
    (UzFlowMeter.onPacketReceived meter frame).LabelsRight ↔
      meter.LabelsRight ∧
        (frame.parsed.Accepted →
          ¬ meter.MatchesReverseOnly frame.parsed) := by
  rw [UzFlowMeter.onPacketReceived]
  by_cases accepted : frame.parsed.Accepted
  · obtain ⟨route, selects, received⟩ := meter.receivePacket_spec accepted
    have wellFormed := frame.parsed_wellFormed
    have recorded := filed.labelsRight_record_iff wellFormed selects
    have tracked := filed.toTracked.record selects
    rw [received, finished, matchesReverseOnly_iff selects]
    simp only [accepted, forall_const]
    split
    · rw [tracked.labelsRight_garbageCollect_iff]
      exact recorded
    · exact recorded
  · rw [receivePacket_of_not_accepted meter accepted]
    simp [accepted]

/-- After a run every pair of every flow, live or exported, is labelled right
if and only if no accepted packet of the run was matched in the other
orientation only. -/
theorem labels_of_run (capacity : Nat) (frames : List Frame) :
    (run capacity frames).LabelsRight ↔
      Runs.EveryStep UzFlowMeter.onPacketReceived
        (fun meter frame => frame.parsed.Accepted →
          ¬ meter.MatchesReverseOnly frame.parsed)
        (initial capacity) frames := by
  induction frames using List.reverseRecOn with
  | nil =>
      refine iff_of_true ?_ True.intro
      intro snapshot member
      exact absurd member List.not_mem_nil
  | append_singleton frames last inductionHypothesis =>
      rw [run_concat,
        (filed_run capacity frames).labelsRight_onPacketReceived_iff,
        Runs.everyStep_concat, inductionHypothesis]
      rfl

/-- The answer of a server is stored as travelling with the client's flow. -/
theorem answer_labelled_forward :
    ¬ (run 10 [clientFrame 1, serverFrame 2]).LabelsRight := by
  have stored : (run 10 [clientFrame 1, serverFrame 2]).flows.any
      (fun snapshot => snapshot.contents.pairs.any fun pair =>
        decide (pair.direction = .forward ∧
          ¬ pair.packet.fiveTuple.source =
            snapshot.contents.fiveTuple.source)) = true := by
    decide +kernel
  intro right
  obtain ⟨snapshot, member, found⟩ := List.any_eq_true.mp stored
  obtain ⟨pair, pairMember, wrong⟩ := List.any_eq_true.mp found
  obtain ⟨forward, elsewhere⟩ := of_decide_eq_true wrong
  exact elsewhere ((right snapshot member pair pairMember).1.mp forward).1

end Meter

end UzFlowMeter
