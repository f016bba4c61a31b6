import UzFlowMeter.Lifecycle

/-!
# Isolation of conversations and uniqueness of entries

Every entry is filed under the key of its own flow, every flow holds packets
of one conversation only, and no two entries have the same key and count.
-/

namespace UzFlowMeter

theorem recordLabels_fiveTuple
    {flow : Flow} {packet : Packet} (labels : List PacketDirection)
    (sameProtocol : packet.protocol = flow.protocol) :
    (recordLabels flow packet labels).fiveTuple = flow.fiveTuple :=
  Flow.fiveTuple_eq_of_header (recordLabels_header labels sameProtocol)

theorem recordLabels_newFlow_fiveTuple
    (packet : Packet) (labels : List PacketDirection) :
    (recordLabels (newFlow packet) packet labels).fiveTuple =
      packet.fiveTuple :=
  recordLabels_fiveTuple labels rfl

@[simp]
theorem Route.tuple_conversation (packett : Packet) (route : Route) :
    (route.tuple packett).conversation = packett.fiveTuple.conversation := by
  cases route <;> simp [Route.tuple]

theorem Route.tuple_wellFormed
    {packett : Packet} (wellFormed : packett.fiveTuple.WellFormed)
    (route : Route) : (route.tuple packett).WellFormed := by
  cases route with
  | reverse =>
      exact wellFormed.swap
  | _ =>
      exact wellFormed

/-- All packets of a flow belong to the conversation of the flow. -/
def Flow.Isolated (flow : Flow) : Prop :=
  ∀ pair ∈ flow.pairs,
    pair.packet.fiveTuple.conversation = flow.fiveTuple.conversation

private theorem Flow.isolated_newFlow (packet : Packet) :
    (newFlow packet).Isolated := by
  intro pair member
  exact absurd member List.not_mem_nil

theorem Flow.Isolated.recordLabels
    {flow : Flow} (isolated : flow.Isolated) {packet : Packet}
    (sameConversation :
      packet.fiveTuple.conversation = flow.fiveTuple.conversation)
    (labels : List PacketDirection) :
    (recordLabels flow packet labels).Isolated := by
  have sameProtocol : packet.protocol = flow.protocol :=
    congrArg Conversation.protocol sameConversation
  intro pair member
  rw [recordLabels_fiveTuple labels sameProtocol]
  rw [recordLabels_pairs] at member
  rcases List.mem_append.mp member with earlier | now
  · exact isolated pair earlier
  · obtain ⟨label, -, rfl⟩ := List.mem_map.mp now
    exact sameConversation

namespace Meter

/-- Entries are filed under the keys of their flows, and flows are
isolated. -/
structure Filed (meter : Meter) : Prop extends Meter.Tracked meter where
  keyed : ∀ entry ∈ meter.session.entries,
    entry.key = (meter.heap entry.flow).fiveTuple.key
  wellFormed : ∀ flow < meter.nextFlow,
    (meter.heap flow).fiveTuple.WellFormed
  isolated : ∀ flow < meter.nextFlow, (meter.heap flow).Isolated

/-- The flow of an entry has the five-tuple whose key the entry has. -/
theorem Filed.fiveTuple_of_key
    {meter : Meter} (filed : meter.Filed) {entry : Flows}
    (member : entry ∈ meter.session.entries) {tuple : FiveTuple}
    (wellFormed : tuple.WellFormed) (sameKey : entry.key = tuple.key) :
    (meter.heap entry.flow).fiveTuple = tuple := by
  have flowFormed :=
    filed.wellFormed entry.flow (filed.live_lt member)
  apply (FiveTuple.key_inj flowFormed wellFormed).mp
  rw [← filed.keyed entry member, sameKey]

theorem filed_initial (capacity : Nat) : (initial capacity).Filed where
  toTracked := tracked_initial capacity
  keyed := by
    intro entry member
    exact absurd member List.not_mem_nil
  wellFormed := by
    intro flow created
    exact absurd created (Nat.not_lt_zero flow)
  isolated := by
    intro flow created
    exact absurd created (Nat.not_lt_zero flow)

theorem Filed.opened
    {meter : Meter} (filed : meter.Filed) {packett : Packet}
    (wellFormed : packett.fiveTuple.WellFormed) (count : Nat)
    (labels : List PacketDirection) :
    (meter.opened packett count labels).Filed where
  toTracked := filed.toTracked.opened packett count labels
  keyed := by
    intro entry member
    rw [opened_entries] at member
    rcases List.mem_append.mp member with old | new
    · have older : entry.flow ≠ meter.nextFlow :=
        Nat.ne_of_lt (filed.live_lt old)
      rw [filed.keyed entry old, opened_heap_of_ne _ _ _ _ older]
    · rw [List.mem_singleton.mp new, opened_heap_new,
        recordLabels_newFlow_fiveTuple]
  wellFormed := by
    apply opened_forall_heap _ _ _ _
      (fun flow => flow.fiveTuple.WellFormed) filed.wellFormed
    rw [recordLabels_newFlow_fiveTuple]
    exact wellFormed
  isolated := by
    apply opened_forall_heap _ _ _ _ Flow.Isolated filed.isolated
    exact (Flow.isolated_newFlow packett).recordLabels rfl labels

theorem extended_fiveTuple
    {meter : Meter} {packett : Packet} {flow : FlowPtr}
    (sameProtocol : packett.protocol = (meter.heap flow).protocol)
    (labels : List PacketDirection) (other : FlowPtr) :
    ((meter.extended packett flow labels).heap other).fiveTuple =
      (meter.heap other).fiveTuple := by
  by_cases recorded : other = flow
  · rw [recorded, extended_heap_self]
    exact recordLabels_fiveTuple labels sameProtocol
  · rw [extended_heap_of_ne _ _ _ recorded]

theorem Filed.extended
    {meter : Meter} (filed : meter.Filed) {packett : Packet}
    {entry : Flows} (member : entry ∈ meter.session.entries)
    (sameConversation : packett.fiveTuple.conversation =
      (meter.heap entry.flow).fiveTuple.conversation)
    (labels : List PacketDirection) :
    (meter.extended packett entry.flow labels).Filed := by
  have sameProtocol :
      packett.protocol = (meter.heap entry.flow).protocol :=
    congrArg Conversation.protocol sameConversation
  have sameTuple := extended_fiveTuple sameProtocol labels
  refine ⟨filed.toTracked.extended packett member labels, ?_, ?_, ?_⟩
  · intro other otherMember
    rw [sameTuple]
    exact filed.keyed other otherMember
  · intro flow created
    rw [sameTuple]
    exact filed.wellFormed flow created
  · apply extended_forall_heap _ _ _ Flow.Isolated filed.isolated
    intro created
    exact (filed.isolated entry.flow created).recordLabels
      sameConversation labels

theorem Filed.record
    {meter : Meter} (filed : meter.Filed) {packett : Packet}
    (wellFormed : packett.fiveTuple.WellFormed) {route : Route}
    (selects : Selects meter.lookup packett route) :
    (meter.record packett route).Filed := by
  rcases record_cases selects with
    ⟨-, -, recorded⟩ | ⟨-, entry, member, sameKey, -, -, recorded⟩
  · rw [recorded]
    exact filed.opened wellFormed route.count route.labels
  · have sameTuple := filed.fiveTuple_of_key member
      (Route.tuple_wellFormed wellFormed route) sameKey
    rw [recorded]
    apply filed.extended member
    rw [sameTuple, Route.tuple_conversation]

theorem Filed.garbageCollect
    {meter : Meter} (filed : meter.Filed) (latestTime : ℚ) :
    (meter.garbageCollect latestTime).Filed where
  toTracked := filed.toTracked.garbageCollect latestTime
  keyed := by
    intro entry member
    rw [garbageCollect_entries] at member
    rw [garbageCollect_heap]
    exact filed.keyed entry (meter.mem_entries_of_kept latestTime member)
  wellFormed := by
    rw [garbageCollect_nextFlow, garbageCollect_heap]
    exact filed.wellFormed
  isolated := by
    rw [garbageCollect_nextFlow, garbageCollect_heap]
    exact filed.isolated

theorem Filed.onPacketReceived
    {meter : Meter} (filed : meter.Filed) (frame : Frame) :
    (onPacketReceived meter frame).Filed :=
  onPacketReceived_invariant
    (fun _ _ selects => filed.record frame.parsed_wellFormed selects)
    (fun _ recorded => recorded.garbageCollect frame.parsed.time) filed

theorem filed_run (capacity : Nat) (frames : List Frame) :
    (run capacity frames).Filed :=
  Runs.run_invariant UzFlowMeter.onPacketReceived (filed_initial capacity)
    (fun _ frame filed => filed.onPacketReceived frame) frames

/-- In every reachable state an entry has the forward key of its flow; and
the packets of a flow, live or exported, all run between the two endpoints of
the flow, so that they belong to one conversation. -/
theorem isolation_of_run (capacity : Nat) (frames : List Frame) :
    (∀ entry ∈ (run capacity frames).session.entries,
      entry.key =
        ((run capacity frames).heap entry.flow).fiveTuple.key) ∧
      ∀ snapshot ∈ (run capacity frames).flows,
        (∀ pair ∈ snapshot.contents.pairs,
          pair.packet.fiveTuple = snapshot.contents.fiveTuple ∨
            pair.packet.fiveTuple = snapshot.contents.fiveTuple.swap) ∧
          ∀ first ∈ snapshot.contents.pairs,
            ∀ second ∈ snapshot.contents.pairs,
              first.packet.fiveTuple.conversation =
                second.packet.fiveTuple.conversation := by
  have filed := filed_run capacity frames
  refine ⟨filed.keyed, ?_⟩
  intro snapshot member
  have isolated : snapshot.contents.Isolated :=
    filed.forall_flows_iff.mpr filed.isolated snapshot member
  constructor
  · intro pair pairMember
    exact FiveTuple.conversation_eq_iff.mp (isolated pair pairMember)
  · intro first firstMember second secondMember
    exact (isolated first firstMember).trans
      (isolated second secondMember).symm

/-! ## Uniqueness of entries -/

private theorem has_opened_iff
    {meter : Meter} {packett : Packet} {count other : Nat}
    {labels : List PacketDirection} {key : CString} :
    (meter.opened packett count labels).session.Has key other ↔
      meter.session.Has key other ∨
        (packett.fiveTuple.key = key ∧ count = other) := by
  rw [FlowSession.Has, opened_entries]
  simp only [List.mem_append, List.mem_singleton, or_and_right, exists_or,
    exists_eq_left]
  rfl

/-- No two entries have the same key and count, and the first segments of a
conversation have one orientation. -/
structure Distinct (meter : Meter) : Prop where
  keyCount : meter.session.entries.Pairwise fun earlier later =>
    ¬ (earlier.key = later.key ∧ earlier.count = later.count)
  oneOrientation : ∀ tuple : FiveTuple, tuple.WellFormed →
    tuple.key ≠ tuple.swap.key →
    ¬ (meter.session.Has tuple.key 0 ∧ meter.session.Has tuple.swap.key 0)

theorem distinct_initial (capacity : Nat) : (initial capacity).Distinct where
  keyCount := List.Pairwise.nil
  oneOrientation := by
    rintro tuple - - ⟨⟨entry, member, -⟩, -⟩
    exact absurd member List.not_mem_nil

theorem Distinct.opened
    {meter : Meter} (distinct : meter.Distinct) {packett : Packet}
    (wellFormed : packett.fiveTuple.WellFormed) {count : Nat}
    (missing : ¬ meter.session.Has packett.fiveTuple.key count)
    (otherMissing : count = 0 →
      ¬ meter.session.Has packett.fiveTuple.swap.key 0)
    (labels : List PacketDirection) :
    (meter.opened packett count labels).Distinct where
  keyCount := by
    rw [opened_entries, List.pairwise_append]
    refine ⟨distinct.keyCount, List.pairwise_singleton _ _, ?_⟩
    intro entry member last lastMember same
    rw [List.mem_singleton.mp lastMember] at same
    exact missing ⟨entry, member, same⟩
  oneOrientation := by
    intro tuple tupleFormed different
    rw [has_opened_iff, has_opened_iff]
    rintro ⟨forward | ⟨forwardKey, rfl⟩, reverse | ⟨reverseKey, zero⟩⟩
    · exact distinct.oneOrientation tuple tupleFormed different
        ⟨forward, reverse⟩
    · have sameTuple : packett.fiveTuple = tuple.swap :=
        (FiveTuple.key_inj wellFormed tupleFormed.swap).mp reverseKey
      apply otherMissing zero
      rw [sameTuple, FiveTuple.swap_swap]
      exact forward
    · have sameTuple : packett.fiveTuple = tuple :=
        (FiveTuple.key_inj wellFormed tupleFormed).mp forwardKey
      apply otherMissing rfl
      rw [sameTuple]
      exact reverse
    · exact different (forwardKey.symm.trans reverseKey)

theorem Distinct.record
    {meter : Meter} (distinct : meter.Distinct) {packett : Packet}
    (wellFormed : packett.fiveTuple.WellFormed) {route : Route}
    (selects : Selects meter.lookup packett route) :
    (meter.record packett route).Distinct := by
  rcases record_cases selects with
    ⟨opens, missing, recorded⟩ | ⟨-, entry, -, -, -, -, recorded⟩
  · rw [recorded]
    refine distinct.opened wellFormed missing ?_ route.labels
    intro zero
    cases route with
    | fresh =>
        exact lookup_eq_none_iff_not_has.mp selects.2
    | newSegment count =>
        -- The walk never opens a first segment.
        exact absurd zero (Nat.ne_of_gt selects.1)
    | _ =>
        exact absurd opens Bool.false_ne_true
  · rw [recorded]
    exact ⟨distinct.keyCount, distinct.oneOrientation⟩

theorem Distinct.garbageCollect
    {meter : Meter} (distinct : meter.Distinct) (latestTime : ℚ) :
    (meter.garbageCollect latestTime).Distinct where
  keyCount := by
    rw [garbageCollect_entries]
    exact distinct.keyCount.sublist (meter.collection_sublist latestTime)
  oneOrientation := by
    have present : ∀ {key count},
        (meter.garbageCollect latestTime).session.Has key count →
          meter.session.Has key count := by
      rintro key count ⟨entry, member, same⟩
      rw [garbageCollect_entries] at member
      exact ⟨entry, meter.mem_entries_of_kept latestTime member, same⟩
    intro tuple tupleFormed different both
    exact distinct.oneOrientation tuple tupleFormed different
      ⟨present both.1, present both.2⟩

theorem distinct_run (capacity : Nat) (frames : List Frame) :
    (run capacity frames).Distinct :=
  Runs.run_invariant UzFlowMeter.onPacketReceived
    (distinct_initial capacity)
    (fun _ frame distinct => onPacketReceived_invariant
      (fun _ _ selects =>
        distinct.record frame.parsed_wellFormed selects)
      (fun _ recorded => recorded.garbageCollect frame.parsed.time)
      distinct) frames

/-- `get_flow` finds the entry it is asked for. -/
theorem Distinct.getFlow_eq
    {meter : Meter} (distinct : meter.Distinct) {entry : Flows}
    (member : entry ∈ meter.session.entries) :
    getFlow meter.session entry.key entry.count = some entry.flow := by
  obtain ⟨earlier, later, split⟩ := List.append_of_mem member
  have apart := distinct.keyCount
  rw [split, List.pairwise_append] at apart
  have skipped : ∀ other ∈ earlier,
      ¬ (other.key = entry.key ∧ other.count = entry.count) := by
    intro other otherMember
    exact apart.2.2 other otherMember entry List.mem_cons_self
  have found :
      meter.session.entries.find? (fun other =>
        other.key == entry.key && other.count == entry.count) =
          some entry := by
    apply List.find?_eq_some_iff_append.mpr
    refine ⟨by simp, earlier, later, split, ?_⟩
    intro other otherMember
    simpa using not_and_or.mp (skipped other otherMember)
  rw [getFlow, found, Option.map_some]

/-- In every reachable state no two entries have the same key and count, the
two orientation keys of a conversation are not both there with count 0, and
`get_flow` shadows no entry. -/
theorem uniqueness_of_run (capacity : Nat) (frames : List Frame) :
    ((run capacity frames).session.entries.Pairwise fun earlier later =>
      ¬ (earlier.key = later.key ∧ earlier.count = later.count)) ∧
      (∀ tuple : FiveTuple, tuple.WellFormed →
        tuple.key ≠ tuple.swap.key →
        ¬ ((run capacity frames).session.Has tuple.key 0 ∧
          (run capacity frames).session.Has tuple.swap.key 0)) ∧
      ∀ entry ∈ (run capacity frames).session.entries,
        getFlow (run capacity frames).session entry.key entry.count =
          some entry.flow := by
  have distinct := distinct_run capacity frames
  refine ⟨distinct.keyCount, distinct.oneOrientation, ?_⟩
  intro entry member
  exact distinct.getFlow_eq member

end Meter

end UzFlowMeter
