import Mathlib.Data.List.Find
import UzFlowMeter.Isolation
import UzFlowMeter.WireFormat

/-!
# Non-interference between conversations

Seen from one conversation the session is a list of segments, and recording
a packet of the conversation depends on these segments alone.  As long as
nothing is collected, the session is the superposition of the sessions of
its conversations.
-/

namespace UzFlowMeter

/-- An entry of the session with the contents of its flow. -/
structure Segment where
  key : CString
  count : Nat
  contents : Flow
  deriving DecidableEq

namespace Segment

def conversation (segment : Segment) : Conversation :=
  segment.contents.fiveTuple.conversation

/-- The contents under a key and a count. -/
def find (segments : List Segment) (key : CString) (count : Nat) :
    Option Flow :=
  (segments.find? fun segment =>
    segment.key == key && segment.count == count).map contents

/-- Record a packet in the segment with the key and the count of a route. -/
def extend (packett : Packet) (route : Route) (segment : Segment) :
    Segment :=
  if segment.key = (route.tuple packett).key ∧
      segment.count = route.count then
    { segment with
      contents := recordLabels segment.contents packett route.labels }
  else segment

/-- Record a packet along a route in the segments of its conversation. -/
def record (segments : List Segment) (packett : Packet) (route : Route) :
    List Segment :=
  if route.opens then
    segments ++ [⟨packett.fiveTuple.key, route.count,
      recordLabels (newFlow packett) packett route.labels⟩]
  else segments.map (extend packett route)

end Segment

namespace Meter

/-- The entries of the session with the contents of their flows. -/
def allSegments (meter : Meter) : List Segment :=
  meter.session.entries.map fun entry =>
    ⟨entry.key, entry.count, meter.heap entry.flow⟩

/-- The entries that belong to a conversation. -/
def segments (meter : Meter) (conversation : Conversation) :
    List Segment :=
  meter.allSegments.filter fun segment =>
    segment.conversation = conversation

private theorem lookup_eq_find (meter : Meter) (key : CString) (count : Nat) :
    meter.lookup key count = Segment.find meter.allSegments key count := by
  rw [lookup, getFlow, Segment.find, allSegments, List.find?_map,
    Option.map_map, Option.map_map]
  rfl

private theorem Filed.key_of_allSegments
    {meter : Meter} (filed : meter.Filed) {segment : Segment}
    (member : segment ∈ meter.allSegments) {tuple : FiveTuple}
    (wellFormed : tuple.WellFormed) (sameKey : segment.key = tuple.key) :
    segment.contents.fiveTuple = tuple := by
  obtain ⟨entry, entryMember, rfl⟩ := List.mem_map.mp member
  exact filed.fiveTuple_of_key entryMember wellFormed sameKey

/-- A lookup under a key of a conversation sees only its segments. -/
theorem Filed.lookup_eq_find_segments
    {meter : Meter} (filed : meter.Filed) {tuple : FiveTuple}
    (wellFormed : tuple.WellFormed) (count : Nat) :
    meter.lookup tuple.key count =
      Segment.find (meter.segments tuple.conversation) tuple.key count := by
  rw [lookup_eq_find, Segment.find, Segment.find, segments,
    List.find?_filter]
  congr 1
  apply List.find?_congr
  intro segment member
  rw [Bool.eq_iff_iff]
  by_cases sameKey : segment.key = tuple.key
  · have sameTuple := filed.key_of_allSegments member wellFormed sameKey
    simp [Segment.conversation, sameTuple]
  · simp [sameKey]

private theorem Filed.allSegments_opened
    {meter : Meter} (filed : meter.Filed) (packett : Packet) (count : Nat)
    (labels : List PacketDirection) :
    (meter.opened packett count labels).allSegments =
      meter.allSegments ++ [⟨packett.fiveTuple.key, count,
        recordLabels (newFlow packett) packett labels⟩] := by
  rw [allSegments, opened_entries, List.map_append, List.map_singleton,
    opened_heap_new]
  congr 1
  apply List.map_congr_left
  intro entry member
  have older : entry.flow ≠ meter.nextFlow :=
    Nat.ne_of_lt (filed.live_lt member)
  rw [opened_heap_of_ne _ _ _ _ older]

private theorem Distinct.eq_of_key_count
    {meter : Meter} (distinct : meter.Distinct) {entry other : Flows}
    (member : entry ∈ meter.session.entries)
    (otherMember : other ∈ meter.session.entries)
    (same : entry.key = other.key ∧ entry.count = other.count) :
    entry.flow = other.flow := by
  have found := distinct.getFlow_eq member
  rw [same.1, same.2, distinct.getFlow_eq otherMember] at found
  exact (Option.some.inj found).symm

private theorem Filed.allSegments_extended
    {meter : Meter} (filed : meter.Filed) (distinct : meter.Distinct)
    {packett : Packet} {route : Route} {entry : Flows}
    (member : entry ∈ meter.session.entries)
    (sameKey : entry.key = (route.tuple packett).key)
    (sameCount : entry.count = route.count) :
    (meter.extended packett entry.flow route.labels).allSegments =
      meter.allSegments.map (Segment.extend packett route) := by
  rw [allSegments, allSegments, extended_entries, List.map_map]
  apply List.map_congr_left
  intro other otherMember
  rw [Function.comp_apply, Segment.extend, ← sameKey, ← sameCount]
  by_cases same : other.key = entry.key ∧ other.count = entry.count
  · have sameFlow := distinct.eq_of_key_count otherMember member same
    rw [if_pos same, sameFlow, extended_heap_self]
  · have different : other.flow ≠ entry.flow := by
      intro sameFlow
      have sameEntry :=
        filed.entry_eq_of_flow_eq otherMember member sameFlow
      exact same ⟨congrArg Flows.key sameEntry,
        congrArg Flows.count sameEntry⟩
    rw [if_neg same, extended_heap_of_ne _ _ _ different]

/-- Recording extends segments of the conversation of the packet only, and
leaves them in the conversation. -/
theorem Filed.conversation_extend
    {meter : Meter} (filed : meter.Filed) {packett : Packet}
    (wellFormed : packett.fiveTuple.WellFormed) (route : Route)
    (segment : Segment) (member : segment ∈ meter.allSegments) :
    (segment.extend packett route).conversation = segment.conversation ∧
      (segment.conversation ≠ packett.fiveTuple.conversation →
        segment.extend packett route = segment) := by
  by_cases same : segment.key = (route.tuple packett).key ∧
      segment.count = route.count
  · have sameTuple := filed.key_of_allSegments member
      (Route.tuple_wellFormed wellFormed route) same.1
    have sameConversation :
        segment.conversation = packett.fiveTuple.conversation := by
      rw [Segment.conversation, sameTuple, Route.tuple_conversation]
    have sameProtocol : packett.protocol = segment.contents.protocol :=
      (congrArg Conversation.protocol sameConversation).symm
    rw [Segment.extend, if_pos same]
    constructor
    · rw [Segment.conversation, recordLabels_fiveTuple _ sameProtocol]
      rfl
    · intro different
      exact absurd sameConversation different
  · rw [Segment.extend, if_neg same]
    exact ⟨rfl, fun _ => rfl⟩

private theorem Filed.segments_record
    {meter : Meter} (filed : meter.Filed) (distinct : meter.Distinct)
    {packett : Packet} (wellFormed : packett.fiveTuple.WellFormed)
    {route : Route} (selects : Selects meter.lookup packett route)
    (conversation : Conversation) :
    (meter.record packett route).segments conversation =
      if packett.fiveTuple.conversation = conversation then
        Segment.record (meter.segments conversation) packett route
      else meter.segments conversation := by
  rcases record_cases selects with
    ⟨opens, -, recorded⟩ |
      ⟨closed, entry, member, sameKey, sameCount, -, recorded⟩
  · rw [recorded, segments, filed.allSegments_opened, List.filter_append,
      Segment.record, if_pos opens]
    have newConversation :
        Segment.conversation ⟨packett.fiveTuple.key, route.count,
          recordLabels (newFlow packett) packett route.labels⟩ =
            packett.fiveTuple.conversation :=
      congrArg FiveTuple.conversation
        (recordLabels_newFlow_fiveTuple packett route.labels)
    by_cases same : packett.fiveTuple.conversation = conversation
    · simp [newConversation, same, segments]
    · simp [newConversation, same, segments]
  · have extended := filed.conversation_extend wellFormed route
    have filtered :
        (meter.record packett route).segments conversation =
          (meter.segments conversation).map
            (Segment.extend packett route) := by
      rw [recorded, segments, segments, filed.allSegments_extended distinct
        member sameKey sameCount, List.filter_map]
      congr 1
      apply List.filter_congr
      intro segment inSegments
      rw [Function.comp_apply, (extended segment inSegments).1]
    rw [filtered]
    by_cases same : packett.fiveTuple.conversation = conversation
    · rw [if_pos same, Segment.record, closed,
        if_neg Bool.false_ne_true]
    · have unchanged : ∀ segment ∈ meter.segments conversation,
          segment.extend packett route = id segment := by
        intro segment inSegments
        obtain ⟨inAll, belongs⟩ := List.mem_filter.mp inSegments
        apply (extended segment inAll).2
        rw [of_decide_eq_true belongs]
        exact Ne.symm same
      rw [if_neg same, List.map_congr_left unchanged, List.map_id]

private theorem record_collections
    (meter : Meter) (packett : Packet) (route : Route) :
    (meter.record packett route).collections = meter.collections := by
  rw [record]
  split
  · rfl
  · split <;> rfl

private theorem record_packetCount
    {meter : Meter} {packett : Packet} {route : Route}
    (selects : Selects meter.lookup packett route) :
    (meter.record packett route).session.packetCount =
      meter.session.packetCount + 1 := by
  rcases record_cases selects with
    ⟨-, -, recorded⟩ | ⟨-, entry, -, -, -, -, recorded⟩
  · rw [recorded]
    rfl
  · rw [recorded]
    rfl

private theorem packetCount_run (capacity : Nat) (frames : List Frame) :
    (run capacity frames).session.packetCount =
      frames.countP (fun frame => frame.parsed.Accepted) := by
  induction frames using List.reverseRecOn with
  | nil =>
      rfl
  | append_singleton frames last inductionHypothesis =>
      rw [run_concat, List.countP_append, UzFlowMeter.onPacketReceived]
      by_cases accepted : last.parsed.Accepted
      · obtain ⟨route, selects, received⟩ :=
          (run capacity frames).receivePacket_spec accepted
        have counted := record_packetCount selects
        rw [inductionHypothesis] at counted
        rw [received, finished]
        split
        · rw [garbageCollect_packetCount, counted]
          simp [accepted]
        · rw [counted]
          simp [accepted]
      · rw [receivePacket_of_not_accepted _ accepted, inductionHypothesis]
        simp [accepted]

/-- A call after which nothing was collected yet only recorded its
packet. -/
theorem onPacketReceived_of_collections_eq_zero
    {meter : Meter} {frame : Frame} {route : Route}
    (accepted : frame.parsed.Accepted)
    (selects : Selects meter.lookup frame.parsed route)
    (quiet : (onPacketReceived meter frame).collections = 0) :
    meter.collections = 0 ∧ ¬ meter.Collects frame.parsed route ∧
      onPacketReceived meter frame = meter.record frame.parsed route := by
  obtain ⟨other, otherSelects, received⟩ :=
    meter.receivePacket_spec accepted
  obtain rfl := selects.unique otherSelects
  rw [onPacketReceived, received, finished] at quiet ⊢
  by_cases collects : meter.Collects frame.parsed route
  · rw [if_pos collects, garbageCollect_collections] at quiet
    exact absurd quiet (Nat.succ_ne_zero _)
  · rw [if_neg collects] at quiet ⊢
    rw [record_collections] at quiet
    exact ⟨quiet, collects, rfl⟩

private theorem quiet_of_quiet_concat
    {capacity : Nat} {frames : List Frame} {last : Frame}
    (quiet : (run capacity (frames ++ [last])).collections = 0) :
    (run capacity frames).collections = 0 := by
  rw [run_concat] at quiet
  by_cases accepted : last.parsed.Accepted
  · obtain ⟨route, selects, -⟩ :=
      (run capacity frames).receivePacket_spec accepted
    exact (onPacketReceived_of_collections_eq_zero accepted selects quiet).1
  · rw [onPacketReceived, receivePacket_of_not_accepted _ accepted] at quiet
    exact quiet

private theorem onPacketReceived_of_not_collects
    {meter : Meter} {frame : Frame} {route : Route}
    (accepted : frame.parsed.Accepted)
    (selects : Selects meter.lookup frame.parsed route)
    (idle : ¬ meter.Collects frame.parsed route) :
    onPacketReceived meter frame = meter.record frame.parsed route := by
  obtain ⟨other, otherSelects, received⟩ :=
    meter.receivePacket_spec accepted
  obtain rfl := selects.unique otherSelects
  rw [onPacketReceived, received, finished, if_neg idle]

/-- Without a collection the ten thousandth packet has not come. -/
theorem accepted_lt_of_collections_eq_zero
    {capacity : Nat} {frames : List Frame}
    (quiet : (run capacity frames).collections = 0) :
    frames.countP (fun frame => frame.parsed.Accepted) < 10000 := by
  induction frames using List.reverseRecOn with
  | nil =>
      exact Nat.zero_lt_succ _
  | append_singleton frames last inductionHypothesis =>
      rw [run_concat] at quiet
      rw [List.countP_append]
      by_cases accepted : last.parsed.Accepted
      · obtain ⟨route, selects, -⟩ :=
          (run capacity frames).receivePacket_spec accepted
        obtain ⟨before, idle, -⟩ :=
          onPacketReceived_of_collections_eq_zero accepted selects quiet
        have bound := inductionHypothesis before
        have notDue : ¬ ((run capacity frames).session.packetCount + 1) %
            garbageCollectPackets = 0 :=
          fun due => idle (Or.inr (Or.inl due))
        rw [packetCount_run, garbageCollectPackets] at notDue
        simp only [List.countP_singleton, accepted, decide_true, if_true]
        omega
      · rw [onPacketReceived,
          receivePacket_of_not_accepted _ accepted] at quiet
        have bound := inductionHypothesis quiet
        simpa [accepted] using bound

/-! ## Two sessions that agree on a conversation -/

section Agreement

variable {meter other : Meter} {packett : Packet}
  (filed : meter.Filed) (otherFiled : other.Filed)
  (wellFormed : packett.fiveTuple.WellFormed)
  (agree : meter.segments packett.fiveTuple.conversation =
    other.segments packett.fiveTuple.conversation)

include filed otherFiled wellFormed agree

private theorem lookup_eq_of_agree (count : Nat) :
    meter.lookup packett.fiveTuple.key count =
        other.lookup packett.fiveTuple.key count ∧
      meter.lookup packett.fiveTuple.swap.key count =
        other.lookup packett.fiveTuple.swap.key count := by
  constructor
  · rw [filed.lookup_eq_find_segments wellFormed, agree,
      otherFiled.lookup_eq_find_segments wellFormed]
  · rw [filed.lookup_eq_find_segments wellFormed.swap,
      otherFiled.lookup_eq_find_segments wellFormed.swap,
      FiveTuple.conversation_swap, agree]

private theorem selects_of_agree {route : Route}
    (selects : Selects meter.lookup packett route) :
    Selects other.lookup packett route := by
  have same := lookup_eq_of_agree filed otherFiled wellFormed agree
  exact selects.congr (fun count => (same count).1)
    (fun count => (same count).2)

private theorem recordedFlow_of_agree (route : Route) :
    recordedFlow meter.lookup packett route =
      recordedFlow other.lookup packett route := by
  have same := lookup_eq_of_agree filed otherFiled wellFormed agree
  have sameLookup :
      meter.lookup (route.tuple packett).key route.count =
        other.lookup (route.tuple packett).key route.count := by
    cases route with
    | reverse =>
        exact (same 0).2
    | _ =>
        exact (same _).1
  rw [recordedFlow, recordedFlow, sameLookup]

/-- Where the full session collects nothing, one that agrees with it on the
conversation and is not due for a periodic collection does not either. -/
theorem not_collects_of_agree {route : Route}
    (idle : ¬ meter.Collects packett route)
    (notDue : ¬ (other.session.packetCount + 1) % garbageCollectPackets =
      0) :
    ¬ other.Collects packett route := by
  rintro (cut | due | long)
  · exact idle (Or.inl cut)
  · exact notDue due
  · rw [← recordedFlow_of_agree filed otherFiled wellFormed agree] at long
    exact idle (Or.inr (Or.inr long))

end Agreement

/-- The frames of a run whose packets belong to a conversation. -/
def framesOf (conversation : Conversation) (frames : List Frame) :
    List Frame :=
  frames.filter fun frame =>
    frame.parsed.fiveTuple.conversation = conversation

private theorem framesOf_concat
    (conversation : Conversation) (frames : List Frame) (last : Frame) :
    framesOf conversation (frames ++ [last]) =
      framesOf conversation frames ++
        if last.parsed.fiveTuple.conversation = conversation then [last]
        else [] := by
  rw [framesOf, framesOf, List.filter_append, List.filter_singleton]
  by_cases same : last.parsed.fiveTuple.conversation = conversation
  · simp [same]
  · simp [same]

/-- The run on the packets of a conversation is not due for a periodic
collection before the full run is. -/
theorem not_due_framesOf
    (capacity : Nat) (conversation : Conversation) {frames : List Frame}
    (bound : frames.countP (fun frame => frame.parsed.Accepted) + 1 <
      10000) :
    ¬ ((run capacity (framesOf conversation frames)).session.packetCount +
      1) % garbageCollectPackets = 0 := by
  have fewer :
      (framesOf conversation frames).countP
          (fun frame => frame.parsed.Accepted) ≤
        frames.countP (fun frame => frame.parsed.Accepted) :=
    List.filter_sublist.countP_le
  rw [packetCount_run, garbageCollectPackets]
  omega

/-- The simulation: without a collection the full run and the run on the
packets of a conversation agree on the segments of the conversation, and the
latter collects nothing either. -/
theorem agree_run
    (capacity : Nat) (conversation : Conversation) (frames : List Frame)
    (quiet : (run capacity frames).collections = 0) :
    (run capacity (framesOf conversation frames)).collections = 0 ∧
      (run capacity frames).segments conversation =
        (run capacity (framesOf conversation frames)).segments
          conversation := by
  induction frames using List.reverseRecOn with
  | nil =>
      exact ⟨rfl, rfl⟩
  | append_singleton frames last inductionHypothesis =>
      have bound := accepted_lt_of_collections_eq_zero quiet
      rw [List.countP_append] at bound
      rw [run_concat] at quiet ⊢
      rw [framesOf_concat]
      by_cases accepted : last.parsed.Accepted
      · simp only [List.countP_singleton, accepted, decide_true,
          if_true] at bound
        obtain ⟨route, selects, -⟩ :=
          (run capacity frames).receivePacket_spec accepted
        obtain ⟨before, idle, recorded⟩ :=
          onPacketReceived_of_collections_eq_zero accepted selects quiet
        obtain ⟨quietOwn, agree⟩ := inductionHypothesis before
        have filed := filed_run capacity frames
        have distinct := distinct_run capacity frames
        have wellFormed := last.parsed_wellFormed
        rw [recorded,
          filed.segments_record distinct wellFormed selects conversation]
        by_cases own :
            last.parsed.fiveTuple.conversation = conversation
        · subst own
          have ownFiled := filed_run capacity
            (framesOf last.parsed.fiveTuple.conversation frames)
          have ownDistinct := distinct_run capacity
            (framesOf last.parsed.fiveTuple.conversation frames)
          have ownSelects :=
            selects_of_agree filed ownFiled wellFormed agree selects
          have ownIdle := not_collects_of_agree filed ownFiled wellFormed
            agree idle (not_due_framesOf capacity _ bound)
          rw [if_pos rfl, if_pos rfl, run_concat,
            onPacketReceived_of_not_collects accepted ownSelects ownIdle,
            record_collections, ownFiled.segments_record ownDistinct
              wellFormed ownSelects, if_pos rfl, agree]
          exact ⟨quietOwn, rfl⟩
        · rw [if_neg own, if_neg own, List.append_nil]
          exact ⟨quietOwn, agree⟩
      · rw [onPacketReceived,
          receivePacket_of_not_accepted _ accepted] at quiet ⊢
        have agree := inductionHypothesis quiet
        by_cases own :
            last.parsed.fiveTuple.conversation = conversation
        · rw [if_pos own, run_concat, onPacketReceived,
            receivePacket_of_not_accepted _ accepted]
          exact agree
        · rw [if_neg own, List.append_nil]
          exact agree

/-- Two interleavings have the same frames. -/
theorem perm_of_framesOf_eq
    {frames others : List Frame}
    (same : ∀ conversation,
      framesOf conversation frames = framesOf conversation others) :
    frames.Perm others := by
  classical
  have counted : ∀ (frame : Frame) (list : List Frame),
      (framesOf frame.parsed.fiveTuple.conversation list).count frame =
        list.count frame :=
    fun frame list => List.count_filter (decide_eq_true rfl)
  apply List.perm_iff_count.mpr
  intro frame
  rw [← counted, ← counted frame others, same]

/-- A run of fewer than ten thousand accepted packets collects nothing if the
runs on the packets of each conversation do not. -/
theorem quiet_of_framesOf_quiet
    {capacity : Nat} {frames : List Frame}
    (few : frames.countP (fun frame => frame.parsed.Accepted) < 10000)
    (quiet : ∀ conversation,
      (run capacity (framesOf conversation frames)).collections = 0) :
    (run capacity frames).collections = 0 := by
  induction frames using List.reverseRecOn with
  | nil =>
      rfl
  | append_singleton frames last inductionHypothesis =>
      have quietBefore : ∀ conversation,
          (run capacity (framesOf conversation frames)).collections = 0 := by
        intro conversation
        have quietAfter := quiet conversation
        rw [framesOf_concat] at quietAfter
        split_ifs at quietAfter
        · exact quiet_of_quiet_concat quietAfter
        · rw [List.append_nil] at quietAfter
          exact quietAfter
      rw [List.countP_append] at few
      have before := inductionHypothesis (by omega) quietBefore
      rw [run_concat]
      by_cases accepted : last.parsed.Accepted
      · simp only [List.countP_singleton, accepted, decide_true,
          if_true] at few
        have filed := filed_run capacity frames
        have ownFiled := filed_run capacity
          (framesOf last.parsed.fiveTuple.conversation frames)
        have wellFormed := last.parsed_wellFormed
        have agree := (agree_run capacity
          last.parsed.fiveTuple.conversation frames before).2
        obtain ⟨route, selects, -⟩ :=
          (run capacity frames).receivePacket_spec accepted
        have ownSelects :=
          selects_of_agree filed ownFiled wellFormed agree selects
        have quietOwn := quiet last.parsed.fiveTuple.conversation
        rw [framesOf_concat, if_pos rfl, run_concat] at quietOwn
        have ownIdle := (onPacketReceived_of_collections_eq_zero accepted
          ownSelects quietOwn).2.1
        have notDue : ¬ ((run capacity frames).session.packetCount + 1) %
            garbageCollectPackets = 0 := by
          rw [packetCount_run, garbageCollectPackets]
          omega
        have idle := not_collects_of_agree ownFiled filed wellFormed
          agree.symm ownIdle notDue
        rw [onPacketReceived_of_not_collects accepted selects idle,
          record_collections, before]
      · rw [onPacketReceived, receivePacket_of_not_accepted _ accepted,
          before]

/-- As long as `garbage_collect` is not called, the entries of a conversation
(keys, counts, order and contents) are those of the run on its own packets;
so another interleaving of the packets of each conversation does not call it
either, and has the same entries for each of them. -/
theorem nonInterference_of_run
    (capacity : Nat) (frames : List Frame)
    (quiet : (run capacity frames).collections = 0) :
    (∀ conversation,
      (run capacity frames).segments conversation =
        (run capacity (framesOf conversation frames)).segments
          conversation) ∧
      ∀ others,
        (∀ conversation,
          framesOf conversation frames = framesOf conversation others) →
        (run capacity others).collections = 0 ∧
          ∀ conversation,
            (run capacity frames).segments conversation =
              (run capacity others).segments conversation := by
  have own := fun conversation => agree_run capacity conversation frames quiet
  constructor
  · exact fun conversation => (own conversation).2
  · intro others sameFrames
    have othersQuiet : (run capacity others).collections = 0 := by
      have few := accepted_lt_of_collections_eq_zero quiet
      rw [(perm_of_framesOf_eq sameFrames).countP_eq] at few
      apply quiet_of_framesOf_quiet few
      intro conversation
      rw [← sameFrames conversation]
      exact (own conversation).1
    refine ⟨othersQuiet, fun conversation => ?_⟩
    rw [(own conversation).2,
      (agree_run capacity conversation others othersQuiet).2,
      sameFrames conversation]

/-- Three packets of two conversations, seen from the first one. -/
theorem nonInterference_two_conversations :
    (run 10 [clientFrame 1, otherClientFrame 2, serverFrame 3]).segments
        (clientFrame 1).parsed.fiveTuple.conversation =
      (run 10 (framesOf (clientFrame 1).parsed.fiveTuple.conversation
        [clientFrame 1, otherClientFrame 2, serverFrame 3])).segments
          (clientFrame 1).parsed.fiveTuple.conversation :=
  (nonInterference_of_run 10
    [clientFrame 1, otherClientFrame 2, serverFrame 3]
    (by decide +kernel)).1 _

end Meter

end UzFlowMeter
