import UzFlowMeter.Directions

/-!
# The segments of a conversation in time

The flows of a conversation should follow one another in time.  They do as
long as a packet that joins a flow other than the first segment of its own
orientation joins the last entry under the key of that flow.
-/

namespace UzFlowMeter

/-- No packet of the first flow is later than one of the second flow. -/
def Flow.NoLater (first second : Flow) : Prop :=
  ∀ earlier ∈ first.pairs, ∀ later ∈ second.pairs,
    earlier.packet.time ≤ later.packet.time

/-- Every packet of the flow is an accepted one of the frames. -/
def Flow.StoredFrom (flow : Flow) (frames : List Frame) : Prop :=
  ∀ pair ∈ flow.pairs, ∃ frame ∈ frames,
    frame.parsed.Accepted ∧ pair.packet = frame.parsed

/-- The accepted packets of a run come in the order of their times. -/
def Chronological (frames : List Frame) : Prop :=
  frames.Pairwise fun earlier later =>
    earlier.parsed.Accepted → later.parsed.Accepted →
      earlier.parsed.time ≤ later.parsed.time

/-- The entry with the key and the count is the last one with the key. -/
def FlowSession.Newest (session : FlowSession) (key : CString)
    (count : Nat) : Prop :=
  session.entries.Pairwise fun earlier later =>
    earlier.key = key → earlier.count = count → later.key ≠ key

instance (first second : Flow) : Decidable (first.NoLater second) :=
  inferInstanceAs (Decidable (∀ earlier ∈ first.pairs, _))

instance (frames : List Frame) : Decidable (Chronological frames) :=
  inferInstanceAs (Decidable (frames.Pairwise _))

instance (session : FlowSession) (key : CString) (count : Nat) :
    Decidable (session.Newest key count) :=
  inferInstanceAs (Decidable (session.entries.Pairwise _))

namespace Meter

/-- Flows of one conversation do not overlap in time: all packets of one are
no later than all packets of the other. -/
def NonOverlapping (meter : Meter) : Prop :=
  ∀ first ∈ meter.flows, ∀ second ∈ meter.flows,
    first.flow ≠ second.flow →
    first.contents.fiveTuple.conversation =
      second.contents.fiveTuple.conversation →
    first.contents.NoLater second.contents ∨
      second.contents.NoLater first.contents

/-- When the packet is matched in the other orientation only, or when the
walk over stale segments ends at an existing one, the flow it joins is the
last one with its key. -/
structure JoinsNewest (meter : Meter) (packet : Packet) : Prop where
  reverse : meter.MatchesReverseOnly packet →
    meter.session.Newest packet.fiveTuple.swap.key 0
  segment : ∀ entry ∈ meter.session.entries,
    entry.key = packet.fiveTuple.key → 0 < entry.count →
    StaleBelow meter.lookup packet entry.count →
    packet.time - (meter.heap entry.flow).latestTimestamp ≤
      expiredUpdate * (entry.count + 1) →
    meter.session.Newest packet.fiveTuple.key entry.count

instance (meter : Meter) : Decidable meter.NonOverlapping :=
  inferInstanceAs (Decidable (∀ first ∈ meter.flows, _))

instance (meter : Meter) (packet : Packet) :
    Decidable (meter.JoinsNewest packet) :=
  decidable_of_iff
    ((meter.MatchesReverseOnly packet →
        meter.session.Newest packet.fiveTuple.swap.key 0) ∧
      ∀ entry ∈ meter.session.entries,
        entry.key = packet.fiveTuple.key → 0 < entry.count →
        StaleBelow meter.lookup packet entry.count →
        packet.time - (meter.heap entry.flow).latestTimestamp ≤
          expiredUpdate * (entry.count + 1) →
        meter.session.Newest packet.fiveTuple.key entry.count)
    ⟨fun both => ⟨both.1, both.2⟩, fun joins => ⟨joins.1, joins.2⟩⟩

private theorem Tracked.pairwise_of_flow_lt
    {meter : Meter} (tracked : meter.Tracked)
    {relation : Flows → Flows → Prop}
    (pairwise : meter.session.entries.Pairwise relation)
    {earlier later : Flows}
    (earlierMember : earlier ∈ meter.session.entries)
    (laterMember : later ∈ meter.session.entries)
    (before : earlier.flow < later.flow) : relation earlier later := by
  obtain ⟨front, back, split⟩ := List.append_of_mem earlierMember
  have ordered := tracked.ordered
  rw [split, List.map_append, List.pairwise_append] at ordered
  rw [split, List.pairwise_append] at pairwise
  rw [split, List.mem_append, List.mem_cons] at laterMember
  rcases laterMember with inFront | rfl | inBack
  · have wrongWay : later.flow < earlier.flow :=
      ordered.2.2 later.flow (List.mem_map_of_mem inFront) earlier.flow
        (by simp)
    exact absurd before (Nat.lt_asymm wrongWay)
  · exact absurd before (Nat.lt_irrefl _)
  · exact (List.pairwise_cons.mp pairwise.2.1).1 later inBack

/-- No other entry of the key points to a later flow than the newest one. -/
theorem Tracked.flow_le_of_newest
    {meter : Meter} (tracked : meter.Tracked) {entry other : Flows}
    (newest : meter.session.Newest entry.key entry.count)
    (entryMember : entry ∈ meter.session.entries)
    (otherMember : other ∈ meter.session.entries)
    (sameKey : other.key = entry.key) : other.flow ≤ entry.flow := by
  by_contra later
  exact tracked.pairwise_of_flow_lt newest entryMember otherMember
    (Nat.lt_of_not_le later) rfl rfl sameKey

/-- The flows of a conversation are ordered in time as they were created.
Flows that are newer than a first segment are in the session under its key,
and begin more than the update interval after its last packet. -/
structure Chained (meter : Meter) : Prop extends
    Meter.Filed meter, Meter.Distinct meter where
  nonempty : ∀ flow < meter.nextFlow, (meter.heap flow).pairs ≠ []
  inOrder : ∀ first second, first < second → second < meter.nextFlow →
    (meter.heap first).fiveTuple.conversation =
      (meter.heap second).fiveTuple.conversation →
    (meter.heap first).NoLater (meter.heap second)
  afterFirst : ∀ entry ∈ meter.session.entries, entry.count = 0 →
    ∀ newer, entry.flow < newer → newer < meter.nextFlow →
    (meter.heap newer).fiveTuple.conversation =
      (meter.heap entry.flow).fiveTuple.conversation →
    (∃ other ∈ meter.session.entries,
      other.flow = newer ∧ other.key = entry.key) ∧
      ∀ pair ∈ (meter.heap newer).pairs,
        (meter.heap entry.flow).latestTimestamp + expiredUpdate <
          pair.packet.time

/-- All packets recorded so far are no later than the given time. -/
def RecordedBy (meter : Meter) (time : ℚ) : Prop :=
  ∀ flow < meter.nextFlow, ∀ pair ∈ (meter.heap flow).pairs,
    pair.packet.time ≤ time

/-- Behind the newest entry of a key whose first segment is in the session
there is no newer flow of the conversation. -/
theorem Chained.no_newer_of_newest
    {meter : Meter} (chained : meter.Chained) {tuple : FiveTuple}
    (wellFormed : tuple.WellFormed) (hasFirst : meter.session.Has tuple.key 0)
    {entry : Flows} (member : entry ∈ meter.session.entries)
    (sameKey : entry.key = tuple.key)
    (newest : meter.session.Newest tuple.key entry.count)
    {newer : FlowPtr} (later : entry.flow < newer)
    (created : newer < meter.nextFlow) :
    (meter.heap newer).fiveTuple.conversation ≠ tuple.conversation := by
  intro sameConversation
  rw [← sameKey] at newest
  obtain ⟨first, firstMember, firstKey, firstCount⟩ := hasFirst
  have firstLe : first.flow ≤ entry.flow :=
    chained.flow_le_of_newest newest member firstMember
      (firstKey.trans sameKey.symm)
  have firstTuple :=
    chained.fiveTuple_of_key firstMember wellFormed firstKey
  rw [← firstTuple] at sameConversation
  obtain ⟨⟨other, otherMember, rfl, otherKey⟩, -⟩ :=
    chained.afterFirst first firstMember firstCount newer
      (Nat.lt_of_le_of_lt firstLe later) created sameConversation
  have otherLe : other.flow ≤ entry.flow :=
    chained.flow_le_of_newest newest member otherMember
      (otherKey.trans (firstKey.trans sameKey.symm))
  exact absurd later (Nat.not_lt.mpr otherLe)

/-- A packet that comes in time and joins an existing flow under the
condition joins the newest flow of its conversation. -/
theorem Chained.no_newer
    {meter : Meter} (chained : meter.Chained) {packett : Packet}
    (wellFormed : packett.fiveTuple.WellFormed)
    (past : meter.RecordedBy packett.time)
    (joinsNewest : meter.JoinsNewest packett) {route : Route}
    (selects : Selects meter.lookup packett route)
    {entry : Flows} (member : entry ∈ meter.session.entries)
    (sameKey : entry.key = (route.tuple packett).key)
    (sameCount : entry.count = route.count)
    (closed : route.opens = false) {newer : FlowPtr}
    (later : entry.flow < newer) (created : newer < meter.nextFlow) :
    (meter.heap newer).fiveTuple.conversation ≠
      packett.fiveTuple.conversation := by
  have found : meter.lookup entry.key entry.count =
      some (meter.heap entry.flow) :=
    lookup_eq_some_iff.mpr ⟨entry.flow, chained.getFlow_eq member, rfl⟩
  rw [sameKey, sameCount] at found
  cases route with
  | fresh =>
      exact absurd closed.symm Bool.false_ne_true
  | newSegment count =>
      exact absurd closed.symm Bool.false_ne_true
  | forward =>
      -- A newer flow would begin too late for the packet to be in time.
      intro sameConversation
      obtain ⟨contents, contentsFound, young⟩ := selects
      obtain rfl : meter.heap entry.flow = contents :=
        Option.some.inj (found.symm.trans contentsFound)
      have entryTuple := chained.fiveTuple_of_key member wellFormed sameKey
      rw [← entryTuple] at sameConversation
      obtain ⟨-, late⟩ := chained.afterFirst entry member sameCount newer
        later created sameConversation
      obtain ⟨pair, pairMember⟩ :=
        List.exists_mem_of_ne_nil _ (chained.nonempty newer created)
      have begun := late pair pairMember
      have recorded := past newer created pair pairMember
      linarith
  | reverse =>
      have reverseOnly : meter.MatchesReverseOnly packett :=
        (matchesReverseOnly_iff selects).mpr rfl
      have newest : meter.session.Newest packett.fiveTuple.swap.key
          entry.count := by
        rw [sameCount]
        exact joinsNewest.reverse reverseOnly
      have noNewer := chained.no_newer_of_newest wellFormed.swap
        reverseOnly.2 member sameKey newest later created
      rw [FiveTuple.conversation_swap] at noNewer
      exact noNewer
  | segment count =>
      obtain ⟨positive, stale, contents, contentsFound, young⟩ := selects
      obtain rfl : meter.heap entry.flow = contents :=
        Option.some.inj (found.symm.trans contentsFound)
      obtain ⟨first, firstFound, -⟩ := stale 0 positive
      have hasFirst := has_of_lookup firstFound
      have newest : meter.session.Newest packett.fiveTuple.key
          entry.count := by
        apply joinsNewest.segment entry member sameKey
        · rw [sameCount]
          exact positive
        · rw [sameCount]
          exact stale
        · rw [sameCount]
          exact young
      exact chained.no_newer_of_newest wellFormed hasFirst member sameKey
        newest later created

/-! ## The invariant is kept -/

private theorem recordLabels_forall_time
    {flow : Flow} {packet : Packet} {labels : List PacketDirection}
    {property : ℚ → Prop}
    (all : ∀ pair ∈ flow.pairs, property pair.packet.time)
    (now : property packet.time) :
    ∀ pair ∈ (recordLabels flow packet labels).pairs,
      property pair.packet.time := by
  intro pair member
  rw [recordLabels_pairs] at member
  rcases List.mem_append.mp member with old | new
  · exact all pair old
  · obtain ⟨label, -, rfl⟩ := List.mem_map.mp new
    exact now

theorem Chained.extended
    {meter : Meter} (chained : meter.Chained) {packett : Packet}
    (past : meter.RecordedBy packett.time)
    {entry : Flows} (member : entry ∈ meter.session.entries)
    (sameConversation : packett.fiveTuple.conversation =
      (meter.heap entry.flow).fiveTuple.conversation)
    (noNewer : ∀ newer, entry.flow < newer → newer < meter.nextFlow →
      (meter.heap newer).fiveTuple.conversation ≠
        packett.fiveTuple.conversation)
    {labels : List PacketDirection} (labelled : labels ≠ []) :
    (meter.extended packett entry.flow labels).Chained := by
  have sameProtocol :
      packett.protocol = (meter.heap entry.flow).protocol :=
    congrArg Conversation.protocol sameConversation
  have sameTuple := extended_fiveTuple sameProtocol labels
  have filed := chained.toFiled.extended member sameConversation labels
  have distinct : (meter.extended packett entry.flow labels).Distinct :=
    ⟨chained.keyCount, chained.oneOrientation⟩
  refine ⟨filed, distinct, ?_, ?_, ?_⟩
  · apply extended_forall_heap _ _ _ (fun flow => flow.pairs ≠ [])
      chained.nonempty
    intro _
    exact recordLabels_pairs_ne_nil _ _ labelled
  · intro first second before created sameTuples
    rw [sameTuple, sameTuple] at sameTuples
    have ordered := chained.inOrder first second before created sameTuples
    by_cases firstRecorded : first = entry.flow
    · subst firstRecorded
      exact absurd (sameTuples.symm.trans sameConversation.symm)
        (noNewer second before created)
    rw [extended_heap_of_ne _ _ _ firstRecorded]
    by_cases secondRecorded : second = entry.flow
    · subst secondRecorded
      rw [extended_heap_self]
      intro earlier earlierMember
      exact recordLabels_forall_time (ordered earlier earlierMember)
        (past first (Nat.lt_trans before created) earlier earlierMember)
    · rw [extended_heap_of_ne _ _ _ secondRecorded]
      exact ordered
  · intro other otherMember first newer later created sameTuples
    rw [sameTuple, sameTuple] at sameTuples
    obtain ⟨inSession, late⟩ := chained.afterFirst other otherMember first
      newer later created sameTuples
    refine ⟨inSession, ?_⟩
    by_cases otherRecorded : other.flow = entry.flow
    · rw [otherRecorded] at later sameTuples
      exact absurd (sameTuples.trans sameConversation.symm)
        (noNewer newer later created)
    rw [extended_heap_of_ne _ _ _ otherRecorded]
    by_cases newerRecorded : newer = entry.flow
    · subst newerRecorded
      rw [extended_heap_self]
      obtain ⟨pair, pairMember⟩ :=
        List.exists_mem_of_ne_nil _ (chained.nonempty _ created)
      exact recordLabels_forall_time late <|
        lt_of_lt_of_le (late pair pairMember)
          (past _ created pair pairMember)
    · rw [extended_heap_of_ne _ _ _ newerRecorded]
      exact late

/-- What a new flow needs of the first segments of its conversation: they
have its key, and their last packets are more than the interval before. -/
def FollowsFirsts (meter : Meter) (packett : Packet) (count : Nat) : Prop :=
  ∀ entry ∈ meter.session.entries, entry.count = 0 →
    (meter.heap entry.flow).fiveTuple.conversation =
      packett.fiveTuple.conversation →
    count ≠ 0 ∧ entry.key = packett.fiveTuple.key ∧
      (meter.heap entry.flow).latestTimestamp + expiredUpdate <
        packett.time

private theorem Chained.followsFirsts
    {meter : Meter} (chained : meter.Chained) {packett : Packet}
    (wellFormed : packett.fiveTuple.WellFormed) {route : Route}
    (selects : Selects meter.lookup packett route)
    (opens : route.opens = true) :
    meter.FollowsFirsts packett route.count := by
  intro entry member first sameConversation
  have keyed := chained.keyed entry member
  have orientation : entry.key = packett.fiveTuple.key ∨
      entry.key = packett.fiveTuple.swap.key := by
    rcases FiveTuple.conversation_eq_iff.mp sameConversation with
      same | swapped
    · exact Or.inl (keyed.trans (congrArg FiveTuple.key same))
    · exact Or.inr (keyed.trans (congrArg FiveTuple.key swapped))
  cases route with
  | forward =>
      exact absurd opens Bool.false_ne_true
  | reverse =>
      exact absurd opens Bool.false_ne_true
  | segment count =>
      exact absurd opens Bool.false_ne_true
  | fresh =>
      rcases orientation with same | swapped
      · exact absurd ⟨entry, member, same, first⟩
          (lookup_eq_none_iff_not_has.mp selects.1)
      · exact absurd ⟨entry, member, swapped, first⟩
          (lookup_eq_none_iff_not_has.mp selects.2)
  | newSegment count =>
      obtain ⟨positive, stale, -⟩ := selects
      obtain ⟨contents, contentsFound, old⟩ := stale 0 positive
      have hasForward := has_of_lookup contentsFound
      have sameKey : entry.key = packett.fiveTuple.key := by
        rcases orientation with same | swapped
        · exact same
        · by_contra different
          rw [swapped] at different
          exact chained.oneOrientation packett.fiveTuple wellFormed
            (Ne.symm different)
            ⟨hasForward, entry, member, swapped, first⟩
      have found : meter.lookup entry.key entry.count =
          some (meter.heap entry.flow) :=
        lookup_eq_some_iff.mpr ⟨entry.flow, chained.getFlow_eq member, rfl⟩
      rw [sameKey, first] at found
      obtain rfl : meter.heap entry.flow = contents :=
        Option.some.inj (found.symm.trans contentsFound)
      rw [Nat.cast_zero, zero_add, mul_one] at old
      exact ⟨Nat.ne_of_gt positive, sameKey, by linarith⟩

theorem Chained.opened
    {meter : Meter} (chained : meter.Chained) {packett : Packet}
    (wellFormed : packett.fiveTuple.WellFormed)
    (past : meter.RecordedBy packett.time) {count : Nat}
    {labels : List PacketDirection} (labelled : labels ≠ [])
    (distinct : (meter.opened packett count labels).Distinct)
    (followsFirsts : meter.FollowsFirsts packett count) :
    (meter.opened packett count labels).Chained := by
  have filed := chained.toFiled.opened wellFormed count labels
  have newTuple :
      ((meter.opened packett count labels).heap
        meter.nextFlow).fiveTuple = packett.fiveTuple := by
    rw [opened_heap_new, recordLabels_newFlow_fiveTuple]
  have newPairs : ∀ {property : ℚ → Prop}, property packett.time →
      ∀ pair ∈ ((meter.opened packett count labels).heap
        meter.nextFlow).pairs, property pair.packet.time := by
    intro property now
    rw [opened_heap_new]
    apply recordLabels_forall_time _ now
    intro pair member
    exact absurd member List.not_mem_nil
  refine ⟨filed, distinct, ?_, ?_, ?_⟩
  · apply opened_forall_heap _ _ _ _ (fun flow => flow.pairs ≠ [])
      chained.nonempty
    exact recordLabels_pairs_ne_nil _ _ labelled
  · intro first second before created sameConversation
    have firstCreated : first < meter.nextFlow :=
      Nat.lt_of_lt_of_le before (Nat.lt_succ_iff.mp created)
    have firstOld : first ≠ meter.nextFlow := Nat.ne_of_lt firstCreated
    rw [opened_heap_of_ne _ _ _ _ firstOld] at sameConversation ⊢
    by_cases new : second = meter.nextFlow
    · subst new
      intro earlier earlierMember
      exact newPairs (past first firstCreated earlier earlierMember)
    · rw [opened_heap_of_ne _ _ _ _ new] at sameConversation ⊢
      exact chained.inOrder first second before
        (Nat.lt_of_le_of_ne (Nat.lt_succ_iff.mp created) new)
        sameConversation
  · intro entry member first newer later created sameConversation
    rw [opened_entries] at member ⊢
    rcases List.mem_append.mp member with old | new
    · have entryOld : entry.flow ≠ meter.nextFlow :=
        Nat.ne_of_lt (chained.live_lt old)
      rw [opened_heap_of_ne _ _ _ _ entryOld] at sameConversation ⊢
      by_cases newerNew : newer = meter.nextFlow
      · subst newerNew
        rw [newTuple] at sameConversation
        obtain ⟨-, sameKey, stale⟩ :=
          followsFirsts entry old first sameConversation.symm
        refine ⟨⟨_, List.mem_append_right _ (List.mem_singleton_self _),
          rfl, sameKey.symm⟩, ?_⟩
        exact newPairs stale
      · rw [opened_heap_of_ne _ _ _ _ newerNew] at sameConversation ⊢
        obtain ⟨⟨other, otherMember, same⟩, late⟩ :=
          chained.afterFirst entry old first newer later
            (Nat.lt_of_le_of_ne (Nat.lt_succ_iff.mp created) newerNew)
            sameConversation
        exact ⟨⟨other, List.mem_append_left _ otherMember, same⟩, late⟩
    · rw [List.mem_singleton.mp new] at later
      exact absurd (Nat.lt_succ_iff.mp created) (Nat.not_le.mpr later)

theorem Chained.record
    {meter : Meter} (chained : meter.Chained) {packett : Packet}
    (wellFormed : packett.fiveTuple.WellFormed)
    (past : meter.RecordedBy packett.time)
    (joinsNewest : meter.JoinsNewest packett) {route : Route}
    (selects : Selects meter.lookup packett route) :
    (meter.record packett route).Chained := by
  have distinct := chained.toDistinct.record wellFormed selects
  rcases record_cases selects with
    ⟨opens, -, recorded⟩ |
      ⟨closed, entry, member, sameKey, sameCount, -, recorded⟩
  · rw [recorded] at distinct ⊢
    exact chained.opened wellFormed past route.labels_ne_nil distinct
      (chained.followsFirsts wellFormed selects opens)
  · have entryTuple := chained.fiveTuple_of_key member
      (Route.tuple_wellFormed wellFormed route) sameKey
    rw [recorded]
    apply chained.extended past member _ _ route.labels_ne_nil
    · rw [entryTuple, Route.tuple_conversation]
    · intro newer later created
      exact chained.no_newer wellFormed past joinsNewest selects member
        sameKey sameCount closed later created

theorem Chained.garbageCollect
    {meter : Meter} (chained : meter.Chained) (latestTime : ℚ) :
    (meter.garbageCollect latestTime).Chained where
  toFiled := chained.toFiled.garbageCollect latestTime
  toDistinct := chained.toDistinct.garbageCollect latestTime
  nonempty := by
    rw [garbageCollect_nextFlow, garbageCollect_heap]
    exact chained.nonempty
  inOrder := by
    rw [garbageCollect_nextFlow, garbageCollect_heap]
    exact chained.inOrder
  afterFirst := by
    rw [garbageCollect_nextFlow, garbageCollect_heap,
      garbageCollect_entries]
    intro entry kept first newer later created sameConversation
    obtain ⟨⟨other, otherMember, sameFlow, sameKey⟩, late⟩ :=
      chained.afterFirst entry (meter.mem_entries_of_kept latestTime kept)
        first newer later created sameConversation
    refine ⟨⟨other, ?_, sameFlow, sameKey⟩, late⟩
    have split := (meter.collection_perm latestTime).mem_iff.mpr otherMember
    rcases List.mem_append.mp split with otherKept | otherRemoved
    · exact otherKept
    · -- Under one key the removed entries stood before the kept ones.
      have ordered := List.pairwise_map.mp chained.ordered
      have before : other.flow < entry.flow :=
        KeySweep.sweepFrom_removed_before_kept Flows.key
          (meter.expiredAt latestTime) _ _ ordered otherRemoved kept sameKey
      rw [sameFlow] at before
      exact absurd later (Nat.lt_asymm before)

theorem Chained.onPacketReceived
    {meter : Meter} (chained : meter.Chained) {frame : Frame}
    (past : frame.parsed.Accepted → meter.RecordedBy frame.parsed.time)
    (joinsNewest : frame.parsed.Accepted →
      meter.JoinsNewest frame.parsed) :
    (UzFlowMeter.onPacketReceived meter frame).Chained :=
  onPacketReceived_invariant
    (fun _ accepted selects => chained.record frame.parsed_wellFormed
      (past accepted) (joinsNewest accepted) selects)
    (fun _ recorded => recorded.garbageCollect frame.parsed.time) chained

private theorem chained_initial
    (capacity : Nat) : (initial capacity).Chained where
  toFiled := filed_initial capacity
  toDistinct := distinct_initial capacity
  nonempty := by
    intro flow created
    exact absurd created (Nat.not_lt_zero flow)
  inOrder := by
    intro first second _ created
    exact absurd created (Nat.not_lt_zero second)
  afterFirst := by
    intro entry member
    exact absurd member List.not_mem_nil

private theorem stored_run (capacity : Nat) (frames : List Frame) :
    (run capacity frames).AllFlows fun flow => flow.StoredFrom frames := by
  induction frames using List.reverseRecOn with
  | nil =>
      exact allFlows_initial _ capacity
  | append_singleton frames last inductionHypothesis =>
      rw [run_concat]
      have older : (run capacity frames).AllFlows fun flow =>
          flow.StoredFrom (frames ++ [last]) := by
        intro flow created pair member
        obtain ⟨frame, frameMember, same⟩ :=
          inductionHypothesis flow created pair member
        exact ⟨frame, List.mem_append_left _ frameMember, same⟩
      have grown : ∀ (flow : Flow) (labels : List PacketDirection),
          last.parsed.Accepted → flow.StoredFrom (frames ++ [last]) →
          (recordLabels flow last.parsed labels).StoredFrom
            (frames ++ [last]) := by
        intro flow labels accepted stored pair member
        rw [recordLabels_pairs] at member
        rcases List.mem_append.mp member with old | new
        · exact stored pair old
        · obtain ⟨label, -, rfl⟩ := List.mem_map.mp new
          exact ⟨last, by simp, accepted, rfl⟩
      apply older.onPacketReceived
      · intro route accepted
        apply grown _ _ accepted
        intro pair member
        exact absurd member List.not_mem_nil
      · intro route entry _ accepted _ _ _ _
        exact grown _ _ accepted

/-- In chronological order everything recorded is no later than the next
packet. -/
theorem recordedBy_run
    {frames : List Frame} {last : Frame}
    (chronological : Chronological (frames ++ [last]))
    (accepted : last.parsed.Accepted) (capacity : Nat) :
    (run capacity frames).RecordedBy last.parsed.time := by
  rw [Chronological, List.pairwise_append] at chronological
  intro flow created pair member
  obtain ⟨frame, frameMember, frameAccepted, samePacket⟩ :=
    stored_run capacity frames flow created pair member
  rw [samePacket]
  exact chronological.2.2 frame frameMember last (by simp) frameAccepted
    accepted

private theorem chained_run
    {capacity : Nat} {frames : List Frame}
    (chronological : Chronological frames)
    (joinsNewest : Runs.EveryStep UzFlowMeter.onPacketReceived
      (fun meter frame => frame.parsed.Accepted →
        meter.JoinsNewest frame.parsed) (initial capacity) frames) :
    (run capacity frames).Chained := by
  induction frames using List.reverseRecOn with
  | nil =>
      exact chained_initial capacity
  | append_singleton frames last inductionHypothesis =>
      have earlier := (List.pairwise_append.mp chronological).1
      rw [Runs.everyStep_concat] at joinsNewest
      have chained := inductionHypothesis earlier joinsNewest.1
      rw [run_concat]
      exact chained.onPacketReceived
        (fun accepted => recordedBy_run chronological accepted capacity)
        joinsNewest.2

private theorem Chained.nonOverlapping
    {meter : Meter} (chained : meter.Chained) : meter.NonOverlapping := by
  intro first firstMember second secondMember different sameConversation
  obtain ⟨firstCreated, firstContents⟩ :=
    chained.mem_flows_iff.mp firstMember
  obtain ⟨secondCreated, secondContents⟩ :=
    chained.mem_flows_iff.mp secondMember
  rw [firstContents, secondContents] at sameConversation ⊢
  rcases Nat.lt_or_gt_of_ne different with before | after
  · exact Or.inl (chained.inOrder _ _ before secondCreated
      sameConversation)
  · exact Or.inr (chained.inOrder _ _ after firstCreated
      sameConversation.symm)

/-- In a chronological run in which every packet that is matched in the other
orientation, or that the walk leads to an existing segment, joins the last
entry of the key, the flows of a conversation never overlap in time. -/
theorem nonOverlapping_of_run
    (capacity : Nat) (frames : List Frame)
    (chronological : Chronological frames)
    (joinsNewest : Runs.EveryStep UzFlowMeter.onPacketReceived
      (fun meter frame => frame.parsed.Accepted →
        meter.JoinsNewest frame.parsed) (initial capacity) frames) :
    (run capacity frames).NonOverlapping :=
  (chained_run chronological joinsNewest).nonOverlapping

/-- A flow that is answered and goes on after a minute: two segments. -/
theorem nonOverlapping_two_segments :
    (run 10 [clientFrame 1, serverFrame 2, clientFrame 60]).NonOverlapping :=
  nonOverlapping_of_run 10 [clientFrame 1, serverFrame 2, clientFrame 60]
    (by decide +kernel) (by decide +kernel)

/-- An answer after the second segment was begun goes into the first one. -/
theorem late_answer_overlaps :
    Chronological [clientFrame 1, clientFrame 50, serverFrame 51] ∧
      ¬ (run 10 [clientFrame 1, clientFrame 50,
        serverFrame 51]).NonOverlapping := by
  decide +kernel

end Meter

end UzFlowMeter
