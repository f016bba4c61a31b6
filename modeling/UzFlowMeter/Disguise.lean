import UzFlowMeter.Anonymity
import UzFlowMeter.ExportedTimes
import UzFlowMeter.Isolation

/-!
# Disguised captures

A capture is disguised by renaming the endpoints, without confusing any two,
and by shifting its clock.  A disguised capture goes through the session like
the original one, and leads to the same rows apart from the columns that name
a flow.
-/

namespace UzFlowMeter

/-- A renaming of endpoints and a shift of all times. -/
structure Disguise where
  endpoint : Endpoint → Endpoint
  injective : Function.Injective endpoint
  amount : ℚ

namespace Disguise

variable (d : Disguise)

def tuple (tuple : FiveTuple) : FiveTuple :=
  ⟨d.endpoint tuple.source, d.endpoint tuple.destination, tuple.protocol⟩

private theorem tuple_injective : Function.Injective d.tuple := by
  intro left right same
  rw [tuple, tuple, FiveTuple.mk.injEq] at same
  exact FiveTuple.ext (d.injective same.1) (d.injective same.2.1) same.2.2

end Disguise

/-- The other packet is the disguised one, as far as the meter looks. -/
structure Packet.DisguisedAs (d : Disguise) (packet other : Packet) :
    Prop where
  fiveTuple : other.fiveTuple = d.tuple packet.fiveTuple
  anonymous : other.anonymous = packet.anonymous.shift d.amount
  positive : 0 < packet.time
  shiftedPositive : 0 < packet.time + d.amount

instance (d : Disguise) (packet other : Packet) :
    Decidable (packet.DisguisedAs d other) :=
  decidable_of_iff
    (other.fiveTuple = d.tuple packet.fiveTuple ∧
      other.anonymous = packet.anonymous.shift d.amount ∧
      0 < packet.time ∧ 0 < packet.time + d.amount)
    ⟨fun all => ⟨all.1, all.2.1, all.2.2.1, all.2.2.2⟩,
      fun disguised => ⟨disguised.1, disguised.2, disguised.3,
        disguised.4⟩⟩

/-- Frames that are both ignored, or both metered, the other one with the
disguised packet. -/
structure Frame.DisguisedAs (d : Disguise) (frame other : Frame) : Prop where
  accepted : other.parsed.Accepted ↔ frame.parsed.Accepted
  packet : frame.parsed.Accepted → frame.parsed.DisguisedAs d other.parsed

instance (d : Disguise) (frame other : Frame) :
    Decidable (frame.DisguisedAs d other) :=
  decidable_of_iff
    ((other.parsed.Accepted ↔ frame.parsed.Accepted) ∧
      (frame.parsed.Accepted → frame.parsed.DisguisedAs d other.parsed))
    ⟨fun both => ⟨both.1, both.2⟩, fun disguised => ⟨disguised.1, disguised.2⟩⟩

namespace Packet.DisguisedAs

variable {d : Disguise} {packet other : Packet}
  (disguised : packet.DisguisedAs d other)

include disguised

private theorem time_eq : other.time = packet.time + d.amount :=
  congrArg Packet.time disguised.anonymous

private theorem protocol_eq : other.protocol = packet.protocol :=
  congrArg FiveTuple.protocol disguised.fiveTuple

private theorem flags_eq : other.flags = packet.flags := by
  have sameFlags := congrArg Packet.flags disguised.anonymous
  exact sameFlags

private theorem route_tuple (route : Route) :
    route.tuple other = d.tuple (route.tuple packet) := by
  cases route with
  | reverse =>
      exact congrArg FiveTuple.swap disguised.fiveTuple
  | _ =>
      exact disguised.fiveTuple

end Packet.DisguisedAs

/-- The other flow has recorded the disguised packets of the flow. -/
structure Flow.DisguisedAs (d : Disguise) (flow other : Flow) : Prop where
  traced : flow.Traced
  otherTraced : other.Traced
  fiveTuple : other.fiveTuple = d.tuple flow.fiveTuple
  pairs : other.pairs.map Pair.anonymous =
    (flow.pairs.map Pair.anonymous).map (Pair.shift d.amount)
  shiftable : ∀ pair ∈ flow.pairs, pair.Shiftable d.amount

/-- What the pairs of a flow decide is the same for anonymous pairs. -/
theorem getPacketTimes_anonymous (flow : Flow) :
    getPacketTimes (flowOf (flow.pairs.map Pair.anonymous)) =
      getPacketTimes flow := by
  rw [getPacketTimes, getPacketTimes, flowOf_pairs]
  cases flow.pairs with
  | nil =>
      rfl
  | cons first rest =>
      simp only [List.map_cons, List.map_map]
      rfl

private theorem getPacketIat_anonymous
    (flow : Flow) (direction : PacketDirection) :
    getPacketIat (flowOf (flow.pairs.map Pair.anonymous)) direction =
      getPacketIat flow direction := by
  rw [getPacketIat_eq, getPacketIat_eq, flowOf_pairs, List.filter_map,
    timesOf, timesOf, List.map_map]
  rfl

private theorem flowOf_heard
    {pairs : List Pair} (positive : ∀ pair ∈ pairs, 0 < pair.packet.time)
    (nonempty : pairs ≠ []) : 0 < (flowOf pairs).latestTimestamp := by
  rcases List.eq_nil_or_concat' pairs with empty | ⟨earlier, last, rfl⟩
  · exact absurd empty nonempty
  · rw [flowOf_concat, Flow.record, addPacketToFlow_latestTimestamp]
    exact lt_max_of_lt_right (positive last (by simp))

namespace Flow.DisguisedAs

variable {d : Disguise} {flow other : Flow}
  (disguised : flow.DisguisedAs d other)

include disguised

theorem shiftedBy :
    (flowOf (flow.pairs.map Pair.anonymous)).Shiftable d.amount ∧
      (flowOf (flow.pairs.map Pair.anonymous)).ShiftedBy d.amount
        (flowOf (other.pairs.map Pair.anonymous)) := by
  rw [disguised.pairs]
  apply flowOf_shifted
  intro pair member
  obtain ⟨recorded, recordedMember, rfl⟩ := List.mem_map.mp member
  obtain ⟨positive, shiftedPositive⟩ :=
    disguised.shiftable recorded recordedMember
  exact ⟨positive, shiftedPositive⟩

theorem heard (nonempty : flow.pairs ≠ []) : 0 < flow.latestTimestamp := by
  rw [disguised.traced.latest]
  apply flowOf_heard
  · intro pair member
    obtain ⟨recorded, recordedMember, rfl⟩ := List.mem_map.mp member
    exact (disguised.shiftable recorded recordedMember).positive
  · simpa using nonempty

private theorem latestTimestamp_eq (nonempty : flow.pairs ≠ []) :
    other.latestTimestamp = flow.latestTimestamp + d.amount := by
  rw [← shiftTime_of_ne (ne_of_gt (disguised.heard nonempty)),
    disguised.otherTraced.latest, disguised.traced.latest]
  exact disguised.shiftedBy.2.latest

/-- Both flows are as old as seen from their own clocks. -/
theorem age_eq (nonempty : flow.pairs ≠ []) (time : ℚ) :
    time + d.amount - other.latestTimestamp =
      time - flow.latestTimestamp := by
  rw [disguised.latestTimestamp_eq nonempty]
  exact add_sub_add_right_eq_sub time flow.latestTimestamp d.amount

private theorem bulk_eq (side : PacketDirection) :
    other.bulk side = (flow.bulk side).shift d.amount := by
  rw [disguised.otherTraced.bulk, disguised.traced.bulk]
  exact disguised.shiftedBy.2.bulk side

theorem activity_eq : other.activity = flow.activity := by
  rw [disguised.otherTraced.activity, disguised.traced.activity]
  exact disguised.shiftedBy.2.activity

theorem getPacketTimes_eq : getPacketTimes flow = getPacketTimes other := by
  rw [← getPacketTimes_anonymous flow, ← getPacketTimes_anonymous other]
  exact disguised.shiftedBy.2.getPacketTimes_eq

theorem getDuration_eq : getDuration flow = getDuration other := by
  rw [getDuration, getDuration, disguised.getPacketTimes_eq]

private theorem sameFeatures : flow.SameFeatures other := by
  have forward := (disguised.bulk_eq .forward).symm
  have backward := (disguised.bulk_eq .reverse).symm
  have activity := disguised.activity_eq.symm
  have shiftedBy := disguised.shiftedBy.2
  refine ⟨?_, ?_, ?_, ?_, ?_, ?_, disguised.getDuration_eq, ?_⟩
  · rw [disguised.traced.interarrivalTimes,
      disguised.otherTraced.interarrivalTimes]
    exact shiftedBy.interarrivalTimes.symm
  · exact congrArg (fun activity => activity.active.items) activity
  · exact congrArg (fun activity => activity.idle.items) activity
  · exact ⟨congrArg BulkHalf.count forward,
      congrArg BulkHalf.packetCount forward,
      congrArg BulkHalf.size forward, congrArg BulkHalf.duration forward⟩
  · exact ⟨congrArg BulkHalf.count backward,
      congrArg BulkHalf.packetCount backward,
      congrArg BulkHalf.size backward, congrArg BulkHalf.duration backward⟩
  · rw [disguised.traced.initWindowSize, disguised.otherTraced.initWindowSize]
    exact shiftedBy.initWindowSize.symm
  · intro direction
    rw [← getPacketIat_anonymous flow, ← getPacketIat_anonymous other]
    exact shiftedBy.getPacketIat_eq direction

private theorem sameMeasures : flow.SameMeasures other where
  toSameFeatures := disguised.sameFeatures
  measures := by
    have forget : ∀ pairs : List Pair, pairs.map Pair.measures =
        (pairs.map Pair.anonymous).map Pair.measures := by
      intro pairs
      rw [List.map_map]
      rfl
    have unmoved : ∀ pairs : List Pair,
        (pairs.map (Pair.shift d.amount)).map Pair.measures =
          pairs.map Pair.measures := by
      intro pairs
      rw [List.map_map]
      rfl
    rw [forget flow.pairs, forget other.pairs, disguised.pairs, unmoved]

theorem recordLabels
    {packet otherPacket : Packet}
    (packetDisguised : packet.DisguisedAs d otherPacket)
    (sameProtocol : packet.protocol = flow.protocol)
    (labels : List PacketDirection) :
    (recordLabels flow packet labels).DisguisedAs d
      (UzFlowMeter.recordLabels other otherPacket labels) := by
  have otherProtocol : otherPacket.protocol = other.protocol := by
    have sameTuple := congrArg FiveTuple.protocol disguised.fiveTuple
    rw [packetDisguised.protocol_eq, sameProtocol]
    exact sameTuple.symm
  refine ⟨disguised.traced.recordLabels packet labels,
    disguised.otherTraced.recordLabels otherPacket labels, ?_, ?_, ?_⟩
  · rw [recordLabels_fiveTuple labels sameProtocol,
      recordLabels_fiveTuple labels otherProtocol, disguised.fiveTuple]
  · have recorded :
        (labels.map (Pair.mk otherPacket)).map Pair.anonymous =
          ((labels.map (Pair.mk packet)).map Pair.anonymous).map
            (Pair.shift d.amount) := by
      rw [List.map_map, List.map_map, List.map_map]
      apply List.map_congr_left
      intro label _
      change Pair.mk otherPacket.anonymous label = _
      rw [packetDisguised.anonymous]
      rfl
    rw [recordLabels_pairs, recordLabels_pairs, List.map_append,
      List.map_append, List.map_append, disguised.pairs, recorded]
  · intro pair member
    rw [recordLabels_pairs] at member
    rcases List.mem_append.mp member with old | new
    · exact disguised.shiftable pair old
    · obtain ⟨label, -, rfl⟩ := List.mem_map.mp new
      exact ⟨packetDisguised.positive, packetDisguised.shiftedPositive⟩

end Flow.DisguisedAs

theorem Packet.DisguisedAs.newFlow
    {d : Disguise} {packet other : Packet}
    (disguised : packet.DisguisedAs d other) :
    (newFlow packet).DisguisedAs d (newFlow other) where
  traced := Flow.traced_newFlow packet
  otherTraced := Flow.traced_newFlow other
  fiveTuple := disguised.fiveTuple
  pairs := rfl
  shiftable := fun _ member => absurd member List.not_mem_nil

/-! ## Disguised sessions -/

/-- An exported flow and its disguised form. -/
structure FlowSnapshot.DisguisedAs
    (d : Disguise) (snapshot other : FlowSnapshot) : Prop where
  flow : other.flow = snapshot.flow
  contents : snapshot.contents.DisguisedAs d other.contents

namespace Meter

/-- The entry under the key of the disguised flow. -/
def disguiseEntry (meter : Meter) (d : Disguise) (entry : Flows) : Flows :=
  { entry with key := (d.tuple (meter.heap entry.flow).fiveTuple).key }

/-- The other meter has seen the disguised capture. -/
structure DisguisedAs (d : Disguise) (meter other : Meter) : Prop where
  entries : other.session.entries =
    meter.session.entries.map (meter.disguiseEntry d)
  packetCount : other.session.packetCount = meter.session.packetCount
  nextFlow : other.nextFlow = meter.nextFlow
  collections : other.collections = meter.collections
  heap : ∀ flow < meter.nextFlow,
    (meter.heap flow).DisguisedAs d (other.heap flow)
  exported : List.Forall₂ (FlowSnapshot.DisguisedAs d) meter.exported
    other.exported

private theorem disguisedAs_initial (d : Disguise) (capacity : Nat) :
    (initial capacity).DisguisedAs d (initial capacity) where
  entries := rfl
  packetCount := rfl
  nextFlow := rfl
  collections := rfl
  heap := fun flow created => absurd created (Nat.not_lt_zero flow)
  exported := .nil

theorem DisguisedAs.opened
    {d : Disguise} {meter other : Meter}
    (disguised : meter.DisguisedAs d other) (filed : meter.Filed)
    {packett otherPackett : Packet}
    (packetDisguised : packett.DisguisedAs d otherPackett) (count : Nat)
    (labels : List PacketDirection) :
    (meter.opened packett count labels).DisguisedAs d
      (other.opened otherPackett count labels) := by
  have newDisguised :=
    packetDisguised.newFlow.recordLabels packetDisguised rfl labels
  refine ⟨?_, ?_, ?_, disguised.collections, ?_, disguised.exported⟩
  · have old : meter.session.entries.map
          ((meter.opened packett count labels).disguiseEntry d) =
        meter.session.entries.map (meter.disguiseEntry d) := by
      apply List.map_congr_left
      intro entry member
      have older : entry.flow ≠ meter.nextFlow :=
        Nat.ne_of_lt (filed.live_lt member)
      rw [disguiseEntry, disguiseEntry, opened_heap_of_ne _ _ _ _ older]
    rw [opened_entries, opened_entries, List.map_append, old,
      disguised.entries, disguised.nextFlow, List.map_singleton,
      disguiseEntry, opened_heap_new, recordLabels_newFlow_fiveTuple,
      packetDisguised.fiveTuple]
  · exact congrArg (· + 1) disguised.packetCount
  · exact congrArg (· + 1) disguised.nextFlow
  · intro flow created
    by_cases isNew : flow = meter.nextFlow
    · have isOtherNew : flow = other.nextFlow :=
        isNew.trans disguised.nextFlow.symm
      rw [isNew, opened_heap_new, ← isNew, isOtherNew, opened_heap_new]
      exact newDisguised
    · have isOtherOld : flow ≠ other.nextFlow := by
        rw [disguised.nextFlow]
        exact isNew
      rw [opened_heap_of_ne _ _ _ _ isNew,
        opened_heap_of_ne _ _ _ _ isOtherOld]
      exact disguised.heap flow
        (Nat.lt_of_le_of_ne (Nat.lt_succ_iff.mp created) isNew)

theorem DisguisedAs.extended
    {d : Disguise} {meter other : Meter}
    (disguised : meter.DisguisedAs d other)
    {packett otherPackett : Packet}
    (packetDisguised : packett.DisguisedAs d otherPackett)
    {flow : FlowPtr}
    (sameProtocol : packett.protocol = (meter.heap flow).protocol)
    (labels : List PacketDirection) :
    (meter.extended packett flow labels).DisguisedAs d
      (other.extended otherPackett flow labels) := by
  refine ⟨?_, ?_, disguised.nextFlow, disguised.collections, ?_,
    disguised.exported⟩
  · have sameTuple := extended_fiveTuple sameProtocol labels
    rw [extended_entries, extended_entries, disguised.entries]
    apply List.map_congr_left
    intro entry _
    rw [disguiseEntry, disguiseEntry, sameTuple]
  · exact congrArg (· + 1) disguised.packetCount
  · intro flow' created
    by_cases isTarget : flow' = flow
    · subst isTarget
      rw [extended_heap_self, extended_heap_self]
      exact (disguised.heap flow' created).recordLabels packetDisguised
        sameProtocol labels
    · rw [extended_heap_of_ne _ _ _ isTarget,
        extended_heap_of_ne _ _ _ isTarget]
      exact disguised.heap flow' created

section Collecting

variable {d : Disguise} {meter other : Meter}
  (disguised : meter.DisguisedAs d other) (filed : meter.Filed)
  (otherFiled : other.Filed)

include disguised filed otherFiled

/-- The key of a disguised entry is that of a disguised five-tuple exactly
when this holds without the disguise. -/
theorem DisguisedAs.key_eq_iff
    {tuple : FiveTuple} (wellFormed : tuple.WellFormed)
    (disguisedFormed : (d.tuple tuple).WellFormed) {entry : Flows}
    (member : entry ∈ meter.session.entries) :
    (meter.disguiseEntry d entry).key = (d.tuple tuple).key ↔
      entry.key = tuple.key := by
  have created := filed.live_lt member
  have sameTuple := (disguised.heap entry.flow created).fiveTuple
  have otherFormed : (d.tuple (meter.heap entry.flow).fiveTuple).WellFormed := by
    rw [← sameTuple]
    apply otherFiled.wellFormed
    rw [disguised.nextFlow]
    exact created
  rw [disguiseEntry, FiveTuple.key_inj otherFormed disguisedFormed,
    d.tuple_injective.eq_iff, filed.keyed entry member,
    FiveTuple.key_inj (filed.wellFormed entry.flow created) wellFormed]

private theorem DisguisedAs.collection_eq
    (filled : meter.FlowsFilled) (latestTime : ℚ) :
    other.collection (latestTime + d.amount) =
      KeySweep.renameBoth (meter.disguiseEntry d)
        (meter.collection latestTime) := by
  rw [collection, collection, disguised.entries]
  apply KeySweep.sweep_rename
  · intro entry member second secondMember
    have created := filed.live_lt secondMember
    have secondFormed : (d.tuple
        (meter.heap second.flow).fiveTuple).WellFormed := by
      rw [← (disguised.heap second.flow created).fiveTuple]
      apply otherFiled.wellFormed
      rw [disguised.nextFlow]
      exact created
    rw [filed.keyed second secondMember]
    exact disguised.key_eq_iff filed otherFiled
      (filed.wellFormed second.flow created) secondFormed member
  · intro entry member
    have created := filed.live_lt member
    have same := disguised.heap entry.flow created
    have sameAge := same.age_eq (filled entry.flow created) latestTime
    rw [expiredAt, expiredAt]
    change decide ((other.heap entry.flow).Expired
      (latestTime + d.amount)) = _
    rw [decide_eq_decide, Flow.Expired, Flow.Expired, sameAge,
      same.getDuration_eq]

theorem DisguisedAs.garbageCollect
    (filled : meter.FlowsFilled) (latestTime : ℚ) :
    (meter.garbageCollect latestTime).DisguisedAs d
      (other.garbageCollect (latestTime + d.amount)) := by
  have sameCollection :=
    disguised.collection_eq filed otherFiled filled latestTime
  refine ⟨?_, ?_, ?_, ?_, ?_, ?_⟩
  · have sameEntry : (meter.garbageCollect latestTime).disguiseEntry d =
        meter.disguiseEntry d := by
      funext entry
      rw [disguiseEntry, disguiseEntry, garbageCollect_heap]
    rw [garbageCollect_entries, garbageCollect_entries, sameCollection,
      sameEntry]
    rfl
  · rw [garbageCollect_packetCount, garbageCollect_packetCount,
      disguised.packetCount]
  · rw [garbageCollect_nextFlow, garbageCollect_nextFlow,
      disguised.nextFlow]
  · rw [garbageCollect_collections, garbageCollect_collections,
      disguised.collections]
  · rw [garbageCollect_nextFlow, garbageCollect_heap, garbageCollect_heap]
    exact disguised.heap
  · rw [garbageCollect_exported, garbageCollect_exported, sameCollection]
    apply List.rel_append disguised.exported
    rw [KeySweep.renameBoth, List.map_map, List.forall₂_map_left_iff,
      List.forall₂_map_right_iff, List.forall₂_same]
    intro entry removed
    have member : entry ∈ meter.session.entries :=
      (meter.collection_perm latestTime).subset
        (List.mem_append_right _ removed)
    exact ⟨rfl, disguised.heap entry.flow (filed.live_lt member)⟩

theorem DisguisedAs.getFlow_eq
    {tuple : FiveTuple} (wellFormed : tuple.WellFormed)
    (disguisedFormed : (d.tuple tuple).WellFormed) (count : Nat) :
    getFlow other.session (d.tuple tuple).key count =
      getFlow meter.session tuple.key count := by
  rw [getFlow, getFlow, disguised.entries, List.find?_map, Option.map_map]
  congr 1
  apply List.find?_congr
  intro entry member
  have sameKey := disguised.key_eq_iff filed otherFiled wellFormed
    disguisedFormed member
  rw [Bool.eq_iff_iff]
  simp only [Function.comp_apply, Bool.and_eq_true, beq_iff_eq, sameKey]
  rfl

private theorem DisguisedAs.lookup_none
    {tuple : FiveTuple} (wellFormed : tuple.WellFormed)
    (disguisedFormed : (d.tuple tuple).WellFormed) {count : Nat}
    (missing : meter.lookup tuple.key count = none) :
    other.lookup (d.tuple tuple).key count = none := by
  rw [lookup_eq_none_iff] at missing ⊢
  rw [disguised.getFlow_eq filed otherFiled wellFormed disguisedFormed,
    missing]

private theorem DisguisedAs.lookup_some
    (filled : meter.FlowsFilled)
    {tuple : FiveTuple} (wellFormed : tuple.WellFormed)
    (disguisedFormed : (d.tuple tuple).WellFormed) {count : Nat}
    {contents : Flow} (found : meter.lookup tuple.key count = some contents) :
    ∃ otherContents,
      other.lookup (d.tuple tuple).key count = some otherContents ∧
        contents.DisguisedAs d otherContents ∧
        ∀ time, time + d.amount - otherContents.latestTimestamp =
          time - contents.latestTimestamp := by
  obtain ⟨flow, flowFound, rfl⟩ := lookup_eq_some_iff.mp found
  obtain ⟨entry, member, -, -, rfl⟩ := getFlow_eq_some flowFound
  have created := filed.live_lt member
  have same := disguised.heap entry.flow created
  refine ⟨other.heap entry.flow, ?_, same,
    same.age_eq (filled entry.flow created)⟩
  apply lookup_eq_some_iff.mpr
  refine ⟨entry.flow, ?_, rfl⟩
  rw [disguised.getFlow_eq filed otherFiled wellFormed disguisedFormed,
    flowFound]

end Collecting

/-! ## One packet -/

section Receiving

variable {d : Disguise} {meter other : Meter}
  (disguised : meter.DisguisedAs d other) (filed : meter.Filed)
  (otherFiled : other.Filed) {packett otherPackett : Packet}
  (packetDisguised : packett.DisguisedAs d otherPackett)
  (wellFormed : packett.fiveTuple.WellFormed)
  (otherWellFormed : otherPackett.fiveTuple.WellFormed) {route : Route}

include disguised filed otherFiled packetDisguised wellFormed
  otherWellFormed

/-- A disguised packet takes the same route. -/
theorem DisguisedAs.sameRoute
    (filled : meter.FlowsFilled)
    (selects : Selects meter.lookup packett route) :
    Selects other.lookup otherPackett route := by
  have forwardFormed := otherWellFormed
  have reverseFormed := otherWellFormed.swap
  rw [packetDisguised.fiveTuple] at forwardFormed reverseFormed
  have forwardNone : ∀ {count : Nat},
      meter.lookup packett.fiveTuple.key count = none →
        other.lookup otherPackett.fiveTuple.key count = none := by
    intro count missing
    rw [packetDisguised.fiveTuple]
    exact disguised.lookup_none filed otherFiled wellFormed forwardFormed
      missing
  have forwardSome : ∀ {count : Nat} {contents : Flow},
      meter.lookup packett.fiveTuple.key count = some contents →
        ∃ otherContents,
          other.lookup otherPackett.fiveTuple.key count =
              some otherContents ∧
            otherPackett.time - otherContents.latestTimestamp =
              packett.time - contents.latestTimestamp := by
    intro count contents found
    obtain ⟨otherContents, otherFound, -, sameAge⟩ :=
      disguised.lookup_some filed otherFiled filled wellFormed
        forwardFormed found
    refine ⟨otherContents, ?_, ?_⟩
    · rw [packetDisguised.fiveTuple]
      exact otherFound
    · rw [packetDisguised.time_eq]
      exact sameAge packett.time
  have stale : ∀ {count : Nat}, StaleBelow meter.lookup packett count →
      StaleBelow other.lookup otherPackett count := by
    intro count stale j below
    obtain ⟨contents, found, old⟩ := stale j below
    obtain ⟨otherContents, otherFound, sameAge⟩ := forwardSome found
    rw [← sameAge] at old
    exact ⟨otherContents, otherFound, old⟩
  cases route with
  | fresh =>
      refine ⟨forwardNone selects.1, ?_⟩
      rw [packetDisguised.fiveTuple]
      exact disguised.lookup_none filed otherFiled wellFormed.swap
        reverseFormed selects.2
  | forward =>
      obtain ⟨contents, found, young⟩ := selects
      obtain ⟨otherContents, otherFound, sameAge⟩ := forwardSome found
      rw [← sameAge] at young
      exact ⟨otherContents, otherFound, young⟩
  | reverse =>
      obtain ⟨missing, contents, found⟩ := selects
      obtain ⟨otherContents, otherFound, -⟩ :=
        disguised.lookup_some filed otherFiled filled wellFormed.swap
          reverseFormed found
      refine ⟨forwardNone missing, otherContents, ?_⟩
      rw [packetDisguised.fiveTuple]
      exact otherFound
  | segment count =>
      obtain ⟨positive, staleBelow, contents, found, young⟩ := selects
      obtain ⟨otherContents, otherFound, sameAge⟩ := forwardSome found
      rw [← sameAge] at young
      exact ⟨positive, stale staleBelow, otherContents, otherFound, young⟩
  | newSegment count =>
      obtain ⟨positive, staleBelow, missing⟩ := selects
      exact ⟨positive, stale staleBelow, forwardNone missing⟩

/-- Where the packet joins a flow, its disguise joins the same one. -/
theorem DisguisedAs.joined
    (selects : Selects meter.lookup packett route)
    (closed : route.opens = false) :
    ∃ entry ∈ meter.session.entries,
      packett.protocol = (meter.heap entry.flow).protocol ∧
        getFlow meter.session (route.tuple packett).key route.count =
          some entry.flow ∧
        getFlow other.session (route.tuple otherPackett).key route.count =
          some entry.flow := by
  rcases record_cases selects with
    ⟨opens, -, -⟩ | ⟨-, entry, member, sameKey, -, found, -⟩
  · rw [opens] at closed
    cases closed
  · have tupleFormed := Route.tuple_wellFormed wellFormed route
    have otherFormed := Route.tuple_wellFormed otherWellFormed route
    rw [packetDisguised.route_tuple] at otherFormed
    have otherFound := disguised.getFlow_eq filed otherFiled tupleFormed
      otherFormed route.count
    rw [found, ← packetDisguised.route_tuple] at otherFound
    have sameTuple := filed.fiveTuple_of_key member tupleFormed sameKey
    have conversation := Route.tuple_conversation packett route
    rw [← sameTuple] at conversation
    have sameProtocol := congrArg Conversation.protocol conversation
    exact ⟨entry, member, sameProtocol.symm, found, otherFound⟩

theorem DisguisedAs.record
    (selects : Selects meter.lookup packett route) :
    (meter.record packett route).DisguisedAs d
      (other.record otherPackett route) := by
  cases opens : route.opens with
  | true =>
      rw [record_of_opens opens, record_of_opens opens]
      exact disguised.opened filed packetDisguised route.count route.labels
  | false =>
      obtain ⟨entry, -, sameProtocol, found, otherFound⟩ :=
        disguised.joined filed otherFiled packetDisguised wellFormed
          otherWellFormed selects opens
      rw [record_of_found opens found, record_of_found opens otherFound]
      exact disguised.extended packetDisguised sameProtocol route.labels

/-- The flows that the packets are recorded in last equally long. -/
theorem DisguisedAs.recordedFlow_duration
    (selects : Selects meter.lookup packett route) :
    (recordedFlow other.lookup otherPackett route).map getDuration =
      (recordedFlow meter.lookup packett route).map getDuration := by
  rw [recordedFlow, recordedFlow]
  cases opens : route.opens with
  | true =>
      have same := packetDisguised.newFlow.recordLabels packetDisguised rfl
        route.labels
      rw [if_pos rfl, if_pos rfl, Option.map_some, Option.map_some,
        same.getDuration_eq]
  | false =>
      obtain ⟨entry, member, sameProtocol, found, otherFound⟩ :=
        disguised.joined filed otherFiled packetDisguised wellFormed
          otherWellFormed selects opens
      have same := (disguised.heap entry.flow
        (filed.live_lt member)).recordLabels packetDisguised sameProtocol
          route.labels
      rw [if_neg Bool.false_ne_true, if_neg Bool.false_ne_true, lookup,
        lookup, found, otherFound, Option.map_some, Option.map_some,
        Option.map_some, Option.map_some, Option.map_some, Option.map_some,
        same.getDuration_eq]

private theorem DisguisedAs.collects_iff
    (selects : Selects meter.lookup packett route) :
    other.Collects otherPackett route ↔ meter.Collects packett route := by
  have sameDuration := disguised.recordedFlow_duration filed otherFiled
    packetDisguised wellFormed otherWellFormed selects
  have asMap : ∀ recorded : Option Flow,
      recorded.any (fun flow => decide (getDuration flow > 120)) =
        (recorded.map getDuration).any fun duration =>
          decide (duration > 120) := by
    intro recorded
    cases recorded <;> rfl
  rw [Collects, Collects, packetDisguised.flags_eq, disguised.packetCount,
    asMap, asMap, sameDuration]

end Receiving

theorem DisguisedAs.onPacketReceived
    {d : Disguise} {meter other : Meter}
    (disguised : meter.DisguisedAs d other) (filed : meter.Filed)
    (otherFiled : other.Filed) (filled : meter.FlowsFilled)
    {frame otherFrame : Frame}
    (frameDisguised : frame.DisguisedAs d otherFrame) :
    (UzFlowMeter.onPacketReceived meter frame).DisguisedAs d
      (UzFlowMeter.onPacketReceived other otherFrame) := by
  rw [UzFlowMeter.onPacketReceived, UzFlowMeter.onPacketReceived]
  by_cases accepted : frame.parsed.Accepted
  · have packetDisguised := frameDisguised.packet accepted
    have otherAccepted := frameDisguised.accepted.mpr accepted
    have wellFormed := frame.parsed_wellFormed
    have otherWellFormed := otherFrame.parsed_wellFormed
    obtain ⟨route, selects, received⟩ := meter.receivePacket_spec accepted
    obtain ⟨otherRoute, otherSelects, otherReceived⟩ :=
      other.receivePacket_spec otherAccepted
    have sameRoute := disguised.sameRoute filed otherFiled packetDisguised
      wellFormed otherWellFormed filled selects
    obtain rfl := sameRoute.unique otherSelects
    have recorded := disguised.record filed otherFiled packetDisguised
      wellFormed otherWellFormed selects
    have sameTest := disguised.collects_iff filed otherFiled
      packetDisguised wellFormed otherWellFormed selects
    rw [received, otherReceived, finished, finished]
    by_cases collects : meter.Collects frame.parsed route
    · rw [if_pos collects, if_pos (sameTest.mpr collects),
        packetDisguised.time_eq]
      exact recorded.garbageCollect (filed.record wellFormed selects)
        (otherFiled.record otherWellFormed otherSelects)
        (filled.record selects) frame.parsed.time
    · rw [if_neg collects, if_neg (mt sameTest.mp collects)]
      exact recorded
  · have ignored := mt frameDisguised.accepted.mp accepted
    rw [receivePacket_of_not_accepted meter accepted,
      receivePacket_of_not_accepted other ignored]
    exact disguised

private theorem disguisedAs_run
    (d : Disguise) (capacity : Nat) {frames others : List Frame}
    (disguised : List.Forall₂ (Frame.DisguisedAs d) frames others) :
    (run capacity frames).DisguisedAs d (run capacity others) := by
  refine Runs.alike_induction (motive := fun frames others =>
    (run capacity frames).DisguisedAs d (run capacity others)) ?_ ?_ disguised
  · exact disguisedAs_initial d capacity
  · intro frames others frame other before frameDisguised
    rw [run_concat, run_concat]
    exact before.onPacketReceived (filed_run capacity frames)
      (filed_run capacity others) (flowsFilled_run capacity frames)
      frameDisguised

/-- The calls that `get_data` makes for the exported flows, in their
order. -/
def rows (formatTime : Int → CString) (meter : Meter) :
    List (List RowEntry) :=
  meter.exported.map fun snapshot => rowEntries formatTime snapshot.contents

private theorem DisguisedAs.rows_eq
    {d : Disguise} {meter other : Meter}
    (disguised : meter.DisguisedAs d other) (formatTime : Int → CString) :
    (other.rows formatTime).map withoutIdentity =
      (meter.rows formatTime).map withoutIdentity := by
  have sameRows : List.Forall₂ Eq
      ((meter.rows formatTime).map withoutIdentity)
      ((other.rows formatTime).map withoutIdentity) := by
    rw [rows, rows, List.map_map, List.map_map, List.forall₂_map_left_iff,
      List.forall₂_map_right_iff]
    apply disguised.exported.imp
    intro snapshot otherSnapshot same
    have sameProtocol :=
      congrArg FiveTuple.protocol same.contents.fiveTuple
    exact same.contents.sameMeasures.rowEntries_eq sameProtocol.symm
      formatTime
  rw [List.forall₂_eq_eq_eq] at sameRows
  exact sameRows.symm

/-- A disguised capture leads to the same entries, exports and collections,
up to the renamed keys and the moved times, and its rows are those of the
original capture apart from the addresses, the ports and the timestamp. -/
theorem run_disguised
    (d : Disguise) (formatTime : Int → CString) (capacity : Nat)
    (frames others : List Frame)
    (disguised : List.Forall₂ (Frame.DisguisedAs d) frames others) :
    (run capacity frames).DisguisedAs d (run capacity others) ∧
      ((run capacity others).rows formatTime).map withoutIdentity =
        ((run capacity frames).rows formatTime).map withoutIdentity :=
  ⟨disguisedAs_run d capacity disguised,
    (disguisedAs_run d capacity disguised).rows_eq formatTime⟩

end Meter

section Example

variable (srcIp destIp : List.Vector UInt8 4) (srcPort destPort : UInt16)
  (flags : UInt8) (seconds : Int)

private theorem tcpFrame_fiveTuple :
    (tcpFrame srcIp destIp srcPort destPort flags seconds).parsed.fiveTuple =
      ⟨⟨inetNtop srcIp.toList, srcPort.toNat⟩,
        ⟨inetNtop destIp.toList, destPort.toNat⟩, ipprotoTcp⟩ :=
  congrArg Packet.fiveTuple (WireFrame.parsePacket_bytes _ _ _)

private theorem tcpFrame_anonymous :
    (tcpFrame srcIp destIp srcPort destPort flags seconds).parsed.anonymous =
      { protocol := ipprotoTcp
        time := seconds + 0 / 1000000
        window := 256
        flags := flags
        headerSize := 54 } :=
  congrArg Packet.anonymous (WireFrame.parsePacket_bytes _ _ _)

end Example

/-- The client gets another address and port, and the clock goes an hour
ahead. -/
def hourAhead : Disguise where
  endpoint := Equiv.swap ⟨inetNtop [10, 0, 0, 1], 40000⟩
    ⟨inetNtop [192, 168, 7, 1], 50000⟩
  injective := Equiv.injective _
  amount := 3600

private theorem length_serverAddress :
    ([10, 0, 0, 2] : List UInt8).length = 4 := rfl

def disguisedClientFrame (seconds : Int) : Frame :=
  tcpFrame ⟨[192, 168, 7, 1], rfl⟩ ⟨[10, 0, 0, 2], length_serverAddress⟩
    50000 80 0x10 (seconds + 3600)

private theorem clientFrame_disguisedAs
    {seconds : Int} (positive : 0 < seconds) :
    (clientFrame seconds).DisguisedAs hourAhead
      (disguisedClientFrame seconds) := by
  have tuple : (clientFrame seconds).parsed.fiveTuple =
      ⟨⟨inetNtop [10, 0, 0, 1], 40000⟩, ⟨inetNtop [10, 0, 0, 2], 80⟩,
        ipprotoTcp⟩ := tcpFrame_fiveTuple _ _ _ _ _ _
  have otherTuple : (disguisedClientFrame seconds).parsed.fiveTuple =
      ⟨⟨inetNtop [192, 168, 7, 1], 50000⟩, ⟨inetNtop [10, 0, 0, 2], 80⟩,
        ipprotoTcp⟩ := tcpFrame_fiveTuple _ _ _ _ _ _
  have accepted : (clientFrame seconds).parsed.Accepted :=
    Or.inl (congrArg FiveTuple.protocol tuple)
  have otherAccepted : (disguisedClientFrame seconds).parsed.Accepted :=
    Or.inl (congrArg FiveTuple.protocol otherTuple)
  have client : hourAhead.endpoint ⟨inetNtop [10, 0, 0, 1], 40000⟩ =
      ⟨inetNtop [192, 168, 7, 1], 50000⟩ :=
    Equiv.swap_apply_left _ _
  have server : hourAhead.endpoint ⟨inetNtop [10, 0, 0, 2], 80⟩ =
      ⟨inetNtop [10, 0, 0, 2], 80⟩ :=
    Equiv.swap_apply_of_ne_of_ne (by decide) (by decide)
  have traits : (clientFrame seconds).parsed.anonymous =
      { protocol := ipprotoTcp, time := seconds + 0 / 1000000, window := 256,
        flags := 0x10, headerSize := 54 } := tcpFrame_anonymous _ _ _ _ _ _
  have otherTraits : (disguisedClientFrame seconds).parsed.anonymous =
      { protocol := ipprotoTcp, time := (seconds + 3600 : Int) + 0 / 1000000,
        window := 256, flags := 0x10, headerSize := 54 } :=
    tcpFrame_anonymous _ _ _ _ _ _
  have time : (clientFrame seconds).parsed.time = seconds + 0 / 1000000 :=
    congrArg Packet.time traits
  have positiveTime : (0 : ℚ) < seconds := by exact_mod_cast positive
  refine ⟨iff_of_true otherAccepted accepted, fun _ => ⟨?_, ?_, ?_, ?_⟩⟩
  · rw [otherTuple, tuple, Disguise.tuple, client, server]
  · rw [otherTraits, traits, Packet.shift, hourAhead]
    simp only [Packet.mk.injEq, Int.cast_add, true_and, and_true]
    ring
  · rw [time, zero_div, add_zero]
    exact positiveTime
  · rw [time, zero_div, add_zero]
    exact add_pos positiveTime (by norm_num [hourAhead])

theorem Meter.run_disguised_twoMinutes :
    ((run 10 ([1, 40, 80, 119, 125].map disguisedClientFrame)).rows
        fun _ => []).map withoutIdentity =
      ((run 10 twoMinutes).rows fun _ => []).map withoutIdentity :=
  (run_disguised hourAhead (fun _ => []) 10 twoMinutes
    ([1, 40, 80, 119, 125].map disguisedClientFrame)
    (.cons (clientFrame_disguisedAs (by decide))
      (.cons (clientFrame_disguisedAs (by decide))
        (.cons (clientFrame_disguisedAs (by decide))
          (.cons (clientFrame_disguisedAs (by decide))
            (.cons (clientFrame_disguisedAs (by decide)) .nil)))))).2

end UzFlowMeter
