import Mathlib.Data.List.Perm.Basic
import UzFlowMeter.Collection
import UzFlowMeter.Library.Runs
import UzFlowMeter.SessionSteps

/-!
# The life of a flow

Every flow that was created is either live, in exactly one entry of the
session, or exported, once and with its final contents.  Entries stand in
the order in which their flows were created.
-/

namespace UzFlowMeter

theorem getFlow_eq_some
    {session : FlowSession} {key : CString} {count : Nat} {flow : FlowPtr}
    (found : getFlow session key count = some flow) :
    ∃ entry ∈ session.entries,
      entry.key = key ∧ entry.count = count ∧ entry.flow = flow := by
  obtain ⟨entry, entryFound, sameFlow⟩ := Option.map_eq_some_iff.mp found
  have matched := List.find?_some entryFound
  simp only [Bool.and_eq_true, beq_iff_eq] at matched
  exact ⟨entry, List.mem_of_find?_eq_some entryFound, matched.1,
    matched.2, sameFlow⟩

private theorem getFlow_eq_none_iff
    {session : FlowSession} {key : CString} {count : Nat} :
    getFlow session key count = none ↔
      ∀ entry ∈ session.entries, ¬ (entry.key = key ∧ entry.count = count) := by
  simp [getFlow]

/-- The session has an entry with the key and the count. -/
def FlowSession.Has (session : FlowSession) (key : CString) (count : Nat) :
    Prop :=
  ∃ entry ∈ session.entries, entry.key = key ∧ entry.count = count

instance (session : FlowSession) (key : CString) (count : Nat) :
    Decidable (session.Has key count) :=
  inferInstanceAs (Decidable (∃ entry ∈ session.entries, _))

theorem getFlow_eq_none_iff_not_has
    {session : FlowSession} {key : CString} {count : Nat} :
    getFlow session key count = none ↔ ¬ session.Has key count := by
  simp [getFlow_eq_none_iff, FlowSession.Has]

namespace Meter

theorem lookup_eq_none_iff_not_has
    {meter : Meter} {key : CString} {count : Nat} :
    meter.lookup key count = none ↔ ¬ meter.session.Has key count :=
  lookup_eq_none_iff.trans getFlow_eq_none_iff_not_has

theorem has_of_lookup
    {meter : Meter} {key : CString} {count : Nat} {flow : Flow}
    (found : meter.lookup key count = some flow) :
    meter.session.Has key count := by
  by_contra missing
  rw [lookup_eq_none_iff_not_has.mpr missing] at found
  cases found

section Effects

variable (meter : Meter) (packett : Packet) (count : Nat)
  (labels : List PacketDirection)

@[simp]
theorem opened_entries :
    (meter.opened packett count labels).session.entries =
      meter.session.entries ++
        [⟨packett.fiveTuple.key, count, meter.nextFlow⟩] := by
  rw [opened, addFlow_entries]
  rfl

@[simp]
theorem opened_heap_new :
    (meter.opened packett count labels).heap meter.nextFlow =
      recordLabels (newFlow packett) packett labels :=
  Function.update_self _ _ _

theorem opened_heap_of_ne {flow : FlowPtr}
    (older : flow ≠ meter.nextFlow) :
    (meter.opened packett count labels).heap flow = meter.heap flow :=
  Function.update_of_ne older _ _

@[simp]
theorem extended_entries (flow : FlowPtr) :
    (meter.extended packett flow labels).session.entries =
      meter.session.entries := rfl

@[simp]
theorem extended_nextFlow (flow : FlowPtr) :
    (meter.extended packett flow labels).nextFlow = meter.nextFlow := rfl

@[simp]
theorem extended_heap_self (flow : FlowPtr) :
    (meter.extended packett flow labels).heap flow =
      recordLabels (meter.heap flow) packett labels :=
  Function.update_self _ _ _

theorem extended_heap_of_ne {flow other : FlowPtr}
    (different : other ≠ flow) :
    (meter.extended packett flow labels).heap other = meter.heap other :=
  Function.update_of_ne different _ _

/-- A property of all flows that the new flow has, too. -/
theorem opened_forall_heap (property : Flow → Prop)
    (all : ∀ flow < meter.nextFlow, property (meter.heap flow))
    (new : property (recordLabels (newFlow packett) packett labels)) :
    ∀ flow < (meter.opened packett count labels).nextFlow,
      property ((meter.opened packett count labels).heap flow) := by
  intro flow created
  by_cases isNew : flow = meter.nextFlow
  · rw [isNew, opened_heap_new]
    exact new
  · rw [opened_heap_of_ne _ _ _ _ isNew]
    exact all flow
      (Nat.lt_of_le_of_ne (Nat.lt_succ_iff.mp created) isNew)

/-- A property of all flows that the extended flow keeps. -/
theorem extended_forall_heap (property : Flow → Prop) {flow : FlowPtr}
    (all : ∀ other < meter.nextFlow, property (meter.heap other))
    (grown : flow < meter.nextFlow →
      property (recordLabels (meter.heap flow) packett labels)) :
    ∀ other < (meter.extended packett flow labels).nextFlow,
      property ((meter.extended packett flow labels).heap other) := by
  intro other created
  by_cases isTarget : other = flow
  · subst isTarget
    rw [extended_heap_self]
    exact grown created
  · rw [extended_heap_of_ne _ _ _ isTarget]
    exact all other created

end Effects

/-- Recording along a selected route opens a flow under the key of the
packet, or extends the flow of an entry. -/
theorem record_cases
    {meter : Meter} {packett : Packet} {route : Route}
    (selects : Selects meter.lookup packett route) :
    (route.opens = true ∧
      ¬ meter.session.Has packett.fiveTuple.key route.count ∧
      meter.record packett route =
        meter.opened packett route.count route.labels) ∨
      (route.opens = false ∧ ∃ entry ∈ meter.session.entries,
        entry.key = (route.tuple packett).key ∧
        entry.count = route.count ∧
        getFlow meter.session (route.tuple packett).key route.count =
          some entry.flow ∧
        meter.record packett route =
          meter.extended packett entry.flow route.labels) := by
  rcases opens_or_found selects with
    ⟨opens, missing⟩ | ⟨closed, flow, found⟩
  · have sameTuple : route.tuple packett = packett.fiveTuple := by
      cases route with
      | reverse =>
          exact absurd opens Bool.false_ne_true
      | _ =>
          rfl
    rw [sameTuple, getFlow_eq_none_iff_not_has] at missing
    exact Or.inl ⟨opens, missing, record_of_opens opens⟩
  · obtain ⟨entry, member, sameKey, sameCount, rfl⟩ :=
      getFlow_eq_some found
    exact Or.inr ⟨closed, entry, member, sameKey, sameCount, found,
      record_of_found closed found⟩

/-- An invariant of the meter is kept by a call when recording along the
selected route and collecting keep it. -/
theorem onPacketReceived_invariant
    {motive : Meter → Prop} {meter : Meter} {frame : Frame}
    (record : ∀ route, frame.parsed.Accepted →
      Selects meter.lookup frame.parsed route →
      motive (meter.record frame.parsed route))
    (collect : ∀ meter, motive meter →
      motive (meter.garbageCollect frame.parsed.time))
    (before : motive meter) :
    motive (onPacketReceived meter frame) := by
  rw [onPacketReceived]
  by_cases accepted : frame.parsed.Accepted
  · obtain ⟨route, selects, received⟩ := meter.receivePacket_spec accepted
    have recorded := record route accepted selects
    rw [received, finished]
    split
    · exact collect _ recorded
    · exact recorded
  · rw [receivePacket_of_not_accepted meter accepted]
    exact before

/-- Every flow that was created has the property. -/
def AllFlows (property : Flow → Prop) (meter : Meter) : Prop :=
  ∀ flow < meter.nextFlow, property (meter.heap flow)

section AllFlows

variable {property : Flow → Prop} {meter : Meter}

theorem allFlows_initial (property : Flow → Prop) (capacity : Nat) :
    (initial capacity).AllFlows property :=
  fun flow created => absurd created (Nat.not_lt_zero flow)

/-- The property is kept when a flow that the route opens has it and
recording keeps it for the flow that the route finds. -/
theorem AllFlows.record_of_route
    (all : meter.AllFlows property) {packett : Packet} {route : Route}
    (selects : Selects meter.lookup packett route)
    (new : route.opens = true →
      property (recordLabels (newFlow packett) packett route.labels))
    (grown : ∀ entry ∈ meter.session.entries, route.opens = false →
      entry.key = (route.tuple packett).key → entry.count = route.count →
      property (meter.heap entry.flow) →
      property (recordLabels (meter.heap entry.flow) packett
        route.labels)) :
    (meter.record packett route).AllFlows property := by
  rcases record_cases selects with
    ⟨opens, -, recorded⟩ |
      ⟨closed, entry, member, sameKey, sameCount, -, recorded⟩
  · rw [recorded]
    exact opened_forall_heap _ _ _ _ property all (new opens)
  · rw [recorded]
    apply extended_forall_heap _ _ _ property all
    intro created
    exact grown entry member closed sameKey sameCount
      (all entry.flow created)

/-- The property is kept when the new flow has it and recording keeps it for
the flow that the route finds. -/
theorem AllFlows.record
    (all : meter.AllFlows property) {packett : Packet} {route : Route}
    (selects : Selects meter.lookup packett route)
    (new : property (recordLabels (newFlow packett) packett route.labels))
    (grown : ∀ entry ∈ meter.session.entries, route.opens = false →
      entry.key = (route.tuple packett).key → entry.count = route.count →
      property (meter.heap entry.flow) →
      property (recordLabels (meter.heap entry.flow) packett
        route.labels)) :
    (meter.record packett route).AllFlows property :=
  all.record_of_route selects (fun _ => new) grown

theorem AllFlows.garbageCollect
    (all : meter.AllFlows property) (latestTime : ℚ) :
    (meter.garbageCollect latestTime).AllFlows property := by
  intro flow created
  rw [garbageCollect_nextFlow] at created
  rw [garbageCollect_heap]
  exact all flow created

/-- A call keeps a property when the flow it opens has it and the flow it
extends keeps it. -/
theorem AllFlows.onPacketReceived
    (all : meter.AllFlows property) {frame : Frame}
    (new : ∀ route : Route, frame.parsed.Accepted →
      property (recordLabels (newFlow frame.parsed) frame.parsed
        route.labels))
    (grown : ∀ route, ∀ entry ∈ meter.session.entries,
      frame.parsed.Accepted → Selects meter.lookup frame.parsed route →
      route.opens = false → entry.key = (route.tuple frame.parsed).key →
      entry.count = route.count → property (meter.heap entry.flow) →
      property (recordLabels (meter.heap entry.flow) frame.parsed
        route.labels)) :
    (UzFlowMeter.onPacketReceived meter frame).AllFlows property :=
  onPacketReceived_invariant
    (fun route accepted selects => all.record selects (new route accepted)
      fun entry member => grown route entry member accepted selects)
    (fun _ recorded => recorded.garbageCollect frame.parsed.time) all

/-- A property that every new flow has and every recording keeps holds of
all flows of a run. -/
theorem allFlows_run
    (start : ∀ packet, property (newFlow packet))
    (grown : ∀ (frame : Frame) (route : Route) (flow : Flow),
      frame.parsed.Accepted → property flow →
      property (recordLabels flow frame.parsed route.labels))
    (capacity : Nat) (frames : List Frame) :
    (run capacity frames).AllFlows property := by
  apply @Runs.run_invariant Meter Frame UzFlowMeter.onPacketReceived
    (AllFlows property)
  · exact allFlows_initial property capacity
  · intro meter frame all
    apply all.onPacketReceived
    · intro route accepted
      exact grown frame route _ accepted (start frame.parsed)
    · intro route entry _ accepted _ _ _ _ before
      exact grown frame route _ accepted before

end AllFlows

/-! ## Live and exported flows -/

/-- The flows that were created: those of the session and the exported
ones. -/
def flows (meter : Meter) : List FlowSnapshot :=
  meter.session.entries.map meter.snapshot ++ meter.exported

/-- The book-keeping invariant of a run. -/
structure Tracked (meter : Meter) : Prop where
  ordered : (meter.session.entries.map Flows.flow).Pairwise (· < ·)
  custody :
    (meter.session.entries.map Flows.flow ++
      meter.exported.map FlowSnapshot.flow).Perm
        (List.range meter.nextFlow)
  frozen : ∀ snapshot ∈ meter.exported,
    snapshot.contents = meter.heap snapshot.flow

namespace Tracked

variable {meter : Meter} (tracked : meter.Tracked)

include tracked

theorem live_lt {entry : Flows} (member : entry ∈ meter.session.entries) :
    entry.flow < meter.nextFlow := by
  apply List.mem_range.mp
  apply tracked.custody.mem_iff.mp
  exact List.mem_append_left _ (List.mem_map_of_mem member)

theorem exported_lt {snapshot : FlowSnapshot}
    (member : snapshot ∈ meter.exported) :
    snapshot.flow < meter.nextFlow := by
  apply List.mem_range.mp
  apply tracked.custody.mem_iff.mp
  exact List.mem_append_right _ (List.mem_map_of_mem member)

theorem pointers_nodup :
    (meter.session.entries.map Flows.flow ++
      meter.exported.map FlowSnapshot.flow).Nodup :=
  tracked.custody.nodup_iff.mpr List.nodup_range

private theorem live_ne_exported
    {entry : Flows} {snapshot : FlowSnapshot}
    (entryMember : entry ∈ meter.session.entries)
    (snapshotMember : snapshot ∈ meter.exported) :
    entry.flow ≠ snapshot.flow :=
  (List.nodup_append.mp tracked.pointers_nodup).2.2 entry.flow
    (List.mem_map_of_mem entryMember) snapshot.flow
    (List.mem_map_of_mem snapshotMember)

/-- Two entries never point to the same flow. -/
theorem entry_eq_of_flow_eq
    {entry other : Flows}
    (entryMember : entry ∈ meter.session.entries)
    (otherMember : other ∈ meter.session.entries)
    (sameFlow : entry.flow = other.flow) : entry = other :=
  List.inj_on_of_nodup_map
    (List.nodup_append.mp tracked.pointers_nodup).1
    entryMember otherMember sameFlow

theorem live_or_exported {flow : FlowPtr} (created : flow < meter.nextFlow) :
    (∃ entry ∈ meter.session.entries, entry.flow = flow) ∨
      ∃ snapshot ∈ meter.exported, snapshot.flow = flow := by
  have inRange := List.mem_range.mpr created
  rcases List.mem_append.mp (tracked.custody.mem_iff.mpr inRange) with
    live | exported
  · exact Or.inl (List.mem_map.mp live)
  · exact Or.inr (List.mem_map.mp exported)

/-- The flows of the meter are the heap up to the next pointer. -/
theorem mem_flows_iff {snapshot : FlowSnapshot} :
    snapshot ∈ meter.flows ↔
      snapshot.flow < meter.nextFlow ∧
        snapshot.contents = meter.heap snapshot.flow := by
  constructor
  · intro member
    rcases List.mem_append.mp member with live | exported
    · obtain ⟨entry, entryMember, rfl⟩ := List.mem_map.mp live
      exact ⟨tracked.live_lt entryMember, rfl⟩
    · exact ⟨tracked.exported_lt exported, tracked.frozen _ exported⟩
  · rintro ⟨created, sameContents⟩
    obtain ⟨flow, contents⟩ := snapshot
    dsimp only at created sameContents
    subst sameContents
    rcases tracked.live_or_exported created with
      ⟨entry, member, rfl⟩ | ⟨earlier, member, rfl⟩
    · exact List.mem_append_left _ (List.mem_map_of_mem member)
    · apply List.mem_append_right
      rw [← tracked.frozen earlier member]
      exact member

theorem forall_flows_iff {property : Flow → Prop} :
    (∀ snapshot ∈ meter.flows, property snapshot.contents) ↔
      ∀ flow < meter.nextFlow, property (meter.heap flow) := by
  constructor
  · intro all flow created
    exact all ⟨flow, meter.heap flow⟩
      (tracked.mem_flows_iff.mpr ⟨created, rfl⟩)
  · intro all snapshot member
    obtain ⟨created, sameContents⟩ := tracked.mem_flows_iff.mp member
    rw [sameContents]
    exact all snapshot.flow created

end Tracked

theorem tracked_initial (capacity : Nat) : (initial capacity).Tracked where
  ordered := List.Pairwise.nil
  custody := List.Perm.nil
  frozen := by
    intro snapshot member
    exact absurd member List.not_mem_nil

theorem Tracked.opened
    {meter : Meter} (tracked : meter.Tracked) (packett : Packet)
    (count : Nat) (labels : List PacketDirection) :
    (meter.opened packett count labels).Tracked where
  ordered := by
    rw [opened_entries, List.map_append, List.pairwise_append]
    refine ⟨tracked.ordered, List.pairwise_singleton _ _, ?_⟩
    intro earlier earlierMember last lastMember
    obtain ⟨entry, member, rfl⟩ := List.mem_map.mp earlierMember
    rw [List.mem_singleton.mp lastMember]
    exact tracked.live_lt member
  custody := by
    rw [opened_entries, List.map_append, List.append_assoc]
    have appended :
        (meter.session.entries.map Flows.flow ++ ([meter.nextFlow] ++
            meter.exported.map FlowSnapshot.flow)).Perm
          ([meter.nextFlow] ++ (meter.session.entries.map Flows.flow ++
            meter.exported.map FlowSnapshot.flow)) :=
      List.perm_append_comm_assoc _ _ _
    have ranged :
        List.range (meter.nextFlow + 1) =
          List.range meter.nextFlow ++ [meter.nextFlow] :=
      List.range_succ
    refine appended.trans ?_
    refine (tracked.custody.append_left [meter.nextFlow]).trans ?_
    refine List.perm_append_comm.trans ?_
    exact ranged ▸ List.Perm.refl _
  frozen := by
    intro snapshot member
    have older : snapshot.flow ≠ meter.nextFlow :=
      Nat.ne_of_lt (tracked.exported_lt member)
    rw [tracked.frozen snapshot member, opened_heap_of_ne _ _ _ _ older]

theorem Tracked.extended
    {meter : Meter} (tracked : meter.Tracked) (packett : Packet)
    {entry : Flows} (member : entry ∈ meter.session.entries)
    (labels : List PacketDirection) :
    (meter.extended packett entry.flow labels).Tracked where
  ordered := tracked.ordered
  custody := tracked.custody
  frozen := by
    intro snapshot snapshotMember
    have other : snapshot.flow ≠ entry.flow :=
      (tracked.live_ne_exported member snapshotMember).symm
    rw [tracked.frozen snapshot snapshotMember,
      extended_heap_of_ne _ _ _ other]

theorem Tracked.record
    {meter : Meter} (tracked : meter.Tracked) {packett : Packet}
    {route : Route} (selects : Selects meter.lookup packett route) :
    (meter.record packett route).Tracked := by
  rcases record_cases selects with
    ⟨-, -, recorded⟩ | ⟨-, entry, member, -, -, -, recorded⟩
  · rw [recorded]
    exact tracked.opened packett route.count route.labels
  · rw [recorded]
    exact tracked.extended packett member route.labels

theorem Tracked.garbageCollect
    {meter : Meter} (tracked : meter.Tracked) (latestTime : ℚ) :
    (meter.garbageCollect latestTime).Tracked where
  ordered := by
    rw [garbageCollect_entries]
    exact tracked.ordered.sublist
      ((meter.collection_sublist latestTime).map Flows.flow)
  custody := by
    have split :=
      (meter.collection_perm latestTime).map Flows.flow
    rw [List.map_append] at split
    have exportedPointers :
        (meter.collection latestTime).2.map
            (FlowSnapshot.flow ∘ meter.snapshot) =
          (meter.collection latestTime).2.map Flows.flow := rfl
    rw [garbageCollect_entries, garbageCollect_exported,
      garbageCollect_nextFlow, List.map_append, List.map_map,
      exportedPointers]
    have regrouped :
        ((meter.collection latestTime).1.map Flows.flow ++
          (meter.exported.map FlowSnapshot.flow ++
            (meter.collection latestTime).2.map Flows.flow)).Perm
          ((meter.collection latestTime).1.map Flows.flow ++
            (meter.collection latestTime).2.map Flows.flow ++
            meter.exported.map FlowSnapshot.flow) := by
      rw [List.append_assoc]
      exact List.perm_append_comm.append_left _
    exact regrouped.trans <|
      (split.append_right _).trans tracked.custody
  frozen := by
    intro snapshot member
    rw [garbageCollect_exported] at member
    rw [garbageCollect_heap]
    rcases List.mem_append.mp member with earlier | now
    · exact tracked.frozen snapshot earlier
    · obtain ⟨entry, -, rfl⟩ := List.mem_map.mp now
      rfl

theorem Tracked.onPacketReceived
    {meter : Meter} (tracked : meter.Tracked) (frame : Frame) :
    (onPacketReceived meter frame).Tracked :=
  onPacketReceived_invariant
    (fun _ _ selects => tracked.record selects)
    (fun _ recorded => recorded.garbageCollect frame.parsed.time) tracked

theorem tracked_run (capacity : Nat) (frames : List Frame) :
    (run capacity frames).Tracked :=
  Runs.run_invariant UzFlowMeter.onPacketReceived (tracked_initial capacity)
    (fun _ frame tracked => tracked.onPacketReceived frame) frames

/-- Every created flow occurs once: in one entry or in one export, and never
in both.  Other pointers occur nowhere. -/
def Accounted (meter : Meter) : Prop :=
  ∀ flow,
    (meter.session.entries.map Flows.flow).count flow +
        (meter.exported.map FlowSnapshot.flow).count flow =
      if flow < meter.nextFlow then 1 else 0

theorem Tracked.accounted {meter : Meter} (tracked : meter.Tracked) :
    meter.Accounted := by
  intro flow
  rw [← List.count_append, tracked.custody.count_eq, List.count_range]

/-- The effect of one round of the collection loop: nothing, or the first
entry under the key is exported and removed, its flow being expired. -/
def ExportsWhatItRemoves (meter : Meter) (latestTime : ℚ) (key : CString)
    (after : Meter) : Prop :=
  (after.session.entries = meter.session.entries ∧
      after.exported = meter.exported) ∨
    ∃ earlier entry later,
      meter.session.entries = earlier ++ entry :: later ∧
      (∀ other ∈ earlier, other.key ≠ key) ∧ entry.key = key ∧
      (meter.heap entry.flow).Expired latestTime ∧
      after.exported = meter.exported ++ [meter.snapshot entry] ∧
      after.session.entries = earlier ++ later

private theorem collectKey_exportsWhatItRemoves
    (meter : Meter) (latestTime : ℚ) (key : CString) :
    meter.ExportsWhatItRemoves latestTime key
      (meter.collectKey latestTime key) := by
  have collected := meter.collectKey_collected latestTime key
  have sameEntries := collected.entries
  have sameExports := collected.exported
  rcases KeySweep.exists_first_or_absent Flows.key key
      meter.session.entries with
    absent | ⟨earlier, entry, later, split, before, matched⟩
  · rw [KeySweep.probe_of_absent _ _ absent] at sameEntries sameExports
    left
    exact ⟨sameEntries, by simpa using sameExports⟩
  · rw [split, KeySweep.probe_of_first _ _ before matched] at sameEntries
    rw [split, KeySweep.probe_of_first _ _ before matched] at sameExports
    by_cases expired : (meter.heap entry.flow).Expired latestTime
    · have isDead : meter.expiredAt latestTime entry = true :=
        decide_eq_true expired
      rw [if_pos isDead] at sameEntries sameExports
      right
      exact ⟨earlier, entry, later, split, before, matched, expired,
        sameExports, sameEntries⟩
    · have alive : ¬ meter.expiredAt latestTime entry = true := by
        simpa [Meter.expiredAt] using expired
      rw [if_neg alive] at sameEntries sameExports
      left
      exact ⟨sameEntries.trans split.symm, by simpa using sameExports⟩

/-- What a whole collection may do: some entries stay, in their order and
with their contents, the others are exported, each of them expired. -/
def KeepsSurvivors (meter : Meter) (latestTime : ℚ) (after : Meter) :
    Prop :=
  after.session.entries.Sublist meter.session.entries ∧
    after.heap = meter.heap ∧
    ∃ removed,
      (after.session.entries ++ removed).Perm meter.session.entries ∧
      after.exported = meter.exported ++ removed.map meter.snapshot ∧
      ∀ entry ∈ removed, (meter.heap entry.flow).Expired latestTime

private theorem garbageCollect_keepsSurvivors
    (meter : Meter) (latestTime : ℚ) :
    meter.KeepsSurvivors latestTime (meter.garbageCollect latestTime) := by
  refine ⟨?_, meter.garbageCollect_heap latestTime,
    (meter.collection latestTime).2, ?_,
    meter.garbageCollect_exported latestTime, ?_⟩
  · rw [garbageCollect_entries]
    exact meter.collection_sublist latestTime
  · rw [garbageCollect_entries]
    exact meter.collection_perm latestTime
  · intro entry member
    exact meter.expired_of_removed latestTime member

private theorem record_exported
    (meter : Meter) (packett : Packet) (route : Route) :
    (meter.record packett route).exported = meter.exported := by
  rw [record]
  split
  · rfl
  · split <;> rfl

/-- A call only adds exports, and only of flows that are expired at the time
of its packet. -/
theorem onPacketReceived_exported
    (meter : Meter) (frame : Frame) :
    ∃ added,
      (onPacketReceived meter frame).exported = meter.exported ++ added ∧
      ∀ snapshot ∈ added, snapshot.contents.Expired frame.parsed.time := by
  rw [onPacketReceived]
  by_cases accepted : frame.parsed.Accepted
  · obtain ⟨route, -, received⟩ := meter.receivePacket_spec accepted
    rw [received, finished]
    split
    · rw [garbageCollect_exported, record_exported]
      refine ⟨_, rfl, ?_⟩
      intro snapshot member
      obtain ⟨entry, removed, rfl⟩ := List.mem_map.mp member
      exact expired_of_removed _ _ removed
    · exact ⟨[], by rw [record_exported, List.append_nil], by simp⟩
  · exact ⟨[], by rw [receivePacket_of_not_accepted meter accepted,
      List.append_nil], by simp⟩

private theorem exported_prefix_run
    (capacity : Nat) (frames later : List Frame) :
    (run capacity frames).exported <+:
      (run capacity (frames ++ later)).exported := by
  induction later using List.reverseRecOn with
  | nil =>
      rw [List.append_nil]
  | append_singleton later last inductionHypothesis =>
      obtain ⟨added, grown, -⟩ :=
        (run capacity (frames ++ later)).onPacketReceived_exported last
      rw [← List.append_assoc, run_concat]
      exact inductionHypothesis.trans ⟨added, grown.symm⟩

private theorem expired_of_exported_run
    (capacity : Nat) (frames : List Frame) :
    ∀ snapshot ∈ (run capacity frames).exported, ∃ frame ∈ frames,
      snapshot.contents.Expired frame.parsed.time := by
  apply Runs.run_induction UzFlowMeter.onPacketReceived
    (motive := fun frames meter => ∀ snapshot ∈ meter.exported,
      ∃ frame ∈ frames, snapshot.contents.Expired frame.parsed.time)
  · intro snapshot member
    exact absurd member List.not_mem_nil
  · intro frames last inductionHypothesis snapshot member
    obtain ⟨added, grown, expired⟩ := onPacketReceived_exported
      (frames.foldl UzFlowMeter.onPacketReceived (initial capacity)) last
    rw [grown] at member
    rcases List.mem_append.mp member with earlier | now
    · obtain ⟨frame, frameMember, wasExpired⟩ :=
        inductionHypothesis snapshot earlier
      exact ⟨frame, List.mem_append_left _ frameMember, wasExpired⟩
    · exact ⟨last, by simp, expired snapshot now⟩

/-- The life of a flow: after every run each created flow is live in exactly
one entry or was exported exactly once, exports are final, and every
collection exports exactly the entries it removes, all of them expired. -/
theorem lifecycle_of_run :
    (∀ capacity frames,
      (run capacity frames).Accounted ∧
        (∀ later, (run capacity frames).exported <+:
          (run capacity (frames ++ later)).exported) ∧
        ∀ snapshot ∈ (run capacity frames).exported, ∃ frame ∈ frames,
          snapshot.contents.Expired frame.parsed.time) ∧
      (∀ meter latestTime key,
        Meter.ExportsWhatItRemoves meter latestTime key
          (meter.collectKey latestTime key)) ∧
      ∀ meter latestTime,
        Meter.KeepsSurvivors meter latestTime
          (meter.garbageCollect latestTime) := by
  refine ⟨?_, collectKey_exportsWhatItRemoves,
    garbageCollect_keepsSurvivors⟩
  intro capacity frames
  exact ⟨(tracked_run capacity frames).accounted,
    exported_prefix_run capacity frames,
    expired_of_exported_run capacity frames⟩

end Meter

end UzFlowMeter
