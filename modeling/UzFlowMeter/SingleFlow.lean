import UzFlowMeter.RecordedFlows

/-!
# A brief conversation is a single flow

Packets of one orientation that come no later after the first one than the
update interval are all recorded in the flow that the first one opens, and
no collection removes that flow.
-/

namespace UzFlowMeter

namespace Meter

private theorem collection_of_alive
    {meter : Meter} {latestTime : ℚ}
    (alive : ∀ entry ∈ meter.session.entries,
      ¬ (meter.heap entry.flow).Expired latestTime) :
    (meter.collection latestTime).1 = meter.session.entries := by
  have split := meter.collection_perm latestTime
  have nothing : (meter.collection latestTime).2 = [] := by
    apply List.eq_nil_iff_forall_not_mem.mpr
    intro entry removed
    apply alive entry
    · exact split.mem_iff.mp (List.mem_append_right _ removed)
    · exact meter.expired_of_removed latestTime removed
  rw [nothing, List.append_nil] at split
  exact (meter.collection_sublist latestTime).eq_of_length split.length_eq

private theorem finished_heap
    (meter : Meter) (packett : Packet) (route : Route) :
    (meter.finished packett route).heap =
      (meter.record packett route).heap := by
  rw [finished]
  split
  · exact garbageCollect_heap _ _
  · rfl

private theorem finished_nextFlow (meter : Meter) (packett : Packet)
    (route : Route) :
    (meter.finished packett route).nextFlow =
      (meter.record packett route).nextFlow := by
  rw [finished]
  split
  · exact garbageCollect_nextFlow _ _
  · rfl

private theorem finished_entries_of_alive
    {meter : Meter} {packett : Packet} {route : Route}
    (alive : ∀ entry ∈ (meter.record packett route).session.entries,
      ¬ ((meter.record packett route).heap entry.flow).Expired
        packett.time) :
    (meter.finished packett route).session.entries =
      (meter.record packett route).session.entries := by
  rw [finished]
  split
  · rw [garbageCollect_entries, collection_of_alive alive]
  · rfl

/-- The frames bring accepted packets of one orientation, in order, none of
them longer after the first one than the update interval. -/
structure Brief (first : Frame) (frames : List Frame) : Prop where
  accepted : ∀ frame ∈ first :: frames, frame.parsed.Accepted
  sameTuple : ∀ frame ∈ first :: frames,
    frame.parsed.fiveTuple = first.parsed.fiveTuple
  near : ∀ frame ∈ first :: frames,
    frame.parsed.time ≤ first.parsed.time + expiredUpdate
  chronological : Chronological (first :: frames)
  timed : Timed (first :: frames)

/-- The pairs of such a conversation: the first packet is recorded twice. -/
def briefPairs (first : Frame) (frames : List Frame) : List Pair :=
  (first :: first :: frames).map fun frame => ⟨frame.parsed, .forward⟩

/-- The session has one entry, whose flow is the first one that was created
and has the pairs of the conversation. -/
structure SingleFlow (meter : Meter) (first : Frame)
    (frames : List Frame) : Prop where
  entries :
    meter.session.entries = [⟨first.parsed.fiveTuple.key, 0, 0⟩]
  pairs : (meter.heap 0).pairs = briefPairs first frames

theorem SingleFlow.member
    {meter : Meter} {first : Frame} {frames : List Frame}
    (single : meter.SingleFlow first frames) :
    (⟨first.parsed.fiveTuple.key, 0, 0⟩ : Flows) ∈
      meter.session.entries := by
  rw [single.entries]
  exact List.mem_singleton_self _

theorem SingleFlow.created
    {meter : Meter} {first : Frame} {frames : List Frame}
    (single : meter.SingleFlow first frames) (tracked : meter.Tracked) :
    0 < meter.nextFlow :=
  tracked.live_lt single.member

theorem Brief.earlier
    {first last : Frame} {frames : List Frame}
    (brief : Brief first (frames ++ [last])) : Brief first frames := by
  have inside : ∀ frame ∈ first :: frames,
      frame ∈ first :: (frames ++ [last]) := by
    intro frame member
    rw [← List.cons_append]
    exact List.mem_append_left _ member
  refine ⟨?_, ?_, ?_, ?_, ?_⟩
  · exact fun frame member => brief.accepted frame (inside frame member)
  · exact fun frame member => brief.sameTuple frame (inside frame member)
  · exact fun frame member => brief.near frame (inside frame member)
  · have whole := brief.chronological
    rw [← List.cons_append, Chronological, List.pairwise_append] at whole
    exact whole.1
  · exact fun frame member => brief.timed frame (inside frame member)

section Brief

variable {first : Frame} {frames : List Frame} (brief : Brief first frames)

include brief

private theorem Brief.times_near :
    ∀ time ∈ timesOf (briefPairs first frames),
      first.parsed.time ≤ time ∧
        time ≤ first.parsed.time + expiredUpdate := by
  have later : ∀ frame ∈ first :: frames,
      first.parsed.time ≤ frame.parsed.time := by
    intro frame member
    rcases List.mem_cons.mp member with rfl | inRest
    · exact le_refl _
    · exact (List.pairwise_cons.mp brief.chronological).1 frame inRest
        (brief.accepted first List.mem_cons_self)
        (brief.accepted frame member)
  intro time member
  rw [timesOf, briefPairs, List.map_map] at member
  obtain ⟨frame, frameMember, rfl⟩ := List.mem_map.mp member
  have inFrames : frame ∈ first :: frames := by
    rcases List.mem_cons.mp frameMember with rfl | inFrames
    · exact List.mem_cons_self
    · exact inFrames
  exact ⟨later frame inFrames, brief.near frame inFrames⟩

private theorem Brief.first_le_latest
    {flow : Flow} (recorded : flow.Recorded)
    (inOrder : InOrder (timesOf flow.pairs))
    (pairs : flow.pairs = briefPairs first frames) :
    first.parsed.time ≤ flow.latestTimestamp := by
  rw [recorded.latest, flowOf_latestTimestamp inOrder, pairs]
  exact (brief.times_near _ List.getLastD_mem_cons).1

/-- The flow of a brief conversation is not expired. -/
theorem Brief.alive
    {flow : Flow} (recorded : flow.Recorded)
    (inOrder : InOrder (timesOf flow.pairs))
    (pairs : flow.pairs = briefPairs first frames) {latestTime : ℚ}
    (near : latestTime ≤ first.parsed.time + expiredUpdate) :
    ¬ flow.Expired latestTime := by
  have latest := brief.first_le_latest recorded inOrder pairs
  have duration : getDuration flow ≤ expiredUpdate := by
    rw [getDuration_of_sorted inOrder.sorted, pairs]
    have gapsLe := Gaps.sum_gaps_le
      (le_add_of_nonneg_right (by decide : 0 ≤ expiredUpdate))
      brief.times_near
    linarith
  rintro (old | long)
  · linarith
  · rw [expiredUpdate] at duration
    linarith

/-- What a run has made of a brief conversation, given the state in which its
last packet was recorded. -/
theorem Brief.singleFlow_of_record
    {capacity : Nat} {meter : Meter} {last : Frame} {route : Route}
    (tracked : (meter.record last.parsed route).Tracked)
    (member : last ∈ first :: frames)
    (received : run capacity (first :: frames) =
      meter.finished last.parsed route)
    (single : (meter.record last.parsed route).SingleFlow first frames) :
    (run capacity (first :: frames)).SingleFlow first frames := by
  have created : 0 < (run capacity (first :: frames)).nextFlow := by
    rw [received, finished_nextFlow]
    exact single.created tracked
  have recorded := recorded_run capacity (first :: frames) 0 created
  have inOrder := inOrder_run brief.chronological brief.timed capacity 0
    created
  rw [received, finished_heap] at recorded inOrder
  rw [received]
  constructor
  · rw [finished_entries_of_alive, single.entries]
    intro entry live
    rw [single.entries] at live
    rw [List.mem_singleton.mp live]
    exact brief.alive recorded inOrder single.pairs (brief.near last member)
  · rw [finished_heap]
    exact single.pairs

end Brief

/-- The first packet opens the flow. -/
theorem Brief.singleFlow_first
    {first : Frame} (brief : Brief first []) (capacity : Nat) :
    (run capacity [first]).SingleFlow first [] := by
  have accepted := brief.accepted first List.mem_cons_self
  have selects : Selects (initial capacity).lookup first.parsed .fresh :=
    ⟨rfl, rfl⟩
  obtain ⟨route, taken, received⟩ :=
    (initial capacity).receivePacket_spec accepted
  rw [taken.unique selects] at received
  apply brief.singleFlow_of_record
    ((tracked_initial capacity).record selects) List.mem_cons_self received
  rw [record_of_opens rfl]
  constructor
  · rw [opened_entries]
    rfl
  · exact recordLabels_pairs _ _ _

/-- Every other packet is recorded in it. -/
theorem Brief.singleFlow_concat
    {first last : Frame} {frames : List Frame}
    (brief : Brief first (frames ++ [last])) {capacity : Nat}
    (single : (run capacity (first :: frames)).SingleFlow first frames) :
    (run capacity (first :: (frames ++ [last]))).SingleFlow first
      (frames ++ [last]) := by
  have member : last ∈ first :: (frames ++ [last]) := by simp
  have tracked := tracked_run capacity (first :: frames)
  have created := single.created tracked
  have found : getFlow (run capacity (first :: frames)).session
      last.parsed.fiveTuple.key 0 = some 0 := by
    rw [brief.sameTuple last member]
    exact (distinct_run capacity (first :: frames)).getFlow_eq
      single.member
  have latest := brief.earlier.first_le_latest
    (recorded_run capacity (first :: frames) 0 created)
    (inOrder_run brief.earlier.chronological brief.earlier.timed capacity 0
      created) single.pairs
  have near := brief.near last member
  have selects : Selects (run capacity (first :: frames)).lookup
      last.parsed .forward :=
    ⟨_, lookup_eq_some_iff.mpr ⟨0, found, rfl⟩, by linarith⟩
  obtain ⟨route, taken, received⟩ :=
    (run capacity (first :: frames)).receivePacket_spec
      (brief.accepted last member)
  rw [taken.unique selects] at received
  have extended :
      (run capacity (first :: frames)).record last.parsed .forward =
        (run capacity (first :: frames)).extended last.parsed 0
          [.forward] := record_of_found rfl found
  apply brief.singleFlow_of_record (tracked.record selects) member
  · rw [← List.cons_append, run_concat]
    exact received
  · rw [extended]
    constructor
    · exact single.entries
    · rw [extended_heap_self, recordLabels_pairs, single.pairs, briefPairs,
        briefPairs, ← List.cons_append, ← List.cons_append,
        List.map_append]
      rfl

/-- After a brief conversation the session has one flow, and all packets are
recorded there. -/
theorem Brief.singleFlow
    {first : Frame} {frames : List Frame} (brief : Brief first frames)
    (capacity : Nat) :
    (run capacity (first :: frames)).SingleFlow first frames := by
  induction frames using List.reverseRecOn with
  | nil =>
      exact brief.singleFlow_first capacity
  | append_singleton frames last inductionHypothesis =>
      exact brief.singleFlow_concat (inductionHypothesis brief.earlier)

end Meter

end UzFlowMeter
