import UzFlowMeter.FlowSession
import UzFlowMeter.Library.KeySweep
import UzFlowMeter.WireFormat

/-!
# Garbage collection

`garbage_collect` is a key sweep over the entries of the session, where an
entry is dead when its flow is expired.  The entries that stay keep their
order and their flows, the removed ones are exported.  The loop is bounded by
a number of entries that its own removals lower, and it looks entries up by
their key alone; both make it miss expired flows.
-/

namespace UzFlowMeter

/-- The entry that `get_flow_by_its_key` finds. -/
theorem exists_split_of_getFlowByItsKey
    {session : FlowSession} {key : CString} {flow : FlowPtr}
    (found : getFlowByItsKey session key = some flow) :
    ∃ before entry later, session.entries = before ++ entry :: later ∧
      (∀ other ∈ before, other.key ≠ key) ∧ entry.key = key ∧
        entry.flow = flow := by
  obtain ⟨entry, entryFound, sameFlow⟩ := Option.map_eq_some_iff.mp found
  obtain ⟨matched, before, later, split, earlier⟩ :=
    List.find?_eq_some_iff_append.mp entryFound
  refine ⟨before, entry, later, split, ?_, eq_of_beq matched, sameFlow⟩
  intro other member
  simpa using earlier other member

theorem getFlowByItsKey_eq_some
    {session : FlowSession} {key : CString} {flow : FlowPtr}
    (found : getFlowByItsKey session key = some flow) :
    ∃ entry ∈ session.entries, entry.key = key ∧ entry.flow = flow := by
  obtain ⟨before, entry, later, split, -, matched, sameFlow⟩ :=
    exists_split_of_getFlowByItsKey found
  refine ⟨entry, ?_, matched, sameFlow⟩
  rw [split]
  exact List.mem_append_right _ List.mem_cons_self

section Deletion

variable {session : FlowSession} {key : CString}

theorem deleteFlowByKey_entries (session : FlowSession) (key : CString) :
    (deleteFlowByKey session key).1.entries =
      session.entries.eraseP fun entry => entry.key == key := by
  rw [deleteFlowByKey]
  split_ifs with present
  · rfl
  · symm
    apply List.eraseP_of_forall_not
    intro entry member matched
    exact present (List.any_eq_true.mpr ⟨entry, member, matched⟩)

theorem deleteFlowByKey_of_absent
    (absent : ∀ entry ∈ session.entries, entry.key ≠ key) :
    deleteFlowByKey session key = (session, 0) := by
  rw [deleteFlowByKey]
  apply if_neg
  simpa using absent

theorem deleteFlowByKey_of_first
    {before later : List Flows} {entry : Flows}
    (split : session.entries = before ++ entry :: later)
    (earlier : ∀ other ∈ before, other.key ≠ key)
    (matched : entry.key = key) :
    deleteFlowByKey session key =
      ({ session with flows := session.flows.withItems (before ++ later) },
        1) := by
  have present : session.entries.any (fun entry => entry.key == key) =
      true := by
    rw [split, List.any_append, List.any_cons, matched]
    simp
  rw [deleteFlowByKey, if_pos present, split,
    KeySweep.eraseP_of_first earlier matched]

end Deletion

namespace Meter

/-- Whether the flow of an entry is expired. -/
def expiredAt (meter : Meter) (latestTime : ℚ) (entry : Flows) : Bool :=
  decide ((meter.heap entry.flow).Expired latestTime)

/-- The flow of an entry with its present contents. -/
def snapshot (meter : Meter) (entry : Flows) : FlowSnapshot :=
  ⟨entry.flow, meter.heap entry.flow⟩

/-- The split of the entries by a collection: those that stay and those that
are removed. -/
def collection (meter : Meter) (latestTime : ℚ) :
    List Flows × List Flows :=
  KeySweep.sweep Flows.key (meter.expiredAt latestTime)
    meter.session.entries

/-- A collection that keeps some entries and removes others changes nothing
but the array of entries and the list of exports. -/
structure Collected (meter after : Meter) (kept removed : List Flows) :
    Prop where
  entries : after.session.entries = kept
  exported :
    after.exported = meter.exported ++ removed.map meter.snapshot
  heap : after.heap = meter.heap
  nextFlow : after.nextFlow = meter.nextFlow
  packetCount : after.session.packetCount = meter.session.packetCount
  collections : after.collections = meter.collections

theorem Collected.refl (meter : Meter) :
    Collected meter meter meter.session.entries [] :=
  ⟨rfl, by simp, rfl, rfl, rfl, rfl⟩

theorem Collected.trans
    {first second third : Meter}
    {keptFirst keptSecond removedFirst removedSecond : List Flows}
    (before : Collected first second keptFirst removedFirst)
    (after : Collected second third keptSecond removedSecond) :
    Collected first third keptSecond (removedFirst ++ removedSecond) where
  entries := after.entries
  exported := by
    have sameExport : second.snapshot = first.snapshot := by
      funext entry
      rw [snapshot, snapshot, before.heap]
    rw [after.exported, before.exported, sameExport, List.map_append,
      List.append_assoc]
  heap := after.heap.trans before.heap
  nextFlow := after.nextFlow.trans before.nextFlow
  packetCount := after.packetCount.trans before.packetCount
  collections := after.collections.trans before.collections

theorem Collected.expiredAt_eq
    {meter after : Meter} {kept removed : List Flows}
    (collected : Collected meter after kept removed) (latestTime : ℚ) :
    after.expiredAt latestTime = meter.expiredAt latestTime := by
  funext entry
  rw [Meter.expiredAt, Meter.expiredAt, collected.heap]

/-- One round of the loop is one lookup of the sweep. -/
theorem collectKey_collected
    (meter : Meter) (latestTime : ℚ) (key : CString) :
    Collected meter (meter.collectKey latestTime key)
      (KeySweep.probe Flows.key (meter.expiredAt latestTime) key
        meter.session.entries).1
      (KeySweep.probe Flows.key (meter.expiredAt latestTime) key
        meter.session.entries).2 := by
  rw [collectKey_eq, getFlowByItsKey, KeySweep.probe]
  cases found :
      meter.session.entries.find? (fun entry => entry.key == key) with
  | none =>
      exact Collected.refl meter
  | some entry =>
      have present :
          meter.session.entries.any (fun other => other.key == key) =
            true := by
        apply List.any_eq_true.mpr
        exact ⟨entry, List.mem_of_find?_eq_some found,
          by simpa using List.find?_some found⟩
      by_cases expired : (meter.heap entry.flow).Expired latestTime
      · have isDead : meter.expiredAt latestTime entry = true :=
          decide_eq_true expired
        simp only [Option.map_some, expired, isDead, if_true,
          deleteFlowByKey, UzFlowMeter.deleteFlowByKey, getData, present]
        exact ⟨rfl, by simp [snapshot], rfl, rfl, rfl, rfl⟩
      · have alive : meter.expiredAt latestTime entry = false :=
          decide_eq_false expired
        simp only [Option.map_some, expired, alive, Bool.false_eq_true,
          if_false]
        exact Collected.refl meter

private theorem collectKeys_collected
    (latestTime : ℚ) (keys : List CString) (i : Nat) (meter : Meter) :
    Collected meter (collectKeys latestTime keys i meter)
      (KeySweep.sweepFrom Flows.key (meter.expiredAt latestTime) keys i
        meter.session.entries).1
      (KeySweep.sweepFrom Flows.key (meter.expiredAt latestTime) keys i
        meter.session.entries).2 := by
  induction keys generalizing i meter with
  | nil =>
      exact Collected.refl meter
  | cons key keys inductionHypothesis =>
      rw [collectKeys_cons, KeySweep.sweepFrom]
      by_cases inside : i < meter.session.flowCount
      · have insideEntries : i < meter.session.entries.length := inside
        have probed := collectKey_collected meter latestTime key
        have swept :=
          inductionHypothesis (i + 1) (meter.collectKey latestTime key)
        rw [probed.expiredAt_eq, probed.entries] at swept
        simp only [inside, insideEntries, if_true]
        exact probed.trans swept
      · have outsideEntries : ¬ i < meter.session.entries.length := inside
        simp only [inside, outsideEntries, if_false]
        exact Collected.refl meter

/-- `garbage_collect` keeps and removes what the sweep does. -/
theorem garbageCollect_collected (meter : Meter) (latestTime : ℚ) :
    Collected meter.announce
      (meter.garbageCollect latestTime)
      (meter.collection latestTime).1 (meter.collection latestTime).2 :=
  collectKeys_collected latestTime (getFlowKeys meter.session) 0
    meter.announce

section Effects

variable (meter : Meter) (latestTime : ℚ)

@[simp]
theorem garbageCollect_entries :
    (meter.garbageCollect latestTime).session.entries =
      (meter.collection latestTime).1 :=
  (garbageCollect_collected meter latestTime).entries

@[simp]
theorem garbageCollect_exported :
    (meter.garbageCollect latestTime).exported =
      meter.exported ++ (meter.collection latestTime).2.map meter.snapshot :=
  (garbageCollect_collected meter latestTime).exported

@[simp]
theorem garbageCollect_heap :
    (meter.garbageCollect latestTime).heap = meter.heap :=
  (garbageCollect_collected meter latestTime).heap

@[simp]
theorem garbageCollect_nextFlow :
    (meter.garbageCollect latestTime).nextFlow = meter.nextFlow :=
  (garbageCollect_collected meter latestTime).nextFlow

@[simp]
theorem garbageCollect_packetCount :
    (meter.garbageCollect latestTime).session.packetCount =
      meter.session.packetCount :=
  (garbageCollect_collected meter latestTime).packetCount

@[simp]
theorem garbageCollect_collections :
    (meter.garbageCollect latestTime).collections =
      meter.collections + 1 :=
  (garbageCollect_collected meter latestTime).collections

theorem collection_sublist :
    (meter.collection latestTime).1.Sublist meter.session.entries :=
  KeySweep.sweepFrom_sublist _ _ _ _ _

theorem collection_perm :
    ((meter.collection latestTime).1 ++
      (meter.collection latestTime).2).Perm meter.session.entries :=
  KeySweep.sweepFrom_perm _ _ _ _ _

theorem mem_entries_of_kept {entry : Flows}
    (member : entry ∈ (meter.collection latestTime).1) :
    entry ∈ meter.session.entries :=
  (meter.collection_sublist latestTime).subset member

theorem expired_of_removed {entry : Flows}
    (member : entry ∈ (meter.collection latestTime).2) :
    (meter.heap entry.flow).Expired latestTime :=
  of_decide_eq_true <|
    KeySweep.sweepFrom_removed_dead Flows.key (meter.expiredAt latestTime)
      _ _ _ entry member

end Effects

private theorem not_expired_iff {latestTime : ℚ} {flow : Flow} :
    ¬ flow.Expired latestTime ↔
      latestTime - flow.latestTimestamp ≤ expiredUpdate ∧
        getDuration flow ≤ 90 := by
  rw [Flow.Expired, not_or, not_lt, not_lt]

/-- Under every key the expired flows precede the others. -/
def ExpiredFirst (meter : Meter) (latestTime : ℚ) : Prop :=
  KeySweep.DeadFirst Flows.key (meter.expiredAt latestTime)
    meter.session.entries

/-- From every expired flow on there are at least as many entries as there
are expired flows, so that the removals before it do not end the loop. -/
def ExpiredInReach (meter : Meter) (latestTime : ℚ) : Prop :=
  KeySweep.DeadInReach (meter.expiredAt latestTime) meter.session.entries

/-- Which states a collection leaves without an expired flow. -/
theorem garbageCollect_complete_iff (meter : Meter) (latestTime : ℚ) :
    (∀ entry ∈ (meter.garbageCollect latestTime).session.entries,
      latestTime -
            ((meter.garbageCollect latestTime).heap
              entry.flow).latestTimestamp ≤ expiredUpdate ∧
        getDuration ((meter.garbageCollect latestTime).heap entry.flow) ≤
          90) ↔
      meter.ExpiredFirst latestTime ∧ meter.ExpiredInReach latestTime := by
  have swept := KeySweep.sweep_complete_iff Flows.key
    (meter.expiredAt latestTime) meter.session.entries
  have alive : ∀ entry : Flows,
      meter.expiredAt latestTime entry = false ↔
        latestTime - (meter.heap entry.flow).latestTimestamp ≤
            expiredUpdate ∧
          getDuration (meter.heap entry.flow) ≤ 90 := by
    intro entry
    rw [expiredAt, decide_eq_false_iff_not, not_expired_iff]
  simp only [garbageCollect_entries, garbageCollect_heap, ← alive]
  exact swept

/-- Two conversations that are both expired: the first removal ends the
loop, and the second flow stays. -/
theorem garbageCollect_leaves_expired :
    ¬ ∀ entry ∈ ((run 10 [clientFrame 1, otherClientFrame 1]).garbageCollect
        100).session.entries,
      100 - (((run 10 [clientFrame 1, otherClientFrame 1]).garbageCollect
          100).heap entry.flow).latestTimestamp ≤ expiredUpdate ∧
        getDuration (((run 10 [clientFrame 1,
          otherClientFrame 1]).garbageCollect 100).heap entry.flow) ≤
            90 := by
  decide +kernel

end Meter

end UzFlowMeter
