import UzFlowMeter.Isolation
import UzFlowMeter.Library.SweepProgress

/-!
# The session as queues of flows

Under every key the entries of the session are a queue.  `add_flow` puts an
entry at the end of its queue, `delete_flow_by_key` takes the head away, and
the searches by key look at the head.  Flows of one five-tuple leave the
session in the order in which they were created.
-/

namespace UzFlowMeter

/-- `find_flow_by_key`. -/
def findFlowByKey (session : FlowSession) (key : CString) : Int :=
  match session.entries.findIdx? fun entry => entry.key == key with
  | some index => index
  | none => -1

/-- The entries under a key. -/
def FlowSession.queue (session : FlowSession) (key : CString) :
    List Flows :=
  KeyQueues.queue Flows.key key session.entries

/-- What the functions of the session do to the queue of one key, and what
they find in it. -/
structure ActsOnQueue (session : FlowSession) (key : CString) : Prop where
  added : ∀ flowKey flow count,
    (addFlow session flowKey flow count).queue key =
      if flowKey = key then session.queue key ++ [⟨flowKey, count, flow⟩]
      else session.queue key
  deleted : ∀ other,
    (deleteFlowByKey session other).1.queue key =
      if other = key then (session.queue key).tail else session.queue key
  result : (deleteFlowByKey session key).2 =
    if session.queue key = [] then 0 else 1
  head : getFlowByItsKey session key =
    (session.queue key).head?.map Flows.flow
  segment : ∀ count, getFlow session key count =
    ((session.queue key).find? fun entry => entry.count == count).map
      Flows.flow
  missing : findFlowByKey session key = -1 ↔ session.queue key = []
  position : ∀ index : Nat, findFlowByKey session key = index →
    session.entries[index]? = (session.queue key).head? ∧
      (deleteFlowByKey session key).1.entries =
        session.entries.eraseIdx index

section Queues

variable (session : FlowSession) (key : CString)

private theorem addFlow_queue
    (flowKey : CString) (flow : FlowPtr) (count : Nat) :
    (addFlow session flowKey flow count).queue key =
      if flowKey = key then session.queue key ++ [⟨flowKey, count, flow⟩]
      else session.queue key := by
  rw [FlowSession.queue, addFlow_entries, KeyQueues.queue_append]
  split_ifs with same
  · subst same
    exact congrArg _ (KeyQueues.queue_singleton_self _)
  · rw [KeyQueues.queue_singleton_of_ne same, List.append_nil]
    rfl

private theorem deleteFlowByKey_queue (other : CString) :
    (deleteFlowByKey session other).1.queue key =
      if other = key then (session.queue key).tail
      else session.queue key := by
  rw [FlowSession.queue, deleteFlowByKey_entries]
  split_ifs with same
  · subst same
    exact KeyQueues.queue_eraseP_self _ _
  · exact KeyQueues.queue_eraseP_of_ne (fun equal => same equal.symm) _

private theorem deleteFlowByKey_result :
    (deleteFlowByKey session key).2 =
      if session.queue key = [] then 0 else 1 := by
  have present :
      session.entries.any (fun entry => entry.key == key) = true ↔
        session.queue key ≠ [] := by
    rw [FlowSession.queue, Ne, KeyQueues.queue_eq_nil_iff]
    simp
  rw [deleteFlowByKey]
  split_ifs with found empty empty
  · exact absurd empty (present.mp found)
  · rfl
  · rfl
  · exact absurd (present.mpr empty) found

theorem getFlowByItsKey_eq_head :
    getFlowByItsKey session key =
      (session.queue key).head?.map Flows.flow := by
  rw [getFlowByItsKey, FlowSession.queue, KeyQueues.head?_queue]

private theorem getFlow_eq_find (count : Nat) :
    getFlow session key count =
      ((session.queue key).find? fun entry => entry.count == count).map
        Flows.flow := by
  rw [getFlow, FlowSession.queue, KeyQueues.queue, List.find?_filter]
  simp only [Bool.decide_and, Bool.decide_eq_true]

/-- The table splits at the entry that `find_flow_by_key` finds. -/
theorem findFlowByKey_cases :
    (session.queue key = [] ∧ findFlowByKey session key = -1) ∨
      ∃ earlier entry later,
        session.entries = earlier ++ entry :: later ∧
        (∀ other ∈ earlier, other.key ≠ key) ∧ entry.key = key ∧
        (session.queue key).head? = some entry ∧
        findFlowByKey session key = earlier.length := by
  rw [findFlowByKey]
  cases queued : session.queue key with
  | nil =>
      left
      rw [KeySweep.findIdx?_of_absent (KeyQueues.queue_eq_nil_iff.mp queued)]
      exact ⟨rfl, rfl⟩
  | cons entry rest =>
      right
      obtain ⟨earlier, later, split, others, own, -⟩ :=
        KeyQueues.exists_split_of_queue_cons queued
      refine ⟨earlier, entry, later, split, others, own, rfl, ?_⟩
      rw [split, KeySweep.findIdx?_of_first others own]

/-- The session is a family of queues, one for each key. -/
theorem actsOnQueue : ActsOnQueue session key where
  added := addFlow_queue session key
  deleted := deleteFlowByKey_queue session key
  result := deleteFlowByKey_result session key
  head := getFlowByItsKey_eq_head session key
  segment := getFlow_eq_find session key
  missing := by
    rcases findFlowByKey_cases session key with
      ⟨empty, missing⟩ | ⟨earlier, entry, later, -, -, -, head, found⟩
    · exact iff_of_true missing empty
    · refine iff_of_false ?_ ?_
      · omega
      · intro empty
        rw [empty] at head
        cases head
  position := by
    intro index atIndex
    rcases findFlowByKey_cases session key with
      ⟨-, missing⟩ | ⟨earlier, entry, later, split, others, own, head, found⟩
    · omega
    · obtain rfl : earlier.length = index := by omega
      rw [deleteFlowByKey_entries, head, split,
        KeySweep.eraseP_of_first others own]
      refine ⟨by simp, ?_⟩
      rw [List.eraseIdx_append_of_length_le (Nat.le_refl _), Nat.sub_self,
        List.eraseIdx_cons_zero]

end Queues

namespace Meter

/-- The flows of a five-tuple, in the order of their creation. -/
def createdUnder (meter : Meter) (tuple : FiveTuple) : List FlowPtr :=
  (List.range meter.nextFlow).filter fun flow =>
    (meter.heap flow).fiveTuple = tuple

/-- The exported flows of a five-tuple, in the order of their export. -/
def exportedUnder (meter : Meter) (tuple : FiveTuple) : List FlowPtr :=
  (meter.exported.filter fun snapshot =>
    snapshot.contents.fiveTuple = tuple).map FlowSnapshot.flow

/-- The live flows under the key of a five-tuple, in the order of the
session. -/
def liveUnder (meter : Meter) (tuple : FiveTuple) : List FlowPtr :=
  (meter.session.queue tuple.key).map Flows.flow

/-- What came in is what went out followed by what is there. -/
def FirstInFirstOut (meter : Meter) : Prop :=
  ∀ tuple : FiveTuple, tuple.WellFormed →
    meter.createdUnder tuple =
      meter.exportedUnder tuple ++ meter.liveUnder tuple

private theorem firstInFirstOut_initial (capacity : Nat) :
    (initial capacity).FirstInFirstOut := by
  intro tuple _
  rfl

theorem FirstInFirstOut.opened
    {meter : Meter} (inOrder : meter.FirstInFirstOut) {packett : Packet}
    (wellFormed : packett.fiveTuple.WellFormed) (count : Nat)
    (labels : List PacketDirection) :
    (meter.opened packett count labels).FirstInFirstOut := by
  intro tuple tupleFormed
  have older : ∀ flow ∈ List.range meter.nextFlow,
      decide (((meter.opened packett count labels).heap flow).fiveTuple =
          tuple) =
        decide ((meter.heap flow).fiveTuple = tuple) := by
    intro flow member
    rw [opened_heap_of_ne]
    exact Nat.ne_of_lt (List.mem_range.mp member)
  have created :
      (meter.opened packett count labels).createdUnder tuple =
        meter.createdUnder tuple ++
          if packett.fiveTuple = tuple then [meter.nextFlow] else [] := by
    have more : (meter.opened packett count labels).nextFlow =
        meter.nextFlow + 1 := rfl
    rw [createdUnder, more, List.range_succ, List.filter_append,
      List.filter_congr older, List.filter_singleton, opened_heap_new,
      recordLabels_newFlow_fiveTuple, createdUnder, Bool.cond_decide]
  have live :
      (meter.opened packett count labels).liveUnder tuple =
        meter.liveUnder tuple ++
          if packett.fiveTuple = tuple then [meter.nextFlow] else [] := by
    have filedUnder :
        (meter.opened packett count labels).session.queue tuple.key =
          if packett.fiveTuple.key = tuple.key then
            meter.session.queue tuple.key ++
              [⟨packett.fiveTuple.key, count, meter.nextFlow⟩]
          else meter.session.queue tuple.key :=
      addFlow_queue meter.countPacket.session tuple.key _ _ _
    rw [liveUnder, filedUnder, liveUnder]
    by_cases same : packett.fiveTuple = tuple
    · rw [if_pos (congrArg FiveTuple.key same), if_pos same, List.map_append]
      rfl
    · have otherKey : packett.fiveTuple.key ≠ tuple.key := fun equal =>
        same ((FiveTuple.key_inj wellFormed tupleFormed).mp equal)
      rw [if_neg otherKey, if_neg same, List.append_nil]
  have exported :
      (meter.opened packett count labels).exportedUnder tuple =
        meter.exportedUnder tuple := rfl
  rw [created, live, exported, inOrder tuple tupleFormed, List.append_assoc]

private theorem Filed.firstInFirstOut_record
    {meter : Meter} (filed : meter.Filed)
    (inOrder : meter.FirstInFirstOut) {packett : Packet}
    (wellFormed : packett.fiveTuple.WellFormed) {route : Route}
    (selects : Selects meter.lookup packett route) :
    (meter.record packett route).FirstInFirstOut := by
  rcases record_cases selects with
    ⟨-, -, recorded⟩ | ⟨-, entry, member, sameKey, -, -, recorded⟩
  · rw [recorded]
    exact FirstInFirstOut.opened inOrder wellFormed _ _
  · have sameTuple := filed.fiveTuple_of_key member
      (Route.tuple_wellFormed wellFormed route) sameKey
    have sameProtocol :
        packett.protocol = (meter.heap entry.flow).protocol := by
      have protocol := congrArg FiveTuple.protocol sameTuple
      cases route <;> exact protocol.symm
    intro tuple tupleFormed
    have created :
        (meter.extended packett entry.flow route.labels).createdUnder
            tuple =
          meter.createdUnder tuple := by
      simp only [createdUnder, extended_fiveTuple sameProtocol,
        extended_nextFlow]
    rw [recorded, created]
    exact inOrder tuple tupleFormed

/-- The entries of a five-tuple are those whose snapshots have it. -/
theorem Filed.map_flow_filter_snapshot
    {meter : Meter} (filed : meter.Filed) {entries : List Flows}
    (present : ∀ entry ∈ entries, entry ∈ meter.session.entries)
    {tuple : FiveTuple} (wellFormed : tuple.WellFormed) :
    ((entries.map meter.snapshot).filter fun snapshot =>
        snapshot.contents.fiveTuple = tuple).map FlowSnapshot.flow =
      (KeyQueues.queue Flows.key tuple.key entries).map Flows.flow := by
  have sameTest : ∀ entry ∈ entries,
      decide ((meter.heap entry.flow).fiveTuple = tuple) =
        (entry.key == tuple.key) := by
    intro entry member
    have live := present entry member
    have flowFormed := filed.wellFormed entry.flow (filed.live_lt live)
    rw [filed.keyed entry live, Bool.eq_iff_iff, decide_eq_true_eq,
      beq_iff_eq]
    exact (FiveTuple.key_inj flowFormed wellFormed).symm
  rw [List.filter_map, List.map_map, KeyQueues.queue,
    ← List.filter_congr sameTest]
  rfl

private theorem Filed.firstInFirstOut_garbageCollect
    {meter : Meter} (filed : meter.Filed)
    (inOrder : meter.FirstInFirstOut) (latestTime : ℚ) :
    (meter.garbageCollect latestTime).FirstInFirstOut := by
  intro tuple wellFormed
  have removed : ∀ entry ∈ (meter.collection latestTime).2,
      entry ∈ meter.session.entries := fun entry member =>
    (meter.collection_perm latestTime).mem_iff.mp
      (List.mem_append_right _ member)
  have created :
      (meter.garbageCollect latestTime).createdUnder tuple =
        meter.createdUnder tuple := by
    rw [createdUnder, garbageCollect_nextFlow, garbageCollect_heap,
      createdUnder]
  have exported :
      (meter.garbageCollect latestTime).exportedUnder tuple =
        meter.exportedUnder tuple ++
          (KeyQueues.queue Flows.key tuple.key
            (meter.collection latestTime).2).map Flows.flow := by
    rw [exportedUnder, garbageCollect_exported, List.filter_append,
      List.map_append, filed.map_flow_filter_snapshot removed wellFormed,
      exportedUnder]
  have live :
      meter.liveUnder tuple =
        (KeyQueues.queue Flows.key tuple.key
            (meter.collection latestTime).2).map Flows.flow ++
          (meter.garbageCollect latestTime).liveUnder tuple := by
    rw [liveUnder, liveUnder, FlowSession.queue, FlowSession.queue,
      garbageCollect_entries, ← List.map_append]
    exact congrArg _ (KeySweep.sweep_queue _ _)
  rw [created, exported, inOrder tuple wellFormed, live, List.append_assoc]

/-- In every run the flows of each five-tuple leave the session in the order
in which they were created, and none is passed over. -/
theorem firstInFirstOut_run (capacity : Nat) (frames : List Frame) :
    (run capacity frames).FirstInFirstOut := by
  have both : (run capacity frames).Filed ∧
      (run capacity frames).FirstInFirstOut := by
    apply @Runs.run_invariant Meter Frame UzFlowMeter.onPacketReceived
      fun meter => meter.Filed ∧ meter.FirstInFirstOut
    · exact ⟨filed_initial capacity, firstInFirstOut_initial capacity⟩
    · rintro meter frame ⟨filed, inOrder⟩
      apply onPacketReceived_invariant
        (motive := fun meter => meter.Filed ∧ meter.FirstInFirstOut)
      · intro route _ selects
        exact ⟨filed.record frame.parsed_wellFormed selects,
          filed.firstInFirstOut_record inOrder frame.parsed_wellFormed
            selects⟩
      · rintro meter ⟨filed, inOrder⟩
        exact ⟨filed.garbageCollect frame.parsed.time,
          filed.firstInFirstOut_garbageCollect inOrder frame.parsed.time⟩
      · exact ⟨filed, inOrder⟩
  exact both.2

end Meter

end UzFlowMeter
