import UzFlowMeter.FlowCells
import UzFlowMeter.Lifecycle
import UzFlowMeter.Simulation

/-!
# Every array write of a run

The calls of a run once more, with the arrays in memory: the array of the
session, which deletions shift, and the arrays of the flows, which are freed
with their flows.  A call has no result if one of its writes misses its
array or goes to a freed flow.
-/

namespace UzFlowMeter

/-- The state of the process with its arrays, and the entries that were
deleted so far. -/
structure Memory where
  meter : Meter
  flows : Ledger Flows
  deleted : List Flows
  cells : FlowPtr → FlowCells

namespace Memory

/-- After `init_flow_session`. -/
def initial (initialCapacity : Nat) : Memory where
  meter := Meter.initial initialCapacity
  flows := ({} : Ledger Flows).renew initialCapacity
  deleted := []
  cells := fun _ => {}

/-- The flow was freed with its entry. -/
def Freed (memory : Memory) (flow : FlowPtr) : Prop :=
  ∃ entry ∈ memory.deleted, entry.flow = flow

instance (memory : Memory) (flow : FlowPtr) :
    Decidable (memory.Freed flow) :=
  inferInstanceAs (Decidable (∃ entry ∈ memory.deleted, _))

def countPacket (memory : Memory) : Memory :=
  { memory with meter := memory.meter.countPacket }

/-- `malloc` and `memset`: the arrays of the new flow are null pointers. -/
def allocateFlow (memory : Memory) (packett : Packet) :
    Memory × FlowPtr :=
  let (meter, flow) := memory.meter.allocateFlow packett
  ({ memory with
      meter := meter
      cells := Function.update memory.cells flow {} }, flow)

/-- `add_packet_to_flow`. -/
def addPacketToFlow (memory : Memory) (flow : FlowPtr) (packet : Packet)
    (direction : PacketDirection) : Option Memory :=
  if memory.Freed flow then none
  else
    ((memory.cells flow).addPacketToFlow (memory.meter.heap flow) packet
      direction).map fun cells =>
        { memory with
          meter := memory.meter.addPacketToFlow flow packet direction
          cells := Function.update memory.cells flow cells }

/-- `add_flow`. -/
def addFlow (memory : Memory) (flowKey : CString) (flow : FlowPtr)
    (count : Nat) : Option Memory :=
  (memory.flows.append
      (memory.flows.array.count = memory.flows.array.capacity)
      ⟨flowKey, count, flow⟩).map fun flows =>
    { memory with
      meter := memory.meter.addFlow flowKey flow count
      flows := flows }

/-- `delete_flow_by_key`: the first entry with the key is freed and shifted
over. -/
def deleteFlowByKey (memory : Memory) (key : CString) : Option Memory :=
  let entries := memory.flows.array.contents
  match entries.findIdx? fun entry => entry.key == key with
  | none => some memory
  | some index =>
      (memory.flows.array.removeAt index).map fun array =>
        { memory with
          meter := memory.meter.deleteFlowByKey key
          flows := { memory.flows with array := array }
          deleted := memory.deleted ++ entries[index]?.toList }

/-- The process with its arrays in memory. -/
def process : Process Option Memory Unit where
  session memory := memory.meter.session
  countPacket := countPacket
  latestTimestamp memory flow :=
    some (memory.meter.heap flow).latestTimestamp
  getDuration memory flow := some (getDuration (memory.meter.heap flow))
  allocateFlow memory packett := some (memory.allocateFlow packett)
  addPacketToFlow := addPacketToFlow
  addFlow := addFlow
  getData memory flow :=
    some { memory with meter := memory.meter.getData flow }
  deleteFlowByKey := deleteFlowByKey
  beginCollection memory :=
    some ({ memory with meter := memory.meter.announce }, ())
  endCollection memory _ := some memory

/-- The memory after a sequence of calls, if no write of theirs misses its
array. -/
def run (initialCapacity : Nat) (frames : List Frame) : Option Memory :=
  frames.foldlM process.onPacketReceived (initial initialCapacity)

/-- The array of the session holds the entries that were added, no two of
them the same, less the deleted ones, and each array of a flow holds what was
appended to it. -/
structure Complete (memory : Memory) : Prop where
  session : memory.flows.array.Holds
    (memory.flows.remaining memory.deleted)
  distinct : memory.flows.appended.Nodup
  deleted : ∀ entry ∈ memory.deleted, entry ∈ memory.flows.appended
  flows : ∀ flow, (memory.cells flow).Complete

/-- The arrays hold the entries, the pairs and the times of the model. -/
structure Mirrors (memory : Memory) : Prop where
  session : memory.flows.array.Holds memory.meter.session.entries
  flows : ∀ flow, (memory.cells flow).Mirrors (memory.meter.heap flow)

/-- The memory is that of the model's arrays, nothing that was appended is
missing from them, and only flows of deleted entries are freed. -/
structure Sound (memory : Memory) : Prop where
  represents : memory.flows.array.Represents memory.meter.session.flows
  allocated : memory.flows.array.block ≠ none
  entries : memory.meter.session.entries =
    memory.flows.remaining memory.deleted
  ordered : memory.flows.appended.Pairwise fun earlier later =>
    earlier.flow < later.flow
  created : ∀ entry ∈ memory.flows.appended,
    entry.flow < memory.meter.nextFlow
  deleted : ∀ entry ∈ memory.deleted, entry ∈ memory.flows.appended
  cells : ∀ flow, (memory.cells flow).Keeps (memory.meter.heap flow)

namespace Sound

variable {memory : Memory}

theorem pointers_nodup (sound : memory.Sound) :
    (memory.flows.appended.map Flows.flow).Nodup :=
  List.pairwise_map.mpr (sound.ordered.imp Nat.ne_of_lt)

theorem complete (sound : memory.Sound) : memory.Complete where
  session := by
    rw [← sound.entries]
    exact sound.represents.holds
  distinct := sound.pointers_nodup.of_map
  deleted := sound.deleted
  flows := fun flow => (sound.cells flow).complete

theorem mirrors (sound : memory.Sound) : memory.Mirrors where
  session := sound.represents.holds
  flows := fun flow => (sound.cells flow).mirrors

private theorem of_capacity {capacity : Nat} (positive : 0 < capacity) :
    (Memory.initial capacity).Sound where
  represents := CellArray.represents_allocate positive
  allocated := Option.some_ne_none _
  entries := rfl
  ordered := List.Pairwise.nil
  created := fun _ member => absurd member List.not_mem_nil
  deleted := fun _ member => absurd member List.not_mem_nil
  cells := fun _ => ⟨Ledger.Keeps.empty, Ledger.Keeps.empty,
    Ledger.Keeps.empty, Ledger.Keeps.empty⟩

theorem entry_eq_of_flow_eq
    (sound : memory.Sound) {entry other : Flows}
    (entryMember : entry ∈ memory.flows.appended)
    (otherMember : other ∈ memory.flows.appended)
    (sameFlow : entry.flow = other.flow) : entry = other :=
  List.inj_on_of_nodup_map sound.pointers_nodup entryMember otherMember
    sameFlow

/-- A flow that a lookup finds was not freed. -/
theorem not_freed_of_getFlow
    (sound : memory.Sound) {key : CString} {count : Nat} {flow : FlowPtr}
    (found : getFlow memory.meter.session key count = some flow) :
    ¬ memory.Freed flow := by
  rintro ⟨removed, removedMember, sameFlow⟩
  obtain ⟨entry, member, -, -, rfl⟩ := getFlow_eq_some found
  rw [sound.entries, Ledger.remaining, List.mem_filter] at member
  have same := sound.entry_eq_of_flow_eq
    (sound.deleted removed removedMember) member.1 sameFlow
  rw [same] at removedMember
  exact of_decide_eq_true member.2 removedMember

/-- A flow that was not filed yet was not freed. -/
theorem not_freed_of_newest
    (sound : memory.Sound) {flow : FlowPtr}
    (newest : ∀ entry ∈ memory.flows.appended, entry.flow < flow) :
    ¬ memory.Freed flow := by
  rintro ⟨removed, member, rfl⟩
  exact Nat.lt_irrefl _ (newest removed (sound.deleted removed member))

/-! ## One call -/

theorem exists_addPacketToFlow
    (sound : memory.Sound) {flow : FlowPtr} (live : ¬ memory.Freed flow)
    (packet : Packet) (direction : PacketDirection) :
    ∃ cells, memory.addPacketToFlow flow packet direction =
        some { memory with
          meter := memory.meter.addPacketToFlow flow packet direction
          cells := cells } ∧
      Sound { memory with
        meter := memory.meter.addPacketToFlow flow packet direction
        cells := cells } := by
  obtain ⟨after, added, kept⟩ :=
    (sound.cells flow).exists_addPacketToFlow packet direction
  refine ⟨Function.update memory.cells flow after, ?_, ?_⟩
  · rw [Memory.addPacketToFlow, if_neg live, added, Option.map_some]
  · refine ⟨sound.represents, sound.allocated, sound.entries, sound.ordered,
      sound.created, sound.deleted, ?_⟩
    intro other
    by_cases isFlow : other = flow
    · subst isFlow
      simpa [Meter.addPacketToFlow] using kept
    · simpa [Meter.addPacketToFlow, Function.update_of_ne isFlow] using
        sound.cells other

private theorem of_allocateFlow (sound : memory.Sound) (packett : Packet) :
    (memory.allocateFlow packett).1.Sound := by
  refine ⟨sound.represents, sound.allocated, sound.entries, sound.ordered,
    ?_, sound.deleted, ?_⟩
  · intro entry member
    exact Nat.lt_succ_of_lt (sound.created entry member)
  · intro other
    by_cases isNew : other = memory.meter.nextFlow
    · subst isNew
      have empty : (({} : FlowCells)).Keeps (newFlow packett) :=
        ⟨Ledger.Keeps.empty, Ledger.Keeps.empty, Ledger.Keeps.empty,
          Ledger.Keeps.empty⟩
      simpa [Memory.allocateFlow, Meter.allocateFlow] using empty
    · simpa [Memory.allocateFlow, Meter.allocateFlow,
        Function.update_of_ne isNew] using sound.cells other

/-- The array of the session grows when it is full, which leaves room for an
entry as its capacity is not zero. -/
theorem exists_addFlow
    (sound : memory.Sound) {flow : FlowPtr}
    (newest : ∀ entry ∈ memory.flows.appended, entry.flow < flow)
    (created : flow < memory.meter.nextFlow) (flowKey : CString)
    (count : Nat) :
    ∃ flows, memory.addFlow flowKey flow count =
        some { memory with
          meter := memory.meter.addFlow flowKey flow count
          flows := flows } ∧
      Sound { memory with
        meter := memory.meter.addFlow flowKey flow count
        flows := flows } := by
  obtain ⟨array, appended, represents⟩ :=
    Ledger.append_eq_some sound.represents sound.allocated
      (show memory.flows.array.count = memory.flows.array.capacity ↔
          memory.meter.session.flowCount =
            memory.meter.session.flows.capacity by
        rw [sound.represents.count_eq, sound.represents.capacity_eq]
        exact Iff.rfl)
      id ⟨flowKey, count, flow⟩
  refine ⟨⟨array, memory.flows.appended ++ [⟨flowKey, count, flow⟩]⟩, ?_,
    ?_⟩
  · rw [Memory.addFlow, appended, Option.map_some]
  · have notDeleted : (⟨flowKey, count, flow⟩ : Flows) ∉ memory.deleted :=
      fun member => Nat.lt_irrefl flow
        (newest _ (sound.deleted _ member))
    refine ⟨represents, ?_, ?_, ?_, ?_, ?_, sound.cells⟩
    · exact mt represents.block_eq_none_iff.mp (Option.some_ne_none _)
    · have added := addFlow_entries memory.meter.session flowKey flow count
      rw [sound.entries] at added
      rw [Meter.addFlow, added, Ledger.remaining, Ledger.remaining,
        List.filter_append, List.filter_singleton,
        decide_eq_true notDeleted]
      rfl
    · rw [List.pairwise_append]
      refine ⟨sound.ordered, List.pairwise_singleton _ _, ?_⟩
      intro earlier member last lastMember
      rw [List.mem_singleton.mp lastMember]
      exact newest earlier member
    · intro entry member
      rcases List.mem_append.mp member with old | new
      · exact sound.created entry old
      · rw [List.mem_singleton.mp new]
        exact created
    · intro entry member
      exact List.mem_append_left _ (sound.deleted entry member)

/-- The shift leaves the other entries in their order. -/
theorem exists_deleteFlowByKey (sound : memory.Sound) (key : CString) :
    ∃ after, memory.deleteFlowByKey key = some after ∧ after.Sound ∧
      after.meter = memory.meter.deleteFlowByKey key := by
  have contents :
      memory.flows.array.contents = memory.meter.session.entries :=
    sound.represents.contents_eq
  rw [Memory.deleteFlowByKey, Meter.deleteFlowByKey, contents]
  dsimp only
  rcases KeySweep.exists_first_or_absent Flows.key key
      memory.meter.session.entries with
    absent | ⟨before, entry, later, split, earlier, matched⟩
  · rw [KeySweep.findIdx?_of_absent absent, deleteFlowByKey_of_absent absent]
    exact ⟨memory, rfl, sound, rfl⟩
  · obtain ⟨array, removed, represents⟩ := sound.represents.removeAt split
    have indexed : memory.meter.session.entries[before.length]?.toList =
        [entry] := by
      rw [split]
      simp
    have remaining : memory.flows.remaining memory.deleted =
        before ++ entry :: later := sound.entries.symm.trans split
    have member : entry ∈ memory.flows.remaining memory.deleted := by
      rw [remaining]
      exact List.mem_append_right _ List.mem_cons_self
    rw [split, KeySweep.findIdx?_of_first earlier matched,
      deleteFlowByKey_of_first split earlier matched]
    dsimp only
    rw [removed, ← split, indexed, Option.map_some]
    refine ⟨_, rfl, ⟨represents, ?_, ?_, sound.ordered, sound.created, ?_,
      sound.cells⟩, rfl⟩
    · exact mt represents.block_eq_none_iff.mp (Option.some_ne_none _)
    · exact (Ledger.remaining_concat sound.pointers_nodup.of_map remaining).symm
    · intro other otherMember
      rcases List.mem_append.mp otherMember with old | new
      · exact sound.deleted other old
      · rw [List.mem_singleton.mp new]
        exact (List.mem_filter.mp member).1

/-- The invariant looks at the entries, the flows and the next pointer
only. -/
theorem with_meter
    (sound : memory.Sound) {meter : Meter}
    (sameFlows : meter.session.flows = memory.meter.session.flows)
    (sameHeap : meter.heap = memory.meter.heap)
    (sameNext : meter.nextFlow = memory.meter.nextFlow) :
    Sound { memory with meter := meter } where
  represents := by
    rw [sameFlows]
    exact sound.represents
  allocated := sound.allocated
  entries := by
    rw [FlowSession.entries, sameFlows]
    exact sound.entries
  ordered := sound.ordered
  created := by
    rw [sameNext]
    exact sound.created
  deleted := sound.deleted
  cells := by
    rw [sameHeap]
    exact sound.cells

end Sound

/-- Only the flows of deleted entries are freed, and a flow that is filed is
newer than all entries. -/
def simulation : process.Simulation where
  meter := Memory.meter
  Sound := Sound
  Ready memory flow := memory.Sound ∧ ¬ memory.Freed flow
  Fresh memory flow := memory.Sound ∧
    (∀ entry ∈ memory.flows.appended, entry.flow < flow) ∧
    flow < memory.meter.nextFlow
  Collecting memory _ := memory.Sound
  session _ := rfl
  counted sound := ⟨sound.with_meter rfl rfl rfl, rfl⟩
  ready sound found := ⟨sound, sound.not_freed_of_getFlow found⟩
  readable _ := rfl
  recorded := by
    rintro memory flow packet direction ⟨sound, live⟩
    obtain ⟨cells, added, after⟩ :=
      sound.exists_addPacketToFlow live packet direction
    exact ⟨_, added, after, ⟨after, live⟩, rfl, rfl⟩
  allocated packett sound :=
    ⟨_, rfl, ⟨sound.of_allocateFlow packett, sound.created,
      Nat.lt_succ_self _⟩, rfl⟩
  begun := by
    rintro memory flow packet ⟨sound, newest, created⟩
    obtain ⟨cells, added, after⟩ :=
      sound.exists_addPacketToFlow (sound.not_freed_of_newest newest) packet
        .forward
    exact ⟨_, added, ⟨after, newest, created⟩, rfl⟩
  filed := by
    rintro memory flow flowKey count ⟨sound, newest, created⟩
    obtain ⟨flows, added, after⟩ :=
      sound.exists_addFlow newest created flowKey count
    exact ⟨_, added, ⟨after, sound.not_freed_of_newest newest⟩, rfl⟩
  collecting sound := ⟨_, (), rfl, sound.with_meter rfl rfl rfl, rfl⟩
  tested _ _ := ⟨rfl, rfl⟩
  removed := by
    intro memory _ key flow sound _
    have exported :
        Sound { memory with meter := memory.meter.getData flow } :=
      sound.with_meter rfl rfl rfl
    obtain ⟨after, deleted, afterSound, sameMeter⟩ :=
      exported.exists_deleteFlowByKey key
    exact ⟨_, after, rfl, deleted, afterSound, sameMeter⟩
  collected sound := ⟨_, rfl, sound, rfl⟩

/-- No write of a run misses its array or goes to a freed flow, and no array
loses an element that was not deleted, if the session starts with a capacity
of at least one: the arrays hold what the model has. -/
theorem complete_run
    (capacity : Nat) (positive : 0 < capacity) (frames : List Frame) :
    ∃ memory, run capacity frames = some memory ∧
      memory.meter = UzFlowMeter.run capacity frames ∧
      memory.Complete ∧ memory.Mirrors := by
  obtain ⟨memory, ran, sound, sameMeter⟩ :=
    simulation.reaches_run (Sound.of_capacity positive) rfl frames
  exact ⟨memory, ran, sameMeter, sound.complete, sound.mirrors⟩

/-- A session of capacity one grows for the second segment. -/
theorem complete_grown_session :
    ∃ memory, run 1 [clientFrame 1, clientFrame 60] = some memory ∧
      memory.meter = UzFlowMeter.run 1 [clientFrame 1, clientFrame 60] ∧
      memory.Complete ∧ memory.Mirrors :=
  complete_run 1 Nat.one_pos [clientFrame 1, clientFrame 60]

/-- Without capacity the first entry is written out of bounds: twice zero is
zero. -/
example : (run 0 [clientFrame 1]).isNone = true := by
  decide +kernel

end Memory

end UzFlowMeter
