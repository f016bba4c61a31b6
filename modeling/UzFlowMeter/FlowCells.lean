import UzFlowMeter.Flow
import UzFlowMeter.Library.CellArray

/-!
# The arrays of a flow in memory

The part of `add_packet_to_flow` that works on arrays, with the four arrays
of a flow in memory.  They start as null pointers, are allocated on
different conditions, three of them possibly several times, and not every
allocation is followed by an append.  What else is read is read from the
flow.
-/

namespace UzFlowMeter

/-- The arrays of a flow, each with a record of what was appended to it. -/
structure FlowCells where
  packets : Ledger Pair := {}
  flowInterarrivalTime : Ledger ℚ := {}
  active : Ledger ℚ := {}
  idle : Ledger ℚ := {}
  deriving DecidableEq

namespace FlowCells

def appendPair (packets : Ledger Pair) (packet : Packet)
    (direction : PacketDirection) : Option (Ledger Pair) :=
  packets.append (packets.array.count ≥ packets.array.capacity)
    (initializePair packet direction)

def appendFlowInterarrivalTime (flowTimes : Ledger ℚ) (newTime : ℚ) :
    Option (Ledger ℚ) :=
  flowTimes.append (flowTimes.array.count = flowTimes.array.capacity) newTime

def appendActive (active : Ledger ℚ) (value : ℚ) : Option (Ledger ℚ) :=
  active.append (active.array.count ≥ active.array.capacity) value

def appendIdle (idle : Ledger ℚ) (value : ℚ) : Option (Ledger ℚ) :=
  idle.append (idle.array.count ≥ idle.array.capacity) value

/-- Allocate the array of pairs on first use and append the pair. -/
def recordPair (cells : FlowCells) (packet : Packet)
    (direction : PacketDirection) : Option FlowCells :=
  let packets :=
    if cells.packets.array.block = none then cells.packets.renew 10
    else cells.packets
  (appendPair packets packet direction).map fun packets =>
    { cells with packets := packets }

/-- `update_active_idle`. -/
def updateActiveIdle (cells : FlowCells) (flow : Flow) (currentTime : ℚ) :
    Option FlowCells :=
  if currentTime - flow.lastActive > activeTimeout then
    let duration := |flow.lastActive - flow.startActive|
    let active :=
      if cells.active.array.count = 0 then cells.active.renew 5
      else cells.active
    let idle :=
      if cells.idle.array.count = 0 then cells.idle.renew 5 else cells.idle
    (if duration > 0 then appendActive active (1000000 * duration)
      else some active).bind fun active =>
        (appendIdle idle (1000000 * (currentTime - flow.lastActive))).map
          fun idle => { cells with active := active, idle := idle }
  else some cells

/-- `update_subflow`. -/
def updateSubflow (cells : FlowCells) (flow : Flow) (packet : Packet) :
    Option FlowCells :=
  let lastTimestamp :=
    if flow.latestTimestamp ≠ 0 then flow.latestTimestamp else packet.time
  if packet.time - lastTimestamp > clumpTimeout then
    cells.updateActiveIdle flow (packet.time - lastTimestamp)
  else some cells

/-- Allocate the inter-arrival times while there are none, and append one
unless this is the first packet. -/
def recordInterarrival (cells : FlowCells) (flow : Flow)
    (packet : Packet) : Option FlowCells :=
  let flowTimes :=
    if cells.flowInterarrivalTime.array.count = 0 then
      cells.flowInterarrivalTime.renew initialCapacity
    else cells.flowInterarrivalTime
  (if flow.startTimestamp ≠ 0 then
      appendFlowInterarrivalTime flowTimes
        (1000000 * (packet.time - flow.latestTimestamp))
    else some flowTimes).map fun flowTimes =>
      { cells with flowInterarrivalTime := flowTimes }

/-- `add_packet_to_flow`. -/
def addPacketToFlow (cells : FlowCells) (flow : Flow) (packet : Packet)
    (direction : PacketDirection) : Option FlowCells :=
  (cells.recordPair packet direction).bind fun cells =>
    let flow := UzFlowMeter.recordPair flow packet direction
    let flow := updateFlowBulk flow packet direction
    (cells.updateSubflow flow packet).bind fun cells =>
      let flow := UzFlowMeter.updateSubflow flow packet
      cells.recordInterarrival flow packet

/-- The memory of the arrays of the flow, which have what was appended. -/
structure Keeps (cells : FlowCells) (flow : Flow) : Prop where
  packets : cells.packets.Keeps flow.packets
  flowInterarrivalTime :
    cells.flowInterarrivalTime.Keeps flow.flowInterarrivalTime
  active : cells.active.Keeps flow.active
  idle : cells.idle.Keeps flow.idle

/-- Each array holds what was appended to it. -/
structure Complete (cells : FlowCells) : Prop where
  packets : cells.packets.Complete
  flowInterarrivalTime : cells.flowInterarrivalTime.Complete
  active : cells.active.Complete
  idle : cells.idle.Complete

/-- Each array holds what is in the flow of the model. -/
structure Mirrors (cells : FlowCells) (flow : Flow) : Prop where
  packets : cells.packets.array.Holds flow.pairs
  flowInterarrivalTime : cells.flowInterarrivalTime.array.Holds
    flow.flowInterarrivalTime.items
  active : cells.active.array.Holds flow.active.items
  idle : cells.idle.array.Holds flow.idle.items

theorem Keeps.complete
    {cells : FlowCells} {flow : Flow} (keeps : cells.Keeps flow) :
    cells.Complete :=
  ⟨keeps.packets.complete, keeps.flowInterarrivalTime.complete,
    keeps.active.complete, keeps.idle.complete⟩

theorem Keeps.mirrors
    {cells : FlowCells} {flow : Flow} (keeps : cells.Keeps flow) :
    cells.Mirrors flow :=
  ⟨keeps.packets.represents.holds,
    keeps.flowInterarrivalTime.represents.holds,
    keeps.active.represents.holds, keeps.idle.represents.holds⟩

end FlowCells

/-- The four arrays of a flow of the model. -/
def Flow.arrays (flow : Flow) :
    GrowArray Pair × GrowArray ℚ × GrowArray ℚ × GrowArray ℚ :=
  (flow.packets, flow.flowInterarrivalTime, flow.active, flow.idle)

private theorem updateFlowBulk_arrays
    (flow : Flow) (packet : Packet) (direction : PacketDirection) :
    (updateFlowBulk flow packet direction).arrays = flow.arrays := by
  have outside := congrArg Flow.arrays
    (updateFlowBulk_clearBulk flow packet direction)
  exact outside

/-- Behind the inter-arrival time nothing is appended. -/
theorem recordEnd_arrays
    (flow : Flow) (packet : Packet) (direction : PacketDirection) :
    (recordStart (recordWindow (recordLatest flow packet) packet direction)
      packet).arrays = flow.arrays := by
  rw [recordStart_eq, recordWindow_eq, recordLatest]
  rfl

namespace FlowCells

variable {cells : FlowCells} {flow : Flow}

private theorem keeps_of_arrays
    {packets : GrowArray Pair} {flowTimes active idle : GrowArray ℚ}
    (arrays : flow.arrays = (packets, flowTimes, active, idle))
    (packetsKept : cells.packets.Keeps packets)
    (flowTimesKept : cells.flowInterarrivalTime.Keeps flowTimes)
    (activeKept : cells.active.Keeps active)
    (idleKept : cells.idle.Keeps idle) : cells.Keeps flow := by
  simp only [Flow.arrays, Prod.mk.injEq] at arrays
  obtain ⟨rfl, rfl, rfl, rfl⟩ := arrays
  exact ⟨packetsKept, flowTimesKept, activeKept, idleKept⟩

private theorem Keeps.of_arrays_eq
    (keeps : cells.Keeps flow) {other : Flow}
    (sameArrays : other.arrays = flow.arrays) : cells.Keeps other :=
  keeps_of_arrays sameArrays keeps.packets keeps.flowInterarrivalTime
    keeps.active keeps.idle

/-! ## The appends -/

/-- The block is there after the test of the count, and nothing was in the
one it replaced. -/
theorem renew_unused
    {ledger : Ledger alpha} {grow : GrowArray alpha}
    (keeps : ledger.Keeps grow) {capacity : Nat}
    (positive : 0 < capacity) :
    (if ledger.array.count = 0 then ledger.renew capacity else ledger).Keeps
        (if grow.count = 0 then GrowArray.ofCapacity capacity else grow) ∧
      (if ledger.array.count = 0 then ledger.renew capacity
        else ledger).array.block ≠ none := by
  apply keeps.renew
  · rw [keeps.represents.count_eq]
  · exact id
  · exact keeps.represents.count_eq_zero_of_null
  · exact positive

/-- An append that grows the array when the count has reached the
capacity. -/
theorem append_reached
    {ledger : Ledger alpha} {grow : GrowArray alpha}
    (keeps : ledger.Keeps grow) (allocated : ledger.array.block ≠ none)
    (item : alpha) :
    ∃ after,
      ledger.append (ledger.array.count ≥ ledger.array.capacity) item =
        some after ∧
      after.Keeps
        ((grow.growWhen (grow.count ≥ grow.capacity)).store item) := by
  apply keeps.append allocated
  · rw [keeps.represents.count_eq, keeps.represents.capacity_eq]
  · intro isFull
    exact Nat.le_of_eq isFull.symm

private theorem exists_appendFlowInterarrivalTime
    {flowTimes : Ledger ℚ} {grow : GrowArray ℚ}
    (keeps : flowTimes.Keeps grow)
    (allocated : flowTimes.array.block ≠ none) (newTime : ℚ) :
    ∃ after, appendFlowInterarrivalTime flowTimes newTime = some after ∧
      after.Keeps (UzFlowMeter.appendFlowInterarrivalTime grow newTime) := by
  apply keeps.append allocated
  · rw [keeps.represents.count_eq, keeps.represents.capacity_eq]
  · exact id

private theorem Keeps.exists_recordPair
    (keeps : cells.Keeps flow) (packet : Packet)
    (direction : PacketDirection) :
    ∃ after, cells.recordPair packet direction = some after ∧
      after.Keeps (UzFlowMeter.recordPair flow packet direction) := by
  have represents := keeps.packets.represents
  obtain ⟨renewed, allocated⟩ :=
    keeps.packets.renew represents.block_eq_none_iff
      represents.count_eq_zero_of_null id (show 0 < 10 by decide)
  obtain ⟨packets, appended, kept⟩ :=
    append_reached renewed allocated (initializePair packet direction)
  refine ⟨{ cells with packets := packets }, ?_, ?_⟩
  · rw [FlowCells.recordPair, appendPair, appended, Option.map_some]
  · have model : (UzFlowMeter.recordPair flow packet direction).packets =
        UzFlowMeter.appendPair
          (if flow.packets.block = none then initializePackets 10
            else flow.packets) packet direction := by
      rw [UzFlowMeter.recordPair]
      split_ifs <;> rfl
    rw [recordPair_eq, model]
    exact ⟨kept, keeps.flowInterarrivalTime, keeps.active, keeps.idle⟩

private theorem Keeps.exists_recordInterarrival
    (keeps : cells.Keeps flow) (packet : Packet) :
    ∃ after, cells.recordInterarrival flow packet = some after ∧
      after.Keeps (UzFlowMeter.recordInterarrival flow packet) := by
  obtain ⟨renewed, allocated⟩ :=
    renew_unused keeps.flowInterarrivalTime
      (show 0 < initialCapacity by decide)
  have model : (UzFlowMeter.recordInterarrival flow
        packet).flowInterarrivalTime =
      if flow.startTimestamp ≠ 0 then
        UzFlowMeter.appendFlowInterarrivalTime
          (if flow.flowInterarrivalTime.count = 0 then
            initializeFlowInterarrivalTime
            else flow.flowInterarrivalTime)
          (1000000 * (packet.time - flow.latestTimestamp))
      else
        if flow.flowInterarrivalTime.count = 0 then
          initializeFlowInterarrivalTime
        else flow.flowInterarrivalTime := by
    rw [UzFlowMeter.recordInterarrival]
    split_ifs <;> rfl
  rw [FlowCells.recordInterarrival, recordInterarrival_eq, model]
  by_cases started : flow.startTimestamp ≠ 0
  · obtain ⟨flowTimes, appended, kept⟩ :=
      exists_appendFlowInterarrivalTime renewed allocated
        (1000000 * (packet.time - flow.latestTimestamp))
    rw [if_pos started, if_pos started, appended, Option.map_some]
    exact ⟨_, rfl, keeps.packets, kept, keeps.active, keeps.idle⟩
  · rw [if_neg started, if_neg started, Option.map_some]
    exact ⟨_, rfl, keeps.packets, renewed, keeps.active, keeps.idle⟩

/-- The arrays of the model's flow after a long gap. -/
theorem updateActiveIdle_arrays
    {currentTime : ℚ}
    (long : currentTime - flow.lastActive > activeTimeout) :
    (UzFlowMeter.updateActiveIdle flow currentTime).arrays =
      (flow.packets, flow.flowInterarrivalTime,
        (if |flow.lastActive - flow.startActive| > 0 then
          UzFlowMeter.appendActive
            (if flow.active.count = 0 then GrowArray.ofCapacity 5
              else flow.active)
            (1000000 * |flow.lastActive - flow.startActive|)
        else
          if flow.active.count = 0 then GrowArray.ofCapacity 5
          else flow.active),
        UzFlowMeter.appendIdle
          (if flow.idle.count = 0 then GrowArray.ofCapacity 5 else flow.idle)
          (1000000 * (currentTime - flow.lastActive))) := by
  rw [UzFlowMeter.updateActiveIdle, if_pos long]
  simp only [Flow.arrays, apply_ite Flow.packets,
    apply_ite Flow.flowInterarrivalTime, apply_ite Flow.active,
    apply_ite Flow.idle, apply_ite Flow.lastActive, ite_self]
  rfl

private theorem Keeps.exists_updateActiveIdle
    (keeps : cells.Keeps flow) (currentTime : ℚ) :
    ∃ after, cells.updateActiveIdle flow currentTime = some after ∧
      after.Keeps (UzFlowMeter.updateActiveIdle flow currentTime) := by
  rw [FlowCells.updateActiveIdle]
  by_cases long : currentTime - flow.lastActive > activeTimeout
  · have model := updateActiveIdle_arrays long
    obtain ⟨activeRenewed, activeAllocated⟩ :=
      renew_unused keeps.active (show 0 < 5 by decide)
    obtain ⟨idleRenewed, idleAllocated⟩ :=
      renew_unused keeps.idle (show 0 < 5 by decide)
    obtain ⟨idle, idleAppended, idleKept⟩ :=
      append_reached idleRenewed idleAllocated
        (1000000 * (currentTime - flow.lastActive))
    rw [if_pos long]
    dsimp only
    rw [appendIdle, idleAppended]
    by_cases busy : |flow.lastActive - flow.startActive| > 0
    · obtain ⟨active, activeAppended, activeKept⟩ :=
        append_reached activeRenewed activeAllocated
          (1000000 * |flow.lastActive - flow.startActive|)
      rw [if_pos busy] at model ⊢
      rw [appendActive, activeAppended, Option.bind_some, Option.map_some]
      exact ⟨_, rfl, keeps_of_arrays model keeps.packets
        keeps.flowInterarrivalTime activeKept idleKept⟩
    · rw [if_neg busy] at model ⊢
      rw [Option.bind_some, Option.map_some]
      exact ⟨_, rfl, keeps_of_arrays model keeps.packets
        keeps.flowInterarrivalTime activeRenewed idleKept⟩
  · rw [if_neg long, UzFlowMeter.updateActiveIdle, if_neg long]
    exact ⟨cells, rfl, keeps.of_arrays_eq rfl⟩

private theorem Keeps.exists_updateSubflow
    (keeps : cells.Keeps flow) (packet : Packet) :
    ∃ after, cells.updateSubflow flow packet = some after ∧
      after.Keeps (UzFlowMeter.updateSubflow flow packet) := by
  rw [FlowCells.updateSubflow, UzFlowMeter.updateSubflow]
  by_cases clump :
      packet.time -
          (if flow.latestTimestamp ≠ 0 then flow.latestTimestamp
            else packet.time) > clumpTimeout
  · rw [if_pos clump, if_pos clump]
    exact keeps.exists_updateActiveIdle _
  · rw [if_neg clump, if_neg clump]
    exact ⟨cells, rfl, keeps⟩

/-- Every store of `add_packet_to_flow` goes to a cell of its array, and no
array loses a value. -/
theorem Keeps.exists_addPacketToFlow
    (keeps : cells.Keeps flow) (packet : Packet)
    (direction : PacketDirection) :
    ∃ after, cells.addPacketToFlow flow packet direction = some after ∧
      after.Keeps (UzFlowMeter.addPacketToFlow flow packet direction) := by
  obtain ⟨paired, pairAppended, pairKept⟩ :=
    keeps.exists_recordPair packet direction
  have bulkKept := pairKept.of_arrays_eq
    (updateFlowBulk_arrays _ packet direction)
  obtain ⟨subflow, subflowUpdated, subflowKept⟩ :=
    bulkKept.exists_updateSubflow packet
  obtain ⟨after, timeAppended, timeKept⟩ :=
    subflowKept.exists_recordInterarrival packet
  refine ⟨after, ?_,
    timeKept.of_arrays_eq (recordEnd_arrays _ packet direction)⟩
  rw [FlowCells.addPacketToFlow, pairAppended, Option.bind_some]
  dsimp only
  rw [subflowUpdated, Option.bind_some, timeAppended]

end FlowCells

end UzFlowMeter
