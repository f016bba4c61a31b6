import Mathlib.Tactic.SplitIfs
import UzFlowMeter.Library.GrowArray
import UzFlowMeter.Packet

/-!
# Flows

The model of `flow.c`, up to the export of a row: the growable arrays of a
flow, the bulk and active/idle machines, and `add_packet_to_flow`.
Allocations succeed.
-/

namespace UzFlowMeter

/-- `Pair`: the flow's own copy of a packet, with the direction it was
recorded under. -/
structure Pair where
  packet : Packet
  direction : PacketDirection
  deriving DecidableEq

/-- `Flow`.  A field left out is zero, as after `memset`.  The two slots of
`init_window_size` are the components of the pair `initWindowSize`. -/
structure Flow where
  srcIp : CString := []
  destIp : CString := []
  srcPort : Int := 0
  destPort : Int := 0
  packets : GrowArray Pair := {}
  flowInterarrivalTime : GrowArray ℚ := {}
  protocol : UInt8 := 0
  initWindowSize : Int × Int := (0, 0)
  latestTimestamp : ℚ := 0
  startTimestamp : ℚ := 0
  startActive : ℚ := 0
  lastActive : ℚ := 0
  active : GrowArray ℚ := {}
  idle : GrowArray ℚ := {}
  forwardBulkLastTimestamp : ℚ := 0
  forwardBulkStartTmp : ℚ := 0
  forwardBulkCount : Int := 0
  forwardBulkCountTmp : Int := 0
  forwardBulkDuration : ℚ := 0
  forwardBulkPacketCount : Int := 0
  forwardBulkSize : Int := 0
  forwardBulkSizeTmp : Int := 0
  backwardBulkLastTimestamp : ℚ := 0
  backwardBulkStartTmp : ℚ := 0
  backwardBulkCount : Int := 0
  backwardBulkCountTmp : Int := 0
  backwardBulkDuration : ℚ := 0
  backwardBulkPacketCount : Int := 0
  backwardBulkSize : Int := 0
  backwardBulkSizeTmp : Int := 0
  deriving DecidableEq

/-- The recorded pairs of a flow, in the order of recording. -/
abbrev Flow.pairs (flow : Flow) : List Pair :=
  flow.packets.items

def clumpTimeout : ℚ := 1
def bulkBound : Int := 4
def activeTimeout : ℚ := 5 / 1000
def initialCapacity : Nat := 10

def initializePackets (capacity : Nat) : GrowArray Pair :=
  GrowArray.ofCapacity capacity

def initializePair (packet : Packet) (direction : PacketDirection) : Pair :=
  ⟨packet, direction⟩

def appendPair (packets : GrowArray Pair) (packet : Packet)
    (direction : PacketDirection) : GrowArray Pair :=
  (packets.growWhen (packets.count ≥ packets.capacity)).store
    (initializePair packet direction)

@[simp]
theorem appendPair_items (packets : GrowArray Pair) (packet : Packet)
    (direction : PacketDirection) :
    (appendPair packets packet direction).items =
      packets.items ++ [⟨packet, direction⟩] := by
  simp [appendPair, initializePair]

def initializeFlowInterarrivalTime : GrowArray ℚ :=
  GrowArray.ofCapacity initialCapacity

def appendFlowInterarrivalTime (flowTimes : GrowArray ℚ) (newTime : ℚ) :
    GrowArray ℚ :=
  (flowTimes.growWhen (flowTimes.count = flowTimes.capacity)).store newTime

@[simp]
theorem appendFlowInterarrivalTime_items
    (flowTimes : GrowArray ℚ) (newTime : ℚ) :
    (appendFlowInterarrivalTime flowTimes newTime).items =
      flowTimes.items ++ [newTime] := by
  simp [appendFlowInterarrivalTime]

def initializeActive (capacity : Nat) : GrowArray ℚ :=
  GrowArray.ofCapacity capacity

def appendActive (active : GrowArray ℚ) (value : ℚ) : GrowArray ℚ :=
  (active.growWhen (active.count ≥ active.capacity)).store value

@[simp]
theorem appendActive_items (active : GrowArray ℚ) (value : ℚ) :
    (appendActive active value).items = active.items ++ [value] := by
  simp [appendActive]

def initializeIdle (capacity : Nat) : GrowArray ℚ :=
  GrowArray.ofCapacity capacity

def appendIdle (idle : GrowArray ℚ) (value : ℚ) : GrowArray ℚ :=
  (idle.growWhen (idle.count ≥ idle.capacity)).store value

@[simp]
theorem appendIdle_items (idle : GrowArray ℚ) (value : ℚ) :
    (appendIdle idle value).items = idle.items ++ [value] := by
  simp [appendIdle]

/-- `update_active_idle`. -/
def updateActiveIdle (flow : Flow) (currentTime : ℚ) : Flow :=
  if currentTime - flow.lastActive > activeTimeout then
    let duration := |flow.lastActive - flow.startActive|
    let flow :=
      if flow.active.count = 0 then
        { flow with active := initializeActive 5 }
      else flow
    let flow :=
      if flow.idle.count = 0 then
        { flow with idle := initializeIdle 5 }
      else flow
    let flow :=
      if duration > 0 then
        { flow with active := appendActive flow.active (1000000 * duration) }
      else flow
    { flow with
      idle :=
        appendIdle flow.idle (1000000 * (currentTime - flow.lastActive))
      startActive := currentTime
      lastActive := currentTime }
  else
    { flow with lastActive := currentTime }

/-- `update_subflow`. -/
def updateSubflow (flow : Flow) (packet : Packet) : Flow :=
  let lastTimestamp :=
    if flow.latestTimestamp ≠ 0 then flow.latestTimestamp else packet.time
  if packet.time - lastTimestamp > clumpTimeout then
    updateActiveIdle flow (packet.time - lastTimestamp)
  else flow

/-- `get_payload` of `packet_count.c`. -/
def getPayload (packet : Packet) : Int :=
  if packet.protocol = ipprotoTcp then packet.payloadSize
  else if packet.protocol = ipprotoUdp then packet.payloadSize
  else 0

/-- A bulk of the other direction since the tentative one began ends it. -/
def resetForwardBulk (flow : Flow) : Flow :=
  if flow.backwardBulkLastTimestamp > flow.forwardBulkStartTmp then
    { flow with forwardBulkStartTmp := 0 }
  else flow

def startForwardBulk (flow : Flow) (packet : Packet) (payloadSize : Int) :
    Flow :=
  { flow with
    forwardBulkStartTmp := packet.time
    forwardBulkLastTimestamp := packet.time
    forwardBulkCountTmp := 1
    forwardBulkSizeTmp := payloadSize }

/-- The comparison of the tentative counter with `BULK_BOUND`. -/
def countForwardBulk (flow : Flow) (packet : Packet) (payloadSize : Int) :
    Flow :=
  if flow.forwardBulkCountTmp = bulkBound then
    { flow with
      forwardBulkCount := flow.forwardBulkCount + 1
      forwardBulkPacketCount :=
        flow.forwardBulkPacketCount + flow.forwardBulkCountTmp
      forwardBulkSize := flow.forwardBulkSize + flow.forwardBulkSizeTmp
      forwardBulkDuration :=
        flow.forwardBulkDuration +
          (packet.time - flow.forwardBulkStartTmp) }
  else if flow.forwardBulkCountTmp > bulkBound then
    { flow with
      forwardBulkPacketCount := flow.forwardBulkPacketCount + 1
      forwardBulkSize := flow.forwardBulkSize + payloadSize
      forwardBulkDuration :=
        flow.forwardBulkDuration +
          (packet.time - flow.forwardBulkLastTimestamp) }
  else flow

def extendForwardBulk (flow : Flow) (packet : Packet) (payloadSize : Int) :
    Flow :=
  let flow :=
    { flow with
      forwardBulkCountTmp := flow.forwardBulkCountTmp + 1
      forwardBulkSizeTmp := flow.forwardBulkSizeTmp + payloadSize }
  let flow := countForwardBulk flow packet payloadSize
  { flow with forwardBulkLastTimestamp := packet.time }

/-- The `FORWARD` half of `update_flow_bulk`. -/
def updateForwardBulk (flow : Flow) (packet : Packet) (payloadSize : Int) :
    Flow :=
  let flow := resetForwardBulk flow
  if flow.forwardBulkStartTmp = 0 then
    startForwardBulk flow packet payloadSize
  else if packet.time - flow.forwardBulkLastTimestamp > clumpTimeout then
    startForwardBulk flow packet payloadSize
  else extendForwardBulk flow packet payloadSize

def resetBackwardBulk (flow : Flow) : Flow :=
  if flow.forwardBulkLastTimestamp > flow.backwardBulkStartTmp then
    { flow with backwardBulkStartTmp := 0 }
  else flow

def startBackwardBulk (flow : Flow) (packet : Packet) (payloadSize : Int) :
    Flow :=
  { flow with
    backwardBulkStartTmp := packet.time
    backwardBulkLastTimestamp := packet.time
    backwardBulkCountTmp := 1
    backwardBulkSizeTmp := payloadSize }

/-- Unlike the forward half, two separate tests instead of an `else if`. -/
def countBackwardBulk (flow : Flow) (packet : Packet) (payloadSize : Int) :
    Flow :=
  let flow :=
    if flow.backwardBulkCountTmp = bulkBound then
      { flow with
        backwardBulkCount := flow.backwardBulkCount + 1
        backwardBulkPacketCount :=
          flow.backwardBulkPacketCount + flow.backwardBulkCountTmp
        backwardBulkSize := flow.backwardBulkSize + flow.backwardBulkSizeTmp
        backwardBulkDuration :=
          flow.backwardBulkDuration +
            (packet.time - flow.backwardBulkStartTmp) }
    else flow
  if flow.backwardBulkCountTmp > bulkBound then
    { flow with
      backwardBulkPacketCount := flow.backwardBulkPacketCount + 1
      backwardBulkSize := flow.backwardBulkSize + payloadSize
      backwardBulkDuration :=
        flow.backwardBulkDuration +
          (packet.time - flow.backwardBulkLastTimestamp) }
  else flow

def extendBackwardBulk (flow : Flow) (packet : Packet) (payloadSize : Int) :
    Flow :=
  let flow :=
    { flow with
      backwardBulkCountTmp := flow.backwardBulkCountTmp + 1
      backwardBulkSizeTmp := flow.backwardBulkSizeTmp + payloadSize }
  let flow := countBackwardBulk flow packet payloadSize
  { flow with backwardBulkLastTimestamp := packet.time }

/-- The other half of `update_flow_bulk`. -/
def updateBackwardBulk (flow : Flow) (packet : Packet) (payloadSize : Int) :
    Flow :=
  let flow := resetBackwardBulk flow
  if flow.backwardBulkStartTmp = 0 then
    startBackwardBulk flow packet payloadSize
  else if packet.time - flow.backwardBulkLastTimestamp > clumpTimeout then
    startBackwardBulk flow packet payloadSize
  else extendBackwardBulk flow packet payloadSize

/-- `update_flow_bulk`. -/
def updateFlowBulk (flow : Flow) (packet : Packet)
    (direction : PacketDirection) : Flow :=
  let payloadSize := getPayload packet
  if payloadSize = 0 then flow
  else if direction = .forward then updateForwardBulk flow packet payloadSize
  else updateBackwardBulk flow packet payloadSize

/-! ## Recording a packet -/

/-- Allocate the array of pairs on first use and append the pair. -/
def recordPair (flow : Flow) (packet : Packet)
    (direction : PacketDirection) : Flow :=
  let flow :=
    if flow.packets.block = none then
      { flow with packets := initializePackets 10 }
    else flow
  { flow with packets := appendPair flow.packets packet direction }

/-- Allocate the inter-arrival times while there are none, and append one
unless this is the first packet. -/
def recordInterarrival (flow : Flow) (packet : Packet) : Flow :=
  let flow :=
    if flow.flowInterarrivalTime.count = 0 then
      { flow with flowInterarrivalTime := initializeFlowInterarrivalTime }
    else flow
  if flow.startTimestamp ≠ 0 then
    { flow with
      flowInterarrivalTime :=
        appendFlowInterarrivalTime flow.flowInterarrivalTime
          (1000000 * (packet.time - flow.latestTimestamp)) }
  else flow

def recordLatest (flow : Flow) (packet : Packet) : Flow :=
  { flow with
    latestTimestamp :=
      if packet.time > flow.latestTimestamp then packet.time
      else flow.latestTimestamp }

def recordWindow (flow : Flow) (packet : Packet)
    (direction : PacketDirection) : Flow :=
  if packet.protocol = ipprotoTcp then
    if direction = .forward ∧ flow.initWindowSize.1 = 0 then
      { flow with
        initWindowSize := (packet.window.toNat, flow.initWindowSize.2) }
    else if direction = .reverse then
      { flow with
        initWindowSize := (flow.initWindowSize.1, packet.window.toNat) }
    else flow
  else flow

def recordStart (flow : Flow) (packet : Packet) : Flow :=
  if flow.startTimestamp = 0 then
    { flow with
      startTimestamp := packet.time
      protocol := packet.protocol }
  else flow

/-- `add_packet_to_flow`. -/
def addPacketToFlow (flow : Flow) (packet : Packet)
    (direction : PacketDirection) : Flow :=
  let flow := recordPair flow packet direction
  let flow := updateFlowBulk flow packet direction
  let flow := updateSubflow flow packet
  let flow := recordInterarrival flow packet
  let flow := recordLatest flow packet
  let flow := recordWindow flow packet direction
  recordStart flow packet

/-- `get_flow_duration`. -/
def getFlowDuration (flow : Flow) : ℚ :=
  flow.latestTimestamp - flow.startTimestamp

/-- The flow without what the bulk machine keeps. -/
def Flow.clearBulk (flow : Flow) : Flow :=
  { flow with
    forwardBulkLastTimestamp := 0
    forwardBulkStartTmp := 0
    forwardBulkCount := 0
    forwardBulkCountTmp := 0
    forwardBulkDuration := 0
    forwardBulkPacketCount := 0
    forwardBulkSize := 0
    forwardBulkSizeTmp := 0
    backwardBulkLastTimestamp := 0
    backwardBulkStartTmp := 0
    backwardBulkCount := 0
    backwardBulkCountTmp := 0
    backwardBulkDuration := 0
    backwardBulkPacketCount := 0
    backwardBulkSize := 0
    backwardBulkSizeTmp := 0 }

/-- The flow without what the active/idle machine keeps. -/
def Flow.clearActivity (flow : Flow) : Flow :=
  { flow with startActive := 0, lastActive := 0, active := {}, idle := {} }

private theorem countForwardBulk_clearBulk
    (flow : Flow) (packet : Packet) (payloadSize : Int) :
    (countForwardBulk flow packet payloadSize).clearBulk =
      flow.clearBulk := by
  rw [countForwardBulk]
  split_ifs <;> rfl

private theorem countBackwardBulk_clearBulk
    (flow : Flow) (packet : Packet) (payloadSize : Int) :
    (countBackwardBulk flow packet payloadSize).clearBulk =
      flow.clearBulk := by
  rw [countBackwardBulk]
  by_cases reached : flow.backwardBulkCountTmp = bulkBound
  · simp only [reached, if_true]
    split_ifs <;> rfl
  · simp only [reached, if_false]
    split_ifs <;> rfl

private theorem updateForwardBulk_clearBulk
    (flow : Flow) (packet : Packet) (payloadSize : Int) :
    (updateForwardBulk flow packet payloadSize).clearBulk =
      flow.clearBulk := by
  have reset : (resetForwardBulk flow).clearBulk = flow.clearBulk := by
    rw [resetForwardBulk]
    split_ifs <;> rfl
  unfold updateForwardBulk
  rw [← reset]
  dsimp only
  split_ifs
  · rfl
  · rfl
  · exact countForwardBulk_clearBulk _ packet payloadSize

private theorem updateBackwardBulk_clearBulk
    (flow : Flow) (packet : Packet) (payloadSize : Int) :
    (updateBackwardBulk flow packet payloadSize).clearBulk =
      flow.clearBulk := by
  have reset : (resetBackwardBulk flow).clearBulk = flow.clearBulk := by
    rw [resetBackwardBulk]
    split_ifs <;> rfl
  unfold updateBackwardBulk
  rw [← reset]
  dsimp only
  split_ifs
  · rfl
  · rfl
  · exact countBackwardBulk_clearBulk _ packet payloadSize

theorem updateFlowBulk_clearBulk
    (flow : Flow) (packet : Packet) (direction : PacketDirection) :
    (updateFlowBulk flow packet direction).clearBulk = flow.clearBulk := by
  rw [updateFlowBulk]
  by_cases empty : getPayload packet = 0
  · simp only [empty, if_true]
  · by_cases forward : direction = .forward
    · simp only [empty, forward, if_false, if_true,
        updateForwardBulk_clearBulk]
    · simp only [empty, forward, if_false, updateBackwardBulk_clearBulk]

theorem updateSubflow_clearActivity (flow : Flow) (packet : Packet) :
    (updateSubflow flow packet).clearActivity = flow.clearActivity := by
  have active : ∀ (flow : Flow) (currentTime : ℚ),
      (updateActiveIdle flow currentTime).clearActivity =
        flow.clearActivity := by
    intro flow currentTime
    rw [updateActiveIdle]
    by_cases longGap : currentTime - flow.lastActive > activeTimeout
    · simp only [longGap, if_true]
      split_ifs <;> rfl
    · simp only [longGap, if_false]
      rfl
  rw [updateSubflow]
  by_cases clump :
      packet.time -
          (if flow.latestTimestamp ≠ 0 then flow.latestTimestamp
            else packet.time) > clumpTimeout
  · simp only [clump, if_true, active]
  · simp only [clump, if_false]

/-- The flow after the pair, the bulk machine and the active/idle machine;
outside the fields of the two machines only the pair is new. -/
private theorem machines_frame {beta : Type} (field : Flow → beta)
    (readsBulk : ∀ flow : Flow, field flow.clearBulk = field flow)
    (readsActivity : ∀ flow : Flow, field flow.clearActivity = field flow)
    (flow : Flow) (packet : Packet) (direction : PacketDirection) :
    field (updateSubflow (updateFlowBulk flow packet direction) packet) =
      field flow := by
  rw [← readsActivity, updateSubflow_clearActivity, readsActivity,
    ← readsBulk, updateFlowBulk_clearBulk, readsBulk]

theorem recordPair_eq
    (flow : Flow) (packet : Packet) (direction : PacketDirection) :
    recordPair flow packet direction =
      { flow with packets := (recordPair flow packet direction).packets } := by
  rw [recordPair]
  split_ifs <;> rfl

private theorem recordPair_pairs
    (flow : Flow) (packet : Packet) (direction : PacketDirection) :
    (recordPair flow packet direction).pairs =
      flow.pairs ++ [⟨packet, direction⟩] := by
  rw [recordPair, Flow.pairs]
  by_cases unallocated : flow.packets.block = none
  · simp [unallocated, initializePackets]
  · simp [unallocated]

theorem recordInterarrival_eq (flow : Flow) (packet : Packet) :
    recordInterarrival flow packet =
      { flow with
        flowInterarrivalTime :=
          (recordInterarrival flow packet).flowInterarrivalTime } := by
  rw [recordInterarrival]
  by_cases empty : flow.flowInterarrivalTime.count = 0
  · simp only [empty, if_true]
    split_ifs <;> rfl
  · simp only [empty, if_false]
    split_ifs <;> rfl

theorem recordWindow_eq
    (flow : Flow) (packet : Packet) (direction : PacketDirection) :
    recordWindow flow packet direction =
      { flow with
        initWindowSize :=
          (recordWindow flow packet direction).initWindowSize } := by
  rw [recordWindow]
  split_ifs <;> rfl

theorem recordStart_eq (flow : Flow) (packet : Packet) :
    recordStart flow packet =
      { flow with
        startTimestamp :=
          if flow.startTimestamp = 0 then packet.time
          else flow.startTimestamp
        protocol :=
          if flow.startTimestamp = 0 then packet.protocol
          else flow.protocol } := by
  rw [recordStart]
  split_ifs <;> rfl

/-- `add_packet_to_flow` appends one pair. -/
@[simp]
theorem addPacketToFlow_pairs
    (flow : Flow) (packet : Packet) (direction : PacketDirection) :
    (addPacketToFlow flow packet direction).pairs =
      flow.pairs ++ [⟨packet, direction⟩] := by
  rw [addPacketToFlow, recordStart_eq, recordWindow_eq, recordLatest,
    recordInterarrival_eq, ← recordPair_pairs]
  exact machines_frame Flow.pairs (fun _ => rfl) (fun _ => rfl) _ _ _

/-- `latest_timestamp` is a running maximum. -/
@[simp]
theorem addPacketToFlow_latestTimestamp
    (flow : Flow) (packet : Packet) (direction : PacketDirection) :
    (addPacketToFlow flow packet direction).latestTimestamp =
      max flow.latestTimestamp packet.time := by
  rw [addPacketToFlow, recordStart_eq, recordWindow_eq, recordLatest,
    recordInterarrival_eq]
  have unchanged :
      (updateSubflow (updateFlowBulk (recordPair flow packet direction)
        packet direction) packet).latestTimestamp =
        flow.latestTimestamp := by
    rw [machines_frame Flow.latestTimestamp (fun _ => rfl) (fun _ => rfl),
      recordPair_eq]
  simp only [unchanged]
  by_cases later : packet.time > flow.latestTimestamp
  · rw [if_pos later, max_eq_right (le_of_lt later)]
  · rw [if_neg later, max_eq_left (le_of_not_gt later)]

/-- The fields that name a flow. -/
def Flow.header (flow : Flow) : CString × CString × Int × Int × UInt8 :=
  (flow.srcIp, flow.destIp, flow.srcPort, flow.destPort, flow.protocol)

/-- Recording keeps the addresses and ports, and the protocol as long as the
packet has it. -/
theorem addPacketToFlow_header
    {flow : Flow} {packet : Packet} (direction : PacketDirection)
    (sameProtocol : packet.protocol = flow.protocol) :
    (addPacketToFlow flow packet direction).header = flow.header := by
  rw [addPacketToFlow, recordStart_eq, recordWindow_eq, recordLatest,
    recordInterarrival_eq]
  have unchanged :
      (updateSubflow (updateFlowBulk (recordPair flow packet direction)
        packet direction) packet).header = flow.header := by
    rw [machines_frame Flow.header (fun _ => rfl) (fun _ => rfl),
      recordPair_eq]
    rfl
  have protocolUnchanged := congrArg (fun header => header.2.2.2.2) unchanged
  simp only [Flow.header, Prod.mk.injEq] at unchanged protocolUnchanged ⊢
  refine ⟨unchanged.1, unchanged.2.1, unchanged.2.2.1, unchanged.2.2.2.1, ?_⟩
  rw [protocolUnchanged, sameProtocol, ite_self]

end UzFlowMeter
