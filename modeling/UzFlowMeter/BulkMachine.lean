import UzFlowMeter.FlowHistory

/-!
# The bulk machine

`update_flow_bulk` has two halves that keep fields of the same kind and read
one field of each other, the time of the last packet.  A half is described
once; the two halves of the code are both instances of it.
-/

namespace UzFlowMeter

/-- The fields that one half of the bulk machine keeps. -/
structure BulkHalf where
  lastTimestamp : ℚ := 0
  startTmp : ℚ := 0
  count : Int := 0
  countTmp : Int := 0
  duration : ℚ := 0
  packetCount : Int := 0
  size : Int := 0
  sizeTmp : Int := 0
  deriving DecidableEq, Repr

namespace BulkHalf

def start (half : BulkHalf) (time : ℚ) (payloadSize : Int) : BulkHalf :=
  { half with
    startTmp := time
    lastTimestamp := time
    countTmp := 1
    sizeTmp := payloadSize }

/-- Account for a packet that is already in the tentative counters. -/
def tally (half : BulkHalf) (time : ℚ) (payloadSize : Int) : BulkHalf :=
  if half.countTmp = bulkBound then
    { half with
      count := half.count + 1
      packetCount := half.packetCount + half.countTmp
      size := half.size + half.sizeTmp
      duration := half.duration + (time - half.startTmp) }
  else if half.countTmp > bulkBound then
    { half with
      packetCount := half.packetCount + 1
      size := half.size + payloadSize
      duration := half.duration + (time - half.lastTimestamp) }
  else half

def extend (half : BulkHalf) (time : ℚ) (payloadSize : Int) : BulkHalf :=
  let half :=
    { half with
      countTmp := half.countTmp + 1
      sizeTmp := half.sizeTmp + payloadSize }
  { half.tally time payloadSize with lastTimestamp := time }

/-- When a packet begins a new tentative bulk: the other half has moved on,
there is none yet, or the last packet is too long ago. -/
def Restarts (half : BulkHalf) (otherLast time : ℚ) : Prop :=
  otherLast > half.startTmp ∨ half.startTmp = 0 ∨
    time - half.lastTimestamp > clumpTimeout

instance (half : BulkHalf) (otherLast time : ℚ) :
    Decidable (half.Restarts otherLast time) :=
  inferInstanceAs (Decidable (_ ∨ _ ∨ _))

/-- One half of `update_flow_bulk`, with the time of the last packet of the
other half. -/
def update (half : BulkHalf) (otherLast time : ℚ) (payloadSize : Int) :
    BulkHalf :=
  if half.Restarts otherLast time then half.start time payloadSize
  else half.extend time payloadSize

theorem update_lastTimestamp (half : BulkHalf) (otherLast time : ℚ)
    (payloadSize : Int) :
    (half.update otherLast time payloadSize).lastTimestamp = time := by
  rw [update]
  split_ifs <;> rfl

/-- The tentative bytes are those of the packet alone, or come on top of the
earlier ones. -/
theorem update_sizeTmp (half : BulkHalf) (otherLast time : ℚ)
    (payloadSize : Int) :
    (half.update otherLast time payloadSize).sizeTmp = payloadSize ∨
      (half.update otherLast time payloadSize).sizeTmp =
        half.sizeTmp + payloadSize := by
  rw [update]
  split_ifs
  · exact Or.inl rfl
  · right
    rw [extend, tally]
    split_ifs <;> rfl

/-! A packet that goes on with the tentative bulk leaves it too short to
count, makes it long enough, or extends one that has been counted. -/

section Extension

variable {half : BulkHalf} (time : ℚ) (payloadSize : Int)

theorem extend_of_short (short : half.countTmp + 1 < bulkBound) :
    half.extend time payloadSize =
      { half with
        lastTimestamp := time
        countTmp := half.countTmp + 1
        sizeTmp := half.sizeTmp + payloadSize } := by
  have notReached : ¬ half.countTmp + 1 = bulkBound := ne_of_lt short
  have notBeyond : ¬ half.countTmp + 1 > bulkBound := lt_asymm short
  simp only [extend, tally, if_neg notReached, if_neg notBeyond]

theorem extend_of_reached (reached : half.countTmp + 1 = bulkBound) :
    half.extend time payloadSize =
      { half with
        lastTimestamp := time
        count := half.count + 1
        countTmp := half.countTmp + 1
        duration := half.duration + (time - half.startTmp)
        packetCount := half.packetCount + (half.countTmp + 1)
        size := half.size + (half.sizeTmp + payloadSize)
        sizeTmp := half.sizeTmp + payloadSize } := by
  simp only [extend, tally, if_pos reached]

theorem extend_of_counted (counted : bulkBound < half.countTmp + 1) :
    half.extend time payloadSize =
      { half with
        lastTimestamp := time
        countTmp := half.countTmp + 1
        duration := half.duration + (time - half.lastTimestamp)
        packetCount := half.packetCount + 1
        size := half.size + payloadSize
        sizeTmp := half.sizeTmp + payloadSize } := by
  have notReached : ¬ half.countTmp + 1 = bulkBound := ne_of_gt counted
  have beyond : half.countTmp + 1 > bulkBound := counted
  simp only [extend, tally, if_neg notReached, if_pos beyond]

end Extension

end BulkHalf

def Flow.forwardBulk (flow : Flow) : BulkHalf where
  lastTimestamp := flow.forwardBulkLastTimestamp
  startTmp := flow.forwardBulkStartTmp
  count := flow.forwardBulkCount
  countTmp := flow.forwardBulkCountTmp
  duration := flow.forwardBulkDuration
  packetCount := flow.forwardBulkPacketCount
  size := flow.forwardBulkSize
  sizeTmp := flow.forwardBulkSizeTmp

def Flow.backwardBulk (flow : Flow) : BulkHalf where
  lastTimestamp := flow.backwardBulkLastTimestamp
  startTmp := flow.backwardBulkStartTmp
  count := flow.backwardBulkCount
  countTmp := flow.backwardBulkCountTmp
  duration := flow.backwardBulkDuration
  packetCount := flow.backwardBulkPacketCount
  size := flow.backwardBulkSize
  sizeTmp := flow.backwardBulkSizeTmp

section Halves

variable (flow : Flow) (packet : Packet) (payloadSize : Int)

private theorem countForwardBulk_forwardBulk :
    (countForwardBulk flow packet payloadSize).forwardBulk =
      flow.forwardBulk.tally packet.time payloadSize := by
  rw [countForwardBulk, BulkHalf.tally]
  simp only [apply_ite Flow.forwardBulk]
  rfl

private theorem updateForwardBulk_forwardBulk :
    (updateForwardBulk flow packet payloadSize).forwardBulk =
      flow.forwardBulk.update flow.backwardBulkLastTimestamp packet.time
        payloadSize := by
  rw [updateForwardBulk, resetForwardBulk, BulkHalf.update]
  by_cases reset :
      flow.backwardBulkLastTimestamp > flow.forwardBulkStartTmp
  · have restarts : flow.forwardBulk.Restarts
        flow.backwardBulkLastTimestamp packet.time := Or.inl reset
    rw [if_pos reset, if_pos restarts]
    exact congrArg Flow.forwardBulk (if_pos rfl)
  · rw [if_neg reset]
    by_cases none : flow.forwardBulkStartTmp = 0
    · have restarts : flow.forwardBulk.Restarts
          flow.backwardBulkLastTimestamp packet.time := Or.inr (Or.inl none)
      rw [if_pos none, if_pos restarts]
      rfl
    · by_cases late :
          packet.time - flow.forwardBulkLastTimestamp > clumpTimeout
      · have restarts : flow.forwardBulk.Restarts
            flow.backwardBulkLastTimestamp packet.time :=
          Or.inr (Or.inr late)
        rw [if_neg none, if_pos late, if_pos restarts]
        rfl
      · have goesOn : ¬ flow.forwardBulk.Restarts
            flow.backwardBulkLastTimestamp packet.time :=
          not_or.mpr ⟨reset, not_or.mpr ⟨none, late⟩⟩
        rw [if_neg none, if_neg late, if_neg goesOn, BulkHalf.extend,
          extendForwardBulk]
        exact congrArg
          (fun half : BulkHalf =>
            { half with lastTimestamp := packet.time })
          (countForwardBulk_forwardBulk _ packet payloadSize)

private theorem updateForwardBulk_backwardBulk :
    (updateForwardBulk flow packet payloadSize).backwardBulk =
      flow.backwardBulk := by
  have counted : ∀ flow : Flow,
      (countForwardBulk flow packet payloadSize).backwardBulk =
        flow.backwardBulk := by
    intro flow
    rw [countForwardBulk]
    split_ifs <;> rfl
  have reset : (resetForwardBulk flow).backwardBulk =
      flow.backwardBulk := by
    rw [resetForwardBulk]
    split_ifs <;> rfl
  rw [updateForwardBulk, ← reset]
  split_ifs
  · rfl
  · rfl
  · exact counted _

end Halves

/-! ## The backward half mirrors the forward half -/

/-- Exchange the fields of the two halves. -/
def Flow.swapBulks (flow : Flow) : Flow :=
  { flow with
    forwardBulkLastTimestamp := flow.backwardBulkLastTimestamp
    forwardBulkStartTmp := flow.backwardBulkStartTmp
    forwardBulkCount := flow.backwardBulkCount
    forwardBulkCountTmp := flow.backwardBulkCountTmp
    forwardBulkDuration := flow.backwardBulkDuration
    forwardBulkPacketCount := flow.backwardBulkPacketCount
    forwardBulkSize := flow.backwardBulkSize
    forwardBulkSizeTmp := flow.backwardBulkSizeTmp
    backwardBulkLastTimestamp := flow.forwardBulkLastTimestamp
    backwardBulkStartTmp := flow.forwardBulkStartTmp
    backwardBulkCount := flow.forwardBulkCount
    backwardBulkCountTmp := flow.forwardBulkCountTmp
    backwardBulkDuration := flow.forwardBulkDuration
    backwardBulkPacketCount := flow.forwardBulkPacketCount
    backwardBulkSize := flow.forwardBulkSize
    backwardBulkSizeTmp := flow.forwardBulkSizeTmp }

@[simp]
theorem Flow.swapBulks_swapBulks (flow : Flow) :
    flow.swapBulks.swapBulks = flow := rfl

@[simp]
theorem Flow.swapBulks_forwardBulk (flow : Flow) :
    flow.swapBulks.forwardBulk = flow.backwardBulk := rfl

@[simp]
theorem Flow.swapBulks_backwardBulk (flow : Flow) :
    flow.swapBulks.backwardBulk = flow.forwardBulk := rfl

section Mirror

variable (flow : Flow) (packet : Packet) (payloadSize : Int)

/-- The counter cannot be at the bound and above it, so that the second test
of the backward half need not be an `else if`. -/
theorem countBackwardBulk_eq :
    countBackwardBulk flow packet payloadSize =
      (countForwardBulk flow.swapBulks packet payloadSize).swapBulks := by
  have sameCounter :
      flow.swapBulks.forwardBulkCountTmp = flow.backwardBulkCountTmp := rfl
  rw [countBackwardBulk, countForwardBulk, sameCounter]
  by_cases reached : flow.backwardBulkCountTmp = bulkBound
  · simp only [reached, if_true, gt_iff_lt, lt_irrefl, if_false]
    rfl
  · simp only [reached, if_false, apply_ite Flow.swapBulks]
    rfl

private theorem extendBackwardBulk_eq :
    extendBackwardBulk flow packet payloadSize =
      (extendForwardBulk flow.swapBulks packet payloadSize).swapBulks := by
  rw [extendBackwardBulk, extendForwardBulk]
  simp only [countBackwardBulk_eq]
  rfl

private theorem resetBackwardBulk_eq :
    resetBackwardBulk flow =
      (resetForwardBulk flow.swapBulks).swapBulks := by
  rw [resetBackwardBulk, resetForwardBulk]
  simp only [apply_ite Flow.swapBulks]
  rfl

private theorem updateBackwardBulk_eq :
    updateBackwardBulk flow packet payloadSize =
      (updateForwardBulk flow.swapBulks packet payloadSize).swapBulks := by
  rw [updateBackwardBulk, updateForwardBulk]
  simp only [resetBackwardBulk_eq, extendBackwardBulk_eq,
    apply_ite Flow.swapBulks]
  rfl

private theorem updateBackwardBulk_backwardBulk :
    (updateBackwardBulk flow packet payloadSize).backwardBulk =
      flow.backwardBulk.update flow.forwardBulkLastTimestamp packet.time
        payloadSize := by
  rw [updateBackwardBulk_eq, Flow.swapBulks_backwardBulk,
    updateForwardBulk_forwardBulk]
  rfl

private theorem updateBackwardBulk_forwardBulk :
    (updateBackwardBulk flow packet payloadSize).forwardBulk =
      flow.forwardBulk := by
  rw [updateBackwardBulk_eq, Flow.swapBulks_forwardBulk,
    updateForwardBulk_backwardBulk]
  rfl

end Mirror

/-- The half of the bulk machine that works for a direction. -/
def Flow.bulk (flow : Flow) : PacketDirection → BulkHalf
  | .forward => flow.forwardBulk
  | .reverse => flow.backwardBulk
  | .both => flow.backwardBulk

def PacketDirection.opposite : PacketDirection → PacketDirection
  | forward => reverse
  | reverse => forward
  | both => forward

/-- A side is served by the half of a direction or by the other one. -/
theorem bulk_eq_or_opposite (side direction : PacketDirection) :
    (∀ flow : Flow, flow.bulk side = flow.bulk direction) ∨
      ∀ flow : Flow, flow.bulk side = flow.bulk direction.opposite := by
  cases side <;> cases direction <;>
    first
      | exact Or.inl fun _ => rfl
      | exact Or.inr fun _ => rfl

section Recording

variable (flow : Flow) (packet : Packet) (direction : PacketDirection)

private theorem updateFlowBulk_bulk_self :
    (updateFlowBulk flow packet direction).bulk direction =
      if getPayload packet = 0 then flow.bulk direction
      else
        (flow.bulk direction).update
          (flow.bulk direction.opposite).lastTimestamp packet.time
          (getPayload packet) := by
  rw [updateFlowBulk]
  by_cases empty : getPayload packet = 0
  · simp only [empty, if_true]
  · simp only [empty, if_false]
    cases direction with
    | forward =>
        exact updateForwardBulk_forwardBulk flow packet (getPayload packet)
    | reverse =>
        exact updateBackwardBulk_backwardBulk flow packet
          (getPayload packet)
    | both =>
        exact updateBackwardBulk_backwardBulk flow packet
          (getPayload packet)

private theorem updateFlowBulk_bulk_opposite :
    (updateFlowBulk flow packet direction).bulk direction.opposite =
      flow.bulk direction.opposite := by
  rw [updateFlowBulk]
  by_cases empty : getPayload packet = 0
  · simp only [empty, if_true]
  · simp only [empty, if_false]
    cases direction with
    | forward =>
        exact updateForwardBulk_backwardBulk flow packet (getPayload packet)
    | reverse =>
        exact updateBackwardBulk_forwardBulk flow packet (getPayload packet)
    | both =>
        exact updateBackwardBulk_forwardBulk flow packet (getPayload packet)

/-- Nothing else in a call touches the bulk machine. -/
private theorem addPacketToFlow_bulk (side : PacketDirection) :
    (addPacketToFlow flow packet direction).bulk side =
      (updateFlowBulk (recordPair flow packet direction) packet
        direction).bulk side := by
  have readsActivity : ∀ flow : Flow,
      flow.clearActivity.bulk side = flow.bulk side := by
    intro flow
    cases side <;> rfl
  rw [← readsActivity (updateFlowBulk _ packet direction),
    ← updateSubflow_clearActivity _ packet, readsActivity,
    addPacketToFlow, recordStart_eq, recordWindow_eq, recordLatest,
    recordInterarrival_eq]
  cases side <;> rfl

private theorem recordPair_bulk (side : PacketDirection) :
    (recordPair flow packet direction).bulk side = flow.bulk side := by
  rw [recordPair_eq]
  cases side <;> rfl

/-- A packet with payload updates the half of its direction. -/
theorem addPacketToFlow_bulk_self :
    (addPacketToFlow flow packet direction).bulk direction =
      if getPayload packet = 0 then flow.bulk direction
      else
        (flow.bulk direction).update
          (flow.bulk direction.opposite).lastTimestamp packet.time
          (getPayload packet) := by
  rw [addPacketToFlow_bulk, updateFlowBulk_bulk_self, recordPair_bulk,
    recordPair_bulk]

theorem addPacketToFlow_bulk_opposite :
    (addPacketToFlow flow packet direction).bulk direction.opposite =
      flow.bulk direction.opposite := by
  rw [addPacketToFlow_bulk, updateFlowBulk_bulk_opposite, recordPair_bulk]

end Recording

/-- The step of the machine in the mirror works on the exchanged halves, from
any state. -/
theorem updateFlowBulk_swapBulks
    (flow : Flow) (packet : Packet) (direction : PacketDirection) :
    (updateFlowBulk flow packet direction).swapBulks =
      updateFlowBulk flow.swapBulks packet direction.opposite := by
  rw [updateFlowBulk, updateFlowBulk]
  by_cases empty : getPayload packet = 0
  · simp only [empty, if_true]
  · simp only [empty, if_false]
    cases direction with
    | forward =>
        rw [if_pos rfl, PacketDirection.opposite, if_neg (by decide),
          updateBackwardBulk_eq, Flow.swapBulks_swapBulks]
    | reverse =>
        rw [if_neg (by decide), PacketDirection.opposite, if_pos rfl,
          updateBackwardBulk_eq, Flow.swapBulks_swapBulks]
    | both =>
        rw [if_neg (by decide), PacketDirection.opposite, if_pos rfl,
          updateBackwardBulk_eq, Flow.swapBulks_swapBulks]

/-- A sequence of calls of `update_flow_bulk`. -/
def Flow.bulkAll (flow : Flow) (calls : List Pair) : Flow :=
  calls.foldl
    (fun flow call => updateFlowBulk flow call.packet call.direction) flow

/-- The call with its direction flipped. -/
def Pair.flip (call : Pair) : Pair :=
  { call with direction := call.direction.opposite }

private theorem bulkAll_swapBulks (flow : Flow) (calls : List Pair) :
    (flow.bulkAll calls).swapBulks =
      flow.swapBulks.bulkAll (calls.map Pair.flip) := by
  induction calls generalizing flow with
  | nil =>
      rfl
  | cons call calls inductionHypothesis =>
      have step :=
        updateFlowBulk_swapBulks flow call.packet call.direction
      rw [Flow.bulkAll, List.foldl_cons, List.map_cons]
      have rest := inductionHypothesis
        (updateFlowBulk flow call.packet call.direction)
      rw [step] at rest
      exact rest

/-- The halves of the bulk machine are mirror images: in every state the
update commutes with the exchange of the halves and the direction, and
flipping all directions exchanges the halves of the result. -/
theorem updateFlowBulk_mirror :
    (∀ (flow : Flow) (packet : Packet) (direction : PacketDirection),
        (updateFlowBulk flow packet direction).swapBulks =
          updateFlowBulk flow.swapBulks packet direction.opposite) ∧
      ∀ calls : List Pair,
        Flow.bulkAll {} (calls.map Pair.flip) =
          (Flow.bulkAll {} calls).swapBulks := by
  refine ⟨updateFlowBulk_swapBulks, ?_⟩
  intro calls
  exact (bulkAll_swapBulks {} calls).symm

end UzFlowMeter
