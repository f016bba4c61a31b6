import Mathlib.Logic.Function.Basic
import UzFlowMeter.PacketTime

/-!
# The flow session

The model of `flow_session.c`.  Its functions are written once, over the
calls they make, and run in different processes: in the one here nothing
fails, others watch the memory.  The session's array holds pointers to flows;
the flows themselves lie in a heap, so that a flow that is changed through a
pointer is changed in every entry that points to it.  `malloc` never hands
out the same pointer twice.  `get_data` is modelled by the list of the flows
it was called on, with their contents at the call.
-/

namespace UzFlowMeter

abbrev FlowPtr := Nat

/-- `Flows`: an entry of the session's array. -/
structure Flows where
  key : CString
  count : Nat
  flow : FlowPtr
  deriving DecidableEq, Repr

/-- `FlowSession`. -/
structure FlowSession where
  flows : GrowArray Flows
  packetCount : Int
  deriving DecidableEq, Repr

/-- A pointer to a flow with the contents it leads to at some moment: what
`get_data` is given, for instance. -/
structure FlowSnapshot where
  flow : FlowPtr
  contents : Flow
  deriving DecidableEq

/-- The state of the process: the session, the heap of flows with the next
pointer `malloc` returns, the calls of `get_data` so far, and how often the
garbage collection has announced itself. -/
structure Meter where
  session : FlowSession
  heap : FlowPtr → Flow
  nextFlow : FlowPtr
  exported : List FlowSnapshot
  collections : Nat

/-- `EXPIRED_UPDATE`. -/
def expiredUpdate : ℚ := 40
def garbageCollectPackets : Int := 10000
/-- `TH_FIN`. -/
def thFin : UInt8 := 0x01

/-- The entries of the session, in array order. -/
abbrev FlowSession.entries (session : FlowSession) : List Flows :=
  session.flows.items

def FlowSession.flowCount (session : FlowSession) : Nat :=
  session.flows.count

/-- `init_flow_session`. -/
def initFlowSession (initialCapacity : Nat) : FlowSession :=
  ⟨GrowArray.ofCapacity initialCapacity, 0⟩

/-- `add_flow`. -/
def addFlow (session : FlowSession) (flowKey : CString) (flow : FlowPtr)
    (count : Nat) : FlowSession :=
  { session with
    flows :=
      (session.flows.growWhen
          (session.flowCount = session.flows.capacity)).store
        ⟨flowKey, count, flow⟩ }

theorem addFlow_entries (session : FlowSession) (flowKey : CString)
    (flow : FlowPtr) (count : Nat) :
    (addFlow session flowKey flow count).entries =
      session.entries ++ [⟨flowKey, count, flow⟩] := by
  rw [addFlow, FlowSession.entries, GrowArray.store_items,
    GrowArray.growWhen_items]

/-- `delete_flow_by_key`: remove the first entry with the key and shift the
later ones; the result tells whether there was one. -/
def deleteFlowByKey (session : FlowSession) (key : CString) :
    FlowSession × Int :=
  if session.entries.any (fun entry => entry.key == key) then
    ({ session with
        flows := session.flows.withItems
          (session.entries.eraseP fun entry => entry.key == key) }, 1)
  else
    (session, 0)

/-- `get_flow`. -/
def getFlow (session : FlowSession) (key : CString) (count : Nat) :
    Option FlowPtr :=
  (session.entries.find? fun entry =>
    entry.key == key && entry.count == count).map Flows.flow

/-- `get_flow_by_its_key`. -/
def getFlowByItsKey (session : FlowSession) (key : CString) :
    Option FlowPtr :=
  (session.entries.find? fun entry => entry.key == key).map Flows.flow

/-- `get_flow_keys`. -/
def getFlowKeys (session : FlowSession) : List CString :=
  session.entries.map Flows.key

/-- The number of entries with a key and a count above a bound: what the
walk over expired segments has left to look at. -/
def segmentsAbove (session : FlowSession) (key : CString) (count : Nat) :
    Nat :=
  session.entries.countP fun entry =>
    entry.key == key && decide (count < entry.count)

theorem segmentsAbove_lt_of_getFlow
    {session : FlowSession} {key : CString} {count : Nat} {flow : FlowPtr}
    (found : getFlow session key (count + 1) = some flow) :
    segmentsAbove session key (count + 1) <
      segmentsAbove session key count := by
  rw [getFlow] at found
  obtain ⟨entry, entryFound, -⟩ := Option.map_eq_some_iff.mp found
  have matched := List.find?_some entryFound
  have member := List.mem_of_find?_eq_some entryFound
  simp only [Bool.and_eq_true, beq_iff_eq] at matched
  unfold segmentsAbove
  obtain ⟨before, after, split⟩ := List.append_of_mem member
  have monotone : ∀ entries : List Flows,
      entries.countP (fun entry =>
          entry.key == key && decide (count + 1 < entry.count)) ≤
        entries.countP (fun entry =>
          entry.key == key && decide (count < entry.count)) := by
    intro entries
    apply List.countP_mono_left
    intro other _ above
    simp only [Bool.and_eq_true, decide_eq_true_eq] at above ⊢
    exact ⟨above.1, by omega⟩
  have beforeLe := monotone before
  have afterLe := monotone after
  rw [split]
  simp only [List.countP_append, List.countP_cons, matched.1, matched.2,
    beq_self_eq_true, Bool.true_and, decide_eq_true_eq]
  simp only [Nat.lt_irrefl, if_false, Nat.lt_succ_self, if_true]
  omega

/-- What `on_packet_received` and `garbage_collect` ask of the process: the
values they read through pointers, and the calls that change its state.  A
state may keep account of any part of the memory, and `m` says how a call may
fail. -/
structure Process (m : Type → Type) (State Copies : Type) where
  session : State → FlowSession
  countPacket : State → State
  /-- `flow->latest_timestamp`. -/
  latestTimestamp : State → FlowPtr → m ℚ
  getDuration : State → FlowPtr → m ℚ
  /-- `malloc`, `memset` and the copies of the key fields. -/
  allocateFlow : State → Packet → m (State × FlowPtr)
  addPacketToFlow : State → FlowPtr → Packet → PacketDirection → m State
  addFlow : State → CString → FlowPtr → Nat → m State
  getData : State → FlowPtr → m State
  deleteFlowByKey : State → CString → m State
  /-- `get_flow_keys` and the announcement. -/
  beginCollection : State → m (State × Copies)
  /-- The copies of the keys are freed. -/
  endCollection : State → Copies → m State

namespace Process

variable {m : Type → Type} [Monad m] {State Copies : Type}
  (process : Process m State Copies)

/-- The expiry test of `garbage_collect`, whose second operand is evaluated
only if the first one is false. -/
def isExpired (state : State) (latestTime : ℚ) (flow : FlowPtr) :
    m Bool := do
  let latestTimestamp ← process.latestTimestamp state flow
  if latestTime - latestTimestamp > expiredUpdate then return true
  else
    let duration ← process.getDuration state flow
    return decide (duration > 90)

/-- The body of the loop of `garbage_collect` for one key. -/
def collectKey (state : State) (latestTime : ℚ) (key : CString) :
    m State :=
  match getFlowByItsKey (process.session state) key with
  | none => return state
  | some flow => do
      let expired ← process.isExpired state latestTime flow
      if expired then
        let state ← process.getData state flow
        process.deleteFlowByKey state key
      else return state

/-- The loop of `garbage_collect` from index `i` on: it runs over the keys
taken at its start, and up to the current number of entries. -/
def collectKeys (latestTime : ℚ) : List CString → Nat → State → m State
  | [], _, state => return state
  | key :: keys, i, state =>
      if i < (process.session state).flowCount then do
        let state ← process.collectKey state latestTime key
        collectKeys latestTime keys (i + 1) state
      else return state

/-- `garbage_collect`. -/
def garbageCollect (state : State) (latestTime : ℚ) : m State := do
  let keys := getFlowKeys (process.session state)
  let (state, copies) ← process.beginCollection state
  let state ← process.collectKeys latestTime keys 0 state
  process.endCollection state copies

/-- The loop over the segments of an expired conversation. -/
def walkExpired (state : State) (packett : Packet) (flowKey : CString)
    (count : Nat) (expired : ℚ) (flow : FlowPtr) : m (State × FlowPtr) := do
  let latestTimestamp ← process.latestTimestamp state flow
  if packett.time - latestTimestamp > expired then
    match _found : getFlow (process.session state) flowKey (count + 1) with
    | some flow =>
        walkExpired state packett flowKey (count + 1)
          (expired + expiredUpdate) flow
    | none =>
        let (state, flow) ← process.allocateFlow state packett
        let flowKey := getFlowKey flowKey packett .forward
        let state ← process.addFlow state flowKey flow (count + 1)
        return (state, flow)
  else return (state, flow)
termination_by segmentsAbove (process.session state) flowKey count
decreasing_by exact segmentsAbove_lt_of_getFlow _found

/-- When `on_packet_received` ends with a collection: on every ten
thousandth packet, and else on a long flow. -/
def isDue (state : State) (flow : FlowPtr) : m Bool :=
  if (process.session state).packetCount % garbageCollectPackets = 0 then
    return true
  else do
    let duration ← process.getDuration state flow
    return decide (duration > 120)

/-- The end of `on_packet_received`. -/
def recordPacket (state : State) (packett : Packet) (flow : FlowPtr) :
    m State := do
  let state ← process.addPacketToFlow state flow packett .forward
  let due ← process.isDue state flow
  if due then process.garbageCollect state packett.time
  else return state

/-- The branch of `on_packet_received` without a flow in either
orientation. -/
def startFlow (state : State) (packett : Packet) (flowKey : CString) :
    m State := do
  let (state, flow) ← process.allocateFlow state packett
  let flowKey := getFlowKey flowKey packett .forward
  let state ← process.addPacketToFlow state flow packett .forward
  let state ← process.addFlow state flowKey flow 0
  process.recordPacket state packett flow

/-- The branches of `on_packet_received` with a flow: an expired one, a
`FIN` packet, and the remaining case. -/
def continueFlow (state : State) (packett : Packet) (flowKey : CString)
    (flow : FlowPtr) : m State := do
  let latestTimestamp ← process.latestTimestamp state flow
  if packett.time - latestTimestamp > expiredUpdate then
    let (state, flow) ←
      process.walkExpired state packett flowKey 0 expiredUpdate flow
    process.recordPacket state packett flow
  else if packett.flags &&& thFin ≠ 0 then
    let state ← process.addPacketToFlow state flow packett .forward
    process.garbageCollect state packett.time
  else process.recordPacket state packett flow

/-- `on_packet_received` after `parse_packet`. -/
def receivePacket (state : State) (packett : Packet) : m State :=
  if packett.Accepted then
    let flowKey := getFlowKey [] packett .forward
    let flow := getFlow (process.session state) flowKey 0
    let state := process.countPacket state
    match flow with
    | some flow => process.continueFlow state packett flowKey flow
    | none =>
        let flowKey := getFlowKey flowKey packett .reverse
        match getFlow (process.session state) flowKey 0 with
        | some flow => do
            let state ← process.addPacketToFlow state flow packett .reverse
            process.continueFlow state packett flowKey flow
        | none => process.startFlow state packett flowKey
  else return state

/-- `on_packet_received`. -/
def onPacketReceived (state : State) (frame : Frame) : m State :=
  process.receivePacket state frame.parsed

/-- `packet_handler` forwards the frames of ether type IPv4. -/
def packetHandler (state : State) (frame : Frame) : m State :=
  if ntohs (frame.packet 12) (frame.packet 13) = ethertypeIp then
    process.onPacketReceived state frame
  else return state

end Process

/-! ## The process with its flows -/

/-- `memset` and the copies of the five key fields of a packet. -/
def newFlow (packett : Packet) : Flow where
  srcIp := packett.srcIp
  destIp := packett.destIp
  srcPort := packett.srcPort.toNat
  destPort := packett.destPort.toNat
  protocol := packett.protocol

namespace Meter

/-- The state after `init_flow_session`. -/
def initial (initialCapacity : Nat) : Meter where
  session := initFlowSession initialCapacity
  heap := fun _ => {}
  nextFlow := 0
  exported := []
  collections := 0

/-- `malloc` of a new flow, with the contents it is given first. -/
def allocateFlow (meter : Meter) (packett : Packet) : Meter × FlowPtr :=
  ({ meter with
      heap := Function.update meter.heap meter.nextFlow (newFlow packett)
      nextFlow := meter.nextFlow + 1 },
    meter.nextFlow)

/-- `add_packet_to_flow` through a pointer. -/
def addPacketToFlow (meter : Meter) (flow : FlowPtr) (packet : Packet)
    (direction : PacketDirection) : Meter :=
  { meter with
    heap := Function.update meter.heap flow
      (UzFlowMeter.addPacketToFlow (meter.heap flow) packet direction) }

/-- `add_flow` on the session of the process. -/
def addFlow (meter : Meter) (flowKey : CString) (flow : FlowPtr)
    (count : Nat) : Meter :=
  { meter with
    session := UzFlowMeter.addFlow meter.session flowKey flow count }

/-- `get_data`. -/
def getData (meter : Meter) (flow : FlowPtr) : Meter :=
  { meter with exported := meter.exported ++ [⟨flow, meter.heap flow⟩] }

def countPacket (meter : Meter) : Meter :=
  { meter with
    session := { meter.session with
      packetCount := meter.session.packetCount + 1 } }

/-- `delete_flow_by_key` on the session of the process. -/
def deleteFlowByKey (meter : Meter) (key : CString) : Meter :=
  { meter with
    session := (UzFlowMeter.deleteFlowByKey meter.session key).1 }

/-- The line that `garbage_collect` prints at its start. -/
def announce (meter : Meter) : Meter :=
  { meter with collections := meter.collections + 1 }

/-- All memory can be read and written, and no call fails. -/
def process : Process Id Meter Unit where
  session := Meter.session
  countPacket := countPacket
  latestTimestamp meter flow := return (meter.heap flow).latestTimestamp
  getDuration meter flow := return UzFlowMeter.getDuration (meter.heap flow)
  allocateFlow meter packett := return meter.allocateFlow packett
  addPacketToFlow meter flow packet direction :=
    return meter.addPacketToFlow flow packet direction
  addFlow meter flowKey flow count := return meter.addFlow flowKey flow count
  getData meter flow := return meter.getData flow
  deleteFlowByKey meter key := return meter.deleteFlowByKey key
  beginCollection meter := return (meter.announce, ())
  endCollection meter _ := return meter

def collectKey (meter : Meter) (latestTime : ℚ) (key : CString) : Meter :=
  Id.run (process.collectKey meter latestTime key)

def collectKeys (latestTime : ℚ) (keys : List CString) (i : Nat)
    (meter : Meter) : Meter :=
  Id.run (process.collectKeys latestTime keys i meter)

def garbageCollect (meter : Meter) (latestTime : ℚ) : Meter :=
  Id.run (process.garbageCollect meter latestTime)

def walkExpired (meter : Meter) (packett : Packet) (flowKey : CString)
    (count : Nat) (expired : ℚ) (flow : FlowPtr) : Meter × FlowPtr :=
  Id.run (process.walkExpired meter packett flowKey count expired flow)

def recordPacket (meter : Meter) (packett : Packet) (flow : FlowPtr) :
    Meter :=
  Id.run (process.recordPacket meter packett flow)

def startFlow (meter : Meter) (packett : Packet) (flowKey : CString) :
    Meter :=
  Id.run (process.startFlow meter packett flowKey)

def continueFlow (meter : Meter) (packett : Packet) (flowKey : CString)
    (flow : FlowPtr) : Meter :=
  Id.run (process.continueFlow meter packett flowKey flow)

def receivePacket (meter : Meter) (packett : Packet) : Meter :=
  Id.run (process.receivePacket meter packett)

end Meter

/-- `on_packet_received`. -/
def onPacketReceived (meter : Meter) (frame : Frame) : Meter :=
  meter.receivePacket frame.parsed

def packetHandler (meter : Meter) (frame : Frame) : Meter :=
  Id.run (Meter.process.packetHandler meter frame)

/-- The expiry test of `garbage_collect` on the contents of a flow. -/
def Flow.Expired (latestTime : ℚ) (flow : Flow) : Prop :=
  latestTime - flow.latestTimestamp > expiredUpdate ∨ getDuration flow > 90

instance (latestTime : ℚ) (flow : Flow) :
    Decidable (flow.Expired latestTime) :=
  inferInstanceAs (Decidable (_ ∨ _))

namespace Meter

theorem isExpired_eq (meter : Meter) (latestTime : ℚ) (flow : FlowPtr) :
    Id.run (process.isExpired meter latestTime flow) =
      decide ((meter.heap flow).Expired latestTime) := by
  have unfolded : Id.run (process.isExpired meter latestTime flow) =
      if latestTime - (meter.heap flow).latestTimestamp > expiredUpdate then
        true
      else decide (UzFlowMeter.getDuration (meter.heap flow) > 90) := rfl
  rw [unfolded]
  by_cases late :
      latestTime - (meter.heap flow).latestTimestamp > expiredUpdate
  · rw [if_pos late]
    exact (decide_eq_true (Or.inl late)).symm
  · rw [if_neg late, decide_eq_decide]
    exact (or_iff_right late).symm

theorem collectKey_eq (meter : Meter) (latestTime : ℚ) (key : CString) :
    meter.collectKey latestTime key =
      match getFlowByItsKey meter.session key with
      | none => meter
      | some flow =>
          if (meter.heap flow).Expired latestTime then
            (meter.getData flow).deleteFlowByKey key
          else meter := by
  rw [collectKey, Process.collectKey]
  have sameSession : process.session meter = meter.session := rfl
  rw [sameSession]
  cases getFlowByItsKey meter.session key with
  | none =>
      rfl
  | some flow =>
      have unfolded : Id.run (do
          let expired ← process.isExpired meter latestTime flow
          if expired then
            let state ← process.getData meter flow
            process.deleteFlowByKey state key
          else return meter) =
          if Id.run (process.isExpired meter latestTime flow) = true then
            (meter.getData flow).deleteFlowByKey key
          else meter := rfl
      simp only [unfolded, isExpired_eq, decide_eq_true_eq]

theorem collectKeys_cons (latestTime : ℚ) (key : CString)
    (keys : List CString) (i : Nat) (meter : Meter) :
    collectKeys latestTime (key :: keys) i meter =
      if i < meter.session.flowCount then
        collectKeys latestTime keys (i + 1) (meter.collectKey latestTime key)
      else meter := rfl

theorem garbageCollect_eq (meter : Meter) (latestTime : ℚ) :
    meter.garbageCollect latestTime =
      collectKeys latestTime (getFlowKeys meter.session) 0 meter.announce :=
  rfl

theorem recordPacket_eq (meter : Meter) (packett : Packet) (flow : FlowPtr) :
    meter.recordPacket packett flow =
      let meter := meter.addPacketToFlow flow packett .forward
      if meter.session.packetCount % garbageCollectPackets = 0 ∨
          UzFlowMeter.getDuration (meter.heap flow) > 120 then
        meter.garbageCollect packett.time
      else meter := by
  have unfolded : meter.recordPacket packett flow =
      let meter := meter.addPacketToFlow flow packett .forward
      if (if meter.session.packetCount % garbageCollectPackets = 0 then true
          else decide (UzFlowMeter.getDuration (meter.heap flow) > 120)) =
            true then
        meter.garbageCollect packett.time
      else meter := rfl
  rw [unfolded]
  dsimp only
  congr 1
  by_cases tenThousandth : (meter.addPacketToFlow flow packett
      .forward).session.packetCount % garbageCollectPackets = 0
  · simp [tenThousandth]
  · simp [tenThousandth]

theorem startFlow_eq
    (meter : Meter) (packett : Packet) (flowKey : CString) :
    meter.startFlow packett flowKey =
      (((meter.allocateFlow packett).1.addPacketToFlow meter.nextFlow packett
        .forward).addFlow (getFlowKey flowKey packett .forward)
          meter.nextFlow 0).recordPacket packett meter.nextFlow := rfl

theorem continueFlow_eq
    (meter : Meter) (packett : Packet) (flowKey : CString)
    (flow : FlowPtr) :
    meter.continueFlow packett flowKey flow =
      if packett.time - (meter.heap flow).latestTimestamp >
          expiredUpdate then
        let walked := meter.walkExpired packett flowKey 0 expiredUpdate flow
        walked.1.recordPacket packett walked.2
      else if packett.flags &&& thFin ≠ 0 then
        (meter.addPacketToFlow flow packett .forward).garbageCollect
          packett.time
      else meter.recordPacket packett flow := rfl

theorem receivePacket_eq (meter : Meter) (packett : Packet) :
    meter.receivePacket packett =
      if packett.Accepted then
        let flowKey := getFlowKey [] packett .forward
        match getFlow meter.session flowKey 0 with
        | some flow => meter.countPacket.continueFlow packett flowKey flow
        | none =>
            let flowKey := getFlowKey flowKey packett .reverse
            match getFlow meter.session flowKey 0 with
            | some flow =>
                (meter.countPacket.addPacketToFlow flow packett
                  .reverse).continueFlow packett flowKey flow
            | none => meter.countPacket.startFlow packett flowKey
      else meter := by
  rw [receivePacket, Process.receivePacket]
  split_ifs
  · have sameSession : process.session meter = meter.session := rfl
    have counted : process.session (process.countPacket meter) =
        meter.countPacket.session := rfl
    have sameLookup :
        getFlow meter.countPacket.session = getFlow meter.session := rfl
    dsimp only
    rw [sameSession, counted, sameLookup]
    cases getFlow meter.session (getFlowKey [] packett .forward) 0 with
    | some flow =>
        rfl
    | none =>
        dsimp only
        cases getFlow meter.session
            (getFlowKey (getFlowKey [] packett .forward) packett .reverse)
            0 with
        | some flow =>
            rfl
        | none =>
            rfl
  · rfl

section Walk

variable {meter : Meter} {packett : Packet} {flowKey : CString}
  {count : Nat} {expired : ℚ} {flow : FlowPtr}

theorem walkExpired_of_young
    (young : ¬ packett.time - (meter.heap flow).latestTimestamp >
      expired) :
    meter.walkExpired packett flowKey count expired flow = (meter, flow) := by
  rw [walkExpired, Process.walkExpired]
  exact if_neg young

theorem walkExpired_of_found
    (old : packett.time - (meter.heap flow).latestTimestamp > expired)
    {next : FlowPtr}
    (found : getFlow meter.session flowKey (count + 1) = some next) :
    meter.walkExpired packett flowKey count expired flow =
      meter.walkExpired packett flowKey (count + 1)
        (expired + expiredUpdate) next := by
  rw [walkExpired, Process.walkExpired]
  refine (if_pos old).trans ?_
  split
  · rename_i other otherFound
    rw [Option.some.inj (found.symm.trans otherFound)]
    rfl
  · rename_i missing
    cases found.symm.trans missing

theorem walkExpired_of_missing
    (old : packett.time - (meter.heap flow).latestTimestamp > expired)
    (missing : getFlow meter.session flowKey (count + 1) = none) :
    meter.walkExpired packett flowKey count expired flow =
      ((meter.allocateFlow packett).1.addFlow
        (getFlowKey flowKey packett .forward) meter.nextFlow (count + 1),
        meter.nextFlow) := by
  rw [walkExpired, Process.walkExpired]
  refine (if_pos old).trans ?_
  split
  · rename_i found
    cases missing.symm.trans found
  · rfl

end Walk

end Meter

/-- The state after a sequence of calls of `on_packet_received`. -/
def run (initialCapacity : Nat) (frames : List Frame) : Meter :=
  frames.foldl onPacketReceived (Meter.initial initialCapacity)

private theorem run_append
    (initialCapacity : Nat) (frames later : List Frame) :
    run initialCapacity (frames ++ later) =
      later.foldl onPacketReceived (run initialCapacity frames) :=
  List.foldl_append

theorem run_concat
    (initialCapacity : Nat) (frames : List Frame) (last : Frame) :
    run initialCapacity (frames ++ [last]) =
      onPacketReceived (run initialCapacity frames) last :=
  run_append initialCapacity frames [last]

end UzFlowMeter
