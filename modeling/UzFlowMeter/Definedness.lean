import UzFlowMeter.Lifecycle
import UzFlowMeter.Simulation

/-!
# No statistic of an empty flow

`_get_packet_times` and `get_time_stamp` read `pairs[0]` without a test.  The
functions that lead to these reads are written once more with results that
are `none` where the pair does not exist.  A new flow is filed before its
first packet is recorded on one path; no read happens in between.
-/

namespace UzFlowMeter

/-- `pairs[0]`, which exists in an array with pairs only. -/
def Flow.firstPair (flow : Flow) : Option Pair :=
  flow.pairs.head?

/-- `_get_packet_times` with a test of its read. -/
def getPacketTimesChecked (flow : Flow) : Option (List ℚ) :=
  flow.firstPair.map fun first =>
    flow.pairs.map fun pair => pair.packet.time - first.packet.time

/-- `get_duration`, which asks for the times before it tests their
number. -/
def getDurationChecked (flow : Flow) : Option ℚ :=
  (getPacketTimesChecked flow).map fun packetTimes =>
    match packetTimes with
    | [] => 0
    | [_] => 0
    | first :: rest =>
        let bounds := rest.foldl extendTimeBounds (first, first)
        bounds.1 - bounds.2

/-- The time that `get_time_stamp` formats. -/
def getTimeStamp (flow : Flow) : Option ℚ :=
  flow.firstPair.map fun pair => pair.packet.time

namespace Meter

def getDataChecked (meter : Meter) (flow : FlowPtr) : Option Meter :=
  (getTimeStamp (meter.heap flow)).bind fun _ =>
    (getDurationChecked (meter.heap flow)).map fun _ =>
      meter.getData flow

/-- The process whose reads of a first pair may fail. -/
def checkedProcess : Process Option Meter Unit where
  session := Meter.session
  countPacket := countPacket
  latestTimestamp meter flow := some (meter.heap flow).latestTimestamp
  getDuration meter flow := getDurationChecked (meter.heap flow)
  allocateFlow meter packett := some (meter.allocateFlow packett)
  addPacketToFlow meter flow packet direction :=
    some (meter.addPacketToFlow flow packet direction)
  addFlow meter flowKey flow count := some (meter.addFlow flowKey flow count)
  getData meter flow := meter.getDataChecked flow
  deleteFlowByKey meter key := some (meter.deleteFlowByKey key)
  beginCollection meter := some (meter.announce, ())
  endCollection meter _ := some meter

end Meter

/-- A sequence of calls, or `none` if one of them reads a pair that does not
exist. -/
def runChecked (initialCapacity : Nat) (frames : List Frame) :
    Option Meter :=
  frames.foldlM Meter.checkedProcess.onPacketReceived
    (Meter.initial initialCapacity)

private theorem getDurationChecked_eq
    {flow : Flow} (nonempty : flow.pairs ≠ []) :
    getDurationChecked flow = some (getDuration flow) := by
  rw [getDurationChecked, getPacketTimesChecked, Flow.firstPair,
    getDuration, getPacketTimes]
  cases recorded : flow.pairs with
  | nil =>
      exact absurd recorded nonempty
  | cons first rest =>
      rfl

private theorem getTimeStamp_isSome
    {flow : Flow} (nonempty : flow.pairs ≠ []) :
    ∃ time, getTimeStamp flow = some time := by
  rw [getTimeStamp, Flow.firstPair]
  cases recorded : flow.pairs with
  | nil =>
      exact absurd recorded nonempty
  | cons first rest =>
      exact ⟨first.packet.time, rfl⟩

namespace Meter

/-- Every entry of the session but those of one flow holds a packet. -/
def FilledExcept (meter : Meter) (flow : FlowPtr) : Prop :=
  ∀ entry ∈ meter.session.entries,
    entry.flow = flow ∨ (meter.heap entry.flow).pairs ≠ []

/-- Every entry of the session holds a packet. -/
def Filled (meter : Meter) : Prop :=
  ∀ entry ∈ meter.session.entries, (meter.heap entry.flow).pairs ≠ []

private theorem getDataChecked_eq
    {meter : Meter} {flow : FlowPtr}
    (nonempty : (meter.heap flow).pairs ≠ []) :
    meter.getDataChecked flow = some (meter.getData flow) := by
  obtain ⟨time, stamped⟩ := getTimeStamp_isSome nonempty
  rw [getDataChecked, stamped, Option.bind_some,
    getDurationChecked_eq nonempty, Option.map_some]

private theorem Filled.of_found
    {meter : Meter} (filled : meter.Filled) {key : CString} {flow : FlowPtr}
    (found : getFlowByItsKey meter.session key = some flow) :
    (meter.heap flow).pairs ≠ [] := by
  obtain ⟨entry, member, -, rfl⟩ := getFlowByItsKey_eq_some found
  exact filled entry member

/-- A collection only takes entries away. -/
theorem Filled.deleted
    {meter : Meter} (filled : meter.Filled) (key : CString) :
    (meter.deleteFlowByKey key).Filled := by
  intro entry member
  rw [deleteFlowByKey, deleteFlowByKey_entries] at member
  exact filled entry (List.mem_of_mem_eraseP member)

private theorem addPacketToFlow_stored
    (meter : Meter) (flow : FlowPtr) (packet : Packet)
    (direction : PacketDirection) :
    ((meter.addPacketToFlow flow packet direction).heap flow).pairs ≠
      [] := by
  have recorded :
      (meter.addPacketToFlow flow packet direction).heap flow =
        UzFlowMeter.addPacketToFlow (meter.heap flow) packet direction :=
    Function.update_self _ _ _
  rw [recorded, addPacketToFlow_pairs]
  exact List.append_ne_nil_of_right_ne_nil _ (List.cons_ne_nil _ _)

/-- Recording a packet in the flow that may be empty fills the session. -/
theorem FilledExcept.stored
    {meter : Meter} {flow : FlowPtr} (filled : meter.FilledExcept flow)
    (packet : Packet) (direction : PacketDirection) :
    (meter.addPacketToFlow flow packet direction).Filled := by
  intro entry member
  by_cases isFlow : entry.flow = flow
  · rw [isFlow]
    exact addPacketToFlow_stored meter flow packet direction
  · have unchanged :
        (meter.addPacketToFlow flow packet direction).heap entry.flow =
          meter.heap entry.flow := Function.update_of_ne isFlow _ _
    rw [unchanged]
    exact (filled entry member).resolve_left isFlow

private theorem Filled.except
    {meter : Meter} (filled : meter.Filled) (flow : FlowPtr) :
    meter.FilledExcept flow :=
  fun entry member => Or.inr (filled entry member)

/-- Allocating and filing a flow leaves only that flow empty. -/
theorem Filled.filledExcept_allocateFlow
    {meter : Meter} (filled : meter.Filled) (packett : Packet) :
    (meter.allocateFlow packett).1.FilledExcept meter.nextFlow := by
  intro entry member
  by_cases isNew : entry.flow = meter.nextFlow
  · exact Or.inl isNew
  · have unchanged :
        (meter.allocateFlow packett).1.heap entry.flow =
          meter.heap entry.flow := Function.update_of_ne isNew _ _
    rw [unchanged]
    exact Or.inr (filled entry member)

theorem FilledExcept.filed
    {meter : Meter} {flow : FlowPtr} (filled : meter.FilledExcept flow)
    (flowKey : CString) (count : Nat) :
    (meter.addFlow flowKey flow count).FilledExcept flow := by
  intro entry member
  rw [Meter.addFlow, addFlow_entries] at member
  rcases List.mem_append.mp member with old | new
  · exact filled entry old
  · rw [List.mem_singleton.mp new]
    exact Or.inl rfl

/-- Whenever a first pair is read, it is there. -/
def checkedSimulation : checkedProcess.Simulation where
  meter := id
  Sound := Filled
  Ready := FilledExcept
  Fresh := FilledExcept
  Collecting meter _ := meter.Filled
  session _ := rfl
  counted filled := ⟨filled, rfl⟩
  ready filled _ := filled.except _
  readable _ := rfl
  recorded packet direction filled :=
    ⟨_, rfl, filled.stored packet direction,
      (filled.stored packet direction).except _,
      getDurationChecked_eq (addPacketToFlow_stored _ _ packet direction),
      rfl⟩
  allocated packett filled :=
    ⟨_, rfl, filled.filledExcept_allocateFlow packett, rfl⟩
  begun packet filled :=
    ⟨_, rfl, (filled.stored packet .forward).except _, rfl⟩
  filed flowKey count filled := ⟨_, rfl, filled.filed flowKey count, rfl⟩
  collecting filled := ⟨_, (), rfl, filled, rfl⟩
  tested filled found :=
    ⟨rfl, getDurationChecked_eq (filled.of_found found)⟩
  removed filled found :=
    ⟨_, _, getDataChecked_eq (filled.of_found found), rfl,
      Filled.deleted filled _, rfl⟩
  collected filled := ⟨_, rfl, filled, rfl⟩

/-- Every flow that was created holds a packet. -/
abbrev FlowsFilled (meter : Meter) : Prop :=
  meter.AllFlows fun flow => flow.pairs ≠ []

theorem FlowsFilled.record
    {meter : Meter} (filled : meter.FlowsFilled) {packett : Packet}
    {route : Route} (selects : Selects meter.lookup packett route) :
    (meter.record packett route).FlowsFilled :=
  AllFlows.record filled selects
    (recordLabels_pairs_ne_nil _ _ route.labels_ne_nil)
    fun _ _ _ _ _ _ => recordLabels_pairs_ne_nil _ _ route.labels_ne_nil

theorem FlowsFilled.onPacketReceived
    {meter : Meter} (filled : meter.FlowsFilled) (frame : Frame) :
    (UzFlowMeter.onPacketReceived meter frame).FlowsFilled :=
  onPacketReceived_invariant
    (fun _ _ selects => filled.record selects)
    (fun _ recorded => AllFlows.garbageCollect recorded frame.parsed.time)
    filled

theorem flowsFilled_run (capacity : Nat) (frames : List Frame) :
    (run capacity frames).FlowsFilled :=
  Runs.run_invariant UzFlowMeter.onPacketReceived
    (allFlows_initial _ capacity)
    (fun _ frame filled => FlowsFilled.onPacketReceived filled frame) frames

theorem Tracked.filled
    {meter : Meter} (tracked : meter.Tracked) (filled : meter.FlowsFilled) :
    meter.Filled :=
  fun entry member => filled entry.flow (tracked.live_lt member)

private theorem runChecked_eq (capacity : Nat) (frames : List Frame) :
    runChecked capacity frames = some (run capacity frames) := by
  have empty : (Meter.initial capacity).Filled :=
    (tracked_initial capacity).filled (allFlows_initial _ capacity)
  obtain ⟨meter, ran, -, rfl⟩ :=
    checkedSimulation.reaches_run empty rfl frames
  exact ran

/-- No call in a run reads the first pair of an empty flow; and whenever a
collection may start, every entry of the session holds a packet. -/
theorem run_reads_stored_pairs (capacity : Nat) (frames : List Frame) :
    runChecked capacity frames = some (run capacity frames) ∧
      ∀ (frame : Frame) (route : Route), frame.parsed.Accepted →
        Selects (run capacity frames).lookup frame.parsed route →
        ((run capacity frames).record frame.parsed route).Filled := by
  refine ⟨runChecked_eq capacity frames, ?_⟩
  intro frame route _ selects
  exact ((tracked_run capacity frames).record selects).filled
    ((flowsFilled_run capacity frames).record selects)

/-- The second packet comes late and files an empty flow for its segment. -/
theorem late_packet_stored :
    runChecked 10 [clientFrame 1] = some (run 10 [clientFrame 1]) ∧
      ((run 10 [clientFrame 1]).record (clientFrame 100).parsed
        (.newSegment 1)).Filled :=
  ⟨(run_reads_stored_pairs 10 [clientFrame 1]).1,
    (run_reads_stored_pairs 10 [clientFrame 1]).2 (clientFrame 100)
      (.newSegment 1) (by decide)
      ⟨by decide, by decide +kernel, by decide +kernel⟩⟩

end Meter

end UzFlowMeter
