import UzFlowMeter.Row
import UzFlowMeter.TimeShift

/-!
# Anonymous packets

The features of a flow do not depend on who sends its packets.  Recording
reads no more of a packet than its protocol, time, window, sizes and flags,
and behind the addresses a row depends on the times through gaps and
durations only.
-/

namespace UzFlowMeter

open MachineInt

/-- A flow carries the traces of the anonymous forms of its pairs. -/
def Flow.Traced (flow : Flow) : Prop :=
  flow.SameTraces (flowOf (flow.pairs.map Pair.anonymous))

theorem Flow.traced_newFlow (packett : Packet) : (newFlow packett).Traced :=
  ⟨rfl, rfl, rfl, rfl, fun side => by cases side <;> rfl, rfl⟩

theorem Flow.Traced.record
    {flow : Flow} (traced : flow.Traced) (pair : Pair) :
    (flow.record pair).Traced := by
  have pairs : (flow.record pair).pairs = flow.pairs ++ [pair] :=
    addPacketToFlow_pairs flow pair.packet pair.direction
  rw [Flow.Traced, pairs, List.map_append, List.map_singleton,
    flowOf_concat]
  exact SameTraces.record traced rfl

theorem Flow.Traced.recordLabels
    {flow : Flow} (traced : flow.Traced) (packet : Packet)
    (labels : List PacketDirection) :
    (UzFlowMeter.recordLabels flow packet labels).Traced := by
  induction labels generalizing flow with
  | nil =>
      exact traced
  | cons label labels inductionHypothesis =>
      exact inductionHypothesis (traced.record ⟨packet, label⟩)

/-- What the features see of a pair apart from its time. -/
def Pair.measures (pair : Pair) : Pair :=
  ⟨{ pair.packet.anonymous with time := 0 }, pair.direction⟩

/-- The flows have the same features. -/
structure Flow.SameMeasures (flow other : Flow) : Prop
    extends Flow.SameFeatures flow other where
  measures : flow.pairs.map Pair.measures = other.pairs.map Pair.measures

/-- A flow with nothing but the measures of its pairs. -/
def Flow.measured (flow : Flow) : Flow where
  packets := ⟨some (flow.pairs.map Pair.measures), 0⟩

section Measured

variable (flow : Flow) (side : PacketDirection)

private theorem measured_pairs :
    flow.measured.pairs = flow.pairs.map Pair.measures := rfl

/-- A field of the selected packets, if both are seen in the measures. -/
theorem measured_selected
    {beta : Type} (select : Pair → Bool) (field : Pair → beta)
    (selects : ∀ pair : Pair, select pair.measures = select pair)
    (reads : ∀ pair : Pair, field pair.measures = field pair) :
    (flow.measured.pairs.filter select).map field =
      (flow.pairs.filter select).map field := by
  have sameSelection : select ∘ Pair.measures = select := funext selects
  have sameField : field ∘ Pair.measures = field := funext reads
  rw [measured_pairs, List.filter_map, List.map_map, sameSelection,
    sameField]

private theorem measured_countP
    (select : Pair → Bool)
    (selects : ∀ pair : Pair, select pair.measures = select pair) :
    flow.measured.pairs.countP select = flow.pairs.countP select := by
  have sameSelection : select ∘ Pair.measures = select := funext selects
  rw [measured_pairs, List.countP_map, sameSelection]

private theorem getPacketLength_measured :
    getPacketLength checked flow.measured side =
      getPacketLength checked flow side := by
  rw [getPacketLength, getPacketLength, Flow.pairsAlong, Flow.pairsAlong,
    measured_pairs, List.filter_map, List.mapM_map]
  rfl

private theorem totalOver_measured
    (select : Pair → Bool) (field : Packet → Int)
    (selects : ∀ pair : Pair, select pair.measures = select pair)
    (reads : ∀ pair : Pair, field pair.measures.packet = field pair.packet) :
    totalOver checked flow.measured select field =
      totalOver checked flow select field := by
  have same := measured_selected flow select
    (fun pair => field pair.packet) selects reads
  rw [totalOver, totalOver, same]

private theorem getReverseHeaderBytes_measured :
    getReverseHeaderBytes checked flow.measured =
      getReverseHeaderBytes checked flow := by
  have sameCount : flow.measured.packets.count = flow.packets.count :=
    List.length_map Pair.measures
  rw [getReverseHeaderBytes, getReverseHeaderBytes, sameCount,
    totalOver_measured flow (fun pair => pair.direction = .reverse)
      Packet.headerSize (fun _ => rfl) fun _ => rfl]

private theorem getMinForwardHeaderBytes_measured :
    getMinForwardHeaderBytes flow.measured =
      getMinForwardHeaderBytes flow := by
  rw [getMinForwardHeaderBytes, getMinForwardHeaderBytes, measured_pairs]
  cases flow.pairs with
  | nil =>
      rfl
  | cons first rest =>
      rw [List.map_cons]
      dsimp only
      rw [← List.map_cons, List.foldl_map]
      rfl

private theorem getTotal_measured :
    getTotal flow.measured side = getTotal flow side := by
  rw [getTotal, getTotal, measured_countP flow _ fun _ => rfl]

private theorem hasPayload_measured :
    hasPayload flow.measured side = hasPayload flow side := by
  rw [hasPayload, hasPayload, measured_countP flow _ fun _ => rfl]

private theorem flagCounter_measured (flag : UInt8) :
    flagCounter flow.measured flag side = flagCounter flow flag side := by
  rw [flagCounter, flagCounter, measured_countP flow _ fun _ => rfl]

end Measured

/-- The entries behind the addresses. -/
def featureEntries (flow : Flow) : List RowEntry :=
  rateEntries flow ++ lengthEntries flow ++ headerEntries flow ++
    interarrivalEntries flow ++ flagEntries flow ++ responseEntries flow ++
    activityEntries flow ++ bulkEntries flow ++ duplicatedEntries flow

private theorem rowEntries_eq_append
    (formatTime : Int → CString) (flow : Flow) :
    rowEntries formatTime flow =
      addressEntries formatTime flow ++ featureEntries flow := by
  simp only [rowEntries, featureEntries, List.append_assoc]

namespace Flow.SameMeasures

variable {flow other : Flow} (same : flow.SameMeasures other)

include same

private theorem measured_eq : flow.measured = other.measured := by
  rw [Flow.measured, Flow.measured, same.measures]

/-- What the measures decide is the same for both flows. -/
theorem eq_of_measured
    {beta : Type} (feature : Flow → beta)
    (measured : ∀ flow : Flow, feature flow.measured = feature flow) :
    feature flow = feature other := by
  rw [← measured flow, same.measured_eq, measured other]

theorem getTotal_eq (side : PacketDirection) :
    getTotal flow side = getTotal other side :=
  same.eq_of_measured (fun flow => getTotal flow side) fun flow =>
    getTotal_measured flow side

private theorem getPacketLength_eq (side : PacketDirection) :
    getPacketLength checked flow side =
      getPacketLength checked other side :=
  same.eq_of_measured (fun flow => getPacketLength checked flow side)
    fun flow => getPacketLength_measured flow side

theorem flagCounter_eq (flag : UInt8) (side : PacketDirection) :
    flagCounter flow flag side = flagCounter other flag side :=
  same.eq_of_measured (fun flow => flagCounter flow flag side)
    fun flow => flagCounter_measured flow side flag

theorem rateEntries_eq : rateEntries flow = rateEntries other := by
  have bytes : getBytes checked flow = getBytes checked other :=
    same.eq_of_measured (getBytes checked) fun flow =>
      totalOver_measured flow (fun _ => true) Packet.payloadSize
        (fun _ => rfl) fun _ => rfl
  simp only [rateEntries, getRateBytes, getRateCount, same.duration,
    same.getTotal_eq, bytes]

theorem lengthEntries_eq : lengthEntries flow = lengthEntries other := by
  simp only [lengthEntries, getTotalLen, getMax, getMin, getMeanLen,
    getVarLen, same.getPacketLength_eq]

theorem headerEntries_eq : headerEntries flow = headerEntries other := by
  have forward : getForwardHeaderBytes checked flow =
      getForwardHeaderBytes checked other :=
    same.eq_of_measured (getForwardHeaderBytes checked) fun flow =>
      totalOver_measured flow (fun pair => pair.direction = .forward)
        Packet.headerSize (fun _ => rfl) fun _ => rfl
  have reverse := same.eq_of_measured (getReverseHeaderBytes checked)
    getReverseHeaderBytes_measured
  have least := same.eq_of_measured getMinForwardHeaderBytes
    getMinForwardHeaderBytes_measured
  have payload := same.eq_of_measured (fun flow => hasPayload flow .forward)
    fun flow => hasPayload_measured flow .forward
  rw [headerEntries, headerEntries, forward, reverse, least, payload]

theorem interarrivalEntries_eq :
    interarrivalEntries flow = interarrivalEntries other := by
  rw [interarrivalEntries, interarrivalEntries,
    getFlowInterarrivalStatistics, getFlowInterarrivalStatistics,
    same.interarrivalTimes, same.packetIat, same.packetIat]

theorem flagEntries_eq : flagEntries flow = flagEntries other := by
  simp only [flagEntries, same.flagCounter_eq]

theorem responseEntries_eq :
    responseEntries flow = responseEntries other := by
  simp only [responseEntries, getDownUpRatio, getAvg, getTotalLen,
    same.getTotal_eq, same.getPacketLength_eq, same.initWindowSize]

theorem activityEntries_eq :
    activityEntries flow = activityEntries other := by
  rw [activityEntries, activityEntries, getIdleStatistics,
    getIdleStatistics, getActiveStatistics, getActiveStatistics,
    same.idle, same.active]

theorem bulkEntries_eq : bulkEntries flow = bulkEntries other := by
  obtain ⟨forwardCount, forwardPackets, forwardSize, forwardDuration⟩ :=
    same.forwardBulk
  obtain ⟨backwardCount, backwardPackets, backwardSize, backwardDuration⟩ :=
    same.backwardBulk
  simp only [bulkEntries, getBytesPerBulk, getPacketsPerBulk, getBulkRate,
    forwardCount, forwardPackets, forwardSize, forwardDuration,
    backwardCount, backwardPackets, backwardSize, backwardDuration]

theorem duplicatedEntries_eq :
    duplicatedEntries flow = duplicatedEntries other := by
  simp only [duplicatedEntries, getTotalLen, getMeanLen, same.getTotal_eq,
    same.flagCounter_eq, same.getPacketLength_eq]

private theorem featureEntries_eq
    : featureEntries flow = featureEntries other := by
  rw [featureEntries, featureEntries, same.rateEntries_eq,
    same.lengthEntries_eq, same.headerEntries_eq,
    same.interarrivalEntries_eq, same.flagEntries_eq,
    same.responseEntries_eq, same.activityEntries_eq, same.bulkEntries_eq,
    same.duplicatedEntries_eq]

end Flow.SameMeasures

/-- The columns that name the ends of a flow and the time of its first
packet. -/
def identityKeys : List String :=
  ["src_ip", "dst_ip", "src_port", "dst_port", "timestamp"]

def withoutIdentity (row : List RowEntry) : List RowEntry :=
  row.filter fun entry => entry.1 ∉ identityKeys

private theorem withoutIdentity_append (first second : List RowEntry) :
    withoutIdentity (first ++ second) =
      withoutIdentity first ++ withoutIdentity second :=
  List.filter_append first second

private theorem addressEntries_withoutIdentity
    (formatTime : Int → CString) (flow : Flow) :
    withoutIdentity (addressEntries formatTime flow) =
      [("protocol", .int (some flow.protocol.toNat))] := rfl

/-- Two flows with the same measures and protocol have the same row, up to
the columns of their identity. -/
theorem Flow.SameMeasures.rowEntries_eq
    {flow other : Flow} (same : flow.SameMeasures other)
    (sameProtocol : flow.protocol = other.protocol)
    (formatTime : Int → CString) :
    withoutIdentity (rowEntries formatTime flow) =
      withoutIdentity (rowEntries formatTime other) := by
  rw [rowEntries_eq_append, rowEntries_eq_append, withoutIdentity_append,
    withoutIdentity_append, addressEntries_withoutIdentity,
    addressEntries_withoutIdentity, same.featureEntries_eq, sameProtocol]

end UzFlowMeter
