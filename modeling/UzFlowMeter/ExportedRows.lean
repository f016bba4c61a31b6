import UzFlowMeter.ExportedTimes
import UzFlowMeter.HistoryRow

/-!
# The rows of exported flows

`get_data` computes the row of the history from the fields of a flow with
packets in order and totals in range, and in a chronological run whose
packets keep within the range every flow is such a flow.
-/

namespace UzFlowMeter

open Gaps MachineInt Spread

/-- The fields that name the flow are those of its first packet. -/
def Flow.Named (flow : Flow) : Prop :=
  ∃ first rest, flow.pairs = first :: rest ∧
    first.packet.fiveTuple = flow.fiveTuple

/-- The windows are those of the TCP packets. -/
def Flow.WindowsRecorded (flow : Flow) : Prop :=
  flow.initWindowSize =
    (firstNonzero (tcpWindows flow.pairs .forward),
      (tcpWindows flow.pairs .reverse).getLastD 0)

/-- A flow with packets in order and with totals and times in range. -/
structure Flow.Exportable (flow : Flow) : Prop where
  recorded : flow.Recorded
  named : flow.Named
  windows : flow.WindowsRecorded
  begins : flow.BeginsForward
  sized : ∀ pair ∈ flow.pairs, pair.Sized
  headed : flow.Headed
  inOrder : InOrder (timesOf flow.pairs)
  volume : volumeOf flow.pairs ≤ intMax
  times : flow.TimesExportable

namespace Flow.Exportable

variable {flow : Flow} (exportable : flow.Exportable)

include exportable

theorem packetSized : ∀ pair ∈ flow.pairs, pair.packet.Sized :=
  fun pair member => (exportable.sized pair member).packet

theorem totals : flow.TotalsExact :=
  exportable.recorded.totalsExact exportable.sized exportable.volume

private theorem addressEntries_eq (formatTime : Int → CString) :
    addressEntries formatTime flow =
      addressRow formatTime flow.pairs := by
  obtain ⟨first, rest, pairs, sameTuple⟩ := exportable.named
  have isFirst : firstPacket flow.pairs = first.packet := by
    rw [firstPacket, pairs]
    rfl
  have stamp : getTimeStampText formatTime flow =
      some (formatTime (truncate first.packet.time)) := by
    rw [getTimeStampText, getTimeStamp, Flow.firstPair, pairs]
    rfl
  simp only [Packet.fiveTuple, Flow.fiveTuple, FiveTuple.mk.injEq,
    Endpoint.mk.injEq] at sameTuple
  obtain ⟨⟨srcIp, srcPort⟩, ⟨destIp, destPort⟩, protocol⟩ := sameTuple
  rw [addressEntries, addressRow, stamp, isFirst, srcIp, srcPort, destIp,
    destPort, protocol]

private theorem getDuration_eq_spanOf
    : getDuration flow = spanOf flow.pairs := by
  obtain ⟨first, rest, pairs, -⟩ := exportable.named
  rw [getDuration_of_sorted exportable.inOrder.sorted, spanOf, startOf,
    endOf]
  have times : timesOf flow.pairs = first.packet.time :: timesOf rest := by
    rw [pairs]
    rfl
  rw [times, sum_gaps, List.getLastD_cons, List.headD_cons]

private theorem getRateBytes_checked :
    getRateBytes checked flow =
      some ((flow.pairs.map fun pair => pair.packet.payloadSize).sum /
        spanOf flow.pairs) := by
  have bytes := exportable.totals.bytes
  have all : (flow.pairs.filter fun _ => true) = flow.pairs :=
    List.filter_true flow.pairs
  rw [getBytes, getBytes, totalOver_exact, all] at bytes
  rw [getRateBytes, ← exportable.getDuration_eq_spanOf, getBytes, bytes]
  by_cases zero : getDuration flow = 0
  · simp only [zero, if_true, div_zero]
    rfl
  · simp only [zero, if_false]
    rfl

private theorem getRateCount_eq (side : PacketDirection) :
    getRateCount flow side =
      numberOf flow.pairs side / spanOf flow.pairs := by
  have number : numberOf flow.pairs side = getTotal flow side :=
    (getTotal_eq flow side).symm
  rw [getRateCount, number, ← exportable.getDuration_eq_spanOf]
  split_ifs with zero
  · rw [zero, div_zero]
  · rfl

theorem rateEntries_eq :
    rateEntries flow = rateRow flow.pairs := by
  have number : ∀ side, getTotal flow side = numberOf flow.pairs side :=
    getTotal_eq flow
  rw [rateEntries, exportable.getRateBytes_checked,
    exportable.getDuration_eq_spanOf, exportable.getRateCount_eq,
    exportable.getRateCount_eq, exportable.getRateCount_eq, number, number]
  rfl

private theorem getTotalLen_checked_eq (side : PacketDirection) :
    getTotalLen checked flow side =
      some (lengthsOf flow.pairs side).sum := by
  rw [exportable.totals.totalLen, getTotalLen_exact]
  rfl

theorem lengthEntries_eq :
    lengthEntries flow = lengthRow flow.pairs := by
  have sized := exportable.packetSized
  simp only [lengthEntries, exportable.getTotalLen_checked_eq,
    getMax_checked sized, getMin_checked sized, getMeanLen_checked sized,
    getVarLen_checked sized]
  rfl

theorem headerEntries_eq :
    headerEntries flow = headerRow flow.pairs := by
  have forward : getForwardHeaderBytes checked flow =
      some (headersOf flow.pairs .forward).sum := by
    rw [exportable.totals.forwardHeader, getForwardHeaderBytes_exact]
    rfl
  have backward : getReverseHeaderBytes checked flow =
      some (headersOf flow.pairs .reverse).sum := by
    rw [exportable.totals.reverseHeader, getReverseHeaderBytes_exact]
    rfl
  have smallest : getMinForwardHeaderBytes flow =
      least (headersOf flow.pairs .forward) := by
    obtain ⟨⟨pair, member, forward, size⟩, lower⟩ :=
      exportable.begins.isLeast
    have found : (headersOf flow.pairs .forward).min? =
        some (getMinForwardHeaderBytes flow) := by
      apply List.min?_eq_some_iff.mpr
      constructor
      · rw [← size]
        apply List.mem_map_of_mem
        exact List.mem_filter.mpr ⟨member, decide_eq_true forward⟩
      · intro header headerMember
        obtain ⟨other, selected, rfl⟩ := List.mem_map.mp headerMember
        obtain ⟨otherMember, otherForward⟩ := List.mem_filter.mp selected
        exact lower
          ⟨other, otherMember, of_decide_eq_true otherForward, rfl⟩
    rw [least, found]
    rfl
  have payload : hasPayload flow .forward =
      payloadNumber flow.pairs .forward := by
    rw [hasPayload, payloadNumber, List.countP_eq_length_filter,
      List.filter_filter]
    simp only [Bool.and_comm]
  rw [headerEntries, forward, backward, smallest, payload]
  rfl

theorem flowInterarrivalTimes_eq :
    flow.flowInterarrivalTime.items =
      (gaps (timesOf flow.pairs)).map fun gap => 1000000 * gap := by
  rw [exportable.recorded.interarrivalTimes,
    flowOf_interarrivalTimes exportable.inOrder]

theorem interarrivalEntries_eq :
    interarrivalEntries flow = interarrivalRow flow.pairs := by
  have along : ∀ side, getPacketIat flow side =
      microGaps flow.pairs side := getPacketIat_eq flow
  simp only [interarrivalEntries, getFlowInterarrivalStatistics,
    exportable.flowInterarrivalTimes_eq, along]
  rfl

theorem activity_eq : flow.activity = activityOf flow.pairs := by
  rw [exportable.recorded.activity, flowOf_activity exportable.inOrder]
  rfl

theorem activityEntries_eq :
    activityEntries flow = activityRow flow.pairs := by
  have activeTimes : flow.active = (activityOf flow.pairs).active :=
    congrArg Activity.active exportable.activity_eq
  have idleTimes : flow.idle = (activityOf flow.pairs).idle :=
    congrArg Activity.idle exportable.activity_eq
  rw [activityEntries, activeTimes, idleTimes]
  rfl

theorem responseEntries_eq :
    responseEntries flow = responseRow flow.pairs := by
  have number : ∀ side, getTotal flow side = numberOf flow.pairs side :=
    getTotal_eq flow
  have ratio : getDownUpRatio flow =
      numberOf flow.pairs .reverse / numberOf flow.pairs .forward := by
    rw [getDownUpRatio, if_pos (getTotal_forward_pos exportable.begins),
      number, number]
  have avg : getAvg checked flow .both =
      some (truncate (average (lengthsOf flow.pairs .both))) := by
    rw [exportable.totals.avg, getMeanLen_eq_mean]
    rfl
  rw [responseEntries, ratio, avg, exportable.windows]
  rfl

theorem duplicatedEntries_eq :
    duplicatedEntries flow = duplicatedRow flow.pairs := by
  have sized := exportable.packetSized
  have number : ∀ flag side, flagCounter flow flag side =
      flagNumber flow.pairs side flag := flagCounter_eq_flagNumber flow
  have total : ∀ side, getTotal flow side = numberOf flow.pairs side :=
    getTotal_eq flow
  simp only [duplicatedEntries, getMeanLen_checked sized, number, total,
    exportable.getTotalLen_checked_eq]
  rfl

section Bulks

variable {side : PacketDirection} (isSide : side = .forward ∨ side = .reverse)

include isSide

/-- The fields of a half are the measures of the long bursts. -/
theorem bulk_measures :
    (flow.bulk side).count = (longBursts side flow.pairs).length ∧
      (flow.bulk side).packetCount =
        ((longBursts side flow.pairs).map packetsOf).sum ∧
      (flow.bulk side).size =
        ((longBursts side flow.pairs).map payloadOf).sum ∧
      (flow.bulk side).duration =
        ((longBursts side flow.pairs).map spanOf).sum := by
  have proper : ∀ pair ∈ flow.pairs, pair.Proper :=
    fun pair member => (exportable.sized pair member).proper
  have bulk := (flowOf_bulk proper exportable.inOrder.positive isSide).1
  obtain ⟨count, size, duration⟩ := ofBursts_longBursts side flow.pairs
  rw [exportable.recorded.bulk, bulk]
  exact ⟨count, rfl, size, duration⟩

theorem getBytesPerBulk_eq_bulkBytes :
    getBytesPerBulk flow side = bulkBytes (longBursts side flow.pairs) := by
  obtain ⟨count, -, size, -⟩ := exportable.bulk_measures isSide
  rw [getBytesPerBulk_eq, count, size, bulkBytes]

theorem getPacketsPerBulk_eq_bulkPackets :
    getPacketsPerBulk flow side =
      bulkPackets (longBursts side flow.pairs) := by
  obtain ⟨count, packets, -, -⟩ := exportable.bulk_measures isSide
  rw [getPacketsPerBulk_eq_div, count, packets, bulkPackets,
    Int.cast_natCast]

private theorem getBulkRate_eq_bulkSpeed :
    getBulkRate flow side = bulkSpeed (longBursts side flow.pairs) := by
  obtain ⟨count, -, size, duration⟩ := exportable.bulk_measures isSide
  rw [getBulkRate_eq, BulkHalf.rate, count, size, duration, bulkSpeed]
  by_cases none : longBursts side flow.pairs = []
  · rw [if_pos none, none]
    rfl
  · rw [if_neg none, if_pos]
    simpa using none

end Bulks

theorem bulkEntries_eq : bulkEntries flow = bulkRow flow.pairs := by
  have forward : PacketDirection.forward = .forward ∨
      PacketDirection.forward = .reverse := Or.inl rfl
  have reverse : PacketDirection.reverse = .forward ∨
      PacketDirection.reverse = .reverse := Or.inr rfl
  rw [bulkEntries, exportable.getBytesPerBulk_eq_bulkBytes forward,
    exportable.getPacketsPerBulk_eq_bulkPackets forward,
    exportable.getBulkRate_eq_bulkSpeed forward,
    exportable.getBytesPerBulk_eq_bulkBytes reverse,
    exportable.getPacketsPerBulk_eq_bulkPackets reverse,
    exportable.getBulkRate_eq_bulkSpeed reverse]
  rfl

/-- The row of a flow is that of its history. -/
theorem rowEntries_eq_historyRow (formatTime : Int → CString) :
    rowEntries formatTime flow = historyRow formatTime flow.pairs := by
  rw [rowEntries, exportable.addressEntries_eq, exportable.rateEntries_eq,
    exportable.lengthEntries_eq, exportable.headerEntries_eq,
    exportable.interarrivalEntries_eq, flagEntries_eq,
    exportable.responseEntries_eq, exportable.activityEntries_eq,
    exportable.bulkEntries_eq, exportable.duplicatedEntries_eq, historyRow]

end Flow.Exportable

/-! ## What every flow of a run keeps -/

private theorem tcpWindows_concat
    (pairs : List Pair) (last : Pair) (side : PacketDirection) :
    tcpWindows (pairs ++ [last]) side =
      tcpWindows pairs side ++
        if last.packet.protocol = ipprotoTcp ∧ last.direction = side then
          [(last.packet.window.toNat : Int)]
        else [] := by
  rw [tcpWindows, List.filter_append]
  by_cases tcp : last.packet.protocol = ipprotoTcp
  · have kept : [last].filter (fun pair =>
        pair.packet.protocol = ipprotoTcp) = [last] := by
      simp [tcp]
    rw [kept]
    by_cases along : last.direction = side
    · rw [windowsAlong_concat_self along, if_pos ⟨tcp, along⟩]
      rfl
    · rw [windowsAlong_concat_other along, if_neg fun both => along both.2,
        List.append_nil]
      rfl
  · have dropped : [last].filter (fun pair =>
        pair.packet.protocol = ipprotoTcp) = [] := by
      simp [tcp]
    rw [dropped, if_neg fun both => tcp both.1, List.append_nil,
      List.append_nil]
    rfl

theorem Flow.WindowsRecorded.record
    {flow : Flow} (windows : flow.WindowsRecorded) (pair : Pair) :
    (flow.record pair).WindowsRecorded := by
  rw [WindowsRecorded] at windows ⊢
  rw [Flow.record, addPacketToFlow_initWindowSize, addPacketToFlow_pairs,
    tcpWindows_concat, tcpWindows_concat]
  by_cases tcp : pair.packet.protocol = ipprotoTcp
  · rw [recordWindow_tcp _ _ tcp, windows]
    cases along : pair.direction with
    | forward =>
        simp [tcp, firstNonzero_concat]
    | reverse =>
        simp [tcp]
    | both =>
        simp
  · rw [recordWindow, if_neg tcp, windows]
    simp [tcp]

namespace Meter

private theorem windowsRecorded_run (capacity : Nat) (frames : List Frame) :
    (run capacity frames).AllFlows Flow.WindowsRecorded := by
  apply allFlows_run
  · exact fun packet => rfl
  · intro frame route flow _ windows
    generalize route.labels = labels
    induction labels generalizing flow with
    | nil =>
        exact windows
    | cons label labels inductionHypothesis =>
        exact inductionHypothesis _ (windows.record ⟨frame.parsed, label⟩)

/-- Every flow is named after its first packet. -/
theorem named_run (capacity : Nat) (frames : List Frame) :
    (run capacity frames).AllFlows Flow.Named := by
  induction frames using List.reverseRecOn with
  | nil =>
      exact allFlows_initial _ capacity
  | append_singleton frames last inductionHypothesis =>
      rw [run_concat]
      apply inductionHypothesis.onPacketReceived
      · intro route _
        rw [Flow.Named, recordLabels_newFlow_fiveTuple, recordLabels_pairs]
        cases labels : route.labels with
        | nil =>
            exact absurd labels route.labels_ne_nil
        | cons label rest =>
            exact ⟨⟨last.parsed, label⟩, _, rfl, rfl⟩
      · intro route entry member _ _ _ sameKey _ named
        obtain ⟨first, rest, pairs, sameTuple⟩ := named
        have tuple := (filed_run capacity frames).fiveTuple_of_key member
          (Route.tuple_wellFormed last.parsed_wellFormed route) sameKey
        have sameProtocol : last.parsed.protocol =
            ((run capacity frames).heap entry.flow).protocol := by
          have conversation := Route.tuple_conversation last.parsed route
          rw [← tuple] at conversation
          exact (congrArg Conversation.protocol conversation).symm
        rw [Flow.Named, recordLabels_fiveTuple _ sameProtocol,
          recordLabels_pairs, pairs]
        exact ⟨first, _, rfl, sameTuple⟩

section InRange

variable {capacity : Nat} {frames : List Frame}
  (chronological : Chronological frames) (timed : Timed frames)
  (inRange : Runs.EveryStep UzFlowMeter.onPacketReceived
    (fun meter frame => frame.parsed.Accepted →
      meter.JoinsInRange frame.parsed) (initial capacity) frames)
  (inBytes : Runs.EveryStep UzFlowMeter.onPacketReceived
    (fun meter frame => frame.parsed.Accepted →
      meter.JoinsInBytes frame.parsed) (initial capacity) frames)

include chronological timed inRange inBytes

theorem exportable_run :
    (run capacity frames).AllFlows Flow.Exportable := by
  intro flow created
  have recorded := recorded_run capacity frames flow created
  have inOrder := inOrder_run chronological timed capacity flow created
  have short := short_run chronological timed inRange flow created
  have volume := (volumesFit_run_iff capacity frames).mpr inBytes flow
  rw [pairsOf_of_lt created] at volume
  exact
    { recorded := recorded
      named := named_run capacity frames flow created
      windows := windowsRecorded_run capacity frames flow created
      begins := beginsForward_run capacity frames flow created
      sized := sized_run capacity frames flow created
      headed := headed_run capacity frames flow created
      inOrder := inOrder
      volume := volume
      times := recorded.timesExportable inOrder short }

end InRange

end Meter

end UzFlowMeter
