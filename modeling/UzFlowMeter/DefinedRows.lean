import UzFlowMeter.ExportedRows

/-!
# Defined rows

Every sum and every conversion in the row of an exported flow is defined,
save the bulk rate of a direction whose bulks come too fast.
-/

namespace UzFlowMeter

open Gaps MachineInt Spread

/-- The arguments made of the statistics are defined. -/
structure Statistics.Converts (stats : Statistics) : Prop where
  total : InRange stats.total
  max : InRange stats.max
  min : InRange stats.min
  mean : InRange stats.mean
  radicand : 0 ≤ stats.variance
  root : stats.variance < (intMax + 1) ^ 2

private theorem addressRow_defined
    (formatTime : Int → CString) (pairs : List Pair) :
    ∀ entry ∈ addressRow formatTime pairs, entry.2.Defined := by
  have port : ∀ port : UInt16, Fits port.toNat := by
    intro port
    have small := port.toNat_lt
    rw [Fits, intMin, intMax]
    omega
  have protocol : ∀ protocol : UInt8, Fits protocol.toNat := by
    intro protocol
    have small := protocol.toNat_lt
    rw [Fits, intMin, intMax]
    omega
  simp [addressRow, JsonArgument.Defined, port, protocol]

private theorem dispersion_nonneg
    (lengths : List Int) : 0 ≤ dispersion lengths :=
  variance_nonneg _

/-- A window of a packet is a number of 16 bits, and so is the one that is
kept. -/
theorem fits_window
    {pairs : List Pair} {side : PacketDirection} {window : Int}
    (kept : window ∈ tcpWindows pairs side ∨ window = 0) : Fits window := by
  rcases kept with member | rfl
  · obtain ⟨pair, -, rfl⟩ := List.mem_map.mp member
    have small := pair.packet.window.toNat_lt
    rw [Fits, intMin, intMax]
    omega
  · decide

private theorem firstNonzero_mem (windows : List Int) :
    firstNonzero windows ∈ windows ∨ firstNonzero windows = 0 := by
  rw [firstNonzero]
  cases found : windows.find? fun window => window ≠ 0 with
  | none =>
      exact Or.inr rfl
  | some window =>
      exact Or.inl (List.mem_of_find?_eq_some found)

private theorem getLastD_mem (windows : List Int) :
    windows.getLastD 0 ∈ windows ∨ windows.getLastD 0 = 0 := by
  rcases eq_or_ne windows [] with rfl | nonempty
  · exact Or.inr rfl
  · rw [List.getLastD_eq_getLast?, List.getLast?_eq_some_getLast nonempty]
    exact Or.inl (List.getLast_mem nonempty)

namespace Flow.Exportable

variable {flow : Flow} (exportable : flow.Exportable)

include exportable

/-- A flow has no more packets than bytes. -/
theorem fits_length
    {part : List Pair} (sublist : part.Sublist flow.pairs) :
    Fits part.length := by
  have total := List.card_nsmul_le_sum
    (flow.pairs.map fun pair => pair.packet.length) 1 (by
      intro length member
      obtain ⟨pair, pairMember, rfl⟩ := List.mem_map.mp member
      have header := exportable.headed pair pairMember
      have payload :=
        (exportable.packetSized pair pairMember).payloadNonneg
      rw [ethernetHeaderLen] at header
      rw [Packet.length]
      omega)
  have selected := sublist.length_le
  have volume := exportable.volume
  rw [List.length_map, nsmul_eq_mul, mul_one] at total
  rw [volumeOf] at volume
  rw [Fits, intMin]
  omega

private theorem fits_numberOf (side : PacketDirection) :
    Fits (numberOf flow.pairs side) :=
  exportable.fits_length List.filter_sublist

private theorem fits_flagNumber (side : PacketDirection) (flag : UInt8) :
    Fits (flagNumber flow.pairs side flag) :=
  exportable.fits_length (List.filter_sublist.trans List.filter_sublist)

/-- A part of every packet adds up to no more than the volume. -/
theorem fits_sum
    (select : Pair → Bool) {field : Packet → Int}
    (nonneg : ∀ pair ∈ flow.pairs, 0 ≤ field pair.packet)
    (part : ∀ pair ∈ flow.pairs, field pair.packet ≤ pair.packet.length) :
    Fits ((flow.pairs.filter select).map fun pair =>
      field pair.packet).sum := by
  have total := sum_select_le_volumeOf exportable.sized select part
  have volume := exportable.volume
  have low : 0 ≤ ((flow.pairs.filter select).map fun pair =>
      field pair.packet).sum := by
    apply List.sum_nonneg
    intro value member
    obtain ⟨pair, selected, rfl⟩ := List.mem_map.mp member
    exact nonneg pair (List.mem_of_mem_filter selected)
  rw [Fits, intMin]
  omega

private theorem fits_lengths (side : PacketDirection) :
    Fits (lengthsOf flow.pairs side).sum :=
  exportable.fits_sum _
    (fun pair member => (exportable.packetSized pair member).length_nonneg)
    fun pair _ => le_refl pair.packet.length

private theorem headerSize_le (pair : Pair) (member : pair ∈ flow.pairs) :
    pair.packet.headerSize ≤ pair.packet.length := by
  have payload := (exportable.packetSized pair member).payloadNonneg
  rw [Packet.length]
  omega

private theorem fits_headers (side : PacketDirection) :
    Fits (headersOf flow.pairs side).sum :=
  exportable.fits_sum _
    (fun pair member => (exportable.packetSized pair member).headerNonneg)
    exportable.headerSize_le

private theorem fits_least_headers (side : PacketDirection) :
    Fits (least (headersOf flow.pairs side)) := by
  rw [least]
  cases found : (headersOf flow.pairs side).min? with
  | none =>
      decide
  | some header =>
      have member := List.min?_mem found
      obtain ⟨pair, selected, rfl⟩ := List.mem_map.mp member
      have pairMember := List.mem_of_mem_filter selected
      have sized := exportable.packetSized pair pairMember
      have nonneg := sized.headerNonneg
      have small := le_trans (exportable.headerSize_le pair pairMember)
        sized.lengthLe
      rw [Option.getD_some, Fits, intMin]
      omega

private theorem rateRow_defined :
    ∀ entry ∈ rateRow flow.pairs, entry.2.Defined := by
  have number := exportable.fits_numberOf
  simp [rateRow, JsonArgument.Defined, number]

private theorem lengthRow_defined :
    ∀ entry ∈ lengthRow flow.pairs, entry.2.Defined := by
  have sum := exportable.fits_lengths
  simp [lengthRow, JsonArgument.Defined, sum, dispersion_nonneg]

private theorem headerRow_defined :
    ∀ entry ∈ headerRow flow.pairs, entry.2.Defined := by
  have sum := exportable.fits_headers
  have smallest := exportable.fits_least_headers .forward
  have payload : Fits (payloadNumber flow.pairs .forward) :=
    exportable.fits_length (List.filter_sublist.trans List.filter_sublist)
  simp [headerRow, JsonArgument.Defined, sum, smallest, payload]

private theorem flagRow_defined :
    ∀ entry ∈ flagRow flow.pairs, entry.2.Defined := by
  have number := exportable.fits_flagNumber
  simp [flagRow, JsonArgument.Defined, number]

private theorem average_inRange (side : PacketDirection) :
    InRange (average (lengthsOf flow.pairs side)) :=
  have bounds := average_bounds exportable.packetSized side
  inRange_of_nonneg bounds.1 bounds.2

private theorem ratio_inRange :
    InRange (numberOf flow.pairs .reverse / numberOf flow.pairs .forward) := by
  have forwardNonneg : (0 : ℚ) ≤ numberOf flow.pairs .forward := by
    exact_mod_cast numberOf_nonneg flow.pairs .forward
  have reverseNonneg : (0 : ℚ) ≤ numberOf flow.pairs .reverse := by
    exact_mod_cast numberOf_nonneg flow.pairs .reverse
  have forwardOne : (1 : ℚ) ≤ numberOf flow.pairs .forward := by
    have positive := getTotal_forward_pos exportable.begins
    have number : getTotal flow .forward = numberOf flow.pairs .forward :=
      getTotal_eq flow .forward
    rw [number] at positive
    exact_mod_cast positive
  have reverseLe : (numberOf flow.pairs .reverse : ℚ) ≤ intMax := by
    exact_mod_cast (exportable.fits_numberOf .reverse).2
  apply inRange_of_nonneg (div_nonneg reverseNonneg forwardNonneg)
  exact le_trans (div_le_self reverseNonneg forwardOne) reverseLe

private theorem responseRow_defined :
    ∀ entry ∈ responseRow flow.pairs, entry.2.Defined := by
  have ratio := exportable.ratio_inRange
  have mean : Fits (truncate (average (lengthsOf flow.pairs .both))) := by
    have bounds := average_bounds exportable.packetSized .both
    rw [fits_truncate_iff bounds.1]
    linarith [bounds.2]
  have forward := fits_window
    (firstNonzero_mem (tcpWindows flow.pairs .forward))
  have reverse := fits_window
    (getLastD_mem (tcpWindows flow.pairs .reverse))
  simp only [responseRow, List.forall_mem_cons, JsonArgument.Defined,
    Option.mem_some_iff, exists_eq_left', ratio, mean, forward, reverse,
    List.not_mem_nil, false_imp_iff, implies_true, and_self]

private theorem duplicatedRow_defined :
    ∀ entry ∈ duplicatedRow flow.pairs, entry.2.Defined := by
  have mean := exportable.average_inRange
  have flag := exportable.fits_flagNumber
  have number := exportable.fits_numberOf
  have sum := exportable.fits_lengths
  simp [duplicatedRow, JsonArgument.Defined, mean, flag, number, sum]

private theorem converts
    {array : List ℚ} (member : getStatistics array ∈ flow.statistics) :
    (getStatistics array).Converts := by
  have times := exportable.times (getStatistics array) member
  have inRange : ∀ value : ℚ,
      (value : ℝ) ∈ (getStatistics array).values → InRange value := by
    intro value valueMember
    have bounds := (times value valueMember).inRange
    exact inRange_of_bounds (by exact_mod_cast bounds.1)
      (by exact_mod_cast bounds.2)
  have nonneg := getStatistics_variance_nonneg array
  have deviation := (times (getStatistics array).std
    (by simp [Statistics.values])).inRange.2
  rw [Statistics.std] at deviation
  have square : ((getStatistics array).variance : ℝ) <
      ((intMax : ℝ) + 1) ^ 2 := by
    rw [← Statistics.std_sq nonneg, Statistics.std]
    apply pow_lt_pow_left₀ _ (Real.sqrt_nonneg _) two_ne_zero
    linarith
  exact
    { total := inRange _ (by simp [Statistics.values])
      max := inRange _ (by simp [Statistics.values])
      min := inRange _ (by simp [Statistics.values])
      mean := inRange _ (by simp [Statistics.values])
      radicand := nonneg
      root := by exact_mod_cast square }

private theorem interarrivalRow_defined :
    ∀ entry ∈ interarrivalRow flow.pairs, entry.2.Defined := by
  have along : ∀ side, getPacketIat flow side =
      microGaps flow.pairs side := getPacketIat_eq flow
  have whole : (getStatistics ((gaps (timesOf flow.pairs)).map
      fun gap => 1000000 * gap)).Converts := by
    apply exportable.converts
    rw [← exportable.flowInterarrivalTimes_eq]
    simp [Flow.statistics, getFlowInterarrivalStatistics]
  have forward : (getStatistics (microGaps flow.pairs .forward)).Converts := by
    apply exportable.converts
    rw [← along]
    simp [Flow.statistics]
  have backward :
      (getStatistics (microGaps flow.pairs .reverse)).Converts := by
    apply exportable.converts
    rw [← along]
    simp [Flow.statistics]
  simp [interarrivalRow, JsonArgument.Defined, whole.max, whole.min,
    whole.mean, whole.radicand, whole.root, forward.total, forward.max,
    forward.min, forward.mean, forward.radicand, forward.root,
    backward.total, backward.max, backward.min, backward.mean,
    backward.radicand, backward.root]

private theorem activityRow_defined :
    ∀ entry ∈ activityRow flow.pairs, entry.2.Defined := by
  have isActive : getActiveStatistics flow.activity.active ∈
      flow.statistics := by
    simp [Flow.statistics, Flow.activity]
  have isIdle : getIdleStatistics flow.activity.idle ∈ flow.statistics := by
    simp [Flow.statistics, Flow.activity]
  rw [exportable.activity_eq] at isActive isIdle
  have active := exportable.converts isActive
  have idle := exportable.converts isIdle
  simp [activityRow, JsonArgument.Defined, active.max, active.min,
    active.mean, active.radicand, active.root, idle.max, idle.min, idle.mean,
    idle.radicand, idle.root]

section Bulks

variable {side : PacketDirection} (isSide : side = .forward ∨ side = .reverse)

include isSide

/-- Counts of a half are not negative and no greater than its bytes, which
fit. -/
theorem bulk_bounds :
    0 ≤ (flow.bulk side).count ∧
      0 ≤ (flow.bulk side).packetCount ∧
      (flow.bulk side).packetCount ≤ (flow.bulk side).size ∧
      (flow.bulk side).size ≤ intMax := by
  have charged := flowOf_charged
    (fun pair member => (exportable.sized pair member).proper) isSide
  rw [Flow.Charged, ← exportable.recorded.bulk] at charged
  have perBulk := charged.perBulk
  have countNonneg := charged.countNonneg
  rw [bulkBound] at perBulk
  exact ⟨countNonneg, by omega, charged.perPacket,
    (exportable.totals.bulkSizes side).1.2⟩

private theorem bulkBytes_inRange :
    InRange (bulkBytes (longBursts side flow.pairs)) := by
  obtain ⟨-, packetsNonneg, packetsLe, fits⟩ :=
    exportable.bulk_bounds isSide
  have sizeNonneg := le_trans packetsNonneg packetsLe
  have low := Int.tdiv_nonneg sizeNonneg (exportable.bulk_bounds isSide).1
  have high := Int.tdiv_le_self (flow.bulk side).count sizeNonneg
  rw [← exportable.getBytesPerBulk_eq_bulkBytes isSide, getBytesPerBulk_eq]
  apply inRange_of_nonneg
  · exact_mod_cast low
  · exact_mod_cast le_trans high fits

private theorem bulkPackets_inRange :
    InRange (bulkPackets (longBursts side flow.pairs)) := by
  obtain ⟨countNonneg, packetsNonneg, packetsLe, fits⟩ :=
    exportable.bulk_bounds isSide
  have numerator : (0 : ℚ) ≤ (flow.bulk side).packetCount := by
    exact_mod_cast packetsNonneg
  have numeratorLe : ((flow.bulk side).packetCount : ℚ) ≤ intMax := by
    exact_mod_cast le_trans packetsLe fits
  have divisor : (0 : ℚ) ≤ (flow.bulk side).count := by
    exact_mod_cast countNonneg
  rw [← exportable.getPacketsPerBulk_eq_bulkPackets isSide,
    getPacketsPerBulk_eq_div]
  apply inRange_of_nonneg (div_nonneg numerator divisor)
  by_cases none : (flow.bulk side).count = 0
  · rw [none, Int.cast_zero, div_zero]
    norm_num [intMax]
  · have one : (1 : ℚ) ≤ (flow.bulk side).count := by
      have positive : 1 ≤ (flow.bulk side).count := by omega
      exact_mod_cast positive
    exact le_trans (div_le_self numerator one) numeratorLe

/-- A rate can be converted if and only if the side is paced. -/
theorem bulkSpeed_defined_iff :
    (JsonArgument.doubleAsInt
        (bulkSpeed (longBursts side flow.pairs))).Defined ↔
      Paced side flow.pairs := by
  obtain ⟨-, -, size, -⟩ := exportable.bulk_measures isSide
  obtain ⟨-, packetsNonneg, packetsLe, -⟩ := exportable.bulk_bounds isSide
  have sizeNonneg := le_trans packetsNonneg packetsLe
  rw [size] at sizeNonneg
  have bytesNonneg : (0 : ℚ) ≤
      (((longBursts side flow.pairs).map payloadOf).sum : Int) := by
    exact_mod_cast sizeNonneg
  have timeNonneg :=
    spanOf_longBursts_nonneg exportable.inOrder.sorted side
  rw [bulkSpeed, Paced, JsonArgument.Defined]
  by_cases none : longBursts side flow.pairs = []
  · rw [if_pos none]
    exact iff_of_true
      ⟨0, rfl, inRange_of_nonneg (le_refl 0) (by norm_num [intMax])⟩
      (Or.inl none)
  · rw [if_neg none, or_iff_right none, divideDouble]
    rcases lt_or_eq_of_le timeNonneg with positive | zero
    · have inRange := inRange_iff_of_nonneg (div_nonneg bytesNonneg timeNonneg)
      rw [div_lt_iff₀ positive] at inRange
      rw [if_neg (ne_of_gt positive), ← inRange]
      simp
    · rw [if_pos zero.symm, ← zero, mul_zero]
      apply iff_of_false
      · rintro ⟨value, absent, -⟩
        cases absent
      · exact not_lt_of_ge bytesNonneg

end Bulks

end Flow.Exportable

/-! ## Rows of a run -/

/-- The row without the entries for bulks. -/
def plainRow (formatTime : Int → CString) (pairs : List Pair) :
    List RowEntry :=
  addressRow formatTime pairs ++ rateRow pairs ++ lengthRow pairs ++
    headerRow pairs ++ interarrivalRow pairs ++ flagRow pairs ++
    responseRow pairs ++ activityRow pairs ++ duplicatedRow pairs

private theorem mem_historyRow
    {formatTime : Int → CString} {pairs : List Pair} {entry : RowEntry} :
    entry ∈ historyRow formatTime pairs ↔
      entry ∈ plainRow formatTime pairs ∨ entry ∈ bulkRow pairs := by
  simp only [historyRow, plainRow, List.mem_append]
  tauto

private theorem plainRow_keys
    {formatTime : Int → CString} {pairs : List Pair} {entry : RowEntry}
    (member : entry ∈ plainRow formatTime pairs) :
    entry.1 ≠ "fwd_blk_rate_avg" ∧ entry.1 ≠ "bwd_blk_rate_avg" := by
  have keys : (plainRow formatTime pairs).map Prod.fst =
      (plainRow (fun _ => []) []).map Prod.fst := rfl
  have isKey := List.mem_map_of_mem (f := Prod.fst) member
  rw [keys] at isKey
  exact (by decide +kernel : ∀ key ∈ (plainRow (fun _ => []) []).map Prod.fst,
    key ≠ "fwd_blk_rate_avg" ∧ key ≠ "bwd_blk_rate_avg") entry.1 isKey

namespace Flow.Exportable

variable {flow : Flow} (exportable : flow.Exportable)

include exportable

private theorem plainRow_defined (formatTime : Int → CString) :
    ∀ entry ∈ plainRow formatTime flow.pairs, entry.2.Defined := by
  simp only [plainRow, List.forall_mem_append]
  exact ⟨⟨⟨⟨⟨⟨⟨⟨addressRow_defined formatTime flow.pairs,
    exportable.rateRow_defined⟩, exportable.lengthRow_defined⟩,
    exportable.headerRow_defined⟩, exportable.interarrivalRow_defined⟩,
    exportable.flagRow_defined⟩, exportable.responseRow_defined⟩,
    exportable.activityRow_defined⟩, exportable.duplicatedRow_defined⟩

/-- Of the entries for bulks, the rates take a paced side. -/
private theorem bulkRow_defined_iff :
    ∀ entry ∈ bulkRow flow.pairs,
      (entry.2.Defined ↔
        (entry.1 = "fwd_blk_rate_avg" → Paced .forward flow.pairs) ∧
          (entry.1 = "bwd_blk_rate_avg" → Paced .reverse flow.pairs)) := by
  have forward : PacketDirection.forward = .forward ∨
      PacketDirection.forward = .reverse := Or.inl rfl
  have reverse : PacketDirection.reverse = .forward ∨
      PacketDirection.reverse = .reverse := Or.inr rfl
  have forwardBytes := exportable.bulkBytes_inRange forward
  have reverseBytes := exportable.bulkBytes_inRange reverse
  have forwardPackets := exportable.bulkPackets_inRange forward
  have reversePackets := exportable.bulkPackets_inRange reverse
  have forwardSpeed := exportable.bulkSpeed_defined_iff forward
  have reverseSpeed := exportable.bulkSpeed_defined_iff reverse
  intro entry member
  simp only [bulkRow, List.mem_cons, List.not_mem_nil, or_false] at member
  rcases member with rfl | rfl | rfl | rfl | rfl | rfl
  · simpa [JsonArgument.Defined] using forwardBytes
  · simpa [JsonArgument.Defined] using forwardPackets
  · simpa [JsonArgument.Defined] using reverseBytes
  · simpa [JsonArgument.Defined] using reversePackets
  · simpa using forwardSpeed
  · simpa using reverseSpeed

/-- All arguments are defined but the bulk rates, which take a paced side. -/
private theorem historyRow_defined_iff (formatTime : Int → CString) :
    ∀ entry ∈ historyRow formatTime flow.pairs,
      (entry.2.Defined ↔
        (entry.1 = "fwd_blk_rate_avg" → Paced .forward flow.pairs) ∧
          (entry.1 = "bwd_blk_rate_avg" → Paced .reverse flow.pairs)) := by
  intro entry member
  rcases mem_historyRow.mp member with plain | bulk
  · have keys := plainRow_keys plain
    exact iff_of_true (exportable.plainRow_defined formatTime entry plain)
      ⟨fun isKey => absurd isKey keys.1, fun isKey => absurd isKey keys.2⟩
  · exact exportable.bulkRow_defined_iff entry bulk

end Flow.Exportable

namespace Meter

end Meter

end UzFlowMeter
