import UzFlowMeter.BulkRates
import UzFlowMeter.ExportedTimes
import UzFlowMeter.InitialWindows
import UzFlowMeter.Row

/-!
# The row of a history

What the entries of a row should be, computed at once from the recorded
pairs: sums, extremes, means and gaps of lists, and bursts in place of the
machine that finds them.
-/

namespace UzFlowMeter

open Gaps Grouping MachineInt Spread

section Measures

variable (pairs : List Pair) (side : PacketDirection)

/-- The pairs of a side, which are all of them for `both`. -/
def sidePairs : List Pair :=
  pairs.filter fun pair => side = .both ∨ pair.direction = side

def numberOf : Int :=
  (sidePairs pairs side).length

def lengthsOf : List Int :=
  (sidePairs pairs side).map fun pair => pair.packet.length

def headersOf : List Int :=
  (pairs.filter fun pair => pair.direction = side).map fun pair =>
    pair.packet.headerSize

/-- The gaps between the packets of a direction in microseconds. -/
def microGaps : List ℚ :=
  (gaps (timesOf (pairs.filter fun pair => pair.direction = side))).map
    fun gap => 1000000 * gap

def payloadNumber : Int :=
  ((pairs.filter fun pair => pair.direction = side).filter fun pair =>
    getPayload pair.packet > 0).length

/-- The packets of a side, other than UDP packets, with a flag. -/
def flagNumber (flag : UInt8) : Int :=
  ((sidePairs pairs side).filter fun pair =>
    pair.packet.protocol ≠ ipprotoUdp ∧
      pair.packet.flags &&& flag = flag).length

/-- The windows of the TCP packets of a direction. -/
def tcpWindows : List Int :=
  windowsAlong
    (pairs.filter fun pair => pair.packet.protocol = ipprotoTcp) side

end Measures

theorem numberOf_nonneg (pairs : List Pair) (side : PacketDirection) :
    0 ≤ numberOf pairs side :=
  Int.natCast_nonneg _

/-- The greatest length, zero if there is none. -/
def greatest (lengths : List Int) : Int :=
  lengths.max?.getD 0

def least (lengths : List Int) : Int :=
  lengths.min?.getD 0

def average (lengths : List Int) : ℚ :=
  mean (lengths.map fun (length : Int) => (length : ℚ))

def dispersion (lengths : List Int) : ℚ :=
  variance (lengths.map fun (length : Int) => (length : ℚ))

/-- The machine for active and idle times after the long gaps. -/
def activityOf (pairs : List Pair) : Activity :=
  (longGaps (timesOf pairs)).foldl Activity.update {}

section HistoryRow

variable (formatTime : Int → CString) (pairs : List Pair)

def firstPacket : Packet :=
  (pairs.head?.map Pair.packet).getD {}

def addressRow : List RowEntry :=
  [("src_ip", .string (some (firstPacket pairs).srcIp)),
    ("dst_ip", .string (some (firstPacket pairs).destIp)),
    ("src_port", .int (some (firstPacket pairs).srcPort.toNat)),
    ("dst_port", .int (some (firstPacket pairs).destPort.toNat)),
    ("protocol", .int (some (firstPacket pairs).protocol.toNat)),
    ("timestamp",
      .string (some (formatTime (truncate (firstPacket pairs).time))))]

/-- A quotient by zero is zero. -/
def rateRow : List RowEntry :=
  [("flow_duration", .double (some (spanOf pairs * 1000000))),
    ("flow_byts_s", .double (some
      ((pairs.map fun pair => pair.packet.payloadSize).sum /
        spanOf pairs))),
    ("flow_pkts_s", .double (some (numberOf pairs .both / spanOf pairs))),
    ("fwd_pkts_s", .double (some (numberOf pairs .forward / spanOf pairs))),
    ("bwd_pkts_s", .double (some (numberOf pairs .reverse / spanOf pairs))),
    ("tot_fwd_pkts", .int (some (numberOf pairs .forward))),
    ("tot_bwd_pkts", .int (some (numberOf pairs .reverse)))]

def lengthRow : List RowEntry :=
  let forward := lengthsOf pairs .forward
  let backward := lengthsOf pairs .reverse
  let all := lengthsOf pairs .both
  [("totlen_fwd_pkts", .int (some forward.sum)),
    ("totlen_bwd_pkts", .int (some backward.sum)),
    ("fwd_pkt_len_max", .double (some (greatest forward))),
    ("fwd_pkt_len_min", .double (some (least forward))),
    ("fwd_pkt_len_mean", .double (some (average forward))),
    ("fwd_pkt_len_std", .root (some (dispersion forward))),
    ("bwd_pkt_len_max", .double (some (greatest backward))),
    ("bwd_pkt_len_min", .double (some (least backward))),
    ("bwd_pkt_len_mean", .double (some (average backward))),
    ("bwd_pkt_len_std", .root (some (dispersion backward))),
    ("pkt_len_max", .double (some (greatest all))),
    ("pkt_len_min", .double (some (least all))),
    ("pkt_len_mean", .double (some (average all))),
    ("pkt_len_std", .root (some (dispersion all))),
    ("pkt_len_var", .double (some (dispersion all)))]

def headerRow : List RowEntry :=
  [("fwd_header_len", .int (some (headersOf pairs .forward).sum)),
    ("bwd_header_len", .int (some (headersOf pairs .reverse).sum)),
    ("fwd_seg_size_min", .int (some (least (headersOf pairs .forward)))),
    ("fwd_act_data_pkts", .int (some (payloadNumber pairs .forward)))]

def interarrivalRow : List RowEntry :=
  let flow := getStatistics ((gaps (timesOf pairs)).map
    fun gap => 1000000 * gap)
  let forward := getStatistics (microGaps pairs .forward)
  let backward := getStatistics (microGaps pairs .reverse)
  [("flow_iat_mean", .doubleAsInt (some flow.mean)),
    ("flow_iat_max", .doubleAsInt (some flow.max)),
    ("flow_iat_min", .doubleAsInt (some flow.min)),
    ("flow_iat_std", .rootAsInt (some flow.variance)),
    ("fwd_iat_tot", .doubleAsInt (some forward.total)),
    ("fwd_iat_max", .doubleAsInt (some forward.max)),
    ("fwd_iat_min", .doubleAsInt (some forward.min)),
    ("fwd_iat_mean", .doubleAsInt (some forward.mean)),
    ("fwd_iat_std", .rootAsInt (some forward.variance)),
    ("bwd_iat_tot", .doubleAsInt (some backward.total)),
    ("bwd_iat_max", .doubleAsInt (some backward.max)),
    ("bwd_iat_min", .doubleAsInt (some backward.min)),
    ("bwd_iat_mean", .doubleAsInt (some backward.mean)),
    ("bwd_iat_std", .rootAsInt (some backward.variance))]

def flagRow : List RowEntry :=
  [("fwd_psh_flags", .int (some (flagNumber pairs .forward 0x08))),
    ("bwd_psh_flags", .int (some (flagNumber pairs .reverse 0x08))),
    ("fwd_urg_flags", .int (some (flagNumber pairs .forward 0x20))),
    ("bwd_urg_flags", .int (some (flagNumber pairs .reverse 0x20))),
    ("fin_flag_cnt", .int (some (flagNumber pairs .both 0x01))),
    ("syn_flag_cnt", .int (some (flagNumber pairs .both 0x02))),
    ("rst_flag_cnt", .int (some (flagNumber pairs .both 0x04))),
    ("psh_flag_cnt", .int (some (flagNumber pairs .both 0x08))),
    ("ack_flag_cnt", .int (some (flagNumber pairs .both 0x10))),
    ("urg_flag_cnt", .int (some (flagNumber pairs .both 0x20))),
    ("ece_flag_cnt", .int (some (flagNumber pairs .both 0x40)))]

def responseRow : List RowEntry :=
  [("down_up_ratio", .doubleAsInt (some
      (numberOf pairs .reverse / numberOf pairs .forward))),
    ("pkt_size_avg",
      .int (some (truncate (average (lengthsOf pairs .both))))),
    ("init_fwd_win_byts",
      .int (some (firstNonzero (tcpWindows pairs .forward)))),
    ("init_bwd_win_byts",
      .int (some ((tcpWindows pairs .reverse).getLastD 0)))]

def activityRow : List RowEntry :=
  let active := getStatistics (activityOf pairs).active.items
  let idle := getStatistics (activityOf pairs).idle.items
  [("active_max", .doubleAsInt (some active.max)),
    ("active_min", .doubleAsInt (some active.min)),
    ("active_mean", .doubleAsInt (some active.mean)),
    ("active_std", .rootAsInt (some active.variance)),
    ("idle_max", .doubleAsInt (some idle.max)),
    ("idle_min", .doubleAsInt (some idle.min)),
    ("idle_mean", .doubleAsInt (some idle.mean)),
    ("idle_std", .rootAsInt (some idle.variance))]

/-- The bytes of the bulks over their number, without a fraction. -/
def bulkBytes (bulks : List (List Pair)) : ℚ :=
  ((bulks.map payloadOf).sum.tdiv bulks.length : Int)

def bulkPackets (bulks : List (List Pair)) : ℚ :=
  (bulks.map packetsOf).sum / bulks.length

/-- The bytes of the bulks over the time they took. -/
def bulkSpeed (bulks : List (List Pair)) : Option ℚ :=
  if bulks = [] then some 0
  else divideDouble (bulks.map payloadOf).sum (bulks.map spanOf).sum

def bulkRow : List RowEntry :=
  let forward := longBursts .forward pairs
  let backward := longBursts .reverse pairs
  [("fwd_byts_b_avg", .doubleAsInt (some (bulkBytes forward))),
    ("fwd_pkts_b_avg", .doubleAsInt (some (bulkPackets forward))),
    ("bwd_byts_b_avg", .doubleAsInt (some (bulkBytes backward))),
    ("bwd_pkts_b_avg", .doubleAsInt (some (bulkPackets backward))),
    ("fwd_blk_rate_avg", .doubleAsInt (bulkSpeed forward)),
    ("bwd_blk_rate_avg", .doubleAsInt (bulkSpeed backward))]

def duplicatedRow : List RowEntry :=
  [("fwd_seg_size_avg",
      .doubleAsInt (some (average (lengthsOf pairs .forward)))),
    ("bwd_seg_size_avg",
      .doubleAsInt (some (average (lengthsOf pairs .reverse)))),
    ("cwe_flag_count", .int (some (flagNumber pairs .forward 0x20))),
    ("subflow_fwd_pkts", .int (some (numberOf pairs .forward))),
    ("subflow_bwd_pkts", .int (some (numberOf pairs .reverse))),
    ("subflow_fwd_byts", .int (some (lengthsOf pairs .forward).sum)),
    ("subflow_bwd_byts", .int (some (lengthsOf pairs .reverse).sum))]

/-- The row of a history. -/
def historyRow : List RowEntry :=
  addressRow formatTime pairs ++ rateRow pairs ++ lengthRow pairs ++
    headerRow pairs ++ interarrivalRow pairs ++ flagRow pairs ++
    responseRow pairs ++ activityRow pairs ++ bulkRow pairs ++
    duplicatedRow pairs

/-- No two entries have the same key. -/
theorem historyRow_keys_nodup :
    ((historyRow formatTime pairs).map Prod.fst).Nodup := by
  have keys : (historyRow formatTime pairs).map Prod.fst =
      (historyRow (fun _ => []) []).map Prod.fst := rfl
  rw [keys]
  decide +kernel

end HistoryRow

/-! ## Lengths -/

section Lengths

variable {flow : Flow} (sized : ∀ pair ∈ flow.pairs, pair.packet.Sized)
  (side : PacketDirection)

include sized

theorem getMax_checked :
    getMax checked flow side =
      some (greatest (lengthsOf flow.pairs side)) := by
  rw [getMax, getPacketLength_checked sized, Option.bind_eq_bind,
    Option.bind_some, greatest]
  change _ = some ((flow.lengthsAlong side).max?.getD 0)
  cases flow.lengthsAlong side with
  | nil =>
      rfl
  | cons first rest =>
      have scan : (fun maxPacketLength length : Int =>
          if length > maxPacketLength then length
          else maxPacketLength) = max := by
        funext maxPacketLength length
        exact Extremes.ite_gt_eq_max maxPacketLength length
      dsimp only
      rw [scan, List.max?_cons']
      rfl

theorem getMin_checked :
    getMin checked flow side =
      some (least (lengthsOf flow.pairs side)) := by
  rw [getMin, getPacketLength_checked sized, Option.bind_eq_bind,
    Option.bind_some, least]
  change _ = some ((flow.lengthsAlong side).min?.getD 0)
  cases flow.lengthsAlong side with
  | nil =>
      rfl
  | cons first rest =>
      have scan : (fun minPacketLength length : Int =>
          if length < minPacketLength then length
          else minPacketLength) = min := by
        funext minPacketLength length
        exact Extremes.ite_lt_eq_min minPacketLength length
      dsimp only
      rw [scan, List.foldl_cons, min_self, List.min?_cons']
      rfl

theorem getMeanLen_checked :
    getMeanLen checked flow side =
      some (average (lengthsOf flow.pairs side)) := by
  have exactly : some (Id.run (getMeanLen exact flow side)) =
      some (average (lengthsOf flow.pairs side)) :=
    congrArg some (getMeanLen_eq_mean flow side)
  rw [← exactly, getMeanLen, getPacketLength_checked sized,
    Option.bind_eq_bind, Option.bind_some, getMeanLen, Id.run_bind,
    getPacketLength_exact]
  split_ifs <;> rfl

theorem getVarLen_checked :
    getVarLen checked flow side =
      some (dispersion (lengthsOf flow.pairs side)) := by
  have exactly : some (Id.run (getVarLen exact flow side)) =
      some (dispersion (lengthsOf flow.pairs side)) :=
    congrArg some (getVarLen_eq_variance flow side)
  rw [← exactly, getVarLen, getPacketLength_checked sized,
    Option.bind_eq_bind, Option.bind_some, getVarLen, Id.run_bind,
    getPacketLength_exact]
  split_ifs <;> rfl

/-- The mean of lengths is in the range of a length. -/
theorem average_bounds :
    0 ≤ average (lengthsOf flow.pairs side) ∧
      average (lengthsOf flow.pairs side) ≤ intMax := by
  have bounds : ∀ length ∈ flow.doublesAlong side,
      0 ≤ length ∧ length ≤ (intMax : ℚ) := by
    intro length member
    obtain ⟨whole, wholeMember, rfl⟩ := List.mem_map.mp member
    obtain ⟨pair, selected, rfl⟩ := List.mem_map.mp wholeMember
    have pairSized := sized pair (List.mem_of_mem_filter selected)
    exact ⟨by exact_mod_cast pairSized.length_nonneg,
      by exact_mod_cast pairSized.lengthLe⟩
  change 0 ≤ mean (flow.doublesAlong side) ∧
    mean (flow.doublesAlong side) ≤ intMax
  by_cases empty : flow.doublesAlong side = []
  · rw [empty, mean, List.sum_nil, zero_div]
    exact ⟨le_refl 0, by norm_num [intMax]⟩
  · exact ⟨le_mean empty fun length member => (bounds length member).1,
      mean_le empty fun length member => (bounds length member).2⟩

end Lengths

theorem getStatistics_variance_nonneg (array : List ℚ) :
    0 ≤ (getStatistics array).variance := by
  by_cases several : 2 ≤ array.length
  · rw [getStatistics_of_several several]
    exact variance_nonneg array
  · have few : ¬ array.length > 1 := several
    rw [getStatistics, if_neg few]

theorem getBytesPerBulk_eq (flow : Flow) (direction : PacketDirection) :
    getBytesPerBulk flow direction =
      ((flow.bulk direction).size.tdiv (flow.bulk direction).count :
        Int) := by
  have guarded : getBytesPerBulk flow direction =
      if (flow.bulk direction).count ≠ 0 then
        (((flow.bulk direction).size.tdiv (flow.bulk direction).count :
          Int) : ℚ)
      else 0 := by
    cases direction <;> rfl
  rw [guarded]
  split_ifs with some
  · rfl
  · rw [not_not.mp some, Int.tdiv_zero, Int.cast_zero]

theorem getPacketsPerBulk_eq_div
    (flow : Flow) (direction : PacketDirection) :
    getPacketsPerBulk flow direction =
      (flow.bulk direction).packetCount / (flow.bulk direction).count := by
  rw [getPacketsPerBulk_eq]
  split_ifs with some
  · rfl
  · rw [not_not.mp some, Int.cast_zero, div_zero]

/-- The packets of a burst stand in their order in the input. -/
theorem burstScan_sublist (side : PacketDirection) (pairs : List Pair) :
    ∀ burst ∈ (burstScan side pairs).bursts, burst.Sublist pairs := by
  induction pairs using List.reverseRecOn with
  | nil =>
      intro burst member
      exact absurd member List.not_mem_nil
  | append_singleton pairs last inductionHypothesis =>
      have old : ∀ burst ∈ (burstScan side pairs).bursts,
          burst.Sublist (pairs ++ [last]) :=
        fun burst member =>
          (inductionHypothesis burst member).trans
            (List.sublist_append_left pairs [last])
      rw [burstScan_concat, BurstScan.hear]
      split_ifs
      · exact old
      · apply extend_forall old
        · exact List.sublist_append_right pairs [last]
        · intro burst member _
          exact (inductionHypothesis burst member).append_right [last]
      · exact old

/-- Bursts of packets in order do not span less than no time. -/
theorem spanOf_longBursts_nonneg
    {pairs : List Pair} (sorted : (timesOf pairs).Pairwise (· ≤ ·))
    (side : PacketDirection) :
    0 ≤ ((longBursts side pairs).map spanOf).sum := by
  apply List.sum_nonneg
  intro span member
  obtain ⟨burst, isLong, rfl⟩ := List.mem_map.mp member
  have sublist := burstScan_sublist side pairs burst
    (List.mem_of_mem_filter isLong)
  have burstSorted := sorted.sublist (sublist.map fun pair : Pair =>
    pair.packet.time)
  have total := List.sum_nonneg (gaps_nonneg burstSorted)
  cases burst with
  | nil =>
      exact le_of_eq (sub_self 0).symm
  | cons first rest =>
      rw [List.map_cons, sum_gaps] at total
      rw [spanOf, endOf, startOf, timesOf, List.map_cons,
        List.getLastD_cons, List.headD_cons]
      exact total

theorem flagCounter_eq_flagNumber
    (flow : Flow) (flag : UInt8) (side : PacketDirection) :
    flagCounter flow flag side = flagNumber flow.pairs side flag := by
  rw [flagCounter_eq, List.countP_eq_length_filter]
  rfl

theorem flagEntries_eq (flow : Flow) :
    flagEntries flow = flagRow flow.pairs := by
  simp only [flagEntries, flagCounter_eq_flagNumber]
  rfl

end UzFlowMeter
