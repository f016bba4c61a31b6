import UzFlowMeter.Definedness
import UzFlowMeter.FlowRates
import UzFlowMeter.Statistics

/-!
# The row of a flow

The calls of `json_object_object_add` by which `get_data` fills the object
that it sends away, each with its key and the value that it is made of.  Sums
of integers are `int` sums.  Numbers computed in doubles are exact here; a
double is handed on before its conversion to `int`, and the double that
`sqrt` returns as the radicand.  `localtime` and `strftime` are a parameter, a
function of the seconds.
-/

namespace UzFlowMeter

open MachineInt

/-- What the value of a call is made of, unless it is undefined:
`json_object_new_string`, `json_object_new_int` or `json_object_new_int64` of
an integer, `json_object_new_int` of a double or a square root, and
`json_object_new_double` of these. -/
inductive JsonArgument where
  | string (text : Option CString)
  | int (value : Option Int)
  | doubleAsInt (value : Option ℚ)
  | rootAsInt (square : Option ℚ)
  | double (value : Option ℚ)
  | root (square : Option ℚ)
  deriving DecidableEq

/-- The key of a call of `json_object_object_add` and its argument. -/
abbrev RowEntry := String × JsonArgument

/-- The argument is there and, where it is an `int` or becomes one, in
range. -/
def JsonArgument.Defined : JsonArgument → Prop
  | string text => text.isSome
  | int value => ∃ number ∈ value, Fits number
  | doubleAsInt value => ∃ number ∈ value, InRange number
  | rootAsInt square => ∃ number ∈ square,
      0 ≤ number ∧ number < (intMax + 1) ^ 2
  | double value => value.isSome
  | root square => ∃ number ∈ square, 0 ≤ number

section Entries

variable (formatTime : Int → CString) (flow : Flow)

/-- `get_time_stamp`, up to the conversion of the time to a `time_t`. -/
def getTimeStampText : Option CString :=
  (getTimeStamp flow).map fun time => formatTime (truncate time)

def addressEntries : List RowEntry :=
  [("src_ip", .string (some flow.srcIp)),
    ("dst_ip", .string (some flow.destIp)),
    ("src_port", .int (some flow.srcPort)),
    ("dst_port", .int (some flow.destPort)),
    ("protocol", .int (some flow.protocol.toNat)),
    ("timestamp", .string (getTimeStampText formatTime flow))]

def rateEntries : List RowEntry :=
  [("flow_duration", .double (some (getDuration flow * 1000000))),
    ("flow_byts_s", .double (getRateBytes checked flow)),
    ("flow_pkts_s", .double (some (getRateCount flow .both))),
    ("fwd_pkts_s", .double (some (getRateCount flow .forward))),
    ("bwd_pkts_s", .double (some (getRateCount flow .reverse))),
    ("tot_fwd_pkts", .int (some (getTotal flow .forward))),
    ("tot_bwd_pkts", .int (some (getTotal flow .reverse)))]

/-- An `int` that is passed on as a double. -/
def intAsDouble (value : Option Int) : Option ℚ :=
  value.map fun (value : Int) => (value : ℚ)

def lengthEntries : List RowEntry :=
  [("totlen_fwd_pkts", .int (getTotalLen checked flow .forward)),
    ("totlen_bwd_pkts", .int (getTotalLen checked flow .reverse)),
    ("fwd_pkt_len_max", .double (intAsDouble (getMax checked flow .forward))),
    ("fwd_pkt_len_min", .double (intAsDouble (getMin checked flow .forward))),
    ("fwd_pkt_len_mean", .double (getMeanLen checked flow .forward)),
    ("fwd_pkt_len_std", .root (getVarLen checked flow .forward)),
    ("bwd_pkt_len_max", .double (intAsDouble (getMax checked flow .reverse))),
    ("bwd_pkt_len_min", .double (intAsDouble (getMin checked flow .reverse))),
    ("bwd_pkt_len_mean", .double (getMeanLen checked flow .reverse)),
    ("bwd_pkt_len_std", .root (getVarLen checked flow .reverse)),
    ("pkt_len_max", .double (intAsDouble (getMax checked flow .both))),
    ("pkt_len_min", .double (intAsDouble (getMin checked flow .both))),
    ("pkt_len_mean", .double (getMeanLen checked flow .both)),
    ("pkt_len_std", .root (getVarLen checked flow .both)),
    ("pkt_len_var", .double (getVarLen checked flow .both))]

def headerEntries : List RowEntry :=
  [("fwd_header_len", .int (getForwardHeaderBytes checked flow)),
    ("bwd_header_len", .int (getReverseHeaderBytes checked flow)),
    ("fwd_seg_size_min", .int (some (getMinForwardHeaderBytes flow))),
    ("fwd_act_data_pkts", .int (some (hasPayload flow .forward)))]

def interarrivalEntries : List RowEntry :=
  let flowStats := getFlowInterarrivalStatistics flow.flowInterarrivalTime
  let forwardIat := getStatistics (getPacketIat flow .forward)
  let backwardIat := getStatistics (getPacketIat flow .reverse)
  [("flow_iat_mean", .doubleAsInt (some flowStats.mean)),
    ("flow_iat_max", .doubleAsInt (some flowStats.max)),
    ("flow_iat_min", .doubleAsInt (some flowStats.min)),
    ("flow_iat_std", .rootAsInt (some flowStats.variance)),
    ("fwd_iat_tot", .doubleAsInt (some forwardIat.total)),
    ("fwd_iat_max", .doubleAsInt (some forwardIat.max)),
    ("fwd_iat_min", .doubleAsInt (some forwardIat.min)),
    ("fwd_iat_mean", .doubleAsInt (some forwardIat.mean)),
    ("fwd_iat_std", .rootAsInt (some forwardIat.variance)),
    ("bwd_iat_tot", .doubleAsInt (some backwardIat.total)),
    ("bwd_iat_max", .doubleAsInt (some backwardIat.max)),
    ("bwd_iat_min", .doubleAsInt (some backwardIat.min)),
    ("bwd_iat_mean", .doubleAsInt (some backwardIat.mean)),
    ("bwd_iat_std", .rootAsInt (some backwardIat.variance))]

def flagEntries : List RowEntry :=
  [("fwd_psh_flags", .int (some (flagCounter flow 0x08 .forward))),
    ("bwd_psh_flags", .int (some (flagCounter flow 0x08 .reverse))),
    ("fwd_urg_flags", .int (some (flagCounter flow 0x20 .forward))),
    ("bwd_urg_flags", .int (some (flagCounter flow 0x20 .reverse))),
    ("fin_flag_cnt", .int (some (flagCounter flow 0x01 .both))),
    ("syn_flag_cnt", .int (some (flagCounter flow 0x02 .both))),
    ("rst_flag_cnt", .int (some (flagCounter flow 0x04 .both))),
    ("psh_flag_cnt", .int (some (flagCounter flow 0x08 .both))),
    ("ack_flag_cnt", .int (some (flagCounter flow 0x10 .both))),
    ("urg_flag_cnt", .int (some (flagCounter flow 0x20 .both))),
    ("ece_flag_cnt", .int (some (flagCounter flow 0x40 .both)))]

def responseEntries : List RowEntry :=
  [("down_up_ratio", .doubleAsInt (some (getDownUpRatio flow))),
    ("pkt_size_avg", .int (getAvg checked flow .both)),
    ("init_fwd_win_byts", .int (some flow.initWindowSize.1)),
    ("init_bwd_win_byts", .int (some flow.initWindowSize.2))]

def activityEntries : List RowEntry :=
  let idleStat := getIdleStatistics flow.idle
  let activeStat := getActiveStatistics flow.active
  [("active_max", .doubleAsInt (some activeStat.max)),
    ("active_min", .doubleAsInt (some activeStat.min)),
    ("active_mean", .doubleAsInt (some activeStat.mean)),
    ("active_std", .rootAsInt (some activeStat.variance)),
    ("idle_max", .doubleAsInt (some idleStat.max)),
    ("idle_min", .doubleAsInt (some idleStat.min)),
    ("idle_mean", .doubleAsInt (some idleStat.mean)),
    ("idle_std", .rootAsInt (some idleStat.variance))]

def bulkEntries : List RowEntry :=
  [("fwd_byts_b_avg", .doubleAsInt (some (getBytesPerBulk flow .forward))),
    ("fwd_pkts_b_avg", .doubleAsInt (some (getPacketsPerBulk flow .forward))),
    ("bwd_byts_b_avg", .doubleAsInt (some (getBytesPerBulk flow .reverse))),
    ("bwd_pkts_b_avg", .doubleAsInt (some (getPacketsPerBulk flow .reverse))),
    ("fwd_blk_rate_avg", .doubleAsInt (getBulkRate flow .forward)),
    ("bwd_blk_rate_avg", .doubleAsInt (getBulkRate flow .reverse))]

def duplicatedEntries : List RowEntry :=
  [("fwd_seg_size_avg", .doubleAsInt (getMeanLen checked flow .forward)),
    ("bwd_seg_size_avg", .doubleAsInt (getMeanLen checked flow .reverse)),
    ("cwe_flag_count", .int (some (flagCounter flow 0x20 .forward))),
    ("subflow_fwd_pkts", .int (some (getTotal flow .forward))),
    ("subflow_bwd_pkts", .int (some (getTotal flow .reverse))),
    ("subflow_fwd_byts", .int (getTotalLen checked flow .forward)),
    ("subflow_bwd_byts", .int (getTotalLen checked flow .reverse))]

/-- The calls of `json_object_object_add`, in their order. -/
def rowEntries : List RowEntry :=
  addressEntries formatTime flow ++ rateEntries flow ++
    lengthEntries flow ++ headerEntries flow ++ interarrivalEntries flow ++
    flagEntries flow ++ responseEntries flow ++ activityEntries flow ++
    bulkEntries flow ++ duplicatedEntries flow

end Entries

end UzFlowMeter
