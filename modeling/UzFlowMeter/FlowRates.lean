import UzFlowMeter.ByteOverflow
import UzFlowMeter.ForwardHeaders
import UzFlowMeter.LengthFeatures
import UzFlowMeter.PacketTime

/-!
# Rates and ratios of a flow

The quotients of `flow_bytes.c` and `packet_count.c`.  Each of them has its
own answer for a divisor of zero: minus one, or zero.
-/

namespace UzFlowMeter

open MachineInt

section Rates

variable {m : Type → Type} [Monad m] (add : Int → Int → m Int)
  (flow : Flow)

/-- `get_rate_bytes`. -/
def getRateBytes : m ℚ := do
  let duration := getDuration flow
  if duration = 0 then return 0
  else
    let totalBytes ← getBytes add flow
    return totalBytes / duration

/-- `get_sent_rate`, which adds the bytes up before it tests the
duration. -/
def getSentRate : m ℚ := do
  let sentBytes ← getBytesSent add flow
  let duration := getDuration flow
  if duration = 0 then return -1 else return sentBytes / duration

/-- `get_received_rate`. -/
def getReceivedRate : m ℚ := do
  let receivedBytes ← getBytesReceived add flow
  let duration := getDuration flow
  if duration = 0 then return -1 else return receivedBytes / duration

/-- `get_forward_rate`, the rate of the header bytes. -/
def getForwardRate : m ℚ := do
  let forwardBytes ← getForwardHeaderBytes add flow
  let duration := getDuration flow
  if duration > 0 then return forwardBytes / duration else return -1

/-- `get_reverse_rate`. -/
def getReverseRate : m ℚ := do
  let reverse ← getReverseHeaderBytes add flow
  let duration := getDuration flow
  if duration = 0 then return -1 else return reverse / duration

/-- `get_header_in_out_ratio`. -/
def getHeaderInOutRatio : m ℚ := do
  let reverseHeaderBytes ← getReverseHeaderBytes add flow
  let forwardHeaderBytes ← getForwardHeaderBytes add flow
  if reverseHeaderBytes = 0 then return -1
  else return forwardHeaderBytes / reverseHeaderBytes

end Rates

/-- `get_rate_count`. -/
def getRateCount (flow : Flow) (packetDirection : PacketDirection) : ℚ :=
  let duration := getDuration flow
  if duration = 0 then 0 else getTotal flow packetDirection / duration

/-- `get_down_up_ratio`. -/
def getDownUpRatio (flow : Flow) : ℚ :=
  let forwardSize := getTotal flow .forward
  let backwardSize := getTotal flow .reverse
  if forwardSize > 0 then backwardSize / forwardSize else 0

theorem getReverseHeaderBytes_exact (flow : Flow) :
    Id.run (getReverseHeaderBytes exact flow) =
      ((flow.pairs.filter fun pair => pair.direction = .reverse).map
        fun pair => pair.packet.headerSize).sum := by
  rw [getReverseHeaderBytes]
  split_ifs with empty
  · have noPairs : flow.pairs = [] := List.length_eq_zero_iff.mp empty
    rw [noPairs]
    rfl
  · exact totalOver_exact flow _ Packet.headerSize

theorem getReverseHeaderBytes_eq (flow : Flow) :
    getReverseHeaderBytes checked flow =
      totalOver checked flow (fun pair => pair.direction = .reverse)
        Packet.headerSize := by
  rw [getReverseHeaderBytes]
  split_ifs with empty
  · have noPairs : flow.pairs = [] := List.length_eq_zero_iff.mp empty
    rw [totalOver, noPairs]
    rfl
  · rfl

theorem getForwardHeaderBytes_exact (flow : Flow) :
    Id.run (getForwardHeaderBytes exact flow) =
      ((flow.pairs.filter fun pair => pair.direction = .forward).map
        fun pair => pair.packet.headerSize).sum :=
  totalOver_exact flow _ Packet.headerSize

/-- The header of an accepted packet holds at least that of Ethernet. -/
theorem Frame.headerSize_of_accepted
    {frame : Frame} (accepted : frame.parsed.Accepted) :
    (ethernetHeaderLen : Int) ≤ frame.parsed.headerSize := by
  rw [Frame.parsed] at accepted ⊢
  by_cases isIp :
      ntohs (frame.packet 12) (frame.packet 13) = ethertypeIp
  · rw [parsePacket_of_ip isIp]
    dsimp only
    omega
  · rw [parsePacket_of_not_ip isIp] at accepted
    exact absurd accepted (by decide : ¬ ((0 : UInt8) = ipprotoTcp ∨
      (0 : UInt8) = ipprotoUdp))

/-- No packet of the flow has an empty header. -/
def Flow.Headed (flow : Flow) : Prop :=
  ∀ pair ∈ flow.pairs, (ethernetHeaderLen : Int) ≤ pair.packet.headerSize

theorem Meter.headed_run (capacity : Nat) (frames : List Frame) :
    (run capacity frames).AllFlows Flow.Headed := by
  apply allFlows_run
  · intro packet pair member
    exact absurd member List.not_mem_nil
  · intro frame route flow accepted headed pair member
    rw [recordLabels_pairs] at member
    rcases List.mem_append.mp member with old | new
    · exact headed pair old
    · obtain ⟨label, -, rfl⟩ := List.mem_map.mp new
      exact frame.headerSize_of_accepted accepted

/-- Header bytes of a direction are zero only without packets. -/
theorem Flow.Headed.sum_headerSize_pos
    {flow : Flow} (headed : flow.Headed) {direction : PacketDirection}
    (some : (flow.pairs.filter fun pair =>
      pair.direction = direction) ≠ []) :
    0 < ((flow.pairs.filter fun pair => pair.direction = direction).map
      fun pair => pair.packet.headerSize).sum := by
  apply List.sum_pos
  · intro size member
    obtain ⟨pair, selected, rfl⟩ := List.mem_map.mp member
    have whole := headed pair (List.mem_of_mem_filter selected)
    rw [ethernetHeaderLen] at whole
    omega
  · simpa using some

private theorem getTotal_eq_zero_iff
    (flow : Flow) {direction : PacketDirection}
    (side : direction ≠ .both) :
    getTotal flow direction = 0 ↔
      (flow.pairs.filter fun pair => pair.direction = direction) = [] := by
  rw [getTotal]
  simp [side]

/-- A flow with packets lasts no time if and only if they all came at the
same time. -/
theorem getDuration_eq_zero_iff
    {flow : Flow} (nonempty : flow.pairs ≠ []) :
    0 ≤ getDuration flow ∧
      (getDuration flow = 0 ↔ ∀ pair ∈ flow.pairs, ∀ other ∈ flow.pairs,
        pair.packet.time = other.packet.time) := by
  obtain ⟨first, rest, times⟩ : ∃ first rest,
      timesOf flow.pairs = first :: rest := by
    apply List.exists_cons_of_ne_nil
    simpa [timesOf] using nonempty
  have latest := Extremes.isGreatest_foldl_max first rest
  have earliest := Extremes.isLeast_foldl_min first rest
  rw [← times] at latest earliest
  rw [getDuration_eq latest earliest]
  refine ⟨sub_nonneg.mpr (latest.2 earliest.1), ?_⟩
  rw [sub_eq_zero]
  constructor
  · intro same pair member other otherMember
    have bounds : ∀ inner ∈ flow.pairs,
        rest.foldl min first ≤ inner.packet.time ∧
          inner.packet.time ≤ rest.foldl max first :=
      fun inner innerMember =>
        have present : inner.packet.time ∈ timesOf flow.pairs :=
          List.mem_map_of_mem innerMember
        ⟨earliest.2 present, latest.2 present⟩
    have pairBounds := bounds pair member
    have otherBounds := bounds other otherMember
    linarith [pairBounds.1, pairBounds.2, otherBounds.1, otherBounds.2]
  · intro allSame
    obtain ⟨last, lastMember, isLatest⟩ := List.mem_map.mp latest.1
    obtain ⟨least, leastMember, isEarliest⟩ := List.mem_map.mp earliest.1
    rw [← isLatest, ← isEarliest]
    exact allSame last lastMember least leastMember

/-- A quotient, or minus one for a divisor of zero. -/
def quotientOr (total : Int) (divisor : ℚ) : ℚ :=
  if divisor = 0 then -1 else total / divisor

private theorem quotientOr_of_ne
    (total : Int) {divisor : ℚ} (nonzero : divisor ≠ 0) :
    quotientOr total divisor = total / divisor :=
  if_neg nonzero

private theorem quotientOr_eq_neg_one_iff
    {total : Int} {divisor : ℚ} (nonneg : 0 ≤ total)
    (divisorNonneg : 0 ≤ divisor) :
    quotientOr total divisor = -1 ↔ divisor = 0 := by
  have totalNonneg : (0 : ℚ) ≤ total := by exact_mod_cast nonneg
  have quotient := div_nonneg totalNonneg divisorNonneg
  rw [quotientOr]
  split_ifs with zero
  · exact iff_of_true rfl zero
  · exact iff_of_false (by linarith) zero

/-- Minus one is the answer of the rate for a flow of no duration alone, and
no other answer is negative. -/
def Flow.IsRate (flow : Flow) (rate : ℚ) : Prop :=
  (rate = -1 ↔ getDuration flow = 0) ∧ (rate = -1 ∨ 0 ≤ rate)

private theorem isRate_quotientOr
    {flow : Flow} {total : Int} (nonneg : 0 ≤ total)
    (durationNonneg : 0 ≤ getDuration flow) :
    flow.IsRate (quotientOr total (getDuration flow)) := by
  refine ⟨quotientOr_eq_neg_one_iff nonneg durationNonneg, ?_⟩
  rw [quotientOr]
  split_ifs
  · exact Or.inl rfl
  · exact Or.inr (div_nonneg (by exact_mod_cast nonneg) durationNonneg)

section Quotients

variable {flow : Flow} {total : Int}

private theorem getSentRate_eq
    (summed : getBytesSent checked flow = some total) :
    getSentRate checked flow =
      some (quotientOr total (getDuration flow)) := by
  rw [getSentRate, summed]
  exact (apply_ite some _ _ _).symm

private theorem getReceivedRate_eq
    (summed : getBytesReceived checked flow = some total) :
    getReceivedRate checked flow =
      some (quotientOr total (getDuration flow)) := by
  rw [getReceivedRate, summed]
  exact (apply_ite some _ _ _).symm

private theorem getReverseRate_eq
    (summed : getReverseHeaderBytes checked flow = some total) :
    getReverseRate checked flow =
      some (quotientOr total (getDuration flow)) := by
  rw [getReverseRate, summed]
  exact (apply_ite some _ _ _).symm

/-- The test for a positive duration is one for a duration that is not
zero. -/
theorem getForwardRate_eq
    (summed : getForwardHeaderBytes checked flow = some total)
    (nonneg : 0 ≤ getDuration flow) :
    getForwardRate checked flow =
      some (quotientOr total (getDuration flow)) := by
  rw [getForwardRate, summed, Option.bind_eq_bind, Option.bind_some,
    quotientOr]
  dsimp only
  rcases lt_or_eq_of_le nonneg with positive | zero
  · rw [if_pos positive, if_neg (ne_of_gt positive)]
    rfl
  · rw [if_neg (not_lt_of_ge (le_of_eq zero.symm)), if_pos zero.symm]
    rfl

private theorem getRateBytes_eq
    (summed : getBytes checked flow = some total)
    (lasting : getDuration flow ≠ 0) :
    getRateBytes checked flow = some (total / getDuration flow) := by
  rw [getRateBytes, summed]
  exact if_neg lasting

private theorem getHeaderInOutRatio_eq
    {reverseTotal : Int}
    (forward : getForwardHeaderBytes checked flow = some total)
    (reverse : getReverseHeaderBytes checked flow = some reverseTotal) :
    getHeaderInOutRatio checked flow =
      some (quotientOr total reverseTotal) := by
  rw [getHeaderInOutRatio, reverse, forward, quotientOr]
  simp only [Int.cast_eq_zero]
  exact (apply_ite some _ _ _).symm

end Quotients

/-! ## Rates fit together -/

/-- The rates of a flow fit together: those of payload bytes as long as all
of these have an `int` sum, those of header bytes as long as those of either
direction have one. -/
structure Flow.RatesCoherent (flow : Flow) : Prop where
  duration : 0 ≤ getDuration flow
  instant : getDuration flow = 0 ↔ ∀ pair ∈ flow.pairs,
    ∀ other ∈ flow.pairs, pair.packet.time = other.packet.time
  bytes : ∀ total, getBytes checked flow = some total →
    ∃ sent received, getSentRate checked flow = some sent ∧
      getReceivedRate checked flow = some received ∧
      flow.IsRate sent ∧ flow.IsRate received ∧
      (getDuration flow ≠ 0 →
        getRateBytes checked flow = some (sent + received))
  headers : ∀ forwardBytes reverseBytes,
    getForwardHeaderBytes checked flow = some forwardBytes →
    getReverseHeaderBytes checked flow = some reverseBytes →
    ∃ forward reverse ratio, getForwardRate checked flow = some forward ∧
      getReverseRate checked flow = some reverse ∧
      getHeaderInOutRatio checked flow = some ratio ∧
      flow.IsRate forward ∧ flow.IsRate reverse ∧
      (ratio = -1 ↔ getTotal flow .reverse = 0) ∧
      (getDuration flow ≠ 0 → getTotal flow .reverse ≠ 0 →
        ratio * reverse = forward)
  packets : getRateCount flow .both =
    getRateCount flow .forward + getRateCount flow .reverse
  downUp : getDownUpRatio flow * getRateCount flow .forward =
    getRateCount flow .reverse

section Coherent

variable {flow : Flow}

private theorem sides_of_sized
    (sized : ∀ pair ∈ flow.pairs, pair.Sized) :
    ∀ pair ∈ flow.pairs, pair.direction ≠ .both := by
  intro pair member isBoth
  rcases (sized pair member).directed with forward | reverse
  · rw [forward] at isBoth
    cases isBoth
  · rw [reverse] at isBoth
    cases isBoth

theorem getTotal_forward_pos
    (begins : flow.BeginsForward) : 0 < getTotal flow .forward := by
  rw [Flow.BeginsForward] at begins
  obtain ⟨first, isFirst, forward⟩ := Option.map_eq_some_iff.mp begins
  have member := List.mem_of_head? isFirst
  rw [getTotal]
  apply Nat.cast_pos.mpr
  apply List.countP_pos_iff.mpr
  exact ⟨first, member, by simp [forward]⟩

private theorem getRateCount_both
    (sides : ∀ pair ∈ flow.pairs, pair.direction ≠ .both) :
    getRateCount flow .both =
      getRateCount flow .forward + getRateCount flow .reverse := by
  rw [getRateCount, getRateCount, getRateCount, getTotal_both sides]
  split_ifs
  · exact (add_zero 0).symm
  · rw [Int.cast_add, add_div]

private theorem getDownUpRatio_mul
    (forwardPositive : 0 < getTotal flow .forward) :
    getDownUpRatio flow * getRateCount flow .forward =
      getRateCount flow .reverse := by
  have forwardNonzero : (getTotal flow .forward : ℚ) ≠ 0 := by
    exact_mod_cast ne_of_gt forwardPositive
  rw [getDownUpRatio, getRateCount, getRateCount, if_pos forwardPositive]
  split_ifs
  · exact mul_zero _
  · rw [div_mul_div_cancel₀ forwardNonzero]

/-- A sum over all packets does not overflow unless that over one direction
does. -/
theorem exists_sums_of_getBytes
    (sized : ∀ pair ∈ flow.pairs, pair.Sized) {total : Int}
    (summed : getBytes checked flow = some total) :
    ∃ sent received, getBytesSent checked flow = some sent ∧
      getBytesReceived checked flow = some received ∧
      0 ≤ sent ∧ 0 ≤ received ∧ total = sent + received := by
  have nonneg : ∀ select : Pair → Bool,
      ∀ size ∈ (flow.pairs.filter select).map fun pair =>
        pair.packet.payloadSize, 0 ≤ size := by
    intro select size member
    obtain ⟨pair, selected, rfl⟩ := List.mem_map.mp member
    exact (sized pair (List.mem_of_mem_filter selected)).packet.payloadNonneg
  have sides := sides_of_sized sized
  have halves := ((pairsAlong_both_perm sides).map fun pair =>
    pair.packet.payloadSize).sum_eq
  rw [List.map_append, List.sum_append] at halves
  obtain ⟨isTotal, fits⟩ :=
    (sumWith_checked_eq_some_iff (nonneg fun _ => true)).mp summed
  have sentNonneg := List.sum_nonneg
    (nonneg fun pair => pair.direction = .forward)
  have receivedNonneg := List.sum_nonneg
    (nonneg fun pair => pair.direction = .reverse)
  have split : total =
      ((flow.pairs.filter fun pair => pair.direction = .forward).map
        fun pair => pair.packet.payloadSize).sum +
      ((flow.pairs.filter fun pair => pair.direction = .reverse).map
        fun pair => pair.packet.payloadSize).sum := by
    rw [← isTotal]
    simpa [Flow.pairsAlong] using halves
  refine ⟨_, _, (sumWith_checked_eq_some_iff (nonneg _)).mpr ⟨rfl, ?_⟩,
    (sumWith_checked_eq_some_iff (nonneg _)).mpr ⟨rfl, ?_⟩, sentNonneg,
    receivedNonneg, split⟩
  · omega
  · omega

private theorem bytesCoherent
    (sized : ∀ pair ∈ flow.pairs, pair.Sized)
    (durationNonneg : 0 ≤ getDuration flow) {total : Int}
    (summed : getBytes checked flow = some total) :
    ∃ sent received, getSentRate checked flow = some sent ∧
      getReceivedRate checked flow = some received ∧
      flow.IsRate sent ∧ flow.IsRate received ∧
      (getDuration flow ≠ 0 →
        getRateBytes checked flow = some (sent + received)) := by
  obtain ⟨sent, received, sentSummed, receivedSummed, sentNonneg,
    receivedNonneg, split⟩ := exists_sums_of_getBytes sized summed
  refine ⟨_, _, getSentRate_eq sentSummed, getReceivedRate_eq receivedSummed,
    isRate_quotientOr sentNonneg durationNonneg,
    isRate_quotientOr receivedNonneg durationNonneg, ?_⟩
  intro lasting
  rw [getRateBytes_eq summed lasting, quotientOr_of_ne _ lasting,
    quotientOr_of_ne _ lasting, split, Int.cast_add, add_div]

/-- The header bytes of a direction, if they have a sum, are zero only
without packets. -/
theorem headerTotal_of_some
    (headed : flow.Headed) {direction : PacketDirection}
    (side : direction ≠ .both) {total : Int}
    (summed : totalOver checked flow
      (fun pair => pair.direction = direction) Packet.headerSize =
        some total) :
    0 ≤ total ∧ (total = 0 ↔ getTotal flow direction = 0) := by
  have nonneg : ∀ size ∈ (flow.pairs.filter fun pair =>
      pair.direction = direction).map fun pair => pair.packet.headerSize,
      0 ≤ size := by
    intro size member
    obtain ⟨pair, selected, rfl⟩ := List.mem_map.mp member
    have whole := headed pair (List.mem_of_mem_filter selected)
    rw [ethernetHeaderLen] at whole
    omega
  obtain ⟨rfl, -⟩ := (sumWith_checked_eq_some_iff nonneg).mp summed
  refine ⟨List.sum_nonneg nonneg, ?_⟩
  rw [getTotal_eq_zero_iff flow side]
  constructor
  · intro zero
    by_contra some
    exact absurd zero (ne_of_gt (headed.sum_headerSize_pos some))
  · intro none
    rw [none]
    rfl

private theorem headersCoherent_of_sums
    (headed : flow.Headed) (durationNonneg : 0 ≤ getDuration flow)
    {forwardBytes reverseBytes : Int}
    (forwardSummed : getForwardHeaderBytes checked flow = some forwardBytes)
    (reverseSummed : getReverseHeaderBytes checked flow =
      some reverseBytes) :
    ∃ forward reverse ratio, getForwardRate checked flow = some forward ∧
      getReverseRate checked flow = some reverse ∧
      getHeaderInOutRatio checked flow = some ratio ∧
      flow.IsRate forward ∧ flow.IsRate reverse ∧
      (ratio = -1 ↔ getTotal flow .reverse = 0) ∧
      (getDuration flow ≠ 0 → getTotal flow .reverse ≠ 0 →
        ratio * reverse = forward) := by
  have reverseTotal := reverseSummed
  rw [getReverseHeaderBytes_eq] at reverseTotal
  have forward := headerTotal_of_some headed (by decide) forwardSummed
  have reverse := headerTotal_of_some headed (by decide) reverseTotal
  have divisorNonneg : (0 : ℚ) ≤ reverseBytes := by
    exact_mod_cast reverse.1
  refine ⟨_, _, _, getForwardRate_eq forwardSummed durationNonneg,
    getReverseRate_eq reverseSummed,
    getHeaderInOutRatio_eq forwardSummed reverseSummed,
    isRate_quotientOr forward.1 durationNonneg,
    isRate_quotientOr reverse.1 durationNonneg, ?_, ?_⟩
  · rw [quotientOr_eq_neg_one_iff forward.1 divisorNonneg, Int.cast_eq_zero]
    exact reverse.2
  · intro lasting answered
    have reverseNonzero : (reverseBytes : ℚ) ≠ 0 := by
      exact_mod_cast mt reverse.2.mp answered
    rw [quotientOr_of_ne _ reverseNonzero, quotientOr_of_ne _ lasting,
      quotientOr_of_ne _ lasting, div_mul_div_cancel₀ reverseNonzero]

private theorem ratesCoherent
    (begins : flow.BeginsForward) (sized : ∀ pair ∈ flow.pairs, pair.Sized)
    (headed : flow.Headed) : flow.RatesCoherent := by
  have nonempty : flow.pairs ≠ [] := by
    intro empty
    rw [Flow.BeginsForward, empty] at begins
    cases begins
  obtain ⟨durationNonneg, instant⟩ := getDuration_eq_zero_iff nonempty
  exact {
    duration := durationNonneg
    instant := instant
    bytes := fun _ summed => bytesCoherent sized durationNonneg summed
    headers := fun _ _ forward reverse =>
      headersCoherent_of_sums headed durationNonneg forward reverse
    packets := getRateCount_both (sides_of_sized sized)
    downUp := getDownUpRatio_mul (getTotal_forward_pos begins) }

end Coherent

/-- The flows of the meter have coherent rates. -/
def Meter.RatesCoherent (meter : Meter) : Prop :=
  ∀ snapshot ∈ meter.flows, snapshot.contents.RatesCoherent

/-- The rates and ratios of every flow of a run fit together. -/
theorem Meter.ratesCoherent_run (capacity : Nat) (frames : List Frame) :
    (run capacity frames).RatesCoherent := by
  rw [RatesCoherent, (tracked_run capacity frames).forall_flows_iff]
  intro flow created
  exact ratesCoherent (beginsForward_run capacity frames flow created)
    (sized_run capacity frames flow created)
    (headed_run capacity frames flow created)

end UzFlowMeter
