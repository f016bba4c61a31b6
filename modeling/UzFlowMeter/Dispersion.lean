import UzFlowMeter.Definedness
import UzFlowMeter.ExportedTimes
import UzFlowMeter.FlowRates
import UzFlowMeter.Modes
import UzFlowMeter.RecordedFlows

/-!
# Mode skewness and variation

The remaining shape features of `packet_time.c` and `packet_length.c`: the
distance of the mean from the mode in standard deviations, and the standard
deviation over the mean, with exact roots and quotients.  Both have a number
that stands for no value, which only short lists keep clear of for the first
one.
-/

namespace UzFlowMeter

open MachineInt Sorting Spread

/-- The last steps of `get_skew2` and `get_skew2_len`; -10 if the standard
deviation is zero. -/
noncomputable def modeSkewness (mean mode : ℚ) (std : ℝ) : ℝ :=
  if std ≠ 0 then ((mean : ℝ) - mode) / std else (-10 : ℚ)

/-- The last steps of `get_cov` and `get_cov_len`; -1 if the mean is zero. -/
noncomputable def variation (mean : ℚ) (std : ℝ) : ℝ :=
  if mean ≠ 0 then std / mean else -1

section Features

variable (flow : Flow) (packetDirection : PacketDirection)

/-- `get_skew2`. -/
noncomputable def getSkew2 : ℝ :=
  modeSkewness (getMean flow) (getMode flow) (getStd flow)

/-- `get_cov`. -/
noncomputable def getCov : ℝ :=
  variation (getMean flow) (getStd flow)

/-- `get_skew2_len`. -/
noncomputable def getSkew2Len : ℝ :=
  modeSkewness (Id.run (getMeanLen exact flow packetDirection))
    (Id.run (getModeLen exact flow packetDirection) : Int)
    (getStdLen flow packetDirection)

/-- `get_cov_len`. -/
noncomputable def getCovLen : ℝ :=
  variation (Id.run (getMeanLen exact flow packetDirection))
    (getStdLen flow packetDirection)

end Features

private theorem RunScan.commit_mode_mem
    {scan : RunScan} {items : List ℚ} (mode : scan.mode ∈ items)
    (previous : scan.previous ∈ items) : scan.commit.mode ∈ items := by
  rw [commit]
  split_ifs
  · exact previous
  · exact mode

private theorem foldl_step_mode_mem
    {scan : RunScan} {items times : List ℚ} (mode : scan.mode ∈ items)
    (previous : scan.previous ∈ items) (within : times ⊆ items) :
    (times.foldl RunScan.step scan).commit.mode ∈ items := by
  induction times generalizing scan with
  | nil =>
      exact RunScan.commit_mode_mem mode previous
  | cons time times inductionHypothesis =>
      have timeMember := within List.mem_cons_self
      have rest := List.subset_of_cons_subset within
      rw [List.foldl_cons, RunScan.step]
      split_ifs
      · exact inductionHypothesis mode timeMember rest
      · have committed := RunScan.commit_mode_mem mode previous
        exact inductionHypothesis committed timeMember rest

private theorem getMode_mem {flow : Flow} (nonempty : flow.pairs ≠ []) :
    getMode flow ∈ getPacketTimes flow := by
  have recorded : flow.packets.count ≠ 0 :=
    ne_of_gt (List.length_pos_of_ne_nil nonempty)
  have perm := qsort_perm compareDoubles (getPacketTimes flow)
  rw [getMode]
  dsimp only
  rw [if_neg recorded, ← perm.mem_iff]
  cases times : qsort compareDoubles (getPacketTimes flow) with
  | nil =>
      have length := perm.length_eq
      rw [times, length_getPacketTimes] at length
      exact absurd length.symm recorded
  | cons first rest =>
      exact foldl_step_mode_mem List.mem_cons_self List.mem_cons_self
        (List.subset_cons_self first rest)

private theorem getModeLen_mem
    {flow : Flow} {direction : PacketDirection}
    (selected : flow.lengthsAlong direction ≠ []) :
    ((Id.run (getModeLen exact flow direction) : Int) : ℚ) ∈
      flow.doublesAlong direction := by
  rw [getModeLen_eq_head]
  apply List.mem_map_of_mem
  cases lengths : flow.lengthsAlong direction with
  | nil =>
      exact absurd lengths selected
  | cons first rest =>
      exact List.mem_cons_self

/-- The standard deviation of a list. -/
noncomputable def deviation (items : List ℚ) : ℝ :=
  √((variance items : ℚ) : ℝ)

section Bounds

variable {items : List ℚ}

/-- The skewness by a value that occurs is limited by the share of its
occurrences. -/
theorem modeSkewness_within
    {mode : ℚ} (occurs : mode ∈ items) (spread : deviation items ≠ 0) :
    modeSkewness (mean items) mode (deviation items) ^ 2 *
          items.count mode ≤ items.length - items.count mode ∧
      (items.length ≤ 100 →
        modeSkewness (mean items) mode (deviation items) ≠ -10) := by
  have positive : 0 < deviation items :=
    lt_of_le_of_ne (Real.sqrt_nonneg _) (Ne.symm spread)
  have variancePositive : (0 : ℝ) < (variance items : ℚ) :=
    Real.sqrt_pos.mp positive
  have square : deviation items ^ 2 = ((variance items : ℚ) : ℝ) :=
    Real.sq_sqrt (le_of_lt variancePositive)
  have close := sq_mean_sub_mul_count_le mode items
  have closeReal : (((mean items : ℚ) : ℝ) - mode) ^ 2 * items.count mode ≤
      (items.length - items.count mode) * ((variance items : ℚ) : ℝ) := by
    rw [mul_comm] at close ⊢
    rw [mul_comm (variance items)] at close
    exact_mod_cast close
  have bound : modeSkewness (mean items) mode (deviation items) ^ 2 *
      items.count mode ≤ items.length - items.count mode := by
    rw [modeSkewness, if_pos spread, div_pow, square, div_mul_eq_mul_div,
      div_le_iff₀ variancePositive]
    exact closeReal
  refine ⟨bound, ?_⟩
  intro few isSentinel
  have once : (1 : ℝ) ≤ items.count mode := by
    exact_mod_cast List.count_pos_iff.mpr occurs
  have fewReal : (items.length : ℝ) ≤ 100 := by exact_mod_cast few
  rw [isSentinel] at bound
  linarith

/-- The variation of values that are not negative is limited by their
number. -/
theorem variation_within
    (nonempty : items ≠ []) (nonneg : ∀ item ∈ items, 0 ≤ item) :
    (variation (mean items) (deviation items) = -1 ↔
        ∀ item ∈ items, item = 0) ∧
      (variation (mean items) (deviation items) ≠ -1 →
        variation (mean items) (deviation items) ∈
          Set.Icc (0 : ℝ) √(items.length - 1)) := by
  have meanNonneg : 0 ≤ mean items := le_mean nonempty nonneg
  have zero_iff : mean items = 0 ↔ ∀ item ∈ items, item = 0 := by
    constructor
    · intro zero
      have noSum : items.sum = 0 := by
        rw [← length_mul_mean items, zero, mul_zero]
      exact fun item member =>
        List.all_zero_of_le_zero_le_of_sum_eq_zero nonneg noSum member
    · intro allZero
      rw [mean, List.sum_eq_zero allZero, zero_div]
  by_cases zero : mean items = 0
  · have sentinel : variation (mean items) (deviation items) = -1 := by
      rw [variation, if_neg (not_not.mpr zero)]
    exact ⟨iff_of_true sentinel (zero_iff.mp zero),
      fun other => absurd sentinel other⟩
  · have positive : (0 : ℝ) < (mean items : ℚ) := by
      exact_mod_cast lt_of_le_of_ne meanNonneg (Ne.symm zero)
    have quotient : variation (mean items) (deviation items) =
        deviation items / (mean items : ℚ) := if_pos zero
    have low : 0 ≤ variation (mean items) (deviation items) := by
      rw [quotient]
      exact div_nonneg (Real.sqrt_nonneg _) (le_of_lt positive)
    have high : variation (mean items) (deviation items) ≤
        √(items.length - 1) := by
      have limited : ((variance items : ℚ) : ℝ) ≤
          (items.length - 1) * ((mean items : ℚ) : ℝ) ^ 2 := by
        exact_mod_cast variance_le_of_nonneg nonempty nonneg
      have several : (0 : ℝ) ≤ items.length - 1 := by
        have one : (1 : ℝ) ≤ items.length := by
          exact_mod_cast List.length_pos_of_ne_nil nonempty
        linarith
      rw [quotient, div_le_iff₀ positive, deviation]
      apply Real.sqrt_le_iff.mpr
      refine ⟨mul_nonneg (Real.sqrt_nonneg _) (le_of_lt positive), ?_⟩
      rw [mul_pow, Real.sq_sqrt several]
      exact limited
    have notSentinel : variation (mean items) (deviation items) ≠ -1 := by
      intro sentinel
      rw [sentinel] at low
      norm_num at low
    exact ⟨iff_of_false notSentinel (mt zero_iff.mpr zero),
      fun _ => ⟨low, high⟩⟩

end Bounds

/-! ## Flows -/

section Flows

variable (flow : Flow) (direction : PacketDirection)

private theorem getStd_eq : getStd flow = deviation (getPacketTimes flow) := by
  rw [getStd, getVar_eq_variance, deviation]

private theorem getStdLen_eq :
    getStdLen flow direction = deviation (flow.doublesAlong direction) :=
  congrArg (fun variance : ℚ => √(variance : ℝ))
    (getVarLen_eq_variance flow direction)

private theorem getSkew2_eq :
    getSkew2 flow = modeSkewness (mean (getPacketTimes flow)) (getMode flow)
      (deviation (getPacketTimes flow)) := by
  rw [getSkew2, getMean_eq_mean, getStd_eq]

private theorem getSkew2Len_eq :
    getSkew2Len flow direction =
      modeSkewness (mean (flow.doublesAlong direction))
        ((Id.run (getModeLen exact flow direction) : Int) : ℚ)
        (deviation (flow.doublesAlong direction)) := by
  rw [getSkew2Len, getMeanLen_eq_mean, getStdLen_eq]

private theorem getCov_eq :
    getCov flow = variation (mean (getPacketTimes flow))
      (deviation (getPacketTimes flow)) := by
  rw [getCov, getMean_eq_mean, getStd_eq]

private theorem getCovLen_eq :
    getCovLen flow direction =
      variation (mean (flow.doublesAlong direction))
        (deviation (flow.doublesAlong direction)) := by
  rw [getCovLen, getMeanLen_eq_mean, getStdLen_eq]

/-- How many packets come at the time that `get_mode` returns. -/
def Flow.modeCount : Nat :=
  (getPacketTimes flow).count (getMode flow)

/-- How many packets have the length that `get_mode_len` returns. -/
def Flow.modeCountLen : Nat :=
  (flow.doublesAlong direction).count
    ((Id.run (getModeLen exact flow direction) : Int) : ℚ)

private theorem doublesAlong_ne_nil
    {flow : Flow} {direction : PacketDirection}
    (selected : flow.pairsAlong direction ≠ []) :
    flow.doublesAlong direction ≠ [] := by
  rw [Flow.doublesAlong, Flow.lengthsAlong, List.map_map, ne_eq,
    List.map_eq_nil_iff]
  exact selected

private theorem length_doublesAlong_eq_pairs :
    (flow.doublesAlong direction).length =
      (flow.pairsAlong direction).length := by
  rw [length_doublesAlong, Flow.lengthsAlong, List.length_map]

end Flows

/-- The mode is at most as many standard deviations from the mean as the root
of the number of other packets for each one at the mode.  So -10 stands for no
skewness alone in flows of up to a hundred packets. -/
theorem modeSkewness_bounded
    (flow : Flow) (nonempty : flow.pairs ≠ []) :
    (getStd flow ≠ 0 →
        getSkew2 flow ^ 2 * flow.modeCount ≤
            flow.pairs.length - flow.modeCount ∧
          (flow.pairs.length ≤ 100 → getSkew2 flow ≠ -10)) ∧
      ∀ direction, flow.pairsAlong direction ≠ [] →
        getStdLen flow direction ≠ 0 →
          getSkew2Len flow direction ^ 2 * flow.modeCountLen direction ≤
              (flow.pairsAlong direction).length -
                flow.modeCountLen direction ∧
            ((flow.pairsAlong direction).length ≤ 100 →
              getSkew2Len flow direction ≠ -10) := by
  constructor
  · intro spread
    rw [getStd_eq] at spread
    have counted : flow.pairs.length = (getPacketTimes flow).length :=
      (length_getPacketTimes flow).symm
    rw [getSkew2_eq, Flow.modeCount, counted]
    exact modeSkewness_within (getMode_mem nonempty) spread
  · intro direction selected spread
    have some : flow.lengthsAlong direction ≠ [] := by
      rw [Flow.lengthsAlong, ne_eq, List.map_eq_nil_iff]
      exact selected
    rw [getStdLen_eq] at spread
    rw [getSkew2Len_eq, Flow.modeCountLen, ← length_doublesAlong_eq_pairs]
    exact modeSkewness_within (getModeLen_mem some) spread

/-- A long packet, a short one and a long one. -/
theorem modeSkewness_longShortLong :
    getSkew2Len (flowOf [tcpPair .forward 9 1, tcpPair .forward 0 2,
      tcpPair .forward 9 3]) .forward ≠ -10 := by
  have bounded := modeSkewness_bounded (flowOf [tcpPair .forward 9 1,
    tcpPair .forward 0 2, tcpPair .forward 9 3]) (by decide +kernel)
  have spread : getStdLen (flowOf [tcpPair .forward 9 1,
      tcpPair .forward 0 2, tcpPair .forward 9 3]) .forward ≠ 0 := by
    have positive : 0 < variance ((flowOf [tcpPair .forward 9 1,
        tcpPair .forward 0 2,
        tcpPair .forward 9 3]).doublesAlong .forward) := by
      decide +kernel
    rw [getStdLen_eq]
    exact ne_of_gt (Real.sqrt_pos.mpr (by exact_mod_cast positive))
  exact (bounded.2 .forward (by decide +kernel) spread).2
    (by decide +kernel)

private theorem getCovLen_within
    {flow : Flow} (sized : ∀ pair ∈ flow.pairs, pair.Sized)
    (headed : flow.Headed) {direction : PacketDirection}
    (selected : flow.pairsAlong direction ≠ []) :
    getCovLen flow direction ∈
      Set.Icc (0 : ℝ) √((flow.pairsAlong direction).length - 1) := by
  have some := doublesAlong_ne_nil selected
  have positive : ∀ length ∈ flow.doublesAlong direction, 0 < length := by
    intro length member
    obtain ⟨whole, wholeMember, rfl⟩ := List.mem_map.mp member
    obtain ⟨pair, along, rfl⟩ := List.mem_map.mp wholeMember
    have recorded := List.mem_of_mem_filter along
    have header := headed pair recorded
    have payload := (sized pair recorded).packet.payloadNonneg
    rw [ethernetHeaderLen] at header
    have wholePositive : 0 < pair.packet.length := by
      rw [Packet.length]
      omega
    exact_mod_cast wholePositive
  have within := variation_within some fun length member =>
    le_of_lt (positive length member)
  have notSentinel : variation (mean (flow.doublesAlong direction))
      (deviation (flow.doublesAlong direction)) ≠ -1 := by
    intro sentinel
    obtain ⟨length, member⟩ := List.exists_mem_of_ne_nil _ some
    exact ne_of_gt (positive length member)
      (within.1.mp sentinel length member)
  rw [getCovLen_eq, ← length_doublesAlong_eq_pairs]
  exact within.2 notSentinel

private theorem getCov_within
    {flow : Flow} (nonempty : flow.pairs ≠ [])
    (sorted : (timesOf flow.pairs).Pairwise (· ≤ ·)) :
    (getCov flow = -1 ↔
        ∀ pair ∈ flow.pairs, ∀ other ∈ flow.pairs,
          pair.packet.time = other.packet.time) ∧
      (getCov flow ≠ -1 →
        getCov flow ∈ Set.Icc (0 : ℝ) √(flow.pairs.length - 1)) := by
  obtain ⟨first, rest, recorded⟩ := List.exists_cons_of_ne_nil nonempty
  have times : getPacketTimes flow = (first :: rest).map fun pair =>
      pair.packet.time - first.packet.time := by
    rw [getPacketTimes, recorded]
  have counted : flow.pairs.length = (getPacketTimes flow).length := by
    rw [recorded, times, List.length_map]
  have someTimes : getPacketTimes flow ≠ [] := by
    rw [times]
    exact List.cons_ne_nil _ _
  have later : ∀ pair ∈ first :: rest,
      first.packet.time ≤ pair.packet.time := by
    rw [recorded] at sorted
    intro pair member
    rcases List.mem_cons.mp member with rfl | inRest
    · exact le_refl _
    · exact List.rel_of_pairwise_cons sorted (List.mem_map_of_mem inRest)
  have nonneg : ∀ time ∈ getPacketTimes flow, 0 ≤ time := by
    rw [times]
    intro time member
    obtain ⟨pair, pairMember, rfl⟩ := List.mem_map.mp member
    exact sub_nonneg.mpr (later pair pairMember)
  have within := variation_within someTimes nonneg
  rw [← getCov_eq] at within
  rw [counted]
  refine ⟨within.1.trans ?_, within.2⟩
  rw [times, recorded]
  constructor
  · intro zero
    have atFirst : ∀ pair ∈ first :: rest,
        pair.packet.time = first.packet.time := fun pair member =>
      sub_eq_zero.mp (zero _ (List.mem_map_of_mem member))
    intro pair member other otherMember
    rw [atFirst pair member, atFirst other otherMember]
  · intro together time member
    obtain ⟨pair, pairMember, rfl⟩ := List.mem_map.mp member
    exact sub_eq_zero.mpr
      (together pair pairMember first List.mem_cons_self)

/-- The variation of the lengths in a direction with packets stays between
zero and the root of the number of other packets, whatever the run.  That of
the times does so in chronological runs, but for flows with all packets at one
time. -/
theorem Meter.variation_run (capacity : Nat) (frames : List Frame) :
    ((run capacity frames).AllFlows fun flow =>
        ∀ direction, flow.pairsAlong direction ≠ [] →
          getCovLen flow direction ∈ Set.Icc (0 : ℝ)
            √((flow.pairsAlong direction).length - 1)) ∧
      (Chronological frames → Timed frames →
        (run capacity frames).AllFlows fun flow =>
          (getCov flow = -1 ↔
              ∀ pair ∈ flow.pairs, ∀ other ∈ flow.pairs,
                pair.packet.time = other.packet.time) ∧
            (getCov flow ≠ -1 →
              getCov flow ∈
                Set.Icc (0 : ℝ) √(flow.pairs.length - 1))) := by
  constructor
  · intro flow created direction selected
    exact getCovLen_within (sized_run capacity frames flow created)
      (headed_run capacity frames flow created) selected
  · intro chronological timed flow created
    exact getCov_within (flowsFilled_run capacity frames flow created)
      (inOrder_run chronological timed capacity flow created).sorted

/-- The flow of a capture of two minutes. -/
theorem Meter.variation_twoMinutes :
    getCov ((run 10 twoMinutes).heap 0) ∈ Set.Icc (0 : ℝ)
        √(((run 10 twoMinutes).heap 0).pairs.length - 1) ∧
      getCovLen ((run 10 twoMinutes).heap 0) .both ∈ Set.Icc (0 : ℝ)
        √((((run 10 twoMinutes).heap 0).pairsAlong .both).length - 1) := by
  have created : 0 < (run 10 twoMinutes).nextFlow := by decide +kernel
  have chronological : Chronological twoMinutes := by decide +kernel
  have timed : Timed twoMinutes := by decide +kernel
  have lengths := (variation_run 10 twoMinutes).1 0 created .both
    (by decide +kernel)
  have times := (variation_run 10 twoMinutes).2 chronological timed 0 created
  exact ⟨times.2 (mt times.1.mp (by decide +kernel)), lengths⟩

end UzFlowMeter
