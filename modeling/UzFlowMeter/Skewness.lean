import UzFlowMeter.LengthFeatures
import UzFlowMeter.Library.Medians
import UzFlowMeter.Library.Sorting
import UzFlowMeter.Statistics

/-!
# Skewness

The model of mean, variance, median and skewness of the packet times in
`packet_time.c` and of the packet lengths in `packet_length.c`.  Arithmetic is
exact.
-/

namespace UzFlowMeter

open MachineInt Sorting Spread

/-- The last steps of `get_skew` and `get_skew_len`; -10 if the standard
deviation is zero. -/
noncomputable def skewness (mean median : ℚ) (std : ℝ) : ℝ :=
  if std ≠ 0 then 3 * ((mean : ℝ) - median) / std else -10

section Times

variable (flow : Flow)

/-- `get_var`. -/
def getVar : ℚ :=
  let packetTimes := getPacketTimes flow
  let packetCount := flow.packets.count
  if packetCount = 0 then 0
  else
    let sum := packetTimes.foldl (fun sum time => sum + time) (0 : ℚ)
    let mean := sum / packetCount
    let variance :=
      packetTimes.foldl
        (fun variance time => variance + (time - mean) ^ 2) (0 : ℚ)
    variance / packetCount

/-- `get_std`. -/
noncomputable def getStd : ℝ :=
  √(getVar flow : ℝ)

/-- `get_mean`. -/
def getMean : ℚ :=
  let packetTimes := getPacketTimes flow
  let packetCount := flow.packets.count
  if packetCount = 0 then 0
  else
    let sum := packetTimes.foldl (fun sum time => sum + time) (0 : ℚ)
    sum / packetCount

/-- `compare_doubles`. -/
def compareDoubles (arg1 arg2 : ℚ) : Int :=
  if arg1 < arg2 then -1
  else if arg1 > arg2 then 1
  else 0

/-- `get_median`. -/
def getMedian : ℚ :=
  let packetTimes := getPacketTimes flow
  let packetCount := flow.packets.count
  if packetCount = 0 then 0
  else
    let packetTimes := qsort compareDoubles packetTimes
    if packetCount % 2 = 1 then packetTimes.getD (packetCount / 2) 0
    else
      let midIndex := packetCount / 2
      (packetTimes.getD (midIndex - 1) 0 + packetTimes.getD midIndex 0) / 2

/-- `get_skew`. -/
noncomputable def getSkew : ℝ :=
  skewness (getMean flow) (getMedian flow) (getStd flow)

end Times

/-- `compare_ints`. -/
def compareInts (a b : Int) : Int :=
  a - b

/-- `get_median_len`: the two lengths in the middle are added as `int`
values. -/
def getMedianLen {m : Type → Type} [Monad m] (add : Int → Int → m Int)
    (flow : Flow) (packetDirection : PacketDirection) : m ℚ := do
  let packetLengths ← getPacketLength add flow packetDirection
  let count := packetLengths.length
  if count = 0 then return 0
  else
    let packetLengths := qsort compareInts packetLengths
    if count % 2 = 0 then
      let sum ← add (packetLengths.getD (count / 2 - 1) 0)
        (packetLengths.getD (count / 2) 0)
      return sum / 2
    else return packetLengths.getD (count / 2) 0

section Lengths

variable (flow : Flow) (packetDirection : PacketDirection)

/-- `get_std_len`. -/
noncomputable def getStdLen : ℝ :=
  √(Id.run (getVarLen exact flow packetDirection) : ℝ)

/-- `get_skew_len`. -/
noncomputable def getSkewLen : ℝ :=
  skewness (Id.run (getMeanLen exact flow packetDirection))
    (Id.run (getMedianLen exact flow packetDirection))
    (getStdLen flow packetDirection)

end Lengths

theorem compareDoubles_agrees : Agrees compareDoubles := by
  intro left right
  rw [compareDoubles]
  split_ifs with less greater
  · exact iff_of_true (by decide) (le_of_lt less)
  · exact iff_of_false (by decide) (not_le_of_gt greater)
  · exact iff_of_true (le_refl 0) (le_of_not_gt greater)

private theorem compareInts_agrees : Agrees compareInts :=
  fun _ _ => sub_nonpos

/-- The differences of lengths that fit can be computed with `int` values. -/
theorem compareInts_fits
    {flow : Flow} (sized : ∀ pair ∈ flow.pairs, pair.packet.Sized)
    (direction : PacketDirection) :
    ∀ a ∈ flow.lengthsAlong direction, ∀ b ∈ flow.lengthsAlong direction,
      Fits (compareInts a b) := by
  have within : ∀ length ∈ flow.lengthsAlong direction,
      0 ≤ length ∧ length ≤ intMax := by
    intro length member
    refine ⟨lengthsAlong_nonneg sized direction length member, ?_⟩
    obtain ⟨pair, selected, rfl⟩ := List.mem_map.mp member
    exact (sized pair (List.mem_of_mem_filter selected)).lengthLe
  intro a aMember b bMember
  have aWithin := within a aMember
  have bWithin := within b bMember
  rw [Fits, compareInts, intMin]
  rw [intMax] at aWithin bWithin ⊢
  omega

section Times

variable (flow : Flow)

theorem length_getPacketTimes :
    (getPacketTimes flow).length = flow.packets.count := by
  rw [getPacketTimes, GrowArray.count]
  cases recorded : flow.pairs with
  | nil =>
      have none : flow.packets.items = [] := recorded
      rw [none]
      rfl
  | cons first rest =>
      have some : flow.packets.items = first :: rest := recorded
      rw [some]
      exact List.length_map _

theorem getMean_eq_mean : getMean flow = mean (getPacketTimes flow) := by
  rw [getMean, mean, ← length_getPacketTimes, foldl_sum_eq]
  split_ifs with empty
  · rw [empty, Nat.cast_zero, div_zero]
  · rfl

theorem getVar_eq_variance :
    getVar flow = variance (getPacketTimes flow) := by
  rw [getVar, variance, mean, ← length_getPacketTimes]
  split_ifs with empty
  · rw [empty, Nat.cast_zero, div_zero]
  · simp only [foldl_sum_eq, foldl_add_eq, zero_add]
    rfl

/-- Whatever `qsort` returns, the median is the middle of it. -/
theorem getMedian_eq_middle
    {sorted : List ℚ} (perm : sorted.Perm (getPacketTimes flow))
    (ordered : sorted.Pairwise fun left right =>
      compareDoubles left right ≤ 0) :
    getMedian flow = middle sorted := by
  have result := eq_qsort compareDoubles_agrees perm ordered
  rw [getMedian, middle, perm.length_eq, ← length_getPacketTimes, result]
  split_ifs with empty odd odd
  · rw [empty] at odd
    exact absurd odd (by decide)
  · have none := List.length_eq_zero_iff.mp empty
    rw [none]
    decide +kernel
  · rfl
  · rfl

private theorem getMedian_isMedian :
    IsMedian (getPacketTimes flow) (getMedian flow) := by
  have sorted := qsort_sorted compareDoubles_agrees (getPacketTimes flow)
  have perm := qsort_perm compareDoubles (getPacketTimes flow)
  rw [getMedian_eq_middle flow perm
    (sorted.imp fun ordered => (compareDoubles_agrees _ _).mpr ordered)]
  exact (isMedian_middle sorted).of_perm perm

end Times

section Lengths

variable (flow : Flow) (direction : PacketDirection)

/-- The lengths as doubles, in the order of `compare_ints`. -/
theorem sortedDoubles_middle (lengths : List Int) :
    middle ((qsort compareInts lengths).map fun (length : Int) =>
        (length : ℚ)) =
      if lengths.length % 2 = 1 then
        (((qsort compareInts lengths).getD (lengths.length / 2) 0 : Int) : ℚ)
      else
        (((qsort compareInts lengths).getD (lengths.length / 2 - 1) 0 +
            (qsort compareInts lengths).getD (lengths.length / 2) 0 : Int) :
          ℚ) / 2 := by
  have entry : ∀ index,
      ((qsort compareInts lengths).map fun (length : Int) =>
          (length : ℚ)).getD index 0 =
        (((qsort compareInts lengths).getD index 0 : Int) : ℚ) := by
    intro index
    rw [← Int.cast_zero, List.getD_map]
  rw [middle, List.length_map,
    (qsort_perm compareInts lengths).length_eq]
  simp only [entry, Int.cast_add]

private theorem getMedianLen_isMedian :
    IsMedian (flow.doublesAlong direction)
      (Id.run (getMedianLen exact flow direction)) := by
  have lengthsSorted :=
    qsort_sorted compareInts_agrees (flow.lengthsAlong direction)
  have doublesSorted := lengthsSorted.map (fun (length : Int) =>
    (length : ℚ)) fun _ _ ordered => Int.cast_le.mpr ordered
  have perm := (qsort_perm compareInts (flow.lengthsAlong direction)).map
    fun (length : Int) => (length : ℚ)
  have isMiddle : Id.run (getMedianLen exact flow direction) =
      middle ((qsort compareInts (flow.lengthsAlong direction)).map
        fun (length : Int) => (length : ℚ)) := by
    rw [sortedDoubles_middle, getMedianLen, Id.run_bind,
      getPacketLength_exact]
    dsimp only
    by_cases empty : (flow.lengthsAlong direction).length = 0
    · have none := List.length_eq_zero_iff.mp empty
      rw [none]
      decide +kernel
    · rw [if_neg empty]
      by_cases odd : (flow.lengthsAlong direction).length % 2 = 1
      · rw [if_pos odd, if_neg (by omega)]
        rfl
      · rw [if_neg odd, if_pos (by omega)]
        rfl
  rw [isMiddle]
  exact (isMedian_middle doublesSorted).of_perm perm

end Lengths

/-- The skewness for a median within one standard deviation of the mean is
bounded; the number that stands for none is out of the bounds. -/
theorem skewness_within
    {mean median variance : ℚ} (close : (mean - median) ^ 2 ≤ variance)
    (spread : √(variance : ℝ) ≠ 0) :
    skewness mean median √(variance : ℝ) ∈ Set.Icc (-3 : ℝ) 3 ∧
      skewness mean median √(variance : ℝ) ≠ -10 := by
  have positive : 0 < √(variance : ℝ) :=
    lt_of_le_of_ne (Real.sqrt_nonneg _) (Ne.symm spread)
  have closeReal : ((mean : ℝ) - median) ^ 2 ≤ (variance : ℝ) := by
    exact_mod_cast close
  have distance := abs_le.mp (Real.abs_le_sqrt closeReal)
  have low : -3 ≤ skewness mean median √(variance : ℝ) := by
    rw [skewness, if_pos spread, le_div_iff₀ positive]
    linarith [distance.1]
  have high : skewness mean median √(variance : ℝ) ≤ 3 := by
    rw [skewness, if_pos spread, div_le_iff₀ positive]
    linarith [distance.2]
  refine ⟨⟨low, high⟩, ?_⟩
  intro isSentinel
  rw [isSentinel] at low
  norm_num at low

/-- The median of the times and that of the lengths are within one standard
deviation of the mean, so that a skewness is never the number that stands for
none. -/
theorem skewness_bounded
    (flow : Flow) (nonempty : flow.pairs ≠ []) :
    ((getMean flow - getMedian flow) ^ 2 ≤ getVar flow ∧
        (getStd flow ≠ 0 →
          getSkew flow ∈ Set.Icc (-3 : ℝ) 3 ∧ getSkew flow ≠ -10)) ∧
      ∀ direction, flow.pairsAlong direction ≠ [] →
        (Id.run (getMeanLen exact flow direction) -
              Id.run (getMedianLen exact flow direction)) ^ 2 ≤
            Id.run (getVarLen exact flow direction) ∧
          (getStdLen flow direction ≠ 0 →
            getSkewLen flow direction ∈ Set.Icc (-3 : ℝ) 3 ∧
              getSkewLen flow direction ≠ -10) := by
  constructor
  · have recorded : getPacketTimes flow ≠ [] := by
      apply List.ne_nil_of_length_pos
      rw [length_getPacketTimes]
      exact List.length_pos_of_ne_nil nonempty
    have close :
        (getMean flow - getMedian flow) ^ 2 ≤ getVar flow := by
      rw [getMean_eq_mean, getVar_eq_variance]
      exact (getMedian_isMedian flow).sq_mean_sub_le recorded
    exact ⟨close, fun spread => skewness_within close spread⟩
  · intro direction selected
    have doubles : flow.doublesAlong direction ≠ [] := by
      rw [Flow.doublesAlong, Flow.lengthsAlong, List.map_map, ne_eq,
        List.map_eq_nil_iff]
      exact selected
    have close := (getMedianLen_isMedian flow direction).sq_mean_sub_le
      doubles
    rw [← getMeanLen_eq_mean, ← getVarLen_eq_variance] at close
    exact ⟨close, fun spread => skewness_within close spread⟩

/-- Three packets, the last of them late. -/
theorem skewness_late_packet :
    getSkew (flowOf [tcpPair .forward 0 1, tcpPair .forward 0 2,
      tcpPair .forward 0 9]) ≠ -10 := by
  have bounded := skewness_bounded (flowOf [tcpPair .forward 0 1,
    tcpPair .forward 0 2, tcpPair .forward 0 9]) (by decide +kernel)
  have spread : getStd (flowOf [tcpPair .forward 0 1, tcpPair .forward 0 2,
      tcpPair .forward 0 9]) ≠ 0 := by
    have positive : 0 < getVar (flowOf [tcpPair .forward 0 1,
        tcpPair .forward 0 2, tcpPair .forward 0 9]) := by
      decide +kernel
    exact ne_of_gt (Real.sqrt_pos.mpr (by exact_mod_cast positive))
  exact (bounded.1.2 spread).2

end UzFlowMeter
