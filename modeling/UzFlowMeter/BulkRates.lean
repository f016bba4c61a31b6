import UzFlowMeter.BulkBursts

/-!
# When bulk rates are defined

A rate divides the bytes of the counted bulks by the time they span and is
exported as an `int`.  The guard of `get_bulk_rate` tests their number.
Packets that arrive at the same time make a bulk that spans no time, and fast
bulks have rates out of range.
-/

namespace UzFlowMeter

open Grouping MachineInt

/-- Whenever bulks were counted they span some time, and the rates are
numbers that can be converted to `int`. -/
structure Flow.RatesDefined (flow : Flow) : Prop where
  forward : flow.forwardBulkCount ≠ 0 → 0 < flow.forwardBulkDuration
  backward : flow.backwardBulkCount ≠ 0 → 0 < flow.backwardBulkDuration
  converted : ∀ direction, ∃ rate,
    getBulkRate flow direction = some rate ∧ (ofDouble rate).isSome

/-- The bursts of a side that are long enough to be bulks. -/
def longBursts (side : PacketDirection) (pairs : List Pair) :
    List (List Pair) :=
  (burstScan side pairs).bursts.filter fun burst =>
    bulkBound.toNat ≤ burst.length

/-- The long bursts of a side carry fewer than `2^31` bytes for every second
that they span. -/
def Paced (side : PacketDirection) (pairs : List Pair) : Prop :=
  longBursts side pairs = [] ∨
    ((((longBursts side pairs).map payloadOf).sum : Int) : ℚ) <
      (intMax + 1) * ((longBursts side pairs).map spanOf).sum

instance (side : PacketDirection) (pairs : List Pair) :
    Decidable (Paced side pairs) :=
  inferInstanceAs (Decidable (_ ∨ _))

/-- A rate of a half, as `get_bulk_rate` computes it. -/
def BulkHalf.rate (half : BulkHalf) : Option ℚ :=
  if half.count ≠ 0 then divideDouble half.size half.duration else some 0

theorem getBulkRate_eq (flow : Flow) (direction : PacketDirection) :
    getBulkRate flow direction = (flow.bulk direction).rate := by
  cases direction <;> rfl

/-- The divisor is positive and the rate can be converted. -/
structure BulkHalf.RateDefined (half : BulkHalf) : Prop where
  positive : half.count ≠ 0 → 0 < half.duration
  converted : ∃ rate, half.rate = some rate ∧ (ofDouble rate).isSome

private theorem BulkHalf.rateDefined_of_none
    {half : BulkHalf} (none : half.count = 0) : half.RateDefined := by
  refine ⟨fun some => absurd none some, 0, ?_, by decide⟩
  rw [rate, if_neg (not_not.mpr none)]

private theorem BulkHalf.rateDefined_of_some
    {half : BulkHalf} (some : half.count ≠ 0) (carries : 0 < half.size) :
    half.RateDefined ↔ (half.size : ℚ) < (intMax + 1) * half.duration := by
  have sizePositive : (0 : ℚ) < half.size := by exact_mod_cast carries
  have rateOf : ∀ positive : 0 < half.duration,
      half.rate = Option.some (half.size / half.duration) ∧
        ((ofDouble (half.size / half.duration)).isSome ↔
          (half.size : ℚ) < (intMax + 1) * half.duration) := by
    intro positive
    refine ⟨?_, ?_⟩
    · rw [rate, if_pos some, divideDouble, if_neg (ne_of_gt positive)]
    · rw [ofDouble_isSome_iff
        (div_nonneg (le_of_lt sizePositive) (le_of_lt positive)),
        div_lt_iff₀ positive]
  constructor
  · rintro ⟨positive, converted, isRate, isSome⟩
    obtain ⟨rateEq, inRange⟩ := rateOf (positive some)
    rw [rateEq] at isRate
    rw [← Option.some.inj isRate] at isSome
    exact inRange.mp isSome
  · intro paced
    have positive : 0 < half.duration := by
      by_contra notPositive
      have bound : ((intMax : ℚ) + 1) * half.duration ≤ 0 :=
        mul_nonpos_of_nonneg_of_nonpos (by norm_num [intMax])
          (not_lt.mp notPositive)
      linarith
    obtain ⟨rateEq, inRange⟩ := rateOf positive
    exact ⟨fun _ => positive, _, rateEq, inRange.mpr paced⟩

private theorem Flow.ratesDefined_iff (flow : Flow) :
    flow.RatesDefined ↔
      flow.forwardBulk.RateDefined ∧ flow.backwardBulk.RateDefined := by
  constructor
  · rintro ⟨forward, backward, converted⟩
    have forwardRate := converted .forward
    have backwardRate := converted .reverse
    rw [getBulkRate_eq] at forwardRate backwardRate
    exact ⟨⟨forward, forwardRate⟩, ⟨backward, backwardRate⟩⟩
  · rintro ⟨⟨forward, forwardRate⟩, ⟨backward, backwardRate⟩⟩
    refine ⟨forward, backward, ?_⟩
    intro direction
    rw [getBulkRate_eq]
    cases direction with
    | forward =>
        exact forwardRate
    | reverse =>
        exact backwardRate
    | both =>
        exact backwardRate

/-- The fields of a half are sums over the long bursts. -/
theorem ofBursts_longBursts (side : PacketDirection) (pairs : List Pair) :
    (BulkHalf.ofBursts (burstScan side pairs).bursts).count =
        (longBursts side pairs).length ∧
      (BulkHalf.ofBursts (burstScan side pairs).bursts).size =
        ((longBursts side pairs).map payloadOf).sum ∧
      (BulkHalf.ofBursts (burstScan side pairs).bursts).duration =
        ((longBursts side pairs).map spanOf).sum := by
  refine ⟨?_, rfl, rfl⟩
  rw [BulkHalf.ofBursts, longTotal, List.map_const', List.sum_replicate,
    nsmul_one, longBursts]

private theorem rateDefined_flowOf_iff
    {pairs : List Pair} (proper : ∀ pair ∈ pairs, pair.Proper)
    (positive : ∀ time ∈ timesOf pairs, 0 < time)
    {side : PacketDirection}
    (isSide : side = .forward ∨ side = .reverse) :
    ((flowOf pairs).bulk side).RateDefined ↔ Paced side pairs := by
  have bulk := (flowOf_bulk proper positive isSide).1
  have perPacket := (flowOf_charged proper isSide).perPacket
  obtain ⟨count, size, duration⟩ := ofBursts_longBursts side pairs
  rw [← bulk] at count size duration
  by_cases none : longBursts side pairs = []
  · have noBulk : ((flowOf pairs).bulk side).count = 0 := by
      rw [count, none]
      rfl
    exact iff_of_true (BulkHalf.rateDefined_of_none noBulk) (Or.inl none)
  · have someBulk : ((flowOf pairs).bulk side).count ≠ 0 := by
      rw [count]
      simpa using none
    have carries : 0 < ((flowOf pairs).bulk side).size := by
      have perBulk := (flowOf_charged proper isSide).perBulk
      have countNonneg := (flowOf_charged proper isSide).countNonneg
      rw [bulkBound] at perBulk
      omega
    rw [BulkHalf.rateDefined_of_some someBulk carries, Paced, size,
      duration]
    exact (or_iff_right none).symm

/-- The rates of a flow are defined exactly when both sides are paced. -/
theorem ratesDefined_flowOf_iff
    (pairs : List Pair) (proper : ∀ pair ∈ pairs, pair.Proper)
    (positive : ∀ time ∈ timesOf pairs, 0 < time) :
    (flowOf pairs).RatesDefined ↔
      Paced .forward pairs ∧ Paced .reverse pairs := by
  rw [Flow.ratesDefined_iff]
  exact and_congr (rateDefined_flowOf_iff proper positive (Or.inl rfl))
    (rateDefined_flowOf_iff proper positive (Or.inr rfl))

/-- Four packets, one second apart. -/
theorem ratesDefined_paced :
    (flowOf [tcpPair .forward 10 1, tcpPair .forward 10 2,
        tcpPair .forward 10 3, tcpPair .forward 10 4]).RatesDefined :=
  (ratesDefined_flowOf_iff _ (by decide) (by decide)).mpr
    (by decide +kernel)

/-- Four packets that arrive together are a bulk that spans no time. -/
theorem sameTime_not_ratesDefined :
    InOrder (timesOf (List.replicate 4 (tcpPair .forward 10 1))) ∧
      (∀ pair ∈ List.replicate 4 (tcpPair .forward 10 1), pair.Proper) ∧
      (flowOf (List.replicate 4 (tcpPair .forward 10 1))).forwardBulkCount =
        1 ∧
      getBulkRate (flowOf (List.replicate 4 (tcpPair .forward 10 1)))
        .forward = none ∧
      ¬ (flowOf (List.replicate 4 (tcpPair .forward 10 1))).RatesDefined := by
  refine ⟨by decide +kernel, by decide, by decide +kernel,
    by decide +kernel, ?_⟩
  rintro ⟨forward, -, -⟩
  have positive := forward (by decide +kernel)
  have noSpan : (flowOf (List.replicate 4
      (tcpPair .forward 10 1))).forwardBulkDuration = 0 := by
    decide +kernel
  rw [noSpan] at positive
  exact lt_irrefl 0 positive

end UzFlowMeter
