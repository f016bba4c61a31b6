import UzFlowMeter.BulkBursts

/-!
# The batch definition of bulks

The packets with payload are cut into blocks of one direction, and every
block again where the pause is too long.  When times increase strictly, the
bursts of a side are the pieces of its direction.  The sums over them are
exact; in which runs they fit an `int` is said in `ByteOverflow`.
-/

namespace UzFlowMeter

open Grouping

/-- The packets with payload. -/
def payloadPairs (pairs : List Pair) : List Pair :=
  pairs.filter fun pair => getPayload pair.packet > 0

/-- Two neighbours are no further apart than the timeout. -/
def closeTogether (left right : Pair) : Bool :=
  right.packet.time - left.packet.time ≤ clumpTimeout

/-- The pieces of a direction. -/
def bulkPieces (side : PacketDirection) (pairs : List Pair) :
    List (List Pair) :=
  keyedPieces Pair.direction closeTogether side (payloadPairs pairs)

/-- Positive times, each later than all before. -/
structure Increasing (pairs : List Pair) : Prop where
  positive : ∀ time ∈ timesOf pairs, 0 < time
  strict : (timesOf pairs).Pairwise (· < ·)

instance (pairs : List Pair) : Decidable (Increasing pairs) :=
  decidable_of_iff
    ((∀ time ∈ timesOf pairs, 0 < time) ∧
      (timesOf pairs).Pairwise (· < ·))
    ⟨fun both => ⟨both.1, both.2⟩, fun order => ⟨order.1, order.2⟩⟩

theorem Increasing.initial
    {pairs : List Pair} {last : Pair}
    (increasing : Increasing (pairs ++ [last])) : Increasing pairs := by
  obtain ⟨positive, strict⟩ := increasing
  rw [timesOf_concat] at positive strict
  exact ⟨fun time member => positive time (List.mem_append_left _ member),
    (List.pairwise_append.mp strict).1⟩

private theorem Increasing.lt_last
    {pairs : List Pair} {last : Pair}
    (increasing : Increasing (pairs ++ [last])) :
    ∀ time ∈ timesOf pairs, time < last.packet.time := by
  intro time member
  have strict := increasing.strict
  rw [timesOf_concat] at strict
  exact (List.pairwise_append.mp strict).2.2 time member _
    (List.mem_singleton_self _)

private theorem payloadPairs_concat_empty
    (pairs : List Pair) {last : Pair} (empty : getPayload last.packet = 0) :
    payloadPairs (pairs ++ [last]) = payloadPairs pairs := by
  simp [payloadPairs, empty]

private theorem payloadPairs_concat
    (pairs : List Pair) {last : Pair} (full : 0 < getPayload last.packet) :
    payloadPairs (pairs ++ [last]) = payloadPairs pairs ++ [last] := by
  simp [payloadPairs, full]

private theorem Pair.Proper.getPayload_nonneg
    {pair : Pair} (proper : pair.Proper) : 0 ≤ getPayload pair.packet := by
  rcases getPayload_cases pair.packet with empty | whole
  · rw [empty]
  · rw [whole]
    exact proper.sizeNonneg

private theorem joinsLast_closeTogether
    {burst : List Pair} (nonempty : burst ≠ []) (pair : Pair) :
    joinsLast closeTogether burst pair =
      decide (pair.packet.time - endOf burst ≤ clumpTimeout) := by
  rcases List.eq_nil_or_concat' burst with rfl | ⟨before, last, rfl⟩
  · exact absurd rfl nonempty
  · rw [joinsLast_concat, endOf_concat, closeTogether]

/-- The other side was last heard at the time of one of the packets. -/
theorem burstScan_otherLast
    (side : PacketDirection) (pairs : List Pair) :
    (burstScan side pairs).otherLast = 0 ∨
      (burstScan side pairs).otherLast ∈ timesOf pairs := by
  induction pairs using List.reverseRecOn with
  | nil =>
      exact Or.inl rfl
  | append_singleton pairs last inductionHypothesis =>
      rw [burstScan_concat, timesOf_concat, BurstScan.hear]
      have old := inductionHypothesis.imp_right
        (List.mem_append_left [last.packet.time])
      split_ifs
      · exact old
      · exact old
      · exact Or.inr (List.mem_append_right _ (List.mem_singleton_self _))

private theorem burstScan_startOf_mem
    {side : PacketDirection} {pairs : List Pair} {burst : List Pair}
    (member : burst ∈ (burstScan side pairs).bursts) :
    startOf burst ∈ timesOf pairs := by
  obtain ⟨nonempty, fromInput⟩ := burstScan_bursts side pairs burst member
  obtain ⟨pair, inBurst, same⟩ := List.mem_map.mp (startOf_mem nonempty)
  rw [← same]
  exact List.mem_map_of_mem (fromInput pair inBurst)

/-- The last packet with payload is one of the side. -/
def lastIsOwn (side : PacketDirection) (pairs : List Pair) : Bool :=
  (payloadPairs pairs).getLast?.any fun pair => pair.direction = side

/-- The bursts are the pieces, and comparing times tells whether the other
side has been heard since the last burst began. -/
structure Segmented (side : PacketDirection) (pairs : List Pair) : Prop where
  bursts : (burstScan side pairs).bursts = bulkPieces side pairs
  heard : ∀ burst, (burstScan side pairs).bursts.getLast? = some burst →
    ((burstScan side pairs).otherLast ≤ startOf burst ↔
      lastIsOwn side pairs = true)

/-- A packet of the side joins a burst exactly when it joins a piece. -/
theorem Segmented.own
    {side : PacketDirection} {pairs : List Pair} {last : Pair}
    (segmented : Segmented side pairs)
    (increasing : Increasing (pairs ++ [last]))
    (full : 0 < getPayload last.packet) (isOwn : last.direction = side) :
    Segmented side (pairs ++ [last]) := by
  have hear : burstScan side (pairs ++ [last]) =
      { bursts :=
          extend (continuesBurst (burstScan side pairs).otherLast)
            (burstScan side pairs).bursts last
        otherLast := (burstScan side pairs).otherLast } := by
    rw [burstScan_concat, BurstScan.hear, if_neg (ne_of_gt full),
      if_pos isOwn]
  have sameJoins : ∀ burst,
      (burstScan side pairs).bursts.getLast? = some burst →
        continuesBurst (burstScan side pairs).otherLast burst last =
          (lastIsOwn side pairs && joinsLast closeTogether burst last) := by
    intro burst isLast
    have nonempty := (burstScan_bursts side pairs burst
      (List.mem_of_getLast? isLast)).1
    have sameTest :
        decide ((burstScan side pairs).otherLast ≤ startOf burst) =
          lastIsOwn side pairs := by
      rw [Bool.eq_iff_iff, decide_eq_true_eq]
      exact segmented.heard burst isLast
    rw [continuesBurst, joinsLast_closeTogether nonempty, sameTest]
  have sameBursts :
      extend (continuesBurst (burstScan side pairs).otherLast)
          (burstScan side pairs).bursts last =
        extend
          (fun burst next =>
            lastIsOwn side pairs && joinsLast closeTogether burst next)
          (burstScan side pairs).bursts last :=
    extend_congr sameJoins
  refine ⟨?_, ?_⟩
  · rw [hear, bulkPieces, payloadPairs_concat pairs full,
      keyedPieces_concat_own Pair.direction closeTogether isOwn]
    dsimp only
    rw [sameBursts, segmented.bursts]
    rfl
  · have lastOwn : lastIsOwn side (pairs ++ [last]) = true := by
      rw [lastIsOwn, payloadPairs_concat pairs full]
      simp [isOwn]
    rw [hear, lastOwn]
    simp only [iff_true]
    apply extend_getLast
    · rw [startOf_singleton]
      rcases burstScan_otherLast side pairs with unset | member
      · rw [unset]
        apply le_of_lt
        apply increasing.positive
        rw [timesOf_concat]
        exact List.mem_append_right _ (List.mem_singleton_self _)
      · exact le_of_lt (increasing.lt_last _ member)
    · intro burst member joined
      have nonempty := (burstScan_bursts side pairs burst member).1
      rw [startOf_concat nonempty]
      rw [continuesBurst, Bool.and_eq_true, decide_eq_true_eq] at joined
      exact joined.1

/-- A packet of the other side is later than the beginning of any burst. -/
theorem Segmented.other
    {side : PacketDirection} {pairs : List Pair} {last : Pair}
    (segmented : Segmented side pairs)
    (increasing : Increasing (pairs ++ [last]))
    (full : 0 < getPayload last.packet)
    (isOther : last.direction ≠ side) :
    Segmented side (pairs ++ [last]) := by
  have hear : burstScan side (pairs ++ [last]) =
      { bursts := (burstScan side pairs).bursts
        otherLast := last.packet.time } := by
    rw [burstScan_concat, BurstScan.hear, if_neg (ne_of_gt full),
      if_neg isOther]
  refine ⟨?_, ?_⟩
  · rw [hear, bulkPieces, payloadPairs_concat pairs full,
      keyedPieces_concat_other Pair.direction closeTogether isOther]
    exact segmented.bursts
  · have lastOther : lastIsOwn side (pairs ++ [last]) = false := by
      rw [lastIsOwn, payloadPairs_concat pairs full]
      simp [isOther]
    rw [hear, lastOther]
    intro burst isLast
    have earlier := increasing.lt_last _
      (burstScan_startOf_mem (List.mem_of_getLast? isLast))
    simpa using earlier

private theorem segmented_of_increasing
    {pairs : List Pair} (proper : ∀ pair ∈ pairs, pair.Proper)
    (increasing : Increasing pairs) (side : PacketDirection) :
    Segmented side pairs := by
  induction pairs using List.reverseRecOn with
  | nil =>
      exact ⟨rfl, fun burst isLast => by cases isLast⟩
  | append_singleton pairs last inductionHypothesis =>
      have segmented := inductionHypothesis
        (fun pair member => proper pair (List.mem_append_left _ member))
        increasing.initial
      have nonneg := (proper last (by simp)).getPayload_nonneg
      by_cases empty : getPayload last.packet = 0
      · have hear : burstScan side (pairs ++ [last]) =
            burstScan side pairs := by
          rw [burstScan_concat, BurstScan.hear, if_pos empty]
        refine ⟨?_, ?_⟩
        · rw [hear, bulkPieces, payloadPairs_concat_empty pairs empty]
          exact segmented.bursts
        · rw [hear, lastIsOwn, payloadPairs_concat_empty pairs empty]
          exact segmented.heard
      · have full : 0 < getPayload last.packet := by omega
        by_cases isOwn : last.direction = side
        · exact segmented.own increasing full isOwn
        · exact segmented.other increasing full isOwn

/-- The pieces that are long enough to be bulks. -/
def bulksOf (side : PacketDirection) (pairs : List Pair) :
    List (List Pair) :=
  (bulkPieces side pairs).filter fun piece =>
    bulkBound ≤ packetsOf piece

private theorem longTotal_bulkPieces
    {beta : Type} [AddMonoid beta] (measure : List Pair → beta)
    (side : PacketDirection) (pairs : List Pair) :
    longTotal bulkBound.toNat measure (bulkPieces side pairs) =
      ((bulksOf side pairs).map measure).sum := by
  have sameTest : (fun piece : List Pair =>
      decide (bulkBound.toNat ≤ piece.length)) =
        fun piece => decide (bulkBound ≤ packetsOf piece) := by
    funext piece
    rw [decide_eq_decide, packetsOf, bulkBound]
    omega
  rw [longTotal, sameTest, bulksOf]

/-- What the machine keeps for a side is what the bulks of the side say. -/
theorem flowOf_bulk_batch
    {pairs : List Pair} (proper : ∀ pair ∈ pairs, pair.Proper)
    (increasing : Increasing pairs) {side : PacketDirection}
    (isSide : side = .forward ∨ side = .reverse) :
    ((flowOf pairs).bulk side).count = (bulksOf side pairs).length ∧
      ((flowOf pairs).bulk side).packetCount =
        ((bulksOf side pairs).map packetsOf).sum ∧
      ((flowOf pairs).bulk side).size =
        ((bulksOf side pairs).map payloadOf).sum ∧
      ((flowOf pairs).bulk side).duration =
        ((bulksOf side pairs).map spanOf).sum := by
  have bulk := (flowOf_bulk proper increasing.positive isSide).1
  rw [(segmented_of_increasing proper increasing side).bursts] at bulk
  rw [bulk]
  simp only [BulkHalf.ofBursts, longTotal_bulkPieces, and_true]
  rw [List.map_const', List.sum_replicate, nsmul_one]

/-- A bulk of five packets, a pause, a bulk of the other direction and a
packet too few for one more. -/
def bulkHistory : List Pair :=
  [tcpPair .forward 10 1, tcpPair .forward 10 (3 / 2),
    tcpPair .forward 10 2, tcpPair .forward 10 (5 / 2),
    tcpPair .forward 10 3, tcpPair .forward 10 5, tcpPair .reverse 7 6,
    tcpPair .reverse 7 (13 / 2), tcpPair .reverse 0 7,
    tcpPair .reverse 7 (29 / 4), tcpPair .reverse 7 8,
    tcpPair .forward 10 9]

end UzFlowMeter
