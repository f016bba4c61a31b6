import UzFlowMeter.BulkAccounting
import UzFlowMeter.PacketLength
import UzFlowMeter.RecordedFlows

/-!
# Byte totals of a flow

The totals of bytes are `int` values, and so are the sizes that the bulk
machine adds up.  All of them are exact as long as the packets of the flow
have no more bytes than the largest `int`, and the total of the lengths is
not when they have more.
-/

namespace UzFlowMeter

open MachineInt

/-- The bytes of recorded packets. -/
def volumeOf (pairs : List Pair) : Int :=
  (pairs.map fun pair => pair.packet.length).sum

theorem volumeOf_append (first second : List Pair) :
    volumeOf (first ++ second) = volumeOf first + volumeOf second := by
  rw [volumeOf, List.map_append, List.sum_append]
  rfl

theorem volumeOf_of_length
    {pairs : List Pair} {length : Int}
    (sameLength : ∀ pair ∈ pairs, pair.packet.length = length) :
    volumeOf pairs = pairs.length * length := by
  have total := List.sum_eq_card_nsmul
    (pairs.map fun pair => pair.packet.length) length
  rw [List.length_map, nsmul_eq_mul] at total
  apply total
  intro value member
  obtain ⟨pair, pairMember, rfl⟩ := List.mem_map.mp member
  exact sameLength pair pairMember

theorem volumeOf_labels (packet : Packet) (labels : List PacketDirection) :
    volumeOf (labels.map (Pair.mk packet)) =
      labels.length * packet.length := by
  have sameLength : ∀ pair ∈ labels.map (Pair.mk packet),
      pair.packet.length = packet.length := by
    intro pair member
    obtain ⟨label, -, rfl⟩ := List.mem_map.mp member
    rfl
  rw [volumeOf_of_length sameLength, List.length_map]

/-- A pair of one of the two directions, with a packet whose sizes fit. -/
structure Pair.Sized (pair : Pair) : Prop where
  directed : pair.direction = .forward ∨ pair.direction = .reverse
  packet : pair.packet.Sized

theorem Pair.Sized.proper {pair : Pair} (sized : pair.Sized) : pair.Proper :=
  ⟨sized.directed, sized.packet.payloadNonneg⟩

section Volume

variable {pairs : List Pair} (sized : ∀ pair ∈ pairs, pair.Sized)

include sized

private theorem length_nonneg_of_sized :
    ∀ length ∈ pairs.map fun pair => pair.packet.length, 0 ≤ length := by
  intro length member
  obtain ⟨pair, pairMember, rfl⟩ := List.mem_map.mp member
  exact (sized pair pairMember).packet.length_nonneg

private theorem volumeOf_nonneg : 0 ≤ volumeOf pairs :=
  List.sum_nonneg (length_nonneg_of_sized sized)

private theorem volumeOf_sublist_le
    {part : List Pair} (sublist : part.Sublist pairs) :
    volumeOf part ≤ volumeOf pairs :=
  (sublist.map _).sum_le_sum (length_nonneg_of_sized sized)

/-- A field that is a part of the length adds up to a part of the volume. -/
theorem sum_select_le_volumeOf
    (select : Pair → Bool) {field : Packet → Int}
    (part : ∀ pair ∈ pairs, field pair.packet ≤ pair.packet.length) :
    ((pairs.filter select).map fun pair => field pair.packet).sum ≤
      volumeOf pairs := by
  have selected : ((pairs.filter select).map fun pair =>
      field pair.packet).sum ≤ volumeOf (pairs.filter select) := by
    apply List.sum_le_sum
    intro pair member
    exact part pair (List.mem_of_mem_filter member)
  exact le_trans selected (volumeOf_sublist_le sized List.filter_sublist)

end Volume

/-- The sizes that the bulk machine has added up are representable. -/
def Flow.BulkSizesFit (flow : Flow) : Prop :=
  ∀ side, Fits (flow.bulk side).size ∧ Fits (flow.bulk side).sizeTmp

/-- A tentative bulk has no more bytes than the packets. -/
theorem sizeTmp_flowOf_le
    {pairs : List Pair} (sized : ∀ pair ∈ pairs, pair.Sized)
    (side : PacketDirection) :
    0 ≤ ((flowOf pairs).bulk side).sizeTmp ∧
      ((flowOf pairs).bulk side).sizeTmp ≤ volumeOf pairs := by
  induction pairs using List.reverseRecOn with
  | nil =>
      cases side <;> decide
  | append_singleton pairs last inductionHypothesis =>
      have earlierSized : ∀ pair ∈ pairs, pair.Sized :=
        fun pair member => sized pair (List.mem_append_left _ member)
      have before := inductionHypothesis earlierSized
      have lastSized := (sized last (by simp)).packet
      have payloadNonneg := lastSized.payloadNonneg
      have headerNonneg := lastSized.headerNonneg
      have total := volumeOf_nonneg earlierSized
      have grown : volumeOf (pairs ++ [last]) = volumeOf pairs +
          (last.packet.payloadSize + last.packet.headerSize) := by
        rw [volumeOf_append]
        simp [volumeOf, Packet.length]
      rw [flowOf_concat, Flow.record, grown]
      rcases bulk_eq_or_opposite side last.direction with own | other
      · rw [own] at before ⊢
        rw [addPacketToFlow_bulk_self]
        by_cases empty : getPayload last.packet = 0
        · rw [if_pos empty]
          omega
        · have whole := (getPayload_cases last.packet).resolve_left empty
          rw [if_neg empty, whole]
          rcases BulkHalf.update_sizeTmp
              ((flowOf pairs).bulk last.direction)
              ((flowOf pairs).bulk last.direction.opposite).lastTimestamp
              last.packet.time last.packet.payloadSize with alone | longer
          · rw [alone]
            omega
          · rw [longer]
            omega
      · rw [other] at before ⊢
        rw [addPacketToFlow_bulk_opposite]
        omega

private theorem size_flowOf_le
    {pairs : List Pair} (sized : ∀ pair ∈ pairs, pair.Sized)
    (side : PacketDirection) :
    0 ≤ ((flowOf pairs).bulk side).size ∧
      ((flowOf pairs).bulk side).size ≤ volumeOf pairs := by
  have proper : ∀ pair ∈ pairs, pair.Proper :=
    fun pair member => (sized pair member).proper
  have directed : ∀ side, (side = .forward ∨ side = .reverse) →
      0 ≤ ((flowOf pairs).bulk side).size ∧
        ((flowOf pairs).bulk side).size ≤ volumeOf pairs := by
    intro side isSide
    have charged := flowOf_charged proper isSide
    have perBulk := charged.perBulk
    have perPacket := charged.perPacket
    have countNonneg := charged.countNonneg
    have bytes : bytesOf (flowOf pairs) side ≤ volumeOf pairs := by
      rw [bytesOf, totalOver_exact, flowOf_pairs]
      apply sum_select_le_volumeOf sized
      intro pair member
      exact le_add_of_nonneg_right (sized pair member).packet.headerNonneg
    rw [bulkBound] at perBulk
    exact ⟨by omega, le_trans charged.bytesLe bytes⟩
  cases side with
  | forward =>
      exact directed .forward (Or.inl rfl)
  | reverse =>
      exact directed .reverse (Or.inr rfl)
  | both =>
      exact directed .reverse (Or.inr rfl)

private theorem bulkSizesFit_flowOf
    {pairs : List Pair} (sized : ∀ pair ∈ pairs, pair.Sized)
    (small : volumeOf pairs ≤ intMax) : (flowOf pairs).BulkSizesFit := by
  have low : intMin ≤ 0 := by decide
  intro side
  have size := size_flowOf_le sized side
  have sizeTmp := sizeTmp_flowOf_le sized side
  exact ⟨⟨le_trans low size.1, le_trans size.2 small⟩,
    le_trans low sizeTmp.1, le_trans sizeTmp.2 small⟩

/-- No total of bytes overflows: the functions return the exact sums, and
the fields have them, since every addition of `update_flow_bulk` ends in a
size that fits.  The integer average is the integer part of the mean. -/
structure Flow.TotalsExact (flow : Flow) : Prop where
  totalLen : ∀ direction, getTotalLen checked flow direction =
    some (Id.run (getTotalLen exact flow direction))
  bytes : getBytes checked flow = some (Id.run (getBytes exact flow))
  forwardHeader : getForwardHeaderBytes checked flow =
    some (Id.run (getForwardHeaderBytes exact flow))
  reverseHeader : getReverseHeaderBytes checked flow =
    some (Id.run (getReverseHeaderBytes exact flow))
  bulkSizes : flow.BulkSizesFit
  bulkHistory : ∀ earlier, earlier <+: flow.pairs →
    (flowOf earlier).BulkSizesFit
  avg : ∀ direction, getAvg checked flow direction =
    some (truncate (Id.run (getMeanLen exact flow direction)))

private theorem lengthsAlong_both_sum (flow : Flow) :
    (flow.lengthsAlong .both).sum = volumeOf flow.pairs := by
  rw [Flow.lengthsAlong, Flow.pairsAlong]
  simp [volumeOf]

section Totals

variable {flow : Flow} (sized : ∀ pair ∈ flow.pairs, pair.Sized)

include sized

private theorem lengthsAlong_sum_le (direction : PacketDirection) :
    (flow.lengthsAlong direction).sum ≤ volumeOf flow.pairs :=
  volumeOf_sublist_le sized List.filter_sublist

private theorem totalOver_checked
    (small : volumeOf flow.pairs ≤ intMax) (select : Pair → Bool)
    {field : Packet → Int}
    (part : ∀ pair ∈ flow.pairs,
      0 ≤ field pair.packet ∧ field pair.packet ≤ pair.packet.length) :
    totalOver checked flow select field =
      some (Id.run (totalOver exact flow select field)) := by
  have nonneg : ∀ value ∈ (flow.pairs.filter select).map
      (fun pair => field pair.packet), 0 ≤ value := by
    intro value member
    obtain ⟨pair, selected, rfl⟩ := List.mem_map.mp member
    exact (part pair (List.mem_of_mem_filter selected)).1
  have total := sum_select_le_volumeOf sized select
    fun pair member => (part pair member).2
  rw [totalOver, totalOver_exact,
    sumWith_checked nonneg (le_refl 0) (by decide), zero_add, if_pos]
  exact le_trans total small

/-- The totals of a flow whose packets have few enough bytes. -/
theorem Flow.Recorded.totalsExact
    (recorded : flow.Recorded) (small : volumeOf flow.pairs ≤ intMax) :
    flow.TotalsExact := by
  have packetSized : ∀ pair ∈ flow.pairs, pair.packet.Sized :=
    fun pair member => (sized pair member).packet
  have along : ∀ direction,
      (flow.lengthsAlong direction).sum ≤ intMax :=
    fun direction => le_trans (lengthsAlong_sum_le sized direction) small
  have payload : ∀ pair ∈ flow.pairs, 0 ≤ pair.packet.payloadSize ∧
      pair.packet.payloadSize ≤ pair.packet.length := by
    intro pair member
    have pairSized := packetSized pair member
    exact ⟨pairSized.payloadNonneg,
      le_add_of_nonneg_right pairSized.headerNonneg⟩
  have header : ∀ pair ∈ flow.pairs, 0 ≤ pair.packet.headerSize ∧
      pair.packet.headerSize ≤ pair.packet.length := by
    intro pair member
    have pairSized := packetSized pair member
    exact ⟨pairSized.headerNonneg,
      le_add_of_nonneg_left pairSized.payloadNonneg⟩
  have history : ∀ earlier, earlier <+: flow.pairs →
      (flowOf earlier).BulkSizesFit := by
    intro earlier begins
    have earlierSized : ∀ pair ∈ earlier, pair.Sized :=
      fun pair member => sized pair (begins.subset member)
    exact bulkSizesFit_flowOf earlierSized
      (le_trans (volumeOf_sublist_le sized begins.sublist) small)
  refine ⟨?_, ?_, ?_, ?_, ?_, history, ?_⟩
  · intro direction
    rw [getTotalLen_checked packetSized, getTotalLen_exact,
      if_pos (along direction)]
  · exact totalOver_checked sized small _ payload
  · exact totalOver_checked sized small _ header
  · rw [getReverseHeaderBytes, getReverseHeaderBytes]
    split_ifs
    · rfl
    · exact totalOver_checked sized small _ header
  · intro side
    rw [recorded.bulk]
    exact history flow.pairs (List.prefix_refl _) side
  · intro direction
    exact getAvg_checked packetSized direction (along direction)

/-- The totals are exact if and only if the packets have no more bytes than
the largest `int`. -/
theorem Flow.Recorded.totalsExact_iff
    (recorded : flow.Recorded) :
    flow.TotalsExact ↔ volumeOf flow.pairs ≤ intMax := by
  constructor
  · intro totalsExact
    have total := totalsExact.totalLen .both
    rw [getTotalLen_checked fun pair member => (sized pair member).packet]
      at total
    rw [← lengthsAlong_both_sum]
    by_contra large
    rw [if_neg large] at total
    cases total
  · exact recorded.totalsExact sized

end Totals

end UzFlowMeter
