import UzFlowMeter.BulkMachine
import UzFlowMeter.FlowBytes

/-!
# What the bulk machine counts

Every packet and every byte in the totals of a half belongs to a packet with
payload of its direction, whatever the times of the packets.  Packets of a
tentative bulk that is not counted yet are charged in advance.
-/

namespace UzFlowMeter

open MachineInt

namespace BulkHalf

/-- The totals of a half are consistent with each other, and with the number
of packets with payload and the bytes of its direction. -/
structure Accounted (half : BulkHalf) (packets bytes : Int) : Prop where
  perBulk : bulkBound * half.count ≤ half.packetCount
  packetsLe : half.packetCount ≤ packets
  perPacket : half.packetCount ≤ half.size
  bytesLe : half.size ≤ bytes
  together :
    (half.count = 0 ∧ half.packetCount = 0 ∧ half.size = 0) ∨
      (half.count ≠ 0 ∧ half.packetCount ≠ 0 ∧ half.size ≠ 0)

/-- The totals leave room for the tentative bulk as long as it is too short
to count; a longer one has been counted. -/
structure Charged (half : BulkHalf) (packets bytes : Int) : Prop where
  countNonneg : 0 ≤ half.count
  perBulk : bulkBound * half.count ≤ half.packetCount
  packetsLe : half.packetCount ≤ packets
  perPacket : half.packetCount ≤ half.size
  bytesLe : half.size ≤ bytes
  none : half.count = 0 → half.packetCount = 0 ∧ half.size = 0
  tentative : half.countTmp < bulkBound →
    half.packetCount + half.countTmp ≤ packets ∧
      half.size + half.sizeTmp ≤ bytes
  counted : bulkBound ≤ half.countTmp → 0 < half.count
  tmp : 0 ≤ half.countTmp ∧ half.countTmp ≤ half.sizeTmp

theorem Charged.accounted
    {half : BulkHalf} {packets bytes : Int}
    (charged : half.Charged packets bytes) :
    half.Accounted packets bytes := by
  refine ⟨charged.perBulk, charged.packetsLe, charged.perPacket,
    charged.bytesLe, ?_⟩
  have perBulk := charged.perBulk
  have perPacket := charged.perPacket
  have nonneg := charged.countNonneg
  rw [bulkBound] at perBulk
  by_cases zero : half.count = 0
  · exact Or.inl ⟨zero, charged.none zero⟩
  · exact Or.inr ⟨zero, by omega, by omega⟩

/-- More bytes of packets that carry none into the machine. -/
theorem Charged.mono
    {half : BulkHalf} {packets bytes moreBytes : Int}
    (charged : half.Charged packets bytes) (more : bytes ≤ moreBytes) :
    half.Charged packets moreBytes where
  countNonneg := charged.countNonneg
  perBulk := charged.perBulk
  packetsLe := charged.packetsLe
  perPacket := charged.perPacket
  bytesLe := le_trans charged.bytesLe more
  none := charged.none
  tentative := fun short =>
    ⟨(charged.tentative short).1,
      le_trans (charged.tentative short).2 more⟩
  counted := charged.counted
  tmp := charged.tmp

theorem Charged.start
    {half : BulkHalf} {packets bytes payloadSize : Int}
    (charged : half.Charged packets bytes) (time : ℚ)
    (positive : 0 < payloadSize) :
    (half.start time payloadSize).Charged (packets + 1)
      (bytes + payloadSize) where
  countNonneg := charged.countNonneg
  perBulk := charged.perBulk
  packetsLe := Int.le_add_one charged.packetsLe
  perPacket := charged.perPacket
  bytesLe := by
    have := charged.bytesLe
    change half.size ≤ bytes + payloadSize
    omega
  none := charged.none
  tentative := fun _ =>
    ⟨Int.add_le_add_right charged.packetsLe 1,
      Int.add_le_add_right charged.bytesLe payloadSize⟩
  counted := fun long => absurd long (by decide : ¬ bulkBound ≤ 1)
  tmp := ⟨Int.one_nonneg, positive⟩

theorem Charged.extend
    {half : BulkHalf} {packets bytes payloadSize : Int}
    (charged : half.Charged packets bytes) (time : ℚ)
    (positive : 0 < payloadSize) :
    (half.extend time payloadSize).Charged (packets + 1)
      (bytes + payloadSize) := by
  obtain ⟨countNonneg, perBulk, packetsLe, perPacket, bytesLe, none,
    tentative, counted, tmpNonneg, tmpLe⟩ := charged
  simp only [bulkBound] at *
  rcases lt_trichotomy (half.countTmp + 1) bulkBound with
    short | reached | beyond
  · rw [extend_of_short time payloadSize short]
    rw [bulkBound] at short
    have room := tentative (by omega)
    constructor <;> dsimp only [bulkBound] <;> omega
  · rw [extend_of_reached time payloadSize reached]
    rw [bulkBound] at reached
    have room := tentative (by omega)
    constructor <;> dsimp only [bulkBound] <;> omega
  · rw [extend_of_counted time payloadSize beyond]
    rw [bulkBound] at beyond
    have begun := counted (by omega)
    constructor <;> dsimp only [bulkBound] <;> omega

theorem Charged.update
    {half : BulkHalf} {packets bytes payloadSize : Int}
    (charged : half.Charged packets bytes) (otherLast time : ℚ)
    (positive : 0 < payloadSize) :
    (half.update otherLast time payloadSize).Charged (packets + 1)
      (bytes + payloadSize) := by
  rw [BulkHalf.update]
  split_ifs
  · exact charged.start time positive
  · exact charged.extend time positive

end BulkHalf

/-- The payload bytes of the packets recorded under a direction. -/
def bytesOf (flow : Flow) (side : PacketDirection) : Int :=
  Id.run (totalOver exact flow (fun pair => pair.direction = side)
    Packet.payloadSize)

private theorem bytesOf_record
    (flow : Flow) (pair : Pair) (side : PacketDirection) :
    bytesOf (flow.record pair) side =
      bytesOf flow side +
        if pair.direction = side then pair.packet.payloadSize else 0 := by
  rw [bytesOf, bytesOf, totalOver_exact, totalOver_exact, Flow.record,
    addPacketToFlow_pairs, List.filter_append]
  by_cases own : pair.direction = side
  · simp [own]
  · simp [own]

private theorem hasPayload_record
    (flow : Flow) (pair : Pair) (side : PacketDirection) :
    hasPayload (flow.record pair) side =
      hasPayload flow side +
        if pair.direction = side ∧ getPayload pair.packet > 0 then 1
        else 0 := by
  rw [hasPayload, hasPayload, Flow.record, addPacketToFlow_pairs,
    List.countP_append, List.countP_singleton]
  by_cases own : pair.direction = side ∧ getPayload pair.packet > 0
  · simp [own.1, own.2]
  · have notCounted : (decide (pair.direction = side) &&
        decide (getPayload pair.packet > 0)) = false := by
      simpa using own
    simp [notCounted, own]

theorem getPayload_cases (packet : Packet) :
    getPayload packet = 0 ∨ getPayload packet = packet.payloadSize := by
  rw [getPayload]
  split_ifs
  · exact Or.inr rfl
  · exact Or.inr rfl
  · exact Or.inl rfl

/-- A pair of one of the two directions, with a size that is not
negative. -/
structure Pair.Proper (pair : Pair) : Prop where
  directed : pair.direction = .forward ∨ pair.direction = .reverse
  sizeNonneg : 0 ≤ pair.packet.payloadSize

instance (pair : Pair) : Decidable pair.Proper :=
  decidable_of_iff
    ((pair.direction = .forward ∨ pair.direction = .reverse) ∧
      0 ≤ pair.packet.payloadSize)
    ⟨fun both => ⟨both.1, both.2⟩, fun proper => ⟨proper.1, proper.2⟩⟩

theorem Pair.Proper.eq_or_opposite
    {pair : Pair} (proper : pair.Proper) {side : PacketDirection}
    (isSide : side = .forward ∨ side = .reverse) :
    pair.direction = side ∨
      (pair.direction ≠ side ∧ side = pair.direction.opposite) := by
  obtain ⟨directed, -⟩ := proper
  rcases directed with forward | reverse
  · rcases isSide with rfl | rfl
    · exact Or.inl forward
    · rw [forward]
      exact Or.inr ⟨PacketDirection.noConfusion, rfl⟩
  · rcases isSide with rfl | rfl
    · rw [reverse]
      exact Or.inr ⟨PacketDirection.noConfusion, rfl⟩
    · exact Or.inl reverse

theorem Pair.Proper.opposite_opposite
    {pair : Pair} (proper : pair.Proper) :
    pair.direction.opposite.opposite = pair.direction := by
  rcases proper.directed with forward | reverse
  · rw [forward]
    rfl
  · rw [reverse]
    rfl

/-- The half of a side charges no more than the packets of that side. -/
def Flow.Charged (flow : Flow) (side : PacketDirection) : Prop :=
  (flow.bulk side).Charged (hasPayload flow side) (bytesOf flow side)

theorem Flow.Charged.record
    {flow : Flow} {side : PacketDirection} (charged : flow.Charged side)
    {pair : Pair} (proper : pair.Proper)
    (isSide : side = .forward ∨ side = .reverse) :
    (flow.record pair).Charged side := by
  have sizeNonneg := proper.sizeNonneg
  rw [Flow.Charged, hasPayload_record, bytesOf_record]
  rcases proper.eq_or_opposite isSide with rfl | ⟨other, opposite⟩
  · rw [if_pos rfl, Flow.record, addPacketToFlow_bulk_self]
    by_cases empty : getPayload pair.packet = 0
    · have noPayload :
          ¬ (pair.direction = pair.direction ∧
            getPayload pair.packet > 0) := by
        rw [empty]
        exact fun both => lt_irrefl _ both.2
      rw [if_pos empty, if_neg noPayload, add_zero]
      exact BulkHalf.Charged.mono charged (by omega)
    · have whole := (getPayload_cases pair.packet).resolve_left empty
      have positive : 0 < getPayload pair.packet := by omega
      rw [if_neg empty, if_pos ⟨rfl, positive⟩, ← whole]
      exact BulkHalf.Charged.update charged _ _ positive
  · have notOwn : ¬ (pair.direction = side ∧
        getPayload pair.packet > 0) := fun both => other both.1
    rw [if_neg other, if_neg notOwn, add_zero, add_zero, opposite,
      Flow.record, addPacketToFlow_bulk_opposite]
    rw [opposite] at charged
    exact charged

theorem flowOf_charged
    {pairs : List Pair} (proper : ∀ pair ∈ pairs, pair.Proper)
    {side : PacketDirection}
    (isSide : side = .forward ∨ side = .reverse) :
    (flowOf pairs).Charged side := by
  induction pairs using List.reverseRecOn with
  | nil =>
      rcases isSide with rfl | rfl
      · constructor <;> decide
      · constructor <;> decide
  | append_singleton pairs last inductionHypothesis =>
      rw [flowOf_concat]
      apply Flow.Charged.record _ (proper last (by simp)) isSide
      exact inductionHypothesis fun pair member =>
        proper pair (List.mem_append_left _ member)

private theorem BulkHalf.Charged.le_average
    {half : BulkHalf} {packets bytes : Int}
    (charged : half.Charged packets bytes) (some : half.count ≠ 0) :
    (bulkBound : ℚ) ≤ half.packetCount / half.count := by
  have positive : 0 < half.count :=
    lt_of_le_of_ne charged.countNonneg (Ne.symm some)
  have perBulk := charged.perBulk
  rw [le_div_iff₀ (by exact_mod_cast positive)]
  exact_mod_cast perBulk

theorem getPacketsPerBulk_eq (flow : Flow) (direction : PacketDirection) :
    getPacketsPerBulk flow direction =
      if (flow.bulk direction).count ≠ 0 then
        ((flow.bulk direction).packetCount : ℚ) /
          (flow.bulk direction).count
      else 0 := by
  cases direction <;> rfl

/-- The totals of both halves are consistent with each other and with the
packets and bytes of their direction, whatever the times of the packets; a
bulk has on average at least as many packets as it needs to count. -/
theorem bulkAccounting_flowOf
    (pairs : List Pair) (proper : ∀ pair ∈ pairs, pair.Proper) :
    (flowOf pairs).forwardBulk.Accounted
        (hasPayload (flowOf pairs) .forward)
        (Id.run (getBytesSent exact (flowOf pairs))) ∧
      (flowOf pairs).backwardBulk.Accounted
        (hasPayload (flowOf pairs) .reverse)
        (Id.run (getBytesReceived exact (flowOf pairs))) ∧
      ∀ direction, getPacketsPerBulk (flowOf pairs) direction = 0 ∨
        (bulkBound : ℚ) ≤ getPacketsPerBulk (flowOf pairs) direction := by
  have forward := flowOf_charged proper (Or.inl rfl)
  have reverse := flowOf_charged proper (Or.inr rfl)
  refine ⟨forward.accounted, reverse.accounted, ?_⟩
  intro direction
  rw [getPacketsPerBulk_eq]
  split_ifs with some
  · right
    cases direction with
    | forward =>
        exact BulkHalf.Charged.le_average forward some
    | reverse =>
        exact BulkHalf.Charged.le_average reverse some
    | both =>
        exact BulkHalf.Charged.le_average reverse some
  · exact Or.inl rfl

/-- Five packets in a row are one bulk. -/
theorem bulkAccounting_one_bulk :
    getPacketsPerBulk (flowOf
        (List.replicate 5 (tcpPair .forward 100 1))) .forward = 0 ∨
      (bulkBound : ℚ) ≤ getPacketsPerBulk (flowOf
        (List.replicate 5 (tcpPair .forward 100 1))) .forward :=
  (bulkAccounting_flowOf (List.replicate 5 (tcpPair .forward 100 1))
    (by decide)).2.2 .forward

end UzFlowMeter
