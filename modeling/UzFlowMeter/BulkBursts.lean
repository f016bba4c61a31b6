import UzFlowMeter.BulkAccounting
import UzFlowMeter.Library.Grouping

/-!
# Bursts

A burst of a side is a group of its packets with payload: the pauses in it
are short, and the other side has sent no payload since it began.  The fields
of a half are a function of the bursts of its side, whatever the order of the
packets.  When times increase strictly, the bursts are the pieces of a batch
segmentation.
-/

namespace UzFlowMeter

open Grouping

/-- The time of the first packet. -/
def startOf (burst : List Pair) : ℚ :=
  (timesOf burst).headD 0

/-- The time of the last packet. -/
def endOf (burst : List Pair) : ℚ :=
  (timesOf burst).getLastD 0

def spanOf (burst : List Pair) : ℚ :=
  endOf burst - startOf burst

def packetsOf (burst : List Pair) : Int :=
  burst.length

def payloadOf (burst : List Pair) : Int :=
  (burst.map fun pair => getPayload pair.packet).sum

@[simp]
theorem startOf_singleton (pair : Pair) :
    startOf [pair] = pair.packet.time := rfl

@[simp]
theorem endOf_concat (burst : List Pair) (pair : Pair) :
    endOf (burst ++ [pair]) = pair.packet.time := by
  rw [endOf, timesOf_concat, List.getLastD_concat]

theorem startOf_concat
    {burst : List Pair} (nonempty : burst ≠ []) (pair : Pair) :
    startOf (burst ++ [pair]) = startOf burst := by
  cases burst with
  | nil =>
      exact absurd rfl nonempty
  | cons first rest =>
      rfl

theorem startOf_mem {burst : List Pair} (nonempty : burst ≠ []) :
    startOf burst ∈ timesOf burst := by
  cases burst with
  | nil =>
      exact absurd rfl nonempty
  | cons first rest =>
      exact List.mem_cons_self

private theorem spanOf_concat
    {burst : List Pair} (nonempty : burst ≠ []) (pair : Pair) :
    spanOf (burst ++ [pair]) =
      spanOf burst + (pair.packet.time - endOf burst) := by
  rw [spanOf, spanOf, startOf_concat nonempty, endOf_concat]
  ring

@[simp]
theorem packetsOf_concat (burst : List Pair) (pair : Pair) :
    packetsOf (burst ++ [pair]) = packetsOf burst + 1 := by
  simp [packetsOf]

@[simp]
theorem payloadOf_concat (burst : List Pair) (pair : Pair) :
    payloadOf (burst ++ [pair]) =
      payloadOf burst + getPayload pair.packet := by
  simp [payloadOf]

/-- A packet goes on with a burst. -/
def continuesBurst (otherLast : ℚ) (burst : List Pair) (pair : Pair) :
    Bool :=
  decide (otherLast ≤ startOf burst) &&
    decide (pair.packet.time - endOf burst ≤ clumpTimeout)

/-- The bursts of a side so far, and when the other side last sent
payload. -/
structure BurstScan where
  bursts : List (List Pair) := []
  otherLast : ℚ := 0

def BurstScan.hear (side : PacketDirection) (scan : BurstScan)
    (pair : Pair) : BurstScan :=
  if getPayload pair.packet = 0 then scan
  else if pair.direction = side then
    { scan with
      bursts := extend (continuesBurst scan.otherLast) scan.bursts pair }
  else { scan with otherLast := pair.packet.time }

def burstScan (side : PacketDirection) (pairs : List Pair) : BurstScan :=
  pairs.foldl (BurstScan.hear side) {}

theorem burstScan_concat
    (side : PacketDirection) (pairs : List Pair) (last : Pair) :
    burstScan side (pairs ++ [last]) =
      (burstScan side pairs).hear side last :=
  List.foldl_append

/-- Bursts are not empty and hold packets of the input. -/
theorem burstScan_bursts
    (side : PacketDirection) (pairs : List Pair) :
    ∀ burst ∈ (burstScan side pairs).bursts,
      burst ≠ [] ∧ ∀ pair ∈ burst, pair ∈ pairs := by
  induction pairs using List.reverseRecOn with
  | nil =>
      intro burst member
      exact absurd member List.not_mem_nil
  | append_singleton pairs last inductionHypothesis =>
      have old : ∀ burst ∈ (burstScan side pairs).bursts,
          burst ≠ [] ∧ ∀ pair ∈ burst, pair ∈ pairs ++ [last] := by
        intro burst member
        obtain ⟨nonempty, fromInput⟩ := inductionHypothesis burst member
        exact ⟨nonempty, fun pair inBurst =>
          List.mem_append_left _ (fromInput pair inBurst)⟩
      rw [burstScan_concat, BurstScan.hear]
      split_ifs
      · exact old
      · apply extend_forall old
        · exact ⟨List.cons_ne_nil _ _, fun pair member =>
            List.mem_append_right _ member⟩
        · intro burst member _
          refine ⟨by simp, ?_⟩
          intro pair inExtended
          rcases List.mem_append.mp inExtended with inBurst | isLast
          · exact (old burst member).2 pair inBurst
          · exact List.mem_append_right _ isLast
      · exact old

private theorem burstScan_startOf_pos
    {pairs : List Pair} (positive : ∀ time ∈ timesOf pairs, 0 < time)
    (side : PacketDirection) :
    ∀ burst ∈ (burstScan side pairs).bursts, 0 < startOf burst := by
  intro burst member
  obtain ⟨nonempty, fromInput⟩ := burstScan_bursts side pairs burst member
  apply positive
  obtain ⟨pair, inBurst, same⟩ := List.mem_map.mp (startOf_mem nonempty)
  rw [← same]
  exact List.mem_map_of_mem (fromInput pair inBurst)

/-- The fields of a half, computed from the bursts of its side. -/
def BulkHalf.ofBursts (bursts : List (List Pair)) : BulkHalf where
  lastTimestamp := endOf (bursts.getLastD [])
  startTmp := startOf (bursts.getLastD [])
  count := longTotal bulkBound.toNat (fun _ => 1) bursts
  countTmp := packetsOf (bursts.getLastD [])
  duration := longTotal bulkBound.toNat spanOf bursts
  packetCount := longTotal bulkBound.toNat packetsOf bursts
  size := longTotal bulkBound.toNat payloadOf bursts
  sizeTmp := payloadOf (bursts.getLastD [])

namespace BulkHalf

private theorem ofBursts_begin (bursts : List (List Pair)) (pair : Pair) :
    (ofBursts bursts).start pair.packet.time (getPayload pair.packet) =
      ofBursts (bursts ++ [[pair]]) := by
  have short : ¬ bulkBound.toNat ≤ [pair].length :=
    (by decide : ¬ bulkBound.toNat ≤ 1)
  simp only [start, ofBursts, longTotal_concat, if_neg short, add_zero,
    List.getLastD_concat]
  simp [endOf, startOf, timesOf, packetsOf, payloadOf]

private theorem ofBursts_extend
    (earlier : List (List Pair)) {burst : List Pair}
    (nonempty : burst ≠ []) (pair : Pair) :
    (ofBursts (earlier ++ [burst])).extend pair.packet.time
        (getPayload pair.packet) =
      ofBursts (earlier ++ [burst ++ [pair]]) := by
  have counter : (ofBursts (earlier ++ [burst])).countTmp =
      packetsOf burst := by
    rw [ofBursts, List.getLastD_concat]
  have bound : bulkBound.toNat = 4 := rfl
  rcases lt_trichotomy (packetsOf burst + 1) bulkBound with
    short | reached | beyond
  · rw [← counter] at short
    rw [extend_of_short _ _ short]
    rw [counter, packetsOf, bulkBound] at short
    have before : ¬ bulkBound.toNat ≤ burst.length := by omega
    have after : ¬ bulkBound.toNat ≤ (burst ++ [pair]).length := by
      rw [List.length_append, List.length_singleton]
      omega
    simp only [ofBursts, longTotal_concat, List.getLastD_concat,
      if_neg before, if_neg after, endOf_concat, startOf_concat nonempty,
      packetsOf_concat, payloadOf_concat]
  · rw [← counter] at reached
    rw [extend_of_reached _ _ reached]
    rw [counter, packetsOf, bulkBound] at reached
    have before : ¬ bulkBound.toNat ≤ burst.length := by omega
    have after : bulkBound.toNat ≤ (burst ++ [pair]).length := by
      rw [List.length_append, List.length_singleton]
      omega
    simp only [ofBursts, longTotal_concat, List.getLastD_concat,
      if_neg before, if_pos after, endOf_concat, startOf_concat nonempty,
      packetsOf_concat, payloadOf_concat, spanOf, add_zero]
  · rw [← counter] at beyond
    rw [extend_of_counted _ _ beyond]
    rw [counter, packetsOf, bulkBound] at beyond
    have before : bulkBound.toNat ≤ burst.length := by omega
    have after : bulkBound.toNat ≤ (burst ++ [pair]).length := by
      rw [List.length_append, List.length_singleton]
      omega
    simp only [ofBursts, longTotal_concat, List.getLastD_concat,
      if_pos before, if_pos after, endOf_concat, startOf_concat nonempty,
      packetsOf_concat, payloadOf_concat, spanOf_concat nonempty, add_assoc]

/-- A step of the machine takes the measures of the bursts to those of the
extended bursts. -/
theorem ofBursts_update
    {bursts : List (List Pair)}
    (nonempty : ∀ burst ∈ bursts, burst ≠ [])
    (positive : ∀ burst ∈ bursts, 0 < startOf burst)
    (otherLast : ℚ) (pair : Pair) :
    (ofBursts bursts).update otherLast pair.packet.time
        (getPayload pair.packet) =
      ofBursts (Grouping.extend (continuesBurst otherLast) bursts pair) := by
  rcases List.eq_nil_or_concat' bursts with rfl | ⟨earlier, burst, rfl⟩
  · have restarts : (ofBursts []).Restarts otherLast pair.packet.time :=
      Or.inr (Or.inl rfl)
    rw [update, if_pos restarts, extend_nil]
    exact ofBursts_begin [] pair
  · have set : startOf burst ≠ 0 :=
      ne_of_gt (positive burst (by simp))
    have restarts :
        (ofBursts (earlier ++ [burst])).Restarts otherLast
            pair.packet.time ↔
          ¬ continuesBurst otherLast burst pair = true := by
      simp only [Restarts, ofBursts, List.getLastD_concat, set, false_or,
        continuesBurst, Bool.and_eq_true, decide_eq_true_eq, not_and_or,
        not_le, gt_iff_lt]
    rw [update, Grouping.extend_concat]
    by_cases joined : continuesBurst otherLast burst pair = true
    · rw [if_pos joined, if_neg (by rw [restarts]; exact not_not.mpr joined)]
      exact ofBursts_extend earlier (nonempty burst (by simp)) pair
    · rw [if_neg joined, if_pos (restarts.mpr joined)]
      exact ofBursts_begin _ pair

end BulkHalf

/-- Both halves of the machine are functions of the bursts, whatever the
order of the packets. -/
theorem flowOf_bulk
    {pairs : List Pair} (proper : ∀ pair ∈ pairs, pair.Proper)
    (positive : ∀ time ∈ timesOf pairs, 0 < time)
    {side : PacketDirection}
    (isSide : side = .forward ∨ side = .reverse) :
    (flowOf pairs).bulk side =
        BulkHalf.ofBursts (burstScan side pairs).bursts ∧
      ((flowOf pairs).bulk side.opposite).lastTimestamp =
        (burstScan side pairs).otherLast := by
  induction pairs using List.reverseRecOn with
  | nil =>
      rcases isSide with rfl | rfl
      · exact ⟨rfl, rfl⟩
      · exact ⟨rfl, rfl⟩
  | append_singleton pairs last inductionHypothesis =>
      have positiveBefore : ∀ time ∈ timesOf pairs, 0 < time := by
        intro time member
        apply positive
        rw [timesOf_concat]
        exact List.mem_append_left _ member
      obtain ⟨bulk, otherLast⟩ := inductionHypothesis
        (fun pair member => proper pair (List.mem_append_left _ member))
        positiveBefore
      rw [flowOf_concat, Flow.record, burstScan_concat, BurstScan.hear]
      have lastProper := proper last (by simp)
      rcases lastProper.eq_or_opposite isSide with
        rfl | ⟨other, opposite⟩
      · rw [addPacketToFlow_bulk_self, addPacketToFlow_bulk_opposite]
        by_cases empty : getPayload last.packet = 0
        · rw [if_pos empty, if_pos empty]
          exact ⟨bulk, otherLast⟩
        · rw [if_neg empty, if_neg empty, if_pos rfl, bulk, otherLast]
          refine ⟨?_, rfl⟩
          apply BulkHalf.ofBursts_update
          · exact fun burst member =>
              (burstScan_bursts _ _ burst member).1
          · exact burstScan_startOf_pos positiveBefore _
      · subst opposite
        rw [lastProper.opposite_opposite] at otherLast ⊢
        rw [addPacketToFlow_bulk_self, addPacketToFlow_bulk_opposite]
        by_cases empty : getPayload last.packet = 0
        · rw [if_pos empty, if_pos empty]
          exact ⟨bulk, otherLast⟩
        · rw [if_neg empty, if_neg empty, if_neg other]
          exact ⟨bulk, BulkHalf.update_lastTimestamp _ _ _ _⟩

end UzFlowMeter
