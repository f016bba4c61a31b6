import UzFlowMeter.Activity
import UzFlowMeter.BulkMachine

/-!
# Shifting all times

The features of a flow do not depend on where time zero lies, although zero
stands for a time that is not set: the flow of a shifted history is the
shifted flow, where an unset time stays unset.
-/

namespace UzFlowMeter

open Gaps

/-- Shift a time unless it is not set. -/
def shiftTime (shift time : ℚ) : ℚ :=
  if time = 0 then 0 else time + shift

/-- A time that is not set, or positive before and after the shift. -/
def ShiftableTime (shift time : ℚ) : Prop :=
  time = 0 ∨ (0 < time ∧ 0 < time + shift)

section Times

variable {shift time : ℚ}

theorem shiftTime_of_ne (set : time ≠ 0) :
    shiftTime shift time = time + shift := by
  rw [shiftTime, if_neg set]

private theorem shiftTime_zero : shiftTime shift 0 = 0 := if_pos rfl

private theorem ShiftableTime.shiftTime_eq_zero_iff
    (shiftable : ShiftableTime shift time) :
    shiftTime shift time = 0 ↔ time = 0 := by
  rcases shiftable with unset | ⟨positive, shiftedPositive⟩
  · rw [unset, shiftTime_zero]
  · have set : time ≠ 0 := ne_of_gt positive
    rw [shiftTime_of_ne set]
    exact iff_of_false (ne_of_gt shiftedPositive) set

/-- Shifting keeps the order of a set time and one that may be unset. -/
theorem shiftTime_lt_iff
    {other : ℚ} (shiftable : ShiftableTime shift time)
    (otherShiftable : ShiftableTime shift other) (set : time ≠ 0) :
    shiftTime shift time < shiftTime shift other ↔ time < other := by
  rw [shiftTime_of_ne set]
  rcases shiftable with unset | ⟨positive, shiftedPositive⟩
  · exact absurd unset set
  · rcases otherShiftable with otherUnset | ⟨otherPositive, -⟩
    · rw [otherUnset, shiftTime_zero]
      exact iff_of_false (not_lt_of_gt shiftedPositive)
        (not_lt_of_gt positive)
    · rw [shiftTime_of_ne (ne_of_gt otherPositive), add_lt_add_iff_right]

end Times

/-- The packet, sent later by the shift. -/
def Packet.shift (amount : ℚ) (packet : Packet) : Packet :=
  { packet with time := packet.time + amount }

def Pair.shift (amount : ℚ) (pair : Pair) : Pair :=
  ⟨pair.packet.shift amount, pair.direction⟩

@[simp]
theorem Packet.shift_time (amount : ℚ) (packet : Packet) :
    (packet.shift amount).time = packet.time + amount := rfl

@[simp]
theorem getPayload_shift (amount : ℚ) (packet : Packet) :
    getPayload (packet.shift amount) = getPayload packet := rfl

private theorem timesOf_shift (amount : ℚ) (pairs : List Pair) :
    timesOf (pairs.map (Pair.shift amount)) =
      (timesOf pairs).map fun time => time + amount := by
  simp [timesOf, Pair.shift]

namespace BulkHalf

def shift (amount : ℚ) (half : BulkHalf) : BulkHalf :=
  { half with
    lastTimestamp := shiftTime amount half.lastTimestamp
    startTmp := shiftTime amount half.startTmp }

/-- The times of a half can be shifted, and are set together. -/
structure Shiftable (amount : ℚ) (half : BulkHalf) : Prop where
  last : ShiftableTime amount half.lastTimestamp
  start : ShiftableTime amount half.startTmp
  together : half.startTmp ≠ 0 → half.lastTimestamp ≠ 0

variable {amount : ℚ} {half : BulkHalf} {otherLast time : ℚ}

private theorem Shiftable.restarts_iff
    (shiftable : half.Shiftable amount)
    (otherShiftable : ShiftableTime amount otherLast) :
    (half.shift amount).Restarts (shiftTime amount otherLast)
        (time + amount) ↔ half.Restarts otherLast time := by
  by_cases unset : half.startTmp = 0
  · have shiftedUnset : (half.shift amount).startTmp = 0 :=
      shiftable.start.shiftTime_eq_zero_iff.mpr unset
    exact iff_of_true (Or.inr (Or.inl shiftedUnset)) (Or.inr (Or.inl unset))
  · have stillSet : ¬ (half.shift amount).startTmp = 0 := fun shiftedUnset =>
      unset (shiftable.start.shiftTime_eq_zero_iff.mp shiftedUnset)
    have sameOrder : shiftTime amount otherLast >
        (half.shift amount).startTmp ↔ otherLast > half.startTmp :=
      shiftTime_lt_iff shiftable.start otherShiftable unset
    have samePause : time + amount - (half.shift amount).lastTimestamp =
        time - half.lastTimestamp := by
      rw [BulkHalf.shift, shiftTime_of_ne (shiftable.together unset)]
      exact add_sub_add_right_eq_sub time half.lastTimestamp amount
    rw [Restarts, Restarts, samePause, sameOrder]
    simp only [unset, stillSet]

/-- The spans that are added to the duration do not change. -/
theorem Shiftable.extend_shift
    (shiftable : half.Shiftable amount) (set : half.startTmp ≠ 0)
    (positive : 0 < time) (payloadSize : Int) :
    (half.shift amount).extend (time + amount) payloadSize =
      (half.extend time payloadSize).shift amount := by
  have shifted : shiftTime amount time = time + amount :=
    shiftTime_of_ne (ne_of_gt positive)
  rcases lt_trichotomy (half.countTmp + 1) bulkBound with
    short | reached | beyond
  · have shiftedShort : (half.shift amount).countTmp + 1 < bulkBound :=
      short
    rw [extend_of_short _ _ short, extend_of_short _ _ shiftedShort]
    simp only [BulkHalf.shift, shifted]
  · have shiftedReached :
        (half.shift amount).countTmp + 1 = bulkBound := reached
    rw [extend_of_reached _ _ reached, extend_of_reached _ _ shiftedReached]
    simp only [BulkHalf.shift, shifted, shiftTime_of_ne set,
      add_sub_add_right_eq_sub]
  · have shiftedBeyond :
        bulkBound < (half.shift amount).countTmp + 1 := beyond
    rw [extend_of_counted _ _ beyond, extend_of_counted _ _ shiftedBeyond]
    simp only [BulkHalf.shift, shifted,
      shiftTime_of_ne (shiftable.together set), add_sub_add_right_eq_sub]

private theorem Shiftable.update_shift
    (shiftable : half.Shiftable amount)
    (otherShiftable : ShiftableTime amount otherLast)
    (positive : 0 < time) (payloadSize : Int) :
    (half.shift amount).update (shiftTime amount otherLast) (time + amount)
        payloadSize =
      (half.update otherLast time payloadSize).shift amount := by
  have sameTest :
      (half.shift amount).Restarts (shiftTime amount otherLast)
          (time + amount) ↔ half.Restarts otherLast time :=
    shiftable.restarts_iff otherShiftable
  rw [update, update]
  by_cases restarts : half.Restarts otherLast time
  · rw [if_pos restarts, if_pos (sameTest.mpr restarts)]
    rw [BulkHalf.start, BulkHalf.start, BulkHalf.shift, BulkHalf.shift]
    simp only [shiftTime_of_ne (ne_of_gt positive)]
  · rw [if_neg restarts, if_neg (mt sameTest.mp restarts)]
    have set : half.startTmp ≠ 0 := fun unset =>
      restarts (Or.inr (Or.inl unset))
    exact shiftable.extend_shift set positive payloadSize

private theorem update_startTmp (half : BulkHalf) (otherLast time : ℚ)
    (payloadSize : Int) :
    (half.update otherLast time payloadSize).startTmp = time ∨
      (half.update otherLast time payloadSize).startTmp = half.startTmp := by
  rw [update]
  split_ifs
  · exact Or.inl rfl
  · right
    rw [extend, tally]
    split_ifs <;> rfl

theorem Shiftable.update
    (shiftable : half.Shiftable amount) (positive : 0 < time)
    (shiftedPositive : 0 < time + amount) (payloadSize : Int) :
    (half.update otherLast time payloadSize).Shiftable amount := by
  have shiftableTime : ShiftableTime amount time :=
    Or.inr ⟨positive, shiftedPositive⟩
  refine ⟨?_, ?_, ?_⟩
  · rw [update_lastTimestamp]
    exact shiftableTime
  · rcases half.update_startTmp otherLast time payloadSize with
      begun | kept
    · rw [begun]
      exact shiftableTime
    · rw [kept]
      exact shiftable.start
  · intro _
    rw [update_lastTimestamp]
    exact ne_of_gt positive

end BulkHalf

/-! ## Two runs -/

/-- The second flow is the first one, shifted. -/
structure Flow.ShiftedBy (amount : ℚ) (flow shifted : Flow) : Prop where
  pairs : shifted.pairs = flow.pairs.map (Pair.shift amount)
  latest : shifted.latestTimestamp = shiftTime amount flow.latestTimestamp
  start : shifted.startTimestamp = shiftTime amount flow.startTimestamp
  bulk : ∀ side, shifted.bulk side = (flow.bulk side).shift amount
  activity : shifted.activity = flow.activity
  interarrivalTimes : shifted.flowInterarrivalTime.items =
    flow.flowInterarrivalTime.items
  initWindowSize : shifted.initWindowSize = flow.initWindowSize

/-- The times that a flow keeps can be shifted, and are set together. -/
structure Flow.Shiftable (amount : ℚ) (flow : Flow) : Prop where
  latest : ShiftableTime amount flow.latestTimestamp
  start : ShiftableTime amount flow.startTimestamp
  together : flow.startTimestamp ≠ 0 → flow.latestTimestamp ≠ 0
  bulk : ∀ side, (flow.bulk side).Shiftable amount

theorem ShiftableTime.max
    {amount left right : ℚ} (leftShiftable : ShiftableTime amount left)
    (positive : 0 < right) (shiftedPositive : 0 < right + amount) :
    ShiftableTime amount (max left right) := by
  rcases max_choice left right with isLeft | isRight
  · rw [isLeft]
    exact leftShiftable
  · rw [isRight]
    exact Or.inr ⟨positive, shiftedPositive⟩

private theorem ShiftableTime.shiftTime_max
    {amount left right : ℚ} (leftShiftable : ShiftableTime amount left)
    (positive : 0 < right) (shiftedPositive : 0 < right + amount) :
    Max.max (shiftTime amount left) (right + amount) =
      shiftTime amount (Max.max left right) := by
  rcases leftShiftable with unset | ⟨leftPositive, -⟩
  · rw [unset, shiftTime_zero, max_eq_right (le_of_lt shiftedPositive),
      max_eq_right (le_of_lt positive), shiftTime_of_ne (ne_of_gt positive)]
  · have maxPositive : 0 < Max.max left right :=
      lt_max_of_lt_left leftPositive
    rw [shiftTime_of_ne (ne_of_gt leftPositive),
      shiftTime_of_ne (ne_of_gt maxPositive), max_add_add_right]

/-- A pair whose time is positive before and after the shift. -/
structure Pair.Shiftable (amount : ℚ) (pair : Pair) : Prop where
  positive : 0 < pair.packet.time
  shiftedPositive : 0 < pair.packet.time + amount

instance (amount : ℚ) (pair : Pair) : Decidable (pair.Shiftable amount) :=
  decidable_of_iff (0 < pair.packet.time ∧ 0 < pair.packet.time + amount)
    ⟨fun both => ⟨both.1, both.2⟩,
      fun shiftable => ⟨shiftable.1, shiftable.2⟩⟩

section Step

variable {amount : ℚ} {flow shifted : Flow} {pair : Pair}

theorem Flow.Shiftable.record
    (shiftable : flow.Shiftable amount)
    (pairShiftable : pair.Shiftable amount) :
    (flow.record pair).Shiftable amount := by
  obtain ⟨positive, shiftedPositive⟩ := pairShiftable
  refine ⟨?_, ?_, ?_, ?_⟩
  · rw [Flow.record, addPacketToFlow_latestTimestamp]
    exact shiftable.latest.max positive shiftedPositive
  · rw [Flow.record, addPacketToFlow_startTimestamp]
    split_ifs
    · exact Or.inr ⟨positive, shiftedPositive⟩
    · exact shiftable.start
  · intro _
    rw [Flow.record, addPacketToFlow_latestTimestamp]
    exact ne_of_gt (lt_max_of_lt_right positive)
  · intro side
    rcases bulk_eq_or_opposite side pair.direction with own | other
    · rw [own, Flow.record, addPacketToFlow_bulk_self]
      split_ifs
      · exact shiftable.bulk _
      · exact (shiftable.bulk _).update positive shiftedPositive _
    · rw [other, Flow.record, addPacketToFlow_bulk_opposite]
      exact shiftable.bulk _

private theorem Flow.ShiftedBy.bulk_record
    (shiftedBy : flow.ShiftedBy amount shifted)
    (shiftable : flow.Shiftable amount)
    (pairShiftable : pair.Shiftable amount) (side : PacketDirection) :
    (shifted.record (pair.shift amount)).bulk side =
      ((flow.record pair).bulk side).shift amount := by
  have sameDirection : (pair.shift amount).direction = pair.direction := rfl
  rw [Flow.record, Flow.record, sameDirection]
  rcases bulk_eq_or_opposite side pair.direction with own | other
  · rw [own, own, addPacketToFlow_bulk_self, addPacketToFlow_bulk_self,
      shiftedBy.bulk, shiftedBy.bulk]
    by_cases empty : getPayload pair.packet = 0
    · rw [if_pos empty]
      exact if_pos empty
    · rw [if_neg empty, ← (shiftable.bulk _).update_shift
        (shiftable.bulk _).last pairShiftable.positive]
      exact if_neg empty
  · rw [other, other, addPacketToFlow_bulk_opposite,
      addPacketToFlow_bulk_opposite]
    exact shiftedBy.bulk _

theorem Flow.ShiftedBy.record
    (shiftedBy : flow.ShiftedBy amount shifted)
    (shiftable : flow.Shiftable amount)
    (pairShiftable : pair.Shiftable amount) :
    (flow.record pair).ShiftedBy amount
      (shifted.record (pair.shift amount)) := by
  have positive := pairShiftable.positive
  have unstarted : shifted.startTimestamp = 0 ↔ flow.startTimestamp = 0 := by
    rw [shiftedBy.start]
    exact shiftable.start.shiftTime_eq_zero_iff
  have unheard :
      shifted.latestTimestamp = 0 ↔ flow.latestTimestamp = 0 := by
    rw [shiftedBy.latest]
    exact shiftable.latest.shiftTime_eq_zero_iff
  have sameGap : flow.latestTimestamp ≠ 0 →
      (pair.shift amount).packet.time - shifted.latestTimestamp =
        pair.packet.time - flow.latestTimestamp := by
    intro set
    rw [shiftedBy.latest, shiftTime_of_ne set]
    exact add_sub_add_right_eq_sub _ _ _
  refine ⟨?_, ?_, ?_, ?_, ?_, ?_, ?_⟩
  · rw [Flow.record, Flow.record, addPacketToFlow_pairs,
      addPacketToFlow_pairs, shiftedBy.pairs, List.map_append]
    rfl
  · rw [Flow.record, Flow.record, addPacketToFlow_latestTimestamp,
      addPacketToFlow_latestTimestamp, shiftedBy.latest]
    exact shiftable.latest.shiftTime_max positive
      pairShiftable.shiftedPositive
  · rw [Flow.record, Flow.record, addPacketToFlow_startTimestamp,
      addPacketToFlow_startTimestamp]
    by_cases first : flow.startTimestamp = 0
    · rw [if_pos (unstarted.mpr first), if_pos first,
        shiftTime_of_ne (ne_of_gt positive)]
      rfl
    · rw [if_neg (mt unstarted.mp first), if_neg first]
      exact shiftedBy.start
  · exact shiftedBy.bulk_record shiftable pairShiftable
  · rw [Flow.record, Flow.record, addPacketToFlow_activity,
      addPacketToFlow_activity, shiftedBy.activity]
    by_cases first : flow.latestTimestamp = 0
    · have noGap := unheard.mpr first
      simp only [first, noGap, ne_eq, not_true_eq_false, false_and, if_false]
    · rw [sameGap first]
      simp only [ne_eq, unheard]
  · rw [Flow.record, Flow.record, addPacketToFlow_interarrivalTimes,
      addPacketToFlow_interarrivalTimes, shiftedBy.interarrivalTimes]
    by_cases first : flow.startTimestamp = 0
    · rw [if_pos (unstarted.mpr first), if_pos first]
    · rw [if_neg (mt unstarted.mp first), if_neg first,
        sameGap (shiftable.together first)]
  · rw [Flow.record, Flow.record, addPacketToFlow_initWindowSize,
      addPacketToFlow_initWindowSize, recordWindow, recordWindow,
      shiftedBy.initWindowSize]
    simp only [apply_ite Flow.initWindowSize, shiftedBy.initWindowSize]
    rfl

end Step

theorem flowOf_shifted
    (amount : ℚ) {pairs : List Pair}
    (shiftable : ∀ pair ∈ pairs, pair.Shiftable amount) :
    (flowOf pairs).Shiftable amount ∧
      (flowOf pairs).ShiftedBy amount
        (flowOf (pairs.map (Pair.shift amount))) := by
  induction pairs using List.reverseRecOn with
  | nil =>
      refine ⟨⟨Or.inl rfl, Or.inl rfl, fun set => absurd rfl set, ?_⟩,
        ⟨rfl, rfl, rfl, ?_, rfl, rfl, rfl⟩⟩
      · intro side
        cases side <;>
          exact ⟨Or.inl rfl, Or.inl rfl, fun set => absurd rfl set⟩
      · intro side
        cases side <;> rfl
  | append_singleton pairs last inductionHypothesis =>
      have lastShiftable := shiftable last (by simp)
      obtain ⟨before, shiftedBefore⟩ := inductionHypothesis
        fun pair member => shiftable pair (List.mem_append_left _ member)
      rw [List.map_append, List.map_singleton, flowOf_concat,
        flowOf_concat]
      exact ⟨before.record lastShiftable,
        shiftedBefore.record before lastShiftable⟩

/-- The features of two flows that the times enter. -/
structure Flow.SameFeatures (flow other : Flow) : Prop where
  interarrivalTimes : flow.flowInterarrivalTime.items =
    other.flowInterarrivalTime.items
  active : flow.active.items = other.active.items
  idle : flow.idle.items = other.idle.items
  forwardBulk :
    flow.forwardBulkCount = other.forwardBulkCount ∧
      flow.forwardBulkPacketCount = other.forwardBulkPacketCount ∧
      flow.forwardBulkSize = other.forwardBulkSize ∧
      flow.forwardBulkDuration = other.forwardBulkDuration
  backwardBulk :
    flow.backwardBulkCount = other.backwardBulkCount ∧
      flow.backwardBulkPacketCount = other.backwardBulkPacketCount ∧
      flow.backwardBulkSize = other.backwardBulkSize ∧
      flow.backwardBulkDuration = other.backwardBulkDuration
  initWindowSize : flow.initWindowSize = other.initWindowSize
  duration : getDuration flow = getDuration other
  packetIat : ∀ direction,
    getPacketIat flow direction = getPacketIat other direction

/-- The relative times of the packets do not change. -/
theorem Flow.ShiftedBy.getPacketTimes_eq
    {amount : ℚ} {flow shifted : Flow}
    (shiftedBy : flow.ShiftedBy amount shifted) :
    getPacketTimes flow = getPacketTimes shifted := by
  rw [getPacketTimes, getPacketTimes, shiftedBy.pairs]
  cases flow.pairs with
  | nil =>
      rfl
  | cons first rest =>
      simp [Pair.shift]

theorem Flow.ShiftedBy.getPacketIat_eq
    {amount : ℚ} {flow shifted : Flow}
    (shiftedBy : flow.ShiftedBy amount shifted)
    (direction : PacketDirection) :
    getPacketIat flow direction = getPacketIat shifted direction := by
  have filtered : (shifted.pairs.filter fun pair =>
      pair.direction = direction) =
        (flow.pairs.filter fun pair => pair.direction = direction).map
          (Pair.shift amount) := by
    rw [shiftedBy.pairs, List.filter_map]
    rfl
  rw [UzFlowMeter.getPacketIat_eq, UzFlowMeter.getPacketIat_eq, filtered,
    timesOf_shift, gaps_map_add_right]

/-- Shifting all times of a history by an amount that keeps them positive
does not change the features of its flow, whatever the order of the
packets. -/
theorem sameFeatures_shift
    (amount : ℚ) (pairs : List Pair)
    (shiftable : ∀ pair ∈ pairs, pair.Shiftable amount) :
    (flowOf pairs).SameFeatures
      (flowOf (pairs.map (Pair.shift amount))) := by
  have shiftedBy := (flowOf_shifted amount shiftable).2
  have forward := shiftedBy.bulk .forward
  have backward := shiftedBy.bulk .reverse
  have activity := shiftedBy.activity
  refine ⟨shiftedBy.interarrivalTimes.symm, ?_, ?_, ?_, ?_,
    shiftedBy.initWindowSize.symm, ?_, shiftedBy.getPacketIat_eq⟩
  · exact congrArg (fun activity => activity.active.items) activity.symm
  · exact congrArg (fun activity => activity.idle.items) activity.symm
  · exact ⟨congrArg BulkHalf.count forward.symm,
      congrArg BulkHalf.packetCount forward.symm,
      congrArg BulkHalf.size forward.symm,
      congrArg BulkHalf.duration forward.symm⟩
  · exact ⟨congrArg BulkHalf.count backward.symm,
      congrArg BulkHalf.packetCount backward.symm,
      congrArg BulkHalf.size backward.symm,
      congrArg BulkHalf.duration backward.symm⟩
  · rw [getDuration, getDuration, shiftedBy.getPacketTimes_eq]

/-- A history with a packet out of order and a long pause. -/
def unorderedHistory : List Pair :=
  [tcpPair .forward 10 3, tcpPair .reverse 0 2, tcpPair .forward 10 7]

theorem sameFeatures_shift_unorderedHistory :
    (flowOf unorderedHistory).SameFeatures
      (flowOf (unorderedHistory.map (Pair.shift (-1)))) :=
  sameFeatures_shift (-1) unorderedHistory (by decide +kernel)

end UzFlowMeter
