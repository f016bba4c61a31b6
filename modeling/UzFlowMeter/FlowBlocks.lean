import Mathlib.Tactic.Abel
import UzFlowMeter.FlowCells
import UzFlowMeter.Library.OwnedBlocks
import UzFlowMeter.RecordedFlows

/-!
# The blocks of a flow

What `add_packet_to_flow`, `get_packet_iat` and `free_flow` allocate and
free.  An array of times is allocated while it is empty, without a look at
the pointer that the flow has already: what that pointer leads to is lost.
-/

namespace UzFlowMeter

open Allocating

/-- The arrays of times of a flow. -/
inductive TimeArray where
  | flowInterarrivalTime
  | active
  | idle
  deriving DecidableEq, Repr

def Flow.timeArray (flow : Flow) : TimeArray → GrowArray ℚ
  | .flowInterarrivalTime => flow.flowInterarrivalTime
  | .active => flow.active
  | .idle => flow.idle

/-- The blocks that the pointers of a flow lead to, and those that they no
longer lead to although nobody has freed them. -/
structure FlowBlocks where
  self : Block
  pairs : Option Block := none
  packets : List Block := []
  times : TimeArray → Option Block := fun _ => none
  lost : List (TimeArray × Block) := []

namespace FlowBlocks

def setTimes (blocks : FlowBlocks) (array : TimeArray) (block : Block) :
    FlowBlocks :=
  { blocks with times := Function.update blocks.times array (some block) }

def growPairs (blocks : FlowBlocks) (packets : GrowArray Pair) :
    Allocating FlowBlocks :=
  if packets.count ≥ packets.capacity then do
    let pairs ← realloc blocks.pairs
    return { blocks with pairs := some pairs }
  else return blocks

/-- `appendPair` with `initializePair`: every pair has a packet of its
own. -/
def appendPair (blocks : FlowBlocks) (packets : GrowArray Pair) :
    Allocating FlowBlocks := do
  let blocks ← blocks.growPairs packets
  let packet ← malloc
  return { blocks with packets := blocks.packets ++ [packet] }

def recordPair (blocks : FlowBlocks) (flow : Flow) :
    Allocating FlowBlocks :=
  if blocks.pairs = none then do
    let pairs ← malloc
    appendPair { blocks with pairs := some pairs } (initializePackets 10)
  else blocks.appendPair flow.packets

/-- `initializeFlowInterarrivalTime`, `initializeActive` and
`initializeIdle`, which overwrite the pointer. -/
def initializeTimes (blocks : FlowBlocks) (array : TimeArray) :
    Allocating FlowBlocks := do
  let block ← malloc
  return { blocks.setTimes array block with
    lost := blocks.lost ++
      (blocks.times array).toList.map fun overwritten =>
        (array, overwritten) }

def initializeEmpty (blocks : FlowBlocks) (array : TimeArray)
    (times : GrowArray ℚ) : Allocating FlowBlocks :=
  if times.count = 0 then blocks.initializeTimes array else return blocks

def growTimes (blocks : FlowBlocks) (array : TimeArray) (full : Prop)
    [Decidable full] : Allocating FlowBlocks :=
  if full then do
    let block ← realloc (blocks.times array)
    return blocks.setTimes array block
  else return blocks

def appendFlowInterarrivalTime (blocks : FlowBlocks)
    (flowTimes : GrowArray ℚ) : Allocating FlowBlocks :=
  blocks.growTimes .flowInterarrivalTime
    (flowTimes.count = flowTimes.capacity)

def appendActive (blocks : FlowBlocks) (active : GrowArray ℚ) :
    Allocating FlowBlocks :=
  blocks.growTimes .active (active.count ≥ active.capacity)

def appendIdle (blocks : FlowBlocks) (idle : GrowArray ℚ) :
    Allocating FlowBlocks :=
  blocks.growTimes .idle (idle.count ≥ idle.capacity)

/-- `update_active_idle`. -/
def updateActiveIdle (blocks : FlowBlocks) (flow : Flow)
    (currentTime : ℚ) : Allocating FlowBlocks :=
  if currentTime - flow.lastActive > activeTimeout then do
    let duration := |flow.lastActive - flow.startActive|
    let active :=
      if flow.active.count = 0 then initializeActive 5 else flow.active
    let idle := if flow.idle.count = 0 then initializeIdle 5 else flow.idle
    let blocks ← blocks.initializeEmpty .active flow.active
    let blocks ← blocks.initializeEmpty .idle flow.idle
    let blocks ←
      (if duration > 0 then blocks.appendActive active else return blocks)
    blocks.appendIdle idle
  else return blocks

/-- `update_subflow`. -/
def updateSubflow (blocks : FlowBlocks) (flow : Flow) (packet : Packet) :
    Allocating FlowBlocks :=
  let lastTimestamp :=
    if flow.latestTimestamp ≠ 0 then flow.latestTimestamp else packet.time
  if packet.time - lastTimestamp > clumpTimeout then
    blocks.updateActiveIdle flow (packet.time - lastTimestamp)
  else return blocks

def recordInterarrival (blocks : FlowBlocks) (flow : Flow) :
    Allocating FlowBlocks := do
  let flowTimes :=
    if flow.flowInterarrivalTime.count = 0 then
      initializeFlowInterarrivalTime
    else flow.flowInterarrivalTime
  let blocks ← blocks.initializeEmpty .flowInterarrivalTime
    flow.flowInterarrivalTime
  if flow.startTimestamp ≠ 0 then
    blocks.appendFlowInterarrivalTime flowTimes
  else return blocks

/-- `add_packet_to_flow`. -/
def addPacketToFlow (blocks : FlowBlocks) (flow : Flow) (packet : Packet)
    (direction : PacketDirection) : Allocating FlowBlocks := do
  let blocks ← blocks.recordPair flow
  let flow := UzFlowMeter.recordPair flow packet direction
  let flow := updateFlowBulk flow packet direction
  let blocks ← blocks.updateSubflow flow packet
  let flow := UzFlowMeter.updateSubflow flow packet
  blocks.recordInterarrival flow

def freePackets (blocks : FlowBlocks) : Allocating Unit := do
  freeAll blocks.packets
  freePointer blocks.pairs

/-- `free_flow`. -/
def freeFlow (blocks : FlowBlocks) : Allocating Unit := do
  blocks.freePackets
  freePointer (blocks.times .flowInterarrivalTime)
  freePointer (blocks.times .active)
  freePointer (blocks.times .idle)
  free blocks.self

/-- The block that `get_packet_iat` returns, or the null pointer for fewer
than two packets. -/
def getPacketIat (flow : Flow) (packetDirection : PacketDirection) :
    Allocating (Option Block) := do
  let filteredPackets ← malloc
  if (flow.pairs.filter fun pair =>
      pair.direction = packetDirection).length < 2 then do
    free filteredPackets
    return none
  else do
    let packetIat ← malloc
    free filteredPackets
    return some packetIat

/-- The blocks of the three arrays. -/
def timeBlocks (times : TimeArray → Option Block) : Multiset Block :=
  (times .flowInterarrivalTime).toList + (times .active).toList +
    (times .idle).toList

/-- The blocks that belong to the flow, lost or not. -/
def owned (blocks : FlowBlocks) : Multiset Block :=
  ({blocks.self} : Multiset Block) + blocks.pairs.toList + blocks.packets +
    timeBlocks blocks.times + blocks.lost.map Prod.snd

/-- How often the array was allocated: its block and those it has lost. -/
def allocated (blocks : FlowBlocks) (array : TimeArray) : Nat :=
  (blocks.lost.map Prod.fst).count array +
    (blocks.times array).toList.length

/-- From the blocks before to those after, the arrays in the list were
allocated anew and no pointer became null. -/
structure Renews (before : FlowBlocks) (renewed : List TimeArray)
    (after : FlowBlocks) : Prop where
  self : after.self = before.self
  pointer : ∀ array, before.times array ≠ none ∨ array ∈ renewed →
    after.times array ≠ none
  allocated : ∀ array,
    after.allocated array = before.allocated array + renewed.count array

private theorem Renews.of_times_eq
    {before after : FlowBlocks} (self : after.self = before.self)
    (times : after.times = before.times) (lost : after.lost = before.lost) :
    before.Renews [] after where
  self := self
  pointer := by
    rintro array (held | member)
    · rw [times]
      exact held
    · exact absurd member List.not_mem_nil
  allocated := by
    intro array
    rw [FlowBlocks.allocated, FlowBlocks.allocated, times, lost]
    rfl

theorem Renews.refl (blocks : FlowBlocks) : blocks.Renews [] blocks :=
  Renews.of_times_eq rfl rfl rfl

theorem Renews.trans
    {first second third : FlowBlocks} {earlier later : List TimeArray}
    (left : first.Renews earlier second)
    (right : second.Renews later third) :
    first.Renews (earlier ++ later) third where
  self := right.self.trans left.self
  pointer := by
    rintro array (held | member)
    · exact right.pointer array (Or.inl (left.pointer array (Or.inl held)))
    · rcases List.mem_append.mp member with old | new
      · exact right.pointer array
          (Or.inl (left.pointer array (Or.inr old)))
      · exact right.pointer array (Or.inr new)
  allocated := by
    intro array
    rw [right.allocated, left.allocated, List.count_append, Nat.add_assoc]

private theorem timeBlocks_update (times : TimeArray → Option Block)
    (array : TimeArray) :
    ∃ rest : Multiset Block,
      timeBlocks times = (times array).toList + rest ∧
        ∀ block : Block,
          timeBlocks (Function.update times array (some block)) =
            {block} + rest := by
  cases array with
  | flowInterarrivalTime =>
      refine ⟨(times .active).toList + (times .idle).toList, ?_, ?_⟩
      · rw [timeBlocks, add_assoc]
      · intro block
        simp [timeBlocks]
  | active =>
      refine ⟨(times .flowInterarrivalTime).toList + (times .idle).toList,
        ?_, ?_⟩
      · rw [timeBlocks, add_assoc, add_left_comm]
      · intro block
        simp only [timeBlocks, Function.update_self, ne_eq, reduceCtorEq,
          not_false_eq_true, Function.update_of_ne]
        exact (add_assoc _ _ _).trans (add_left_comm _ _ _)
  | idle =>
      refine ⟨(times .flowInterarrivalTime).toList +
        (times .active).toList, ?_, ?_⟩
      · rw [timeBlocks, add_comm]
      · intro block
        simp only [timeBlocks, Function.update_self, ne_eq, reduceCtorEq,
          not_false_eq_true, Function.update_of_ne]
        exact add_comm _ _

/-! ## The steps of `add_packet_to_flow` -/

section Steps

variable (blocks : FlowBlocks)

private theorem growPairs_owns (packets : GrowArray Pair) :
    Owns (blocks.growPairs packets) blocks.owned owned
      (blocks.Renews []) := by
  apply Owns.ite
  · intro _
    have split : blocks.owned = blocks.pairs.toList +
        (({blocks.self} : Multiset Block) + blocks.packets +
          timeBlocks blocks.times + blocks.lost.map Prod.snd) := by
      rw [owned]
      abel
    apply (Owns.realloc blocks.pairs).bind split
    intro pairs _
    apply Owns.pure
    · simp only [owned, Option.toList_some, Multiset.coe_singleton]
      abel
    · exact Renews.of_times_eq rfl rfl rfl
  · intro _
    exact Owns.pure rfl (Renews.refl blocks)

private theorem appendPair_owns (packets : GrowArray Pair) :
    Owns (blocks.appendPair packets) blocks.owned owned
      (blocks.Renews []) := by
  apply (blocks.growPairs_owns packets).bind (add_zero _).symm
  intro grown renews
  apply Owns.malloc.bind (add_comm _ _)
  intro packet _
  apply Owns.pure
  · simp only [owned, ← Multiset.coe_add, Multiset.coe_singleton]
    abel
  · exact renews.trans (Renews.of_times_eq rfl rfl rfl)

private theorem recordPair_owns (flow : Flow) :
    Owns (blocks.recordPair flow) blocks.owned owned
      (blocks.Renews []) := by
  apply Owns.ite
  · intro unallocated
    apply Owns.malloc.bind (zero_add _).symm
    intro pairs _
    apply (appendPair_owns { blocks with pairs := some pairs }
      (initializePackets 10)).weaken
    · simp only [owned, unallocated, Option.toList_none, Option.toList_some,
        Multiset.coe_singleton, Multiset.coe_nil]
      abel
    · exact fun _ _ => rfl
    · exact fun _ renews => ⟨renews.self, renews.pointer,
        renews.allocated⟩
  · intro _
    exact blocks.appendPair_owns flow.packets

private theorem setTimes_renews (array : TimeArray) (block : Block)
    (held : blocks.times array ≠ none) :
    blocks.Renews [] (blocks.setTimes array block) := by
  refine ⟨rfl, ?_, ?_⟩
  · rintro other (otherHeld | member)
    · by_cases same : other = array
      · subst same
        simp [setTimes]
      · simpa [setTimes, Function.update_of_ne same] using otherHeld
    · exact absurd member List.not_mem_nil
  · intro other
    by_cases same : other = array
    · subst same
      obtain ⟨old, isOld⟩ := Option.ne_none_iff_exists'.mp held
      simp [allocated, setTimes, isOld]
    · simp [allocated, setTimes, Function.update_of_ne same]

private theorem initializeTimes_owns (array : TimeArray) :
    Owns (blocks.initializeTimes array) blocks.owned owned
      (blocks.Renews [array]) := by
  obtain ⟨rest, before, after⟩ := timeBlocks_update blocks.times array
  apply Owns.malloc.bind (zero_add _).symm
  intro block _
  apply Owns.pure
  · simp only [owned, setTimes, before, after, List.map_append,
      List.map_map, Function.comp_def, List.map_id', ← Multiset.coe_add]
    abel
  · refine ⟨rfl, ?_, ?_⟩
    · intro other held
      by_cases same : other = array
      · subst same
        simp [setTimes]
      · simpa [setTimes, Function.update_of_ne same, same] using held
    · intro other
      by_cases same : other = array
      · subst same
        simp [allocated, setTimes, Function.comp_def]
      · simp [allocated, setTimes, Function.update_of_ne same,
          Function.comp_def, List.count_replicate, Ne.symm same,
          List.map_const']

private theorem growTimes_owns
    (array : TimeArray) (full : Prop) [Decidable full]
    (held : blocks.times array ≠ none) :
    Owns (blocks.growTimes array full) blocks.owned owned
      (blocks.Renews []) := by
  obtain ⟨rest, before, after⟩ := timeBlocks_update blocks.times array
  apply Owns.ite
  · intro _
    have split : blocks.owned = (blocks.times array).toList +
        (({blocks.self} : Multiset Block) + blocks.pairs.toList +
          blocks.packets + rest + blocks.lost.map Prod.snd) := by
      rw [owned, before]
      abel
    apply (Owns.realloc (blocks.times array)).bind split
    intro block _
    apply Owns.pure
    · simp only [owned, setTimes, after]
      abel
    · exact blocks.setTimes_renews array block held
  · intro _
    exact Owns.pure rfl (Renews.refl blocks)

private theorem initializeEmpty_owns
    (array : TimeArray) (times : GrowArray ℚ) :
    Owns (blocks.initializeEmpty array times) blocks.owned owned
      (blocks.Renews (if times.count = 0 then [array] else [])) := by
  apply Owns.ite
  · intro empty
    rw [if_pos empty]
    exact blocks.initializeTimes_owns array
  · intro filled
    rw [if_neg filled]
    exact Owns.pure rfl (Renews.refl blocks)

end Steps

end FlowBlocks

/-- The packet comes so late that `update_active_idle` stores an idle
time. -/
def Flow.OpensPeriod (flow : Flow) (packet : Packet) : Prop :=
  (flow.latestTimestamp ≠ 0 ∧
      packet.time - flow.latestTimestamp > clumpTimeout) ∧
    packet.time - flow.latestTimestamp - flow.lastActive > activeTimeout

instance (flow : Flow) (packet : Packet) :
    Decidable (flow.OpensPeriod packet) :=
  inferInstanceAs (Decidable ((_ ∧ _) ∧ _))

/-- The array, if it is empty. -/
def Flow.emptyArray (flow : Flow) (array : TimeArray) : List TimeArray :=
  if (flow.timeArray array).count = 0 then [array] else []

/-- The arrays that `add_packet_to_flow` allocates. -/
def Flow.initializations (flow : Flow) (packet : Packet) :
    List TimeArray :=
  (if flow.OpensPeriod packet then
      flow.emptyArray .active ++ flow.emptyArray .idle
    else []) ++
    flow.emptyArray .flowInterarrivalTime

namespace FlowBlocks

variable {blocks : FlowBlocks} {flow : Flow}

/-- An array that is not empty has a block. -/
def Held (blocks : FlowBlocks) (flow : Flow) (array : TimeArray) : Prop :=
  (flow.timeArray array).count ≠ 0 → blocks.times array ≠ none

/-- The array has a block once it was allocated while it is empty. -/
theorem Held.initialized
    {array : TimeArray} (held : blocks.Held flow array) {after : FlowBlocks}
    {renewed : List TimeArray} (renews : blocks.Renews renewed after)
    (allocates : (flow.timeArray array).count = 0 → array ∈ renewed) :
    after.times array ≠ none := by
  apply renews.pointer
  by_cases empty : (flow.timeArray array).count = 0
  · exact Or.inr (allocates empty)
  · exact Or.inl (held empty)

private theorem updateActiveIdle_owns
    (held : ∀ array, blocks.Held flow array) (currentTime : ℚ) :
    Owns (blocks.updateActiveIdle flow currentTime) blocks.owned owned
      (blocks.Renews
        (if currentTime - flow.lastActive > activeTimeout then
          flow.emptyArray .active ++ flow.emptyArray .idle
        else [])) := by
  apply Owns.ite
  · intro long
    rw [if_pos long]
    apply (blocks.initializeEmpty_owns .active flow.active).bind
      (add_zero _).symm
    intro first firstRenews
    rw [add_zero]
    apply (first.initializeEmpty_owns .idle flow.idle).bind
      (add_zero _).symm
    intro second secondRenews
    rw [add_zero]
    have renews := firstRenews.trans secondRenews
    have activeHeld : second.times .active ≠ none := by
      apply (held .active).initialized renews
      intro empty
      have noActive : flow.active.count = 0 := empty
      rw [if_pos noActive]
      exact List.mem_append_left _ List.mem_cons_self
    have idleHeld : second.times .idle ≠ none := by
      apply (held .idle).initialized renews
      intro empty
      have noIdle : flow.idle.count = 0 := empty
      rw [if_pos noIdle]
      exact List.mem_append_right _ List.mem_cons_self
    have appended : Owns
        (if |flow.lastActive - flow.startActive| > 0 then
          second.appendActive (if flow.active.count = 0 then
            initializeActive 5 else flow.active)
        else pure second) second.owned owned (second.Renews []) := by
      apply Owns.ite
      · exact fun _ => second.growTimes_owns .active _ activeHeld
      · exact fun _ => Owns.pure rfl (Renews.refl second)
    apply appended.bind (add_zero _).symm
    intro third thirdRenews
    rw [add_zero]
    apply (third.growTimes_owns .idle _
      (thirdRenews.pointer .idle (Or.inl idleHeld))).weaken rfl
    · exact fun _ _ => rfl
    · intro last lastRenews
      have all := renews.trans (thirdRenews.trans lastRenews)
      rw [List.append_nil, List.append_nil] at all
      exact all
  · intro short
    rw [if_neg short]
    exact Owns.pure rfl (Renews.refl blocks)

private theorem updateSubflow_owns
    (held : ∀ array, blocks.Held flow array) (packet : Packet) :
    Owns (blocks.updateSubflow flow packet) blocks.owned owned
      (blocks.Renews
        (if flow.OpensPeriod packet then
          flow.emptyArray .active ++ flow.emptyArray .idle
        else [])) := by
  rw [updateSubflow]
  by_cases unset : flow.latestTimestamp = 0
  · have noGap : ¬ packet.time - packet.time > clumpTimeout := by
      rw [sub_self]
      decide
    have noPeriod : ¬ flow.OpensPeriod packet := fun opens =>
      opens.1.1 unset
    simp only [unset, ne_eq, not_true_eq_false, if_false, if_neg noGap,
      if_neg noPeriod]
    exact Owns.pure rfl (Renews.refl blocks)
  · simp only [ne_eq, unset, not_false_eq_true, if_true]
    apply Owns.ite
    · intro clump
      have same : (flow.OpensPeriod packet) =
          (packet.time - flow.latestTimestamp - flow.lastActive >
            activeTimeout) :=
        propext (and_iff_right ⟨unset, clump⟩)
      simp only [same]
      exact updateActiveIdle_owns held _
    · intro noClump
      rw [if_neg fun opens : flow.OpensPeriod packet => noClump opens.1.2]
      exact Owns.pure rfl (Renews.refl blocks)

private theorem recordInterarrival_owns
    (held : blocks.Held flow .flowInterarrivalTime) :
    Owns (blocks.recordInterarrival flow) blocks.owned owned
      (blocks.Renews (flow.emptyArray .flowInterarrivalTime)) := by
  apply (blocks.initializeEmpty_owns .flowInterarrivalTime
    flow.flowInterarrivalTime).bind (add_zero _).symm
  intro first renews
  rw [add_zero]
  have firstHeld : first.times .flowInterarrivalTime ≠ none := by
    apply held.initialized renews
    intro empty
    have noTimes : flow.flowInterarrivalTime.count = 0 := empty
    rw [if_pos noTimes]
    exact List.mem_cons_self
  apply Owns.ite
  · intro _
    apply (first.growTimes_owns .flowInterarrivalTime _ firstHeld).weaken
      rfl
    · exact fun _ _ => rfl
    · intro last lastRenews
      have all := renews.trans lastRenews
      rw [List.append_nil] at all
      exact all
  · exact fun _ => Owns.pure rfl renews

/-- `add_packet_to_flow` keeps everything that it allocates, in the pointers
of the flow or among what the flow has lost. -/
theorem addPacketToFlow_owns
    (held : ∀ array, blocks.Held flow array) (packet : Packet)
    (direction : PacketDirection) :
    Owns (blocks.addPacketToFlow flow packet direction) blocks.owned owned
      (blocks.Renews (flow.initializations packet)) := by
  have latest := bulk_recordPair_frame flow packet direction
    Flow.latestTimestamp (fun _ => rfl) (fun _ _ => rfl)
  have lastActive := bulk_recordPair_frame flow packet direction
    Flow.lastActive (fun _ => rfl) (fun _ _ => rfl)
  have arrays := bulk_recordPair_frame flow packet direction
    Flow.timeArray (fun _ => rfl) (fun _ _ => rfl)
  apply (blocks.recordPair_owns flow).bind (add_zero _).symm
  intro first firstRenews
  rw [add_zero]
  dsimp only
  generalize updateFlowBulk (UzFlowMeter.recordPair flow packet direction)
    packet direction = charged at latest lastActive arrays ⊢
  have firstHeld : ∀ array, first.Held charged array := by
    intro array filled
    rw [arrays] at filled
    exact firstRenews.pointer array (Or.inl (held array filled))
  have sameEmpty : charged.emptyArray = flow.emptyArray := by
    funext array
    rw [Flow.emptyArray, Flow.emptyArray, arrays]
  have samePeriod : charged.OpensPeriod packet =
      flow.OpensPeriod packet := by
    rw [Flow.OpensPeriod, Flow.OpensPeriod, latest, lastActive]
  have sameTimes : (UzFlowMeter.updateSubflow charged packet).timeArray
      .flowInterarrivalTime = charged.timeArray .flowInterarrivalTime := by
    have cleared := updateSubflow_clearActivity charged packet
    have same := congrArg Flow.flowInterarrivalTime cleared
    exact same
  have sameFirst : (UzFlowMeter.updateSubflow charged packet).emptyArray
      .flowInterarrivalTime = flow.emptyArray .flowInterarrivalTime := by
    rw [← sameEmpty, Flow.emptyArray, Flow.emptyArray, sameTimes]
  apply (updateSubflow_owns firstHeld packet).bind (add_zero _).symm
  intro second secondRenews
  rw [add_zero]
  have secondHeld : second.Held (UzFlowMeter.updateSubflow charged packet)
      .flowInterarrivalTime := by
    intro filled
    rw [sameTimes] at filled
    exact secondRenews.pointer _ (Or.inl (firstHeld _ filled))
  apply (recordInterarrival_owns secondHeld).weaken rfl
  · exact fun _ _ => rfl
  · intro last lastRenews
    have all := firstRenews.trans (secondRenews.trans lastRenews)
    rw [List.nil_append, sameFirst] at all
    simp only [samePeriod, sameEmpty] at all
    exact all

/-! ## `free_flow` and `get_packet_iat` -/

/-- Only what the flow has lost stays behind. -/
theorem freeFlow_owns (blocks : FlowBlocks) :
    Owns blocks.freeFlow blocks.owned
      (fun _ => (blocks.lost.map Prod.snd : List Block))
      fun _ => True := by
  have packets : Owns blocks.freePackets
      (blocks.packets + blocks.pairs.toList) (fun _ => 0)
      fun _ => True := by
    apply (Owns.freeAll blocks.packets).bind rfl
    intro _ _
    rw [zero_add]
    exact Owns.freePointer blocks.pairs
  have split : blocks.owned =
      (blocks.packets + blocks.pairs.toList : Multiset Block) +
        ((blocks.times .flowInterarrivalTime).toList +
          ((blocks.times .active).toList + ((blocks.times .idle).toList +
            ({blocks.self} + blocks.lost.map Prod.snd)))) := by
    rw [owned, timeBlocks]
    abel
  apply packets.bind split
  intro _ _
  rw [zero_add]
  apply (Owns.freePointer _).bind rfl
  intro _ _
  rw [zero_add]
  apply (Owns.freePointer _).bind rfl
  intro _ _
  rw [zero_add]
  apply (Owns.freePointer _).bind rfl
  intro _ _
  rw [zero_add]
  intro heap others accounts
  rw [add_assoc] at accounts
  obtain ⟨result, after, ran, -, freed⟩ :=
    Owns.free blocks.self heap _ accounts
  rw [zero_add] at freed
  exact ⟨result, after, ran, trivial, freed⟩

/-- The array of the packets of the direction is freed, that of their gaps is
returned. -/
theorem getPacketIat_owns (flow : Flow) (side : PacketDirection) :
    Owns (getPacketIat flow side) 0
      (fun pointer => (pointer.toList : Multiset Block))
      fun pointer => pointer.toList.length =
        if (flow.pairs.filter fun pair => pair.direction = side).length < 2
        then 0 else 1 := by
  apply Owns.malloc.bind (zero_add 0).symm
  intro filtered _
  apply Owns.ite
  · intro few
    apply (Owns.free filtered).bind rfl
    intro _ _
    apply Owns.pure
    · rfl
    · rw [if_pos few]
      rfl
  · intro several
    apply Owns.malloc.bind (zero_add _).symm
    intro packetIat _
    have split : ({packetIat} : Multiset Block) + ({filtered} + 0) =
        {filtered} + {packetIat} := by
      rw [add_zero, add_comm]
    apply (Owns.free filtered).bind split
    intro _ _
    apply Owns.pure
    · rw [zero_add]
      rfl
    · rw [if_neg several]
      rfl

end FlowBlocks

/-- The arrays that a zeroed flow allocates as it records the pairs. -/
def allocations (pairs : List Pair) : List TimeArray :=
  (pairs.foldl (fun state pair =>
    (state.1.record pair, state.2 ++ state.1.initializations pair.packet))
    (({}, []) : Flow × List TimeArray)).2

private theorem allocations_concat (pairs : List Pair) (last : Pair) :
    allocations (pairs ++ [last]) =
      allocations pairs ++ (flowOf pairs).initializations last.packet := by
  have states : ∀ pairs : List Pair,
      (pairs.foldl (fun state pair =>
        (state.1.record pair,
          state.2 ++ state.1.initializations pair.packet))
        (({}, []) : Flow × List TimeArray)).1 = flowOf pairs := by
    intro pairs
    induction pairs using List.reverseRecOn with
    | nil =>
        rfl
    | append_singleton pairs last inductionHypothesis =>
        rw [List.foldl_append, List.foldl_cons, List.foldl_nil,
          inductionHypothesis, flowOf_concat]
  rw [allocations, List.foldl_append, List.foldl_cons, List.foldl_nil,
    states]
  rfl

private theorem Flow.SameTraces.initializations_eq
    {flow other : Flow} (same : flow.SameTraces other) (packet : Packet) :
    flow.initializations packet = other.initializations packet := by
  have count : ∀ array, (flow.timeArray array).count =
      (other.timeArray array).count := by
    intro array
    cases array with
    | flowInterarrivalTime =>
        exact congrArg List.length same.interarrivalTimes
    | active =>
        exact congrArg (fun activity => activity.active.count) same.activity
    | idle =>
        exact congrArg (fun activity => activity.idle.count) same.activity
  have empty : flow.emptyArray = other.emptyArray := by
    funext array
    rw [emptyArray, emptyArray, count]
  have lastActive : flow.lastActive = other.lastActive :=
    congrArg Activity.lastActive same.activity
  have period : flow.OpensPeriod packet ↔ other.OpensPeriod packet := by
    rw [OpensPeriod, OpensPeriod, same.latest, lastActive]
  rw [initializations, initializations, empty, if_congr period rfl rfl]

/-- Without a new period the active and idle times stay. -/
theorem record_of_not_opensPeriod
    {flow : Flow} {pair : Pair} (within : ¬ flow.OpensPeriod pair.packet) :
    (flow.record pair).active = flow.active ∧
      (flow.record pair).idle = flow.idle := by
  have activity := addPacketToFlow_activity flow pair.packet pair.direction
  have same : (flow.record pair).activity.active = flow.active ∧
      (flow.record pair).activity.idle = flow.idle := by
    rw [Flow.record, activity]
    split_ifs with clump
    · have short : ¬ pair.packet.time - flow.latestTimestamp -
          flow.activity.lastActive > activeTimeout := fun long =>
        within ⟨clump, long⟩
      rw [Activity.update_of_short short]
      exact ⟨rfl, rfl⟩
    · exact ⟨rfl, rfl⟩
  exact same

/-- A new period brings an idle time. -/
theorem record_idle_of_opensPeriod
    {flow : Flow} {pair : Pair} (opens : flow.OpensPeriod pair.packet) :
    (flow.record pair).idle.count = flow.idle.count + 1 := by
  have activity := addPacketToFlow_activity flow pair.packet pair.direction
  have long : pair.packet.time - flow.latestTimestamp -
      flow.activity.lastActive > activeTimeout := opens.2
  have items : (flow.record pair).activity.idle.items =
      flow.idle.items ++ [1000000 * (pair.packet.time -
        flow.latestTimestamp - flow.activity.lastActive)] := by
    rw [Flow.record, activity, if_pos opens.1]
    exact (Activity.update_of_long long).2.2.1
  have lengths := congrArg List.length items
  rw [List.length_append] at lengths
  exact lengths

/-- An array that a call fills was not empty before or is allocated by the
call. -/
theorem timeArray_record
    (flow : Flow) (pair : Pair) (array : TimeArray)
    (filled : ((flow.record pair).timeArray array).count ≠ 0) :
    (flow.timeArray array).count ≠ 0 ∨
      array ∈ flow.initializations pair.packet := by
  rw [or_iff_not_imp_left, not_not]
  intro empty
  have isEmpty : array ∈ flow.emptyArray array := by
    rw [Flow.emptyArray, if_pos empty]
    exact List.mem_cons_self
  rw [Flow.initializations, List.mem_append]
  by_cases opens : flow.OpensPeriod pair.packet
  · rw [if_pos opens, List.mem_append]
    cases array with
    | flowInterarrivalTime =>
        exact Or.inr isEmpty
    | active =>
        exact Or.inl (Or.inl isEmpty)
    | idle =>
        exact Or.inl (Or.inr isEmpty)
  · obtain ⟨sameActive, sameIdle⟩ := record_of_not_opensPeriod opens
    cases array with
    | flowInterarrivalTime =>
        exact Or.inr isEmpty
    | active =>
        exact absurd ((congrArg GrowArray.count sameActive).trans empty)
          filled
    | idle =>
        exact absurd ((congrArg GrowArray.count sameIdle).trans empty)
          filled

/-- The idle times are allocated once. -/
theorem count_idle_allocations (pairs : List Pair) :
    (allocations pairs).count .idle =
      min (flowOf pairs).idle.count 1 := by
  induction pairs using List.reverseRecOn with
  | nil =>
      rfl
  | append_singleton pairs last inductionHypothesis =>
      have others : ((flowOf pairs).emptyArray .flowInterarrivalTime).count
          TimeArray.idle = 0 ∧
          ((flowOf pairs).emptyArray .active).count TimeArray.idle = 0 := by
        rw [Flow.emptyArray, Flow.emptyArray]
        constructor <;> split_ifs <;> rfl
      rw [allocations_concat, List.count_append, inductionHypothesis,
        flowOf_concat, Flow.initializations, List.count_append, others.1]
      by_cases opens : (flowOf pairs).OpensPeriod last.packet
      · rw [if_pos opens, List.count_append, others.2,
          record_idle_of_opensPeriod opens, Flow.emptyArray]
        split_ifs with empty
        · have noIdle : (flowOf pairs).idle.count = 0 := empty
          rw [noIdle]
          rfl
        · have someIdle : (flowOf pairs).idle.count ≠ 0 := empty
          rw [List.count_nil]
          omega
      · rw [if_neg opens, (record_of_not_opensPeriod opens).2]
        rfl

/-- At positive times every packet but the first brings an inter-arrival
time. -/
theorem flowOf_interarrival_count
    {pairs : List Pair} (positive : ∀ time ∈ timesOf pairs, 0 < time) :
    (flowOf pairs).flowInterarrivalTime.count = pairs.length - 1 := by
  induction pairs using List.reverseRecOn with
  | nil =>
      rfl
  | append_singleton pairs last inductionHypothesis =>
      rw [timesOf_concat] at positive
      have earlier : ∀ time ∈ timesOf pairs, 0 < time :=
        fun time member => positive time (List.mem_append_left _ member)
      have count := inductionHypothesis earlier
      have start := flowOf_startTimestamp earlier
      rw [GrowArray.count] at count ⊢
      rw [flowOf_concat, Flow.record, addPacketToFlow_interarrivalTimes,
        List.length_append, count, List.length_append,
        List.length_singleton, start]
      cases pairs with
      | nil =>
          rfl
      | cons first rest =>
          have set : (timesOf (first :: rest)).headD 0 ≠ 0 :=
            ne_of_gt (earlier _ List.mem_cons_self)
          rw [if_neg set]
          simp

/-- The inter-arrival times of packets at positive times are allocated for
the first packet and again for the second one. -/
theorem count_interarrival_allocations
    {pairs : List Pair} (positive : ∀ time ∈ timesOf pairs, 0 < time) :
    (allocations pairs).count .flowInterarrivalTime =
      min pairs.length 2 := by
  induction pairs using List.reverseRecOn with
  | nil =>
      rfl
  | append_singleton pairs last inductionHypothesis =>
      rw [timesOf_concat] at positive
      have earlier : ∀ time ∈ timesOf pairs, 0 < time :=
        fun time member => positive time (List.mem_append_left _ member)
      have others : (if (flowOf pairs).OpensPeriod last.packet then
          (flowOf pairs).emptyArray .active ++
            (flowOf pairs).emptyArray .idle
          else []).count TimeArray.flowInterarrivalTime = 0 := by
        rw [Flow.emptyArray, Flow.emptyArray]
        split_ifs <;> rfl
      rw [allocations_concat, List.count_append,
        inductionHypothesis earlier, Flow.initializations,
        List.count_append, others, Flow.emptyArray, Flow.timeArray,
        flowOf_interarrival_count earlier, List.length_append,
        List.length_singleton]
      split_ifs with few
      · rw [List.count_singleton_self]
        omega
      · rw [List.count_nil]
        omega

namespace FlowBlocks

/-- The blocks are those of the flow: each array was allocated as often as
the pairs of the flow say. -/
structure Keeps (blocks : FlowBlocks) (flow : Flow) : Prop where
  held : ∀ array, blocks.Held flow array
  pointed : ∀ array, blocks.times array = none →
    (allocations flow.pairs).count array = 0
  allocated : ∀ array,
    blocks.allocated array = (allocations flow.pairs).count array

/-- The last block of an array is not lost. -/
theorem Keeps.count_lost
    {blocks : FlowBlocks} {flow : Flow} (keeps : blocks.Keeps flow)
    (array : TimeArray) :
    (blocks.lost.map Prod.fst).count array =
      (allocations flow.pairs).count array - 1 := by
  have allocated := keeps.allocated array
  rw [FlowBlocks.allocated] at allocated
  cases pointer : blocks.times array with
  | none =>
      have never := keeps.pointed array pointer
      omega
  | some block =>
      rw [pointer, Option.toList_some, List.length_singleton] at allocated
      omega

theorem Keeps.record
    {before after : FlowBlocks} {flow : Flow} (keeps : before.Keeps flow)
    (recorded : flow.Recorded) (pair : Pair)
    (renews : before.Renews (flow.initializations pair.packet) after) :
    after.Keeps (flow.record pair) := by
  have counts : ∀ array,
      (allocations (flow.record pair).pairs).count array =
        (allocations flow.pairs).count array +
          (flow.initializations pair.packet).count array := by
    intro array
    have pairs : (flow.record pair).pairs = flow.pairs ++ [pair] :=
      addPacketToFlow_pairs flow pair.packet pair.direction
    rw [pairs, allocations_concat, List.count_append,
      recorded.initializations_eq pair.packet]
  refine ⟨?_, ?_, ?_⟩
  · intro array filled
    apply renews.pointer
    rcases timeArray_record flow pair array filled with old | new
    · exact Or.inl (keeps.held array old)
    · exact Or.inr new
  · intro array pointer
    have before : before.times array = none ∧
        array ∉ flow.initializations pair.packet := by
      have none := mt (renews.pointer array) (not_not.mpr pointer)
      rw [not_or, not_not] at none
      exact none
    rw [counts, keeps.pointed array before.1,
      List.count_eq_zero_of_not_mem before.2]
  · intro array
    rw [renews.allocated, keeps.allocated, counts]

theorem keeps_new (self : Block) (packett : Packet) :
    FlowBlocks.Keeps { self := self } (newFlow packett) where
  held := by
    intro array filled
    cases array <;> exact absurd rfl filled
  pointed := fun _ _ => rfl
  allocated := fun _ => rfl

end FlowBlocks

end UzFlowMeter
