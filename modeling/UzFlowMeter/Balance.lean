import UzFlowMeter.Custody
import UzFlowMeter.Recording

/-!
# Who owns which block

Beside the blocks of local variables, what the session leads to and what is
lost are all the blocks there are.  A call changes the blocks of one flow at
most; a flow that it leaves alone stays as settled as it was.
-/

namespace UzFlowMeter

open Allocating

namespace Custody

/-- The key and the blocks of a flow. -/
def ownedBy (custody : Custody) (flow : FlowPtr) : Multiset Block :=
  (custody.keys flow).toList +
    (custody.flows flow).elim 0 FlowBlocks.owned

/-- What the session leads to, and the flow that is not in it yet. -/
def kept (custody : Custody) : Multiset Block :=
  {custody.session} + {custody.flowsArray} +
    ∑ flow ∈ Finset.range custody.meter.nextFlow, custody.ownedBy flow

/-- The number of blocks that are lost for a reason. -/
def lostTo (custody : Custody) (leak : Leak) : Nat :=
  (custody.lost.map Prod.fst).count leak

end Custody

/-- The number of blocks that a state of the meter has lost for a reason:
one copy of a key for every exported flow, an array of gaps for every
exported flow and direction with at least two packets, and all but the last
of the blocks that were allocated for an array of times. -/
def Meter.leaks (meter : Meter) : Leak → Nat
  | .key => meter.exported.length
  | .times flow array =>
      (allocations (meter.pairsOf flow)).count array - 1
  | .packetIat flow side =>
      if side = .both then 0
      else meter.exported.countP fun snapshot =>
        snapshot.flow = flow ∧
          2 ≤ (snapshot.contents.pairs.filter fun pair =>
            pair.direction = side).length

namespace Custody

/-- A flow without blocks has no key and has lost what the meter says; the
blocks of any other flow are those of its contents, and it has lost nothing
yet. -/
inductive Settled (custody : Custody) (flow : FlowPtr) : Prop
  | gone (absent : custody.flows flow = none)
      (unkeyed : custody.keys flow = none)
      (lost : ∀ array, custody.lostTo (.times flow array) =
        custody.meter.leaks (.times flow array))
  | held (blocks : FlowBlocks) (present : custody.flows flow = some blocks)
      (created : flow < custody.meter.nextFlow)
      (keeps : blocks.Keeps (custody.meter.heap flow))
      (recorded : (custody.meter.heap flow).Recorded)
      (unlost : ∀ array, custody.lostTo (.times flow array) = 0)

/-- Beside the blocks of local variables, exactly what is kept and what is
lost is allocated, and as many blocks are lost as the meter says, save for
the copies of keys that a collection still holds. -/
structure Balanced (custody : Custody) (locals : Multiset Block)
    (copies : Nat) : Prop where
  accounts : custody.heap.Accounts
    (custody.kept + custody.lost.map Prod.snd + locals)
  settled : ∀ flow, custody.Settled flow
  lostKeys : custody.lostTo .key + copies = custody.meter.exported.length
  lostGaps : ∀ flow side, custody.lostTo (.packetIat flow side) =
    custody.meter.leaks (.packetIat flow side)

variable {custody : Custody}

theorem perform_owns
    {alpha : Type} {action : Allocating alpha} {used rest : Multiset Block}
    {leaves : alpha → Multiset Block} {ensures : alpha → Prop}
    (owns : Owns action used leaves ensures)
    (accounts : custody.heap.Accounts (used + rest)) :
    ∃ result heap,
      custody.perform action =
          some (result, { custody with heap := heap }) ∧
        ensures result ∧ heap.Accounts (leaves result + rest) := by
  obtain ⟨result, heap, ran, holds, after⟩ :=
    owns custody.heap rest accounts
  refine ⟨result, heap, ?_, holds, after⟩
  rw [perform, ran, Option.map_some]

/-- Two states differ in nothing that has to do with a flow. -/
structure SameAt (before after : Custody) (flow : FlowPtr) : Prop where
  keys : after.keys flow = before.keys flow
  flows : after.flows flow = before.flows flow
  contents : after.meter.heap flow = before.meter.heap flow
  created : flow < after.meter.nextFlow ↔ flow < before.meter.nextFlow
  lost : ∀ array, after.lostTo (.times flow array) =
    before.lostTo (.times flow array)

private theorem SameAt.ownedBy_eq
    {before after : Custody} {flow : FlowPtr}
    (same : SameAt before after flow) :
    after.ownedBy flow = before.ownedBy flow := by
  rw [Custody.ownedBy, Custody.ownedBy, same.keys, same.flows]

/-- When the blocks of one flow change, those of all others stay. -/
private theorem exists_rest_of_kept
    (custody : Custody) {flow : FlowPtr}
    (created : flow < custody.meter.nextFlow) :
    ∃ rest, custody.kept = {custody.session} + {custody.flowsArray} +
        (custody.ownedBy flow + rest) ∧
      ∀ after : Custody, after.meter.nextFlow = custody.meter.nextFlow →
        (∀ other, other ≠ flow → SameAt custody after other) →
          after.kept = {after.session} + {after.flowsArray} +
            (after.ownedBy flow + rest) := by
  obtain ⟨rest, split, changed⟩ :=
    @exists_rest_of_sum_range custody.ownedBy flow _ created
  refine ⟨rest, ?_, ?_⟩
  · rw [kept, split]
  · intro after nextFlow others
    rw [kept, nextFlow, changed after.ownedBy fun other different =>
      (others other different).ownedBy_eq]

private theorem SameAt.leaks_eq
    {before after : Custody} {flow : FlowPtr}
    (same : SameAt before after flow) (array : TimeArray) :
    after.meter.leaks (.times flow array) =
      before.meter.leaks (.times flow array) := by
  have samePairs : after.meter.pairsOf flow = before.meter.pairsOf flow := by
    simp only [Meter.pairsOf, same.contents, same.created]
  rw [Meter.leaks, samePairs, Meter.leaks]

private theorem Settled.of_sameAt
    {before after : Custody} {flow : FlowPtr} (settled : before.Settled flow)
    (same : SameAt before after flow) : after.Settled flow := by
  cases settled with
  | gone absent unkeyed lost =>
      apply Settled.gone (same.flows.trans absent) (same.keys.trans unkeyed)
      intro array
      rw [same.lost, same.leaks_eq]
      exact lost array
  | held blocks present created keeps recorded unlost =>
      apply Settled.held blocks (same.flows.trans present)
        (same.created.mpr created)
      · rw [same.contents]
        exact keeps
      · rw [same.contents]
        exact recorded
      · intro array
        rw [same.lost]
        exact unlost array

theorem Settled.unkeyed
    {flow : FlowPtr} (settled : custody.Settled flow)
    (absent : custody.flows flow = none) : custody.keys flow = none := by
  cases settled with
  | gone _ unkeyed =>
      exact unkeyed
  | held blocks present =>
      cases absent.symm.trans present

theorem Settled.lost
    {flow : FlowPtr} (settled : custody.Settled flow)
    (absent : custody.flows flow = none) (array : TimeArray) :
    custody.lostTo (.times flow array) =
      custody.meter.leaks (.times flow array) := by
  cases settled with
  | gone _ _ lost =>
      exact lost array
  | held blocks present =>
      cases absent.symm.trans present

theorem Settled.created
    {flow : FlowPtr} (settled : custody.Settled flow)
    (held : custody.flows flow ≠ none) : flow < custody.meter.nextFlow := by
  cases settled with
  | gone absent =>
      exact absurd absent held
  | held _ _ created =>
      exact created

namespace Balanced

variable {locals : Multiset Block} {copies : Nat}

theorem created
    (balanced : custody.Balanced locals copies) {flow : FlowPtr}
    (held : custody.flows flow ≠ none) : flow < custody.meter.nextFlow :=
  (balanced.settled flow).created held

theorem unborn (balanced : custody.Balanced locals copies) :
    custody.flows custody.meter.nextFlow = none := by
  by_contra held
  exact Nat.lt_irrefl _ (balanced.created held)

/-- A call that changes one flow leaves all others settled. -/
theorem settled_of_others
    (balanced : custody.Balanced locals copies) {after : Custody}
    {flow : FlowPtr}
    (others : ∀ other, other ≠ flow → SameAt custody after other)
    (own : after.Settled flow) (other : FlowPtr) : after.Settled other := by
  by_cases same : other = flow
  · rw [same]
    exact own
  · exact (balanced.settled other).of_sameAt (others other same)

/-- The balance looks at the flows, the next pointer and the exports only. -/
theorem with_meter
    (balanced : custody.Balanced locals copies) {meter : Meter}
    (sameHeap : meter.heap = custody.meter.heap)
    (sameNext : meter.nextFlow = custody.meter.nextFlow)
    (sameExported : meter.exported = custody.meter.exported) :
    Balanced { custody with meter := meter } locals copies where
  accounts := by
    have sameKept : kept { custody with meter := meter } = custody.kept := by
      rw [kept, kept, sameNext]
      rfl
    rw [sameKept]
    exact balanced.accounts
  settled := by
    intro flow
    apply (balanced.settled flow).of_sameAt
    refine ⟨rfl, rfl, congrFun sameHeap flow, ?_, fun _ => rfl⟩
    rw [sameNext]
  lostKeys := by
    rw [sameExported]
    exact balanced.lostKeys
  lostGaps := by
    simp only [Meter.leaks, sameExported]
    exact balanced.lostGaps

/-- Blocks of local variables that an action leaves or frees. -/
theorem exists_perform
    (balanced : custody.Balanced locals copies) {alpha : Type}
    {action : Allocating alpha} {used rest : Multiset Block}
    {leaves : alpha → Multiset Block} {ensures : alpha → Prop}
    (owns : Owns action used leaves ensures) (split : locals = used + rest) :
    ∃ result heap,
      custody.perform action =
          some (result, { custody with heap := heap }) ∧
        ensures result ∧
          Balanced { custody with heap := heap } (leaves result + rest)
            copies := by
  have accounts := balanced.accounts
  rw [split, add_left_comm] at accounts
  obtain ⟨result, heap, ran, holds, after⟩ := perform_owns owns accounts
  rw [add_left_comm] at after
  refine ⟨result, heap, ran, holds, after, ?_, balanced.lostKeys,
    balanced.lostGaps⟩
  intro flow
  exact (balanced.settled flow).of_sameAt
    ⟨rfl, rfl, rfl, Iff.rfl, fun _ => rfl⟩

end Balanced

/-! ## What a call loses -/

private theorem count_fst_map_prodMk
    (cause leak : Leak) (blocks : List Block) :
    ((blocks.map fun block => (cause, block)).map Prod.fst).count leak =
      if cause = leak then blocks.length else 0 := by
  rw [List.map_map, Function.comp_def, List.map_const', List.count_replicate]
  simp

private theorem map_snd_prodMk (cause : Leak) (blocks : List Block) :
    (blocks.map fun block => (cause, block)).map Prod.snd = blocks := by
  rw [List.map_map, Function.comp_def, List.map_id']

private theorem lostTo_append
    (custody : Custody) {after : Custody} {added : List (Leak × Block)}
    (lost : after.lost = custody.lost ++ added) (leak : Leak) :
    after.lostTo leak =
      custody.lostTo leak + (added.map Prod.fst).count leak := by
  rw [lostTo, lostTo, lost, List.map_append, List.count_append]

private theorem leaked_blocks (blocks : FlowBlocks) (flow : FlowPtr) :
    (blocks.leaked flow).map Prod.snd = blocks.lost.map Prod.snd := by
  rw [FlowBlocks.leaked, List.map_map]
  rfl

private theorem count_leaked_self
    (blocks : FlowBlocks) (flow : FlowPtr) (array : TimeArray) :
    ((blocks.leaked flow).map Prod.fst).count (.times flow array) =
      (blocks.lost.map Prod.fst).count array := by
  have causes : (blocks.leaked flow).map Prod.fst =
      (blocks.lost.map Prod.fst).map (Leak.times flow) := by
    rw [FlowBlocks.leaked, List.map_map, List.map_map]
    rfl
  have injective : Function.Injective (Leak.times flow) := by
    intro left right same
    injection same
  rw [causes, List.count_map_of_injective _ _ injective]

private theorem count_leaked_of_ne
    {flow : FlowPtr} {leak : Leak} (blocks : FlowBlocks)
    (other : ∀ array, leak ≠ .times flow array) :
    ((blocks.leaked flow).map Prod.fst).count leak = 0 := by
  apply List.count_eq_zero_of_not_mem
  rw [FlowBlocks.leaked, List.map_map]
  intro member
  obtain ⟨⟨array, block⟩, -, same⟩ := List.mem_map.mp member
  exact other array same.symm

section Losses

variable {flow : FlowPtr} {heap : BlockHeap} {blocks : FlowBlocks}

private theorem lostTo_dropEntry (leak : Leak) :
    (dropEntry { custody with heap := heap } flow blocks).lostTo leak =
      custody.lostTo leak +
        ((blocks.leaked flow).map Prod.fst).count leak :=
  lostTo_append custody rfl leak

private theorem sameAt_dropEntry
    {other : FlowPtr} (different : other ≠ flow) :
    SameAt custody (dropEntry { custody with heap := heap } flow blocks)
      other where
  keys := Function.update_of_ne different _ _
  flows := Function.update_of_ne different _ _
  contents := rfl
  created := Iff.rfl
  lost := by
    intro array
    rw [lostTo_dropEntry, count_leaked_of_ne]
    · rfl
    · intro own same
      injection same with sameFlow
      exact different sameFlow

private theorem lostTo_dropGaps
    (forward backward : Option Block) (leak : Leak) :
    (dropGaps { custody with heap := heap } flow forward backward).lostTo
        leak =
      custody.lostTo leak +
        ((if Leak.packetIat flow .forward = leak then
            forward.toList.length else 0) +
          if Leak.packetIat flow .reverse = leak then
            backward.toList.length else 0) := by
  rw [lostTo_append custody rfl, List.map_append,
    List.count_append, count_fst_map_prodMk, count_fst_map_prodMk]

private theorem lostTo_dropKeys (copies : List Block) (leak : Leak) :
    (custody.dropKeys copies).lostTo leak =
      custody.lostTo leak + if Leak.key = leak then copies.length else 0 := by
  rw [lostTo_append custody rfl, count_fst_map_prodMk]

end Losses

/-- An export loses an array of gaps for each direction with two packets. -/
theorem leaks_packetIat_getData
    (meter : Meter) (flow other : FlowPtr) (side : PacketDirection) :
    (meter.getData flow).leaks (.packetIat other side) =
      meter.leaks (.packetIat other side) +
        if flow = other ∧ side ≠ .both ∧
          2 ≤ ((meter.heap flow).pairs.filter fun pair =>
            pair.direction = side).length then 1 else 0 := by
  have exported : (meter.getData flow).exported =
      meter.exported ++ [⟨flow, meter.heap flow⟩] := rfl
  rw [Meter.leaks, Meter.leaks]
  by_cases both : side = .both
  · simp only [both, if_true, ne_eq, not_true_eq_false, false_and, and_false,
      if_false]
  · rw [if_neg both, if_neg both, exported, List.countP_append,
      List.countP_singleton]
    simp only [decide_eq_true_eq, ne_eq, both, not_false_eq_true, true_and]

namespace Balanced

variable {locals : Multiset Block} {copies : Nat} {flow : FlowPtr}

private theorem freeKeyAndFlow_owns (key : Block) (blocks : FlowBlocks) :
    Owns (do free key; blocks.freeFlow) ({key} + blocks.owned)
      (fun _ => (blocks.lost.map Prod.snd : List Block)) fun _ => True := by
  apply (Owns.free key).bind rfl
  intro _ _
  rw [zero_add]
  exact blocks.freeFlow_owns

/-- An entry gives back its key and what its flow has not lost. -/
theorem exists_freeEntry
    (balanced : custody.Balanced locals copies)
    (keyed : custody.keys flow ≠ none) (present : custody.flows flow ≠ none) :
    ∃ heap blocks, custody.freeEntry flow =
        some (dropEntry { custody with heap := heap } flow blocks) ∧
      Balanced (dropEntry { custody with heap := heap } flow blocks) locals
        copies := by
  obtain ⟨key, isKey⟩ := Option.ne_none_iff_exists'.mp keyed
  cases balanced.settled flow with
  | gone absent =>
      exact absurd absent present
  | held blocks present created keeps recorded unlost =>
  obtain ⟨rest, split, changed⟩ := exists_rest_of_kept custody created
  have accounts : custody.heap.Accounts ({key} + blocks.owned +
      ({custody.session} + {custody.flowsArray} + rest +
        custody.lost.map Prod.snd + locals)) := by
    have all := balanced.accounts
    rw [split, ownedBy, isKey, present, Option.elim_some, Option.toList_some,
      Multiset.coe_singleton] at all
    convert all using 1
    abel
  obtain ⟨_, heap, ran, -, kept⟩ :=
    perform_owns (freeKeyAndFlow_owns key blocks) accounts
  have others : ∀ other, other ≠ flow → SameAt custody
      (dropEntry { custody with heap := heap } flow blocks) other :=
    fun other different => sameAt_dropEntry different
  have unkeyed : (dropEntry { custody with heap := heap } flow blocks).keys
      flow = none := Function.update_self _ _ _
  have absent : (dropEntry { custody with heap := heap } flow blocks).flows
      flow = none := Function.update_self _ _ _
  have keptAfter :=
    changed (dropEntry { custody with heap := heap } flow blocks) rfl others
  refine ⟨heap, blocks, ?_, ?_⟩
  · rw [Custody.freeEntry, isKey, Option.bind_some, present,
      Option.bind_some, ran, Option.map_some]
  · exact {
      accounts := by
        rw [keptAfter, ownedBy, unkeyed, absent]
        simp only [dropEntry, List.map_append, leaked_blocks,
          ← Multiset.coe_add, Option.toList_none, Option.elim_none,
          Multiset.coe_nil]
        convert kept using 1
        abel
      settled := by
        apply balanced.settled_of_others others
        apply Settled.gone absent unkeyed
        intro array
        rw [lostTo_dropEntry, unlost, count_leaked_self, keeps.count_lost,
          zero_add, Meter.leaks]
        dsimp only [dropEntry]
        rw [Meter.pairsOf_of_lt created]
      lostKeys := by
        rw [lostTo_dropEntry,
          count_leaked_of_ne blocks fun _ same => by cases same]
        exact balanced.lostKeys
      lostGaps := by
        intro other side
        rw [lostTo_dropEntry,
          count_leaked_of_ne blocks fun _ same => by cases same]
        exact balanced.lostGaps other side }

/-- The two arrays of gaps of an export are lost unless they are null. -/
theorem exists_getData
    (balanced : custody.Balanced locals copies)
    (present : custody.flows flow ≠ none) :
    ∃ heap forward backward, custody.getData flow =
        some (dropGaps { custody with heap := heap } flow forward
          backward) ∧
      Balanced (dropGaps { custody with heap := heap } flow forward backward)
        locals (copies + 1) := by
  obtain ⟨blocks, isBlocks⟩ := Option.ne_none_iff_exists'.mp present
  have start : custody.heap.Accounts
      (0 + (custody.kept + custody.lost.map Prod.snd + locals)) := by
    rw [zero_add]
    exact balanced.accounts
  obtain ⟨forward, middle, ranForward, forwardLength, middleAccounts⟩ :=
    perform_owns (FlowBlocks.getPacketIat_owns (custody.meter.heap flow)
      .forward) start
  have next : BlockHeap.Accounts { custody with heap := middle }.heap
      (0 + (forward.toList +
        (custody.kept + custody.lost.map Prod.snd + locals))) := by
    rw [zero_add]
    exact middleAccounts
  obtain ⟨backward, heap, ranBackward, backwardLength, accounts⟩ :=
    perform_owns (FlowBlocks.getPacketIat_owns (custody.meter.heap flow)
      .reverse) next
  refine ⟨heap, forward, backward, ?_, ?_⟩
  · rw [Custody.getData, isBlocks, Option.bind_some]
    dsimp only
    rw [ranForward, Option.bind_some]
    dsimp only
    rw [ranBackward, Option.map_some]
  · exact {
      accounts := by
        have sameKept : (dropGaps { custody with heap := heap } flow forward
            backward).kept = custody.kept := rfl
        rw [sameKept]
        dsimp only [dropGaps]
        rw [List.map_append, List.map_append, map_snd_prodMk, map_snd_prodMk,
          ← Multiset.coe_add, ← Multiset.coe_add]
        convert accounts using 1
        abel
      settled := by
        intro other
        apply (balanced.settled other).of_sameAt
        refine ⟨rfl, rfl, rfl, Iff.rfl, ?_⟩
        intro array
        rw [lostTo_dropGaps, if_neg Leak.noConfusion,
          if_neg Leak.noConfusion]
        rfl
      lostKeys := by
        have exported : (custody.meter.getData flow).exported.length =
            custody.meter.exported.length + 1 := List.length_append
        have before := balanced.lostKeys
        rw [lostTo_dropGaps, if_neg Leak.noConfusion,
          if_neg Leak.noConfusion]
        dsimp only [dropGaps]
        omega
      lostGaps := by
        intro other side
        have leaks := leaks_packetIat_getData custody.meter flow other side
        rw [lostTo_dropGaps, balanced.lostGaps other side]
        dsimp only [dropGaps]
        rw [leaks, forwardLength, backwardLength]
        simp only [Leak.packetIat.injEq]
        by_cases same : flow = other
        · cases side <;> simp [same] <;> split_ifs <;> omega
        · simp [same] }

/-- Copies of keys that the last pointer leaves are lost. -/
theorem of_dropKeys
    {dropped : List Block} (balanced :
      custody.Balanced ((dropped : Multiset Block) + locals)
        dropped.length) :
    (custody.dropKeys dropped).Balanced locals 0 where
  accounts := by
    have accounts := balanced.accounts
    have sameKept : (custody.dropKeys dropped).kept = custody.kept := rfl
    rw [sameKept]
    dsimp only [dropKeys]
    rw [List.map_append, map_snd_prodMk, ← Multiset.coe_add]
    convert accounts using 1
    abel
  settled := by
    intro flow
    apply (balanced.settled flow).of_sameAt
    refine ⟨rfl, rfl, rfl, Iff.rfl, ?_⟩
    intro array
    rw [lostTo_dropKeys, if_neg Leak.noConfusion]
    rfl
  lostKeys := by
    rw [lostTo_dropKeys, if_pos rfl]
    exact balanced.lostKeys
  lostGaps := by
    intro flow side
    rw [lostTo_dropKeys, if_neg Leak.noConfusion]
    exact balanced.lostGaps flow side

/-- A flow that is not freed keeps what a packet makes it allocate. -/
theorem exists_addPacketToFlow
    (balanced : custody.Balanced locals copies)
    (present : custody.flows flow ≠ none) (packet : Packet)
    (direction : PacketDirection) :
    ∃ heap blocks, custody.addPacketToFlow flow packet direction =
        some (withPacket { custody with heap := heap } flow packet direction
          blocks) ∧
      Balanced (withPacket { custody with heap := heap } flow packet
        direction blocks) locals copies := by
  cases balanced.settled flow with
  | gone absent =>
      exact absurd absent present
  | held before isBefore created keeps recorded unlost =>
  obtain ⟨rest, split, changed⟩ := exists_rest_of_kept custody created
  have accounts : custody.heap.Accounts (before.owned +
      ({custody.session} + {custody.flowsArray} +
        (custody.keys flow).toList + rest + custody.lost.map Prod.snd +
          locals)) := by
    have all := balanced.accounts
    rw [split, ownedBy, isBefore, Option.elim_some] at all
    convert all using 1
    abel
  obtain ⟨blocks, heap, ran, renews, kept⟩ :=
    perform_owns (FlowBlocks.addPacketToFlow_owns keeps.held packet
      direction) accounts
  have others : ∀ other, other ≠ flow → SameAt custody
      (withPacket { custody with heap := heap } flow packet direction blocks)
      other := fun other different =>
    ⟨rfl, Function.update_of_ne different _ _,
      Function.update_of_ne different _ _, Iff.rfl, fun _ => rfl⟩
  have own : (withPacket { custody with heap := heap } flow packet direction
      blocks).flows flow = some blocks := Function.update_self _ _ _
  have contents : (withPacket { custody with heap := heap } flow packet
      direction blocks).meter.heap flow =
        (custody.meter.heap flow).record ⟨packet, direction⟩ :=
    Function.update_self _ _ _
  have keptAfter := changed (withPacket { custody with heap := heap } flow
    packet direction blocks) rfl others
  refine ⟨heap, blocks, ?_, ?_⟩
  · rw [Custody.addPacketToFlow, isBefore, Option.bind_some, ran,
      Option.map_some]
  · exact {
      accounts := by
        rw [keptAfter, ownedBy, own, Option.elim_some]
        dsimp only [withPacket]
        convert kept using 1
        abel
      settled := by
        apply balanced.settled_of_others others
        apply Settled.held blocks own created
        · rw [contents]
          exact keeps.record recorded ⟨packet, direction⟩ renews
        · rw [contents]
          exact recorded.record ⟨packet, direction⟩
        · exact unlost
      lostKeys := balanced.lostKeys
      lostGaps := balanced.lostGaps }

private theorem kept_withNewFlow
    (balanced : custody.Balanced locals copies) (packett : Packet)
    (heap : BlockHeap) (self : Block)
    (others : ∀ other, other ≠ custody.meter.nextFlow → SameAt custody
      (withNewFlow { custody with heap := heap } packett self) other) :
    (withNewFlow { custody with heap := heap } packett self).kept =
      custody.kept + {self} := by
  have ownedNew : FlowBlocks.owned { self := self } = {self} := by
    simp [FlowBlocks.owned, FlowBlocks.timeBlocks]
  have unkeyed := (balanced.settled custody.meter.nextFlow).unkeyed
    balanced.unborn
  have ownedOwn : (withNewFlow { custody with heap := heap } packett
      self).ownedBy custody.meter.nextFlow = {self} := by
    rw [ownedBy]
    dsimp only [withNewFlow]
    rw [Function.update_self, Option.elim_some, ownedNew, unkeyed]
    exact zero_add _
  have ownedOthers : ∑ flow ∈ Finset.range custody.meter.nextFlow,
      (withNewFlow { custody with heap := heap } packett self).ownedBy
        flow =
      ∑ flow ∈ Finset.range custody.meter.nextFlow, custody.ownedBy flow :=
    Finset.sum_congr rfl fun flow member =>
      (others flow (Nat.ne_of_lt (Finset.mem_range.mp member))).ownedBy_eq
  have nextFlow : (withNewFlow { custody with heap := heap } packett
      self).meter.nextFlow = custody.meter.nextFlow + 1 := rfl
  rw [Custody.kept, nextFlow, Finset.sum_range_succ, ownedOthers, ownedOwn,
    Custody.kept]
  exact (add_assoc _ _ _).symm

theorem exists_allocateFlow
    (balanced : custody.Balanced locals copies) (packett : Packet) :
    ∃ heap self, custody.allocateFlow packett =
        some (withNewFlow { custody with heap := heap } packett self,
          custody.meter.nextFlow) ∧
      Balanced (withNewFlow { custody with heap := heap } packett self)
        locals copies := by
  have unborn := balanced.unborn
  have settled := balanced.settled custody.meter.nextFlow
  have accounts : custody.heap.Accounts
      (0 + (custody.kept + custody.lost.map Prod.snd + locals)) := by
    rw [zero_add]
    exact balanced.accounts
  obtain ⟨self, heap, ran, -, kept⟩ := perform_owns Owns.malloc accounts
  have others : ∀ other, other ≠ custody.meter.nextFlow → SameAt custody
      (withNewFlow { custody with heap := heap } packett self) other := by
    intro other different
    refine ⟨rfl, Function.update_of_ne different _ _,
      Function.update_of_ne different _ _, ?_, fun _ => rfl⟩
    exact Nat.lt_succ_iff_lt_or_eq.trans (or_iff_left different)
  have own : (withNewFlow { custody with heap := heap } packett self).flows
      custody.meter.nextFlow = some { self := self } :=
    Function.update_self _ _ _
  have contents : (withNewFlow { custody with heap := heap } packett
      self).meter.heap custody.meter.nextFlow = newFlow packett :=
    Function.update_self _ _ _
  have keptAfter := balanced.kept_withNewFlow packett heap self others
  refine ⟨heap, self, ?_, ?_⟩
  · rw [Custody.allocateFlow, ran, Option.map_some]
  · exact {
      accounts := by
        rw [keptAfter]
        dsimp only [withNewFlow]
        convert kept using 1
        abel
      settled := by
        apply balanced.settled_of_others others
        apply Settled.held { self := self } own (Nat.lt_succ_self _)
        · rw [contents]
          exact FlowBlocks.keeps_new self packett
        · rw [contents]
          exact Flow.recorded_newFlow packett
        · intro array
          refine (settled.lost unborn array).trans ?_
          rw [Meter.leaks, Meter.pairsOf_of_le (Nat.le_refl _)]
          rfl
      lostKeys := balanced.lostKeys
      lostGaps := balanced.lostGaps }

private theorem growFlows_owns (custody : Custody) :
    Owns custody.growFlows {custody.flowsArray} (fun block => {block})
      fun _ => True := by
  apply Owns.ite
  · exact fun _ => Owns.realloc (some custody.flowsArray)
  · exact fun _ => Owns.pure rfl trivial

/-- The entry takes the flow and a copy of the key. -/
theorem exists_addFlow
    (balanced : custody.Balanced locals copies)
    (present : custody.flows flow ≠ none) (unkeyed : custody.keys flow = none)
    (flowKey : CString) (count : Nat) :
    ∃ heap flowsArray key, custody.addFlow flowKey flow count =
        some (withEntry { custody with heap := heap } flowKey flow count
          flowsArray key) ∧
      Balanced (withEntry { custody with heap := heap } flowKey flow count
        flowsArray key) locals copies := by
  cases balanced.settled flow with
  | gone absent =>
      exact absurd absent present
  | held blocks isBlocks created keeps recorded unlost =>
  obtain ⟨rest, split, changed⟩ := exists_rest_of_kept custody created
  have accounts : custody.heap.Accounts ({custody.flowsArray} +
      ({custody.session} + custody.ownedBy flow + rest +
        custody.lost.map Prod.snd + locals)) := by
    have all := balanced.accounts
    rw [split] at all
    convert all using 1
    abel
  obtain ⟨flowsArray, grown, ranGrow, -, grownAccounts⟩ :=
    perform_owns (growFlows_owns custody) accounts
  have grownCustody :
      BlockHeap.Accounts { custody with heap := grown }.heap (0 +
        ({flowsArray} + ({custody.session} + custody.ownedBy flow + rest +
          custody.lost.map Prod.snd + locals))) := by
    rw [zero_add]
    exact grownAccounts
  obtain ⟨key, heap, ranKey, -, keyAccounts⟩ :=
    perform_owns Owns.malloc grownCustody
  have others : ∀ other, other ≠ flow → SameAt custody
      (withEntry { custody with heap := heap } flowKey flow count flowsArray
        key) other := fun other different =>
    ⟨Function.update_of_ne different _ _, rfl, rfl, Iff.rfl, fun _ => rfl⟩
  have own : (withEntry { custody with heap := heap } flowKey flow count
      flowsArray key).ownedBy flow = {key} + custody.ownedBy flow := by
    rw [ownedBy, ownedBy, unkeyed]
    dsimp only [withEntry]
    rw [Function.update_self, Option.toList_some, Option.toList_none,
      Multiset.coe_singleton, Multiset.coe_nil, zero_add]
  have keptAfter := changed (withEntry { custody with heap := heap } flowKey
    flow count flowsArray key) rfl others
  refine ⟨heap, flowsArray, key, ?_, ?_⟩
  · rw [Custody.addFlow, ranGrow, Option.bind_some]
    dsimp only
    rw [ranKey, Option.map_some]
  · exact {
      accounts := by
        rw [keptAfter, own]
        dsimp only [withEntry]
        convert keyAccounts using 1
        abel
      settled := balanced.settled_of_others others
        (Settled.held blocks isBlocks created keeps recorded unlost)
      lostKeys := balanced.lostKeys
      lostGaps := balanced.lostGaps }

end Balanced

end Custody

end UzFlowMeter
