import UzFlowMeter.Balance
import UzFlowMeter.Capture
import UzFlowMeter.Simulation

/-!
# What a run frees

Along every run of `main` the flows of the session have their blocks and
those that were exported have none, so that nothing is freed twice or looked
at after it was freed.  At the end only the lost blocks are left.
-/

namespace UzFlowMeter

open Allocating

namespace Custody

/-- The flows of the session are different and have their blocks, those that
were exported have none. -/
structure Sound (custody : Custody) (locals : Multiset Block)
    (copies : Nat) : Prop extends Balanced custody locals copies where
  ordered : (custody.meter.session.entries.map Flows.flow).Pairwise (· < ·)
  live : ∀ entry ∈ custody.meter.session.entries,
    custody.keys entry.flow ≠ none ∧ custody.flows entry.flow ≠ none
  freed : ∀ snapshot ∈ custody.meter.exported,
    snapshot.flow < custody.meter.nextFlow ∧
      custody.flows snapshot.flow = none

/-- The new flow is in no entry and has no key yet. -/
structure Fresh (custody : Custody) (flow : FlowPtr) : Prop where
  held : custody.flows flow ≠ none
  unkeyed : custody.keys flow = none
  newest : ∀ entry ∈ custody.meter.session.entries, entry.flow < flow

/-- A collection holds its list and the copies of the keys; every flow that
has left the session has left its copy. -/
def Collecting (custody : Custody) (keys : Block) (copies : List Block) :
    Prop :=
  ∃ gone, custody.Sound ({keys} + copies) gone ∧
    custody.meter.session.flowCount + gone = copies.length

namespace Sound

variable {custody : Custody} {locals : Multiset Block} {copies : Nat}
  {flow : FlowPtr}

private theorem live_of_getFlow
    (sound : custody.Sound locals copies) {key : CString} {count : Nat}
    (found : getFlow custody.meter.session key count = some flow) :
    custody.flows flow ≠ none := by
  obtain ⟨entry, member, -, -, rfl⟩ := getFlow_eq_some found
  exact (sound.live entry member).2

private theorem live_of_getFlowByItsKey
    (sound : custody.Sound locals copies) {key : CString}
    (found : getFlowByItsKey custody.meter.session key = some flow) :
    custody.keys flow ≠ none ∧ custody.flows flow ≠ none := by
  obtain ⟨entry, member, -, rfl⟩ := getFlowByItsKey_eq_some found
  exact sound.live entry member

private theorem read_eq_some
    (held : custody.flows flow ≠ none) (value : Flow → ℚ) :
    custody.read flow value = some (value (custody.meter.heap flow)) := by
  obtain ⟨blocks, present⟩ := Option.ne_none_iff_exists'.mp held
  rw [read, present, Option.map_some]

theorem with_meter
    (sound : custody.Sound locals copies) {meter : Meter}
    (sameFlows : meter.session.flows = custody.meter.session.flows)
    (sameHeap : meter.heap = custody.meter.heap)
    (sameNext : meter.nextFlow = custody.meter.nextFlow)
    (sameExported : meter.exported = custody.meter.exported) :
    Sound { custody with meter := meter } locals copies where
  toBalanced :=
    sound.toBalanced.with_meter sameHeap sameNext sameExported
  ordered := by
    rw [FlowSession.entries, sameFlows]
    exact sound.ordered
  live := by
    rw [FlowSession.entries, sameFlows]
    exact sound.live
  freed := by
    rw [sameExported, sameNext]
    exact sound.freed

theorem exists_perform
    (sound : custody.Sound locals copies) {alpha : Type}
    {action : Allocating alpha} {used rest : Multiset Block}
    {leaves : alpha → Multiset Block} {ensures : alpha → Prop}
    (owns : Owns action used leaves ensures) (split : locals = used + rest) :
    ∃ result heap,
      custody.perform action =
          some (result, { custody with heap := heap }) ∧
        ensures result ∧
          Sound { custody with heap := heap } (leaves result + rest)
            copies := by
  obtain ⟨result, heap, ran, holds, balanced⟩ :=
    sound.toBalanced.exists_perform owns split
  exact ⟨result, heap, ran, holds,
    ⟨balanced, sound.ordered, sound.live, sound.freed⟩⟩

theorem exists_addPacketToFlow
    (sound : custody.Sound locals copies) (held : custody.flows flow ≠ none)
    (packet : Packet) (direction : PacketDirection) :
    ∃ heap blocks, custody.addPacketToFlow flow packet direction =
        some (withPacket { custody with heap := heap } flow packet direction
          blocks) ∧
      Sound (withPacket { custody with heap := heap } flow packet direction
        blocks) locals copies := by
  obtain ⟨heap, blocks, added, balanced⟩ :=
    sound.toBalanced.exists_addPacketToFlow held packet direction
  refine ⟨heap, blocks, added, balanced, sound.ordered, ?_, ?_⟩
  · intro entry member
    obtain ⟨keyed, live⟩ := sound.live entry member
    refine ⟨keyed, ?_⟩
    dsimp only [withPacket]
    by_cases same : entry.flow = flow
    · rw [same, Function.update_self]
      exact Option.some_ne_none blocks
    · rw [Function.update_of_ne same]
      exact live
  · intro snapshot member
    obtain ⟨old, free⟩ := sound.freed snapshot member
    have different : snapshot.flow ≠ flow := by
      rintro rfl
      exact held free
    exact ⟨old, (Function.update_of_ne different _ _).trans free⟩

theorem exists_allocateFlow
    (sound : custody.Sound locals copies) (packett : Packet) :
    ∃ heap self, custody.allocateFlow packett =
        some (withNewFlow { custody with heap := heap } packett self,
          custody.meter.nextFlow) ∧
      Sound (withNewFlow { custody with heap := heap } packett self) locals
        copies ∧
      Fresh (withNewFlow { custody with heap := heap } packett self)
        custody.meter.nextFlow := by
  obtain ⟨heap, self, allocated, balanced⟩ :=
    sound.toBalanced.exists_allocateFlow packett
  have created : ∀ entry ∈ custody.meter.session.entries,
      entry.flow < custody.meter.nextFlow := fun entry member =>
    sound.created (sound.live entry member).2
  have unkeyed : custody.keys custody.meter.nextFlow = none :=
    (sound.settled _).unkeyed sound.unborn
  refine ⟨heap, self, allocated, ⟨balanced, sound.ordered, ?_, ?_⟩, ?_,
    unkeyed, created⟩
  · intro entry member
    obtain ⟨keyed, live⟩ := sound.live entry member
    refine ⟨keyed, ?_⟩
    dsimp only [withNewFlow]
    rw [Function.update_of_ne (Nat.ne_of_lt (created entry member))]
    exact live
  · intro snapshot member
    obtain ⟨old, free⟩ := sound.freed snapshot member
    exact ⟨Nat.lt_succ_of_lt old,
      (Function.update_of_ne (Nat.ne_of_lt old) _ _).trans free⟩
  · dsimp only [withNewFlow]
    rw [Function.update_self]
    exact Option.some_ne_none _

theorem exists_addFlow
    (sound : custody.Sound locals copies) (fresh : Fresh custody flow)
    (flowKey : CString) (count : Nat) :
    ∃ heap flowsArray key, custody.addFlow flowKey flow count =
        some (withEntry { custody with heap := heap } flowKey flow count
          flowsArray key) ∧
      Sound (withEntry { custody with heap := heap } flowKey flow count
        flowsArray key) locals copies := by
  obtain ⟨heap, flowsArray, key, added, balanced⟩ :=
    sound.toBalanced.exists_addFlow fresh.held fresh.unkeyed flowKey count
  have entries : (custody.meter.addFlow flowKey flow count).session.entries =
      custody.meter.session.entries ++ [⟨flowKey, count, flow⟩] :=
    addFlow_entries custody.meter.session flowKey flow count
  refine ⟨heap, flowsArray, key, added, balanced, ?_, ?_, sound.freed⟩
  · dsimp only [withEntry]
    rw [entries, List.map_append, List.pairwise_append]
    refine ⟨sound.ordered, List.pairwise_singleton _ _, ?_⟩
    intro earlier member last lastMember
    obtain ⟨entry, entryMember, rfl⟩ := List.mem_map.mp member
    rw [List.mem_singleton.mp lastMember]
    exact fresh.newest entry entryMember
  · dsimp only [withEntry]
    rw [entries]
    intro entry member
    rcases List.mem_append.mp member with old | new
    · obtain ⟨keyed, live⟩ := sound.live entry old
      rw [Function.update_of_ne (Nat.ne_of_lt (fresh.newest entry old))]
      exact ⟨keyed, live⟩
    · rw [List.mem_singleton.mp new, Function.update_self]
      exact ⟨Option.some_ne_none key, fresh.held⟩

/-- Deleting the first entry with a key leaves the entries of other flows. -/
private theorem remaining_of_getFlowByItsKey
    (sound : custody.Sound locals copies) {key : CString}
    (found : getFlowByItsKey custody.meter.session key = some flow)
    {remaining : List Flows}
    (isRemaining : remaining = ((custody.meter.getData flow).deleteFlowByKey
      key).session.entries) :
    remaining.Sublist custody.meter.session.entries ∧
      (∀ other ∈ remaining, other.flow ≠ flow) ∧
      remaining.length + 1 = custody.meter.session.entries.length := by
  obtain ⟨before, entry, later, split, earlier, matched, rfl⟩ :=
    exists_split_of_getFlowByItsKey found
  have kept : remaining = before ++ later := by
    rw [isRemaining, Meter.deleteFlowByKey]
    exact congrArg (fun result => FlowSession.entries result.1)
      (deleteFlowByKey_of_first split earlier matched)
  have ordered := sound.ordered
  rw [split, List.map_append, List.map_cons, List.pairwise_append,
    List.pairwise_cons] at ordered
  rw [kept, split]
  refine ⟨(List.sublist_cons_self entry later).append_left before, ?_, ?_⟩
  · intro other member
    rcases List.mem_append.mp member with front | back
    · exact Nat.ne_of_lt (ordered.2.2 _ (List.mem_map_of_mem front) _
        List.mem_cons_self)
    · exact Nat.ne_of_gt (ordered.2.1.1 _ (List.mem_map_of_mem back))
  · rw [List.length_append, List.length_append, List.length_cons,
      Nat.add_assoc]

/-- Exporting a flow and deleting its entry frees the flow and leaves a copy
of its key to the collection. -/
theorem exists_deleteFlowByKey
    (sound : custody.Sound locals copies) {key : CString}
    (found : getFlowByItsKey custody.meter.session key = some flow) :
    ∃ exported after, custody.getData flow = some exported ∧
      exported.deleteFlowByKey key = some after ∧
      after.Sound locals (copies + 1) ∧
      after.meter = (custody.meter.getData flow).deleteFlowByKey key ∧
      after.meter.session.flowCount + 1 =
        custody.meter.session.flowCount := by
  obtain ⟨keyed, held⟩ := sound.live_of_getFlowByItsKey found
  obtain ⟨heap, forward, backward, wrote, exported⟩ :=
    sound.toBalanced.exists_getData held
  obtain ⟨freedHeap, blocks, freed, balanced⟩ :=
    exported.exists_freeEntry keyed held
  obtain ⟨sublist, others, fewer⟩ :=
    sound.remaining_of_getFlowByItsKey found rfl
  refine ⟨_, { dropEntry { dropGaps { custody with heap := heap } flow
        forward backward with heap := freedHeap } flow blocks with
      meter := (custody.meter.getData flow).deleteFlowByKey key },
    wrote, ?_, ?_, rfl, fewer⟩
  · have sameFound : getFlowByItsKey (dropGaps { custody with heap := heap }
        flow forward backward).meter.session key = some flow := found
    rw [Custody.deleteFlowByKey, sameFound]
    dsimp only
    rw [freed, Option.map_some]
    rfl
  · exact {
      toBalanced := balanced.with_meter rfl rfl rfl
      ordered := sound.ordered.sublist (sublist.map Flows.flow)
      live := by
        intro other member
        dsimp only [dropEntry, dropGaps]
        rw [Function.update_of_ne (others other member),
          Function.update_of_ne (others other member)]
        exact sound.live other (sublist.subset member)
      freed := by
        intro snapshot member
        dsimp only [dropEntry, dropGaps]
        rcases List.mem_append.mp member with old | new
        · obtain ⟨created, free⟩ := sound.freed snapshot old
          refine ⟨created, ?_⟩
          by_cases same : snapshot.flow = flow
          · rw [same, Function.update_self]
          · rw [Function.update_of_ne same]
            exact free
        · rw [List.mem_singleton.mp new, Function.update_self]
          exact ⟨sound.created held, rfl⟩ }

private theorem getFlowKeys_owns (custody : Custody) :
    Owns custody.getFlowKeys 0
      (fun result => ({result.1} : Multiset Block) + result.2)
      fun result => result.2.length = custody.meter.session.flowCount := by
  apply Owns.malloc.bind (zero_add 0).symm
  intro keys _
  apply (Owns.mallocs _).bind (add_comm _ _)
  intro copies sameLength
  exact Owns.pure (add_comm _ _) sameLength

/-- A collection starts with a copy of every key. -/
theorem exists_getFlowKeys (sound : custody.Sound 0 0) :
    ∃ copies heap, custody.perform custody.getFlowKeys =
        some (copies, { custody with heap := heap }) ∧
      Collecting
        { custody with heap := heap, meter := custody.meter.announce }
        copies.1 copies.2 := by
  obtain ⟨copies, heap, ran, length, started⟩ :=
    sound.exists_perform (getFlowKeys_owns custody) (zero_add 0).symm
  rw [add_zero] at started
  exact ⟨copies, heap, ran, 0, started.with_meter rfl rfl rfl rfl,
    length.symm⟩

/-- At its end it frees its list and as many copies as there are flows
left. -/
theorem exists_freeKeys
    {keys : Block} {copies : List Block}
    (collecting : custody.Collecting keys copies) :
    ∃ after, custody.freeKeys keys copies = some after ∧
      after.Sound 0 0 ∧ after.meter = custody.meter := by
  obtain ⟨gone, sound, count⟩ := collecting
  have left : (copies.drop custody.meter.session.flowCount).length =
      gone := by
    rw [List.length_drop]
    omega
  have freeing : Owns
      (do freeAll (copies.take custody.meter.session.flowCount); free keys)
      ((copies.take custody.meter.session.flowCount : Multiset Block) +
        {keys})
      (fun _ => 0) fun _ => True := by
    apply (Owns.freeAll _).bind rfl
    intro _ _
    rw [zero_add]
    exact Owns.free keys
  have split : ({keys} + copies : Multiset Block) =
      (copies.take custody.meter.session.flowCount : Multiset Block) +
        {keys} +
        (copies.drop custody.meter.session.flowCount : Multiset Block) := by
    have parts : (copies : Multiset Block) =
        (copies.take custody.meter.session.flowCount : Multiset Block) +
          copies.drop custody.meter.session.flowCount := by
      rw [Multiset.coe_add, List.take_append_drop]
    rw [parts]
    abel
  obtain ⟨_, heap, ran, -, freed⟩ := sound.exists_perform freeing split
  rw [zero_add, ← left, ← add_zero (copies.drop _ : Multiset Block)] at freed
  refine ⟨_, ?_, ⟨freed.toBalanced.of_dropKeys, freed.ordered, freed.live,
    freed.freed⟩, rfl⟩
  rw [freeKeys, ran, Option.map_some]

end Sound

/-- Whenever a flow is looked at, it has its blocks. -/
def simulation : process.Simulation where
  meter := Custody.meter
  Sound custody := custody.Sound 0 0
  Ready custody flow := custody.Sound 0 0 ∧ custody.flows flow ≠ none
  Fresh custody flow := custody.Sound 0 0 ∧ custody.Fresh flow
  Collecting custody copies := custody.Collecting copies.1 copies.2
  session _ := rfl
  counted sound := ⟨sound.with_meter rfl rfl rfl rfl, rfl⟩
  ready sound found := ⟨sound, sound.live_of_getFlow found⟩
  readable ready := Sound.read_eq_some ready.2 Flow.latestTimestamp
  recorded := by
    rintro custody flow packet direction ⟨sound, held⟩
    obtain ⟨heap, blocks, added, after⟩ :=
      sound.exists_addPacketToFlow held packet direction
    have stillHeld : (withPacket { custody with heap := heap } flow packet
        direction blocks).flows flow ≠ none := by
      dsimp only [withPacket]
      rw [Function.update_self]
      exact Option.some_ne_none blocks
    exact ⟨_, added, after, ⟨after, stillHeld⟩,
      Sound.read_eq_some stillHeld getDuration, rfl⟩
  allocated := by
    intro custody packett sound
    obtain ⟨heap, self, allocated, after, fresh⟩ :=
      sound.exists_allocateFlow packett
    exact ⟨_, allocated, ⟨after, fresh⟩, rfl⟩
  begun := by
    rintro custody flow packet ⟨sound, fresh⟩
    obtain ⟨heap, blocks, added, after⟩ :=
      sound.exists_addPacketToFlow fresh.held packet .forward
    refine ⟨_, added, ⟨after, ?_, fresh.unkeyed, fresh.newest⟩, rfl⟩
    dsimp only [withPacket]
    rw [Function.update_self]
    exact Option.some_ne_none blocks
  filed := by
    rintro custody flow flowKey count ⟨sound, fresh⟩
    obtain ⟨heap, flowsArray, key, added, after⟩ :=
      sound.exists_addFlow fresh flowKey count
    exact ⟨_, added, ⟨after, fresh.held⟩, rfl⟩
  collecting := by
    intro custody sound
    obtain ⟨copies, heap, ran, collecting⟩ := sound.exists_getFlowKeys
    refine ⟨_, copies, ?_, collecting, rfl⟩
    dsimp only [process]
    rw [ran, Option.map_some]
  tested := by
    rintro custody copies key flow ⟨gone, sound, -⟩ found
    have held := (sound.live_of_getFlowByItsKey found).2
    exact ⟨Sound.read_eq_some held Flow.latestTimestamp,
      Sound.read_eq_some held getDuration⟩
  removed := by
    rintro custody copies key flow ⟨gone, sound, count⟩ found
    obtain ⟨exported, after, wrote, deleted, afterSound, sameMeter, fewer⟩ :=
      sound.exists_deleteFlowByKey found
    refine ⟨exported, after, wrote, deleted, ⟨gone + 1, afterSound, ?_⟩,
      sameMeter⟩
    rw [← count, ← fewer]
    exact (Nat.add_right_comm _ 1 gone).symm
  collected collecting := Sound.exists_freeKeys collecting

/-! ## Every run -/

private theorem exists_initFlowSession (initialCapacity : Nat) :
    ∃ after, initFlowSession initialCapacity = some after ∧
      after.Sound 0 0 ∧ after.meter = Meter.initial initialCapacity := by
  have empty : BlockHeap.Accounts {} (0 + 0) :=
    ⟨rfl, Multiset.nodup_zero, fun _ member =>
      absurd member (Multiset.notMem_zero _)⟩
  obtain ⟨session, first, ranFirst, -, accounts⟩ := Owns.malloc {} 0 empty
  have next : first.Accounts (0 + ({session} + 0)) := by
    rw [zero_add]
    exact accounts
  obtain ⟨flowsArray, heap, ranNext, -, started⟩ := Owns.malloc first _ next
  refine ⟨{
    meter := Meter.initial initialCapacity
    heap := heap
    session := session
    flowsArray := flowsArray
    keys := fun _ => none
    flows := fun _ => none
    lost := [] }, ?_, ?_, rfl⟩
  · rw [initFlowSession, ranFirst, Option.bind_some]
    dsimp only
    rw [ranNext, Option.map_some]
  · exact {
      accounts := by
        convert started using 1
        simp [kept, Meter.initial, add_comm]
      settled := fun _ => Settled.gone rfl rfl fun _ => rfl
      lostKeys := rfl
      lostGaps := by
        intro flow side
        rw [Meter.leaks]
        split_ifs <;> rfl
      ordered := List.Pairwise.nil
      live := fun _ member => absurd member List.not_mem_nil
      freed := fun _ member => absurd member List.not_mem_nil }

/-- `free_flow_session` frees the entries from the front. -/
theorem exists_freeEntries
    {custody : Custody} (balanced : custody.Balanced 0 0)
    (entries : List Flows)
    (ordered : (entries.map Flows.flow).Pairwise (· < ·))
    (live : ∀ entry ∈ entries,
      custody.keys entry.flow ≠ none ∧ custody.flows entry.flow ≠ none) :
    ∃ after, entries.foldlM
        (fun (custody : Custody) entry => custody.freeEntry entry.flow)
        custody = some after ∧
      after.Balanced 0 0 ∧ after.meter = custody.meter ∧
        ∀ flow, after.flows flow ≠ none →
          custody.flows flow ≠ none ∧ ∀ entry ∈ entries,
            entry.flow ≠ flow := by
  induction entries generalizing custody with
  | nil =>
      exact ⟨custody, rfl, balanced, rfl, fun _ held =>
        ⟨held, fun _ member => absurd member List.not_mem_nil⟩⟩
  | cons entry entries inductionHypothesis =>
      obtain ⟨keyed, held⟩ := live entry List.mem_cons_self
      obtain ⟨heap, blocks, ran, middleBalanced⟩ :=
        balanced.exists_freeEntry keyed held
      obtain ⟨first, rest⟩ := List.pairwise_cons.mp ordered
      have others : ∀ other ∈ entries, other.flow ≠ entry.flow :=
        fun other member =>
          Nat.ne_of_gt (first _ (List.mem_map_of_mem member))
      obtain ⟨after, ranRest, afterBalanced, afterMeter, afterFlows⟩ :=
        inductionHypothesis middleBalanced rest (by
          intro other member
          dsimp only [dropEntry]
          rw [Function.update_of_ne (others other member),
            Function.update_of_ne (others other member)]
          exact live other (List.mem_cons_of_mem _ member))
      refine ⟨after, ?_, afterBalanced, afterMeter, ?_⟩
      · rw [List.foldlM_cons, ran]
        exact ranRest
      · intro flow flowHeld
        obtain ⟨middleHeld, elsewhere⟩ := afterFlows flow flowHeld
        dsimp only [dropEntry] at middleHeld
        have different : entry.flow ≠ flow := by
          rintro rfl
          exact middleHeld (Function.update_self _ _ _)
        rw [Function.update_of_ne (Ne.symm different)] at middleHeld
        refine ⟨middleHeld, ?_⟩
        intro other member
        rcases List.mem_cons.mp member with rfl | later
        · exact different
        · exact elsewhere other later

/-- What is left at the end of a process: nothing but the lost blocks, as
many for each reason as the meter says. -/
structure Released (custody : Custody) (meter : Meter) : Prop where
  state : custody.meter = meter
  live : custody.heap.live.Perm (custody.lost.map Prod.snd)
  nodup : custody.heap.live.Nodup
  leaks : ∀ leak, custody.lostTo leak = meter.leaks leak

private theorem Sound.exists_freeFlowSession
    {custody : Custody} (sound : custody.Sound 0 0)
    (tracked : custody.meter.Tracked) :
    ∃ after, custody.freeFlowSession = some after ∧
      after.Released custody.meter := by
  obtain ⟨empty, ran, balanced, sameMeter, flows⟩ :=
    exists_freeEntries sound.toBalanced custody.meter.session.entries sound.ordered
      sound.live
  have free : ∀ flow, empty.flows flow = none := by
    intro flow
    by_contra held
    obtain ⟨wasHeld, elsewhere⟩ := flows flow held
    rcases tracked.live_or_exported (sound.created wasHeld) with
      ⟨entry, member, same⟩ | ⟨snapshot, member, rfl⟩
    · exact elsewhere entry member same
    · exact wasHeld (sound.freed snapshot member).2
  have nothing : ∑ flow ∈ Finset.range empty.meter.nextFlow,
      empty.ownedBy flow = 0 := by
    apply Finset.sum_eq_zero
    intro flow _
    rw [ownedBy, (balanced.settled flow).unkeyed (free flow), free flow]
    rfl
  have freeing : Owns
      (do
        Allocating.free empty.flowsArray
        Allocating.free empty.session)
      ({empty.flowsArray} + {empty.session}) (fun _ => 0)
      fun _ => True := by
    apply (Owns.free empty.flowsArray).bind rfl
    intro _ _
    rw [zero_add]
    exact Owns.free empty.session
  have accounts : empty.heap.Accounts
      ({empty.flowsArray} + {empty.session} +
        (empty.lost.map Prod.snd : List Block)) := by
    have all := balanced.accounts
    rw [kept, nothing] at all
    convert all using 1
    abel
  obtain ⟨_, heap, ranFree, -, freed⟩ := perform_owns freeing accounts
  rw [zero_add] at freed
  refine ⟨{ empty with heap := heap }, ?_, sameMeter, ?_, ?_, ?_⟩
  · rw [Custody.freeFlowSession, ran, Option.bind_some, ranFree,
      Option.map_some]
  · exact Multiset.coe_eq_coe.mp freed.live
  · have nodup := freed.nodup
    rw [← freed.live, Multiset.coe_nodup] at nodup
    exact nodup
  · rw [← sameMeter]
    intro leak
    cases leak with
    | key =>
        exact balanced.lostKeys
    | times flow array =>
        exact (balanced.settled flow).lost (free flow) array
    | packetIat flow side =>
        exact balanced.lostGaps flow side

private theorem released_of_main (frames : List Frame) :
    ∃ custody, main frames = some custody ∧
      custody.Released (capture frames) := by
  obtain ⟨start, ranStart, startSound, startMeter⟩ :=
    exists_initFlowSession 10
  obtain ⟨last, ranFrames, lastSound, lastMeter⟩ :=
    @Runs.foldlM_simulates Meter Frame UzFlowMeter.packetHandler Custody
      process.packetHandler
      (fun custody meter => custody.Sound 0 0 ∧ custody.meter = meter)
      start (Meter.initial 10) ⟨startSound, startMeter⟩
      (by
        rintro custody _ frame ⟨sound, rfl⟩
        exact simulation.reaches_packetHandler sound frame) frames
  have isCapture : last.meter = capture frames := lastMeter
  have tracked : last.meter.Tracked := by
    rw [isCapture, capture_eq_run]
    exact Meter.tracked_run 10 _
  obtain ⟨after, ranFree, released⟩ := lastSound.exists_freeFlowSession tracked
  rw [isCapture] at released
  refine ⟨after, ?_, released⟩
  rw [main, ranStart, Option.bind_some, ranFrames, Option.bind_some]
  exact ranFree

end Custody

namespace Meter

private theorem leaks_idle (meter : Meter) (flow : FlowPtr) :
    meter.leaks (.times flow .idle) = 0 := by
  rw [leaks, count_idle_allocations]
  omega

private theorem positive_run
    {frames : List Frame} (timed : Timed frames) (capacity : Nat) :
    (run capacity frames).AllFlows fun flow =>
      ∀ time ∈ timesOf flow.pairs, 0 < time := by
  induction frames using List.reverseRecOn with
  | nil =>
      exact allFlows_initial _ capacity
  | append_singleton frames last inductionHypothesis =>
      have before := inductionHypothesis fun frame member =>
        timed frame (List.mem_append_left _ member)
      have grown : ∀ (flow : Flow) (labels : List PacketDirection),
          last.parsed.Accepted → (∀ time ∈ timesOf flow.pairs, 0 < time) →
            ∀ time ∈ timesOf (recordLabels flow last.parsed labels).pairs,
              0 < time := by
        intro flow labels accepted positive time member
        rw [timesOf_recordLabels] at member
        rcases List.mem_append.mp member with old | new
        · exact positive time old
        · obtain ⟨-, -, rfl⟩ := List.mem_map.mp new
          exact timed last (by simp) accepted
      rw [run_concat]
      apply before.onPacketReceived
      · intro route accepted
        apply grown _ _ accepted
        exact fun _ member => absurd member List.not_mem_nil
      · intro route entry _ accepted _ _ _ _ positive
        exact grown _ _ accepted positive

/-- At positive times a flow loses its first array of inter-arrival times to
its second packet, and none after that. -/
theorem leaks_interarrival_run
    {frames : List Frame} (timed : Timed frames) (capacity : Nat)
    (flow : FlowPtr) :
    (run capacity frames).leaks (.times flow .flowInterarrivalTime) =
      if 2 ≤ ((run capacity frames).pairsOf flow).length then 1 else 0 := by
  have positive : ∀ time ∈ timesOf ((run capacity frames).pairsOf flow),
      0 < time := by
    by_cases created : flow < (run capacity frames).nextFlow
    · rw [pairsOf_of_lt created]
      exact positive_run timed capacity flow created
    · rw [pairsOf_of_le (Nat.le_of_not_lt created)]
      exact fun _ member => absurd member List.not_mem_nil
  rw [leaks, count_interarrival_allocations positive]
  split_ifs <;> omega

end Meter

/-- Every run of `main` ends without a double free and without a look at a
flow that was freed.  It leaves behind one copy of a key for every exported
flow, the arrays of gaps of its exported directions with two packets or more,
and every array of inter-arrival or active times that another one has
replaced, but no array of idle times and nothing else. -/
theorem Custody.main_released (frames : List Frame) :
    ∃ custody, Custody.main frames = some custody ∧
      custody.Released (capture frames) ∧
        ∀ flow, custody.lostTo (.times flow .idle) = 0 := by
  obtain ⟨custody, ran, released⟩ := released_of_main frames
  refine ⟨custody, ran, released, ?_⟩
  intro flow
  rw [released.leaks, Meter.leaks_idle]

/-- The second packet of the flow allocates the inter-arrival times again. -/
example :
    (Custody.main [clientFrame 1, serverFrame 2]).map Custody.lost =
      some [(.times 0 .flowInterarrivalTime, 5)] := by
  decide +kernel

end UzFlowMeter
