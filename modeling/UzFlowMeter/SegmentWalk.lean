import UzFlowMeter.Library.CountedLoop
import UzFlowMeter.Lifecycle
import UzFlowMeter.WireFormat

/-!
# The walk over expired segments ends

The `while` loop of `on_packet_received` with its variables, the flow pointer
that may be null among them, and its rounds counted.  The guard compares
times with a threshold that grows; what runs out is the segments above the
count, however many counts are missing between them.
-/

namespace UzFlowMeter

/-- The variables of the loop. -/
structure Walk where
  meter : Meter
  flowKey : CString
  count : Nat
  expired : ℚ
  flow : Option FlowPtr

namespace Walk

/-- The guard, which follows the flow pointer. -/
def guard (packett : Packet) (walk : Walk) : Option Bool :=
  walk.flow.map fun flow =>
    decide (packett.time - (walk.meter.heap flow).latestTimestamp >
      walk.expired)

def body (packett : Packet) (walk : Walk) : Round Walk :=
  let count := walk.count + 1
  let expired := walk.expired + expiredUpdate
  match getFlow walk.meter.session walk.flowKey count with
  | some flow =>
      .again ⟨walk.meter, walk.flowKey, count, expired, some flow⟩
  | none =>
      let (meter, flow) := walk.meter.allocateFlow packett
      let flowKey := getFlowKey walk.flowKey packett .forward
      .leave
        ⟨meter.addFlow flowKey flow count, flowKey, count, expired,
          some flow⟩

end Walk

def walkLoop (packett : Packet) : CountedLoop Walk where
  guard := Walk.guard packett
  body := Walk.body packett

namespace Meter

/-- The variables before the loop, for a flow that is found expired. -/
def enterWalk (meter : Meter) (packett : Packet) (flowKey : CString)
    (flow : FlowPtr) : Option Walk :=
  if packett.time - (meter.heap flow).latestTimestamp > expiredUpdate then
    some ⟨meter, flowKey, 0, expiredUpdate, some flow⟩
  else none

/-- The variables before the loop, if a call of `on_packet_received` comes
to it. -/
def reachesWalk (meter : Meter) (packett : Packet) : Option Walk :=
  if packett.Accepted then
    let flowKey := getFlowKey [] packett .forward
    let flow := getFlow meter.session flowKey 0
    let meter := meter.countPacket
    match flow with
    | some flow => meter.enterWalk packett flowKey flow
    | none =>
        let flowKey := getFlowKey flowKey packett .reverse
        match getFlow meter.session flowKey 0 with
        | some flow =>
            (meter.addPacketToFlow flow packett .reverse).enterWalk packett
              flowKey flow
        | none => none
  else none

/-- An entry of the session after the walk with the key of the packet: one
that the lookup finds in an unchanged session, or a new last one under a
count that was absent. -/
def LandsOn (before : Meter) (packett : Packet) (after : Meter)
    (entry : Flows) : Prop :=
  entry ∈ after.session.entries ∧ entry.key = packett.fiveTuple.key ∧
    ((getFlow before.session packett.fiveTuple.key entry.count =
          some entry.flow ∧
        after.session.entries = before.session.entries) ∨
      (¬ before.session.Has packett.fiveTuple.key entry.count ∧
        after.session.entries = before.session.entries ++ [entry]))

/-- If the call comes to the loop, the loop ends after at most one round
more than there are later segments of the packet's orientation; its flow
pointer is that of an entry, and the call goes on with it. -/
def WalkLands (meter : Meter) (packett : Packet) : Prop :=
  ∀ start, meter.reachesWalk packett = some start →
    ∃ rounds last entry,
      (walkLoop packett).run
          (segmentsAbove meter.session packett.fiveTuple.key 0 + 1) start =
        some (rounds, last) ∧
      rounds ≤ segmentsAbove meter.session packett.fiveTuple.key 0 + 1 ∧
      last.flow = some entry.flow ∧
      meter.LandsOn packett last.meter entry ∧
      meter.receivePacket packett =
        last.meter.recordPacket packett entry.flow

/-- A flow of the other orientation is never found expired: the packet has
just been recorded in it. -/
theorem enterWalk_reverse
    (meter : Meter) (packett : Packet) (flowKey : CString)
    (flow : FlowPtr) :
    (meter.addPacketToFlow flow packett .reverse).enterWalk packett flowKey
      flow = none := by
  have late : packett.time ≤
      max (meter.heap flow).latestTimestamp packett.time :=
    le_max_right _ _
  rw [enterWalk]
  apply if_neg
  simp only [addPacketToFlow, Function.update_self,
    addPacketToFlow_latestTimestamp, expiredUpdate]
  linarith

/-- The loop is reached by an accepted packet with an expired flow of its
own orientation, and the call goes on where the walk ends. -/
theorem reachesWalk_eq_some
    {meter : Meter} {packett : Packet} {start : Walk}
    (reached : meter.reachesWalk packett = some start) :
    ∃ flow, getFlow meter.session packett.fiveTuple.key 0 = some flow ∧
      start = ⟨meter.countPacket, packett.fiveTuple.key, 0, expiredUpdate,
        some flow⟩ ∧
      meter.receivePacket packett =
        (meter.countPacket.walkExpired packett packett.fiveTuple.key 0
          expiredUpdate flow).1.recordPacket packett
        (meter.countPacket.walkExpired packett packett.fiveTuple.key 0
          expiredUpdate flow).2 := by
  rw [reachesWalk, Option.ite_none_right_eq_some] at reached
  obtain ⟨accepted, reached⟩ := reached
  simp only [getFlowKey_forward, getFlowKey_reverse] at reached
  rw [receivePacket_eq, if_pos accepted]
  simp only [getFlowKey_forward, getFlowKey_reverse]
  cases found : getFlow meter.session packett.fiveTuple.key 0 with
  | some flow =>
      rw [found] at reached
      dsimp only at reached ⊢
      rw [enterWalk, Option.ite_none_right_eq_some] at reached
      refine ⟨flow, rfl, (Option.some.inj reached.2).symm, ?_⟩
      rw [continueFlow_eq, if_pos reached.1]
  | none =>
      rw [found] at reached
      dsimp only at reached
      split at reached
      · rw [enterWalk_reverse] at reached
        cases reached
      · cases reached

end Meter

namespace Walk

variable {packett : Packet} {walk : Walk}

private theorem guard_of_flow
    {flow : FlowPtr} (isFlow : walk.flow = some flow) :
    (walkLoop packett).guard walk =
      some (decide (packett.time -
        (walk.meter.heap flow).latestTimestamp > walk.expired)) := by
  have unfolded :
      (walkLoop packett).guard walk = Walk.guard packett walk := rfl
  rw [unfolded, Walk.guard, isFlow, Option.map_some]

private theorem body_of_found {flow : FlowPtr}
    (found : getFlow walk.meter.session walk.flowKey (walk.count + 1) =
      some flow) :
    (walkLoop packett).body walk =
      .again ⟨walk.meter, walk.flowKey, walk.count + 1,
        walk.expired + expiredUpdate, some flow⟩ := by
  have unfolded :
      (walkLoop packett).body walk = Walk.body packett walk := rfl
  rw [unfolded, Walk.body]
  simp only [found]

private theorem body_of_missing
    (missing : getFlow walk.meter.session walk.flowKey (walk.count + 1) =
      none) :
    (walkLoop packett).body walk =
      .leave ⟨(walk.meter.allocateFlow packett).1.addFlow
          packett.fiveTuple.key walk.meter.nextFlow (walk.count + 1),
        packett.fiveTuple.key, walk.count + 1,
        walk.expired + expiredUpdate, some walk.meter.nextFlow⟩ := by
  have unfolded :
      (walkLoop packett).body walk = Walk.body packett walk := rfl
  rw [unfolded, Walk.body]
  simp only [missing, getFlowKey_forward]
  rfl

/-! ## The invariant of the loop -/

/-- The flow of the loop is the one filed under its count, and from here the
walk leads to the target.  The threshold leaves room for the segments to
come. -/
structure OnTrack (meter : Meter) (packett : Packet)
    (target : Meter × FlowPtr) (walk : Walk) : Prop where
  sameMeter : walk.meter = meter
  sameKey : walk.flowKey = packett.fiveTuple.key
  tracked : ∃ flow, walk.flow = some flow ∧
    getFlow meter.session packett.fiveTuple.key walk.count = some flow ∧
    meter.walkExpired packett packett.fiveTuple.key walk.count walk.expired
      flow = target
  threshold : walk.expired + expiredUpdate *
      segmentsAbove meter.session packett.fiveTuple.key walk.count ≤
    expiredUpdate *
      (segmentsAbove meter.session packett.fiveTuple.key 0 + 1)

/-- The loop has ended at the target, with the flow of an entry and a
threshold that the number of segments bounds. -/
structure Landed (meter : Meter) (packett : Packet)
    (target : Meter × FlowPtr) (walk : Walk) : Prop where
  landing : ∃ entry, walk.flow = some entry.flow ∧
    target = (walk.meter, entry.flow) ∧
    meter.LandsOn packett walk.meter entry
  threshold : walk.expired ≤ expiredUpdate *
    (segmentsAbove meter.session packett.fiveTuple.key 0 + 2)

private theorem OnTrack.expired_le
    {meter : Meter} {target : Meter × FlowPtr}
    (onTrack : walk.OnTrack meter packett target) :
    walk.expired ≤ expiredUpdate *
      (segmentsAbove meter.session packett.fiveTuple.key 0 + 1) := by
  have bound := onTrack.threshold
  have nonnegative : (0 : ℚ) ≤
      segmentsAbove meter.session packett.fiveTuple.key walk.count :=
    Nat.cast_nonneg _
  simp only [expiredUpdate] at bound ⊢
  linarith

theorem OnTrack.again
    {meter : Meter} {target : Meter × FlowPtr}
    (onTrack : walk.OnTrack meter packett target)
    (old : (walkLoop packett).guard walk = some true) {flow : FlowPtr}
    (found : getFlow meter.session packett.fiveTuple.key (walk.count + 1) =
      some flow) :
    OnTrack meter packett target
      ⟨meter, packett.fiveTuple.key, walk.count + 1,
        walk.expired + expiredUpdate, some flow⟩ := by
  obtain ⟨current, isCurrent, -, leads⟩ := onTrack.tracked
  rw [guard_of_flow isCurrent, onTrack.sameMeter] at old
  have fewer := segmentsAbove_lt_of_getFlow found
  refine ⟨rfl, rfl, ⟨flow, rfl, found, ?_⟩, ?_⟩
  · rw [Meter.walkExpired_of_found
      (of_decide_eq_true (Option.some.inj old)) found] at leads
    exact leads
  · have bound := onTrack.threshold
    have room : (segmentsAbove meter.session packett.fiveTuple.key
          (walk.count + 1) : ℚ) + 1 ≤
        segmentsAbove meter.session packett.fiveTuple.key walk.count := by
      exact_mod_cast fewer
    simp only [expiredUpdate] at bound ⊢
    linarith

theorem OnTrack.leave
    {meter : Meter} {target : Meter × FlowPtr}
    (onTrack : walk.OnTrack meter packett target)
    (old : (walkLoop packett).guard walk = some true)
    (missing : getFlow meter.session packett.fiveTuple.key
      (walk.count + 1) = none) :
    Landed meter packett target
      ⟨(meter.allocateFlow packett).1.addFlow packett.fiveTuple.key
          meter.nextFlow (walk.count + 1),
        packett.fiveTuple.key, walk.count + 1,
        walk.expired + expiredUpdate, some meter.nextFlow⟩ := by
  obtain ⟨current, isCurrent, -, leads⟩ := onTrack.tracked
  rw [guard_of_flow isCurrent, onTrack.sameMeter] at old
  refine ⟨⟨⟨packett.fiveTuple.key, walk.count + 1, meter.nextFlow⟩, rfl,
    ?_, ?_⟩, ?_⟩
  · rw [Meter.walkExpired_of_missing
      (of_decide_eq_true (Option.some.inj old)) missing,
      getFlowKey_forward] at leads
    exact leads.symm
  · have added := addFlow_entries (meter.allocateFlow packett).1.session
      packett.fiveTuple.key meter.nextFlow (walk.count + 1)
    refine ⟨?_, rfl,
      Or.inr ⟨getFlow_eq_none_iff_not_has.mp missing, added⟩⟩
    rw [Meter.addFlow, added]
    exact List.mem_append_right _ (List.mem_singleton_self _)
  · have bound := onTrack.expired_le
    simp only [expiredUpdate] at bound ⊢
    linarith

theorem OnTrack.stop
    {meter : Meter} {target : Meter × FlowPtr}
    (onTrack : walk.OnTrack meter packett target)
    (young : (walkLoop packett).guard walk = some false) :
    Landed meter packett target walk := by
  obtain ⟨current, isCurrent, found, leads⟩ := onTrack.tracked
  rw [guard_of_flow isCurrent, onTrack.sameMeter] at young
  obtain ⟨entry, member, sameKey, sameCount, rfl⟩ := getFlow_eq_some found
  refine ⟨⟨entry, isCurrent, ?_, ?_⟩, ?_⟩
  · rw [Meter.walkExpired_of_young
      (of_decide_eq_false (Option.some.inj young))] at leads
    rw [← leads, onTrack.sameMeter]
  · rw [onTrack.sameMeter]
    rw [← sameCount] at found
    exact ⟨member, sameKey, Or.inl ⟨found, rfl⟩⟩
  · have bound := onTrack.expired_le
    simp only [expiredUpdate] at bound ⊢
    linarith

end Walk

/-- Every round that is followed by another one leaves a segment behind. -/
theorem walkLoop_annotated
    (meter : Meter) (packett : Packet) (target : Meter × FlowPtr) :
    (walkLoop packett).Annotated (Walk.OnTrack meter packett target)
      (fun walk => segmentsAbove walk.meter.session walk.flowKey walk.count)
      (Walk.Landed meter packett target) where
  defined := by
    intro walk onTrack undefined
    obtain ⟨flow, isFlow, -⟩ := onTrack.tracked
    rw [Walk.guard_of_flow isFlow] at undefined
    cases undefined
  again := by
    rintro ⟨current, flowKey, count, expired, flow⟩ next onTrack old repeated
    obtain rfl := onTrack.sameMeter
    obtain rfl := onTrack.sameKey
    cases found : getFlow current.session packett.fiveTuple.key
        (count + 1) with
    | some flow =>
        rw [Walk.body_of_found found] at repeated
        obtain rfl := Round.again.inj repeated
        exact ⟨onTrack.again old found, segmentsAbove_lt_of_getFlow found⟩
    | none =>
        rw [Walk.body_of_missing found] at repeated
        cases repeated
  leave := by
    rintro ⟨current, flowKey, count, expired, flow⟩ last onTrack old ended
    obtain rfl := onTrack.sameMeter
    obtain rfl := onTrack.sameKey
    cases found : getFlow current.session packett.fiveTuple.key
        (count + 1) with
    | some flow =>
        rw [Walk.body_of_found found] at ended
        cases ended
    | none =>
        rw [Walk.body_of_missing found] at ended
        obtain rfl := Round.leave.inj ended
        exact onTrack.leave old found
  stop := fun _ onTrack young => onTrack.stop young

namespace Meter

/-- The walk of a call, from any state. -/
theorem walkLoop_landed
    {meter : Meter} {packett : Packet} {start : Walk}
    (reached : meter.reachesWalk packett = some start) :
    ∃ rounds last entry,
      (walkLoop packett).run
          (segmentsAbove meter.session packett.fiveTuple.key 0 + 1) start =
        some (rounds, last) ∧
      rounds ≤ segmentsAbove meter.session packett.fiveTuple.key 0 + 1 ∧
      last.flow = some entry.flow ∧
      meter.LandsOn packett last.meter entry ∧
      last.expired ≤ expiredUpdate *
        (segmentsAbove meter.session packett.fiveTuple.key 0 + 2) ∧
      meter.receivePacket packett =
        last.meter.recordPacket packett entry.flow := by
  obtain ⟨flow, found, rfl, goesOn⟩ := reachesWalk_eq_some reached
  have onTrack : Walk.OnTrack meter.countPacket packett
      (meter.countPacket.walkExpired packett packett.fiveTuple.key 0
        expiredUpdate flow)
      ⟨meter.countPacket, packett.fiveTuple.key, 0, expiredUpdate,
        some flow⟩ := by
    refine ⟨rfl, rfl, ⟨flow, rfl, found, rfl⟩, ?_⟩
    rw [mul_add, mul_one, add_comm]
  obtain ⟨rounds, last, ran, few, landed⟩ :=
    (walkLoop_annotated _ _ _).run_eq_some onTrack
  obtain ⟨entry, isFlow, ends, lands⟩ := landed.landing
  rw [ends] at goesOn
  exact ⟨rounds, last, entry, ran, few, isFlow, lands, landed.threshold,
    goesOn⟩

/-- The threshold is an `int`; it fits as long as the session has fewer than
fifty million entries. -/
theorem walkLoop_expired_lt
    {meter : Meter} {packett : Packet} {start last : Walk} {rounds : Nat}
    (reached : meter.reachesWalk packett = some start)
    (ran : (walkLoop packett).run
        (segmentsAbove meter.session packett.fiveTuple.key 0 + 1) start =
      some (rounds, last))
    (few : meter.session.flowCount < 50000000) :
    last.expired < 2 ^ 31 := by
  obtain ⟨_, _, _, sameRun, -, -, -, threshold, -⟩ :=
    walkLoop_landed reached
  rw [ran] at sameRun
  obtain rfl := congrArg Prod.snd (Option.some.inj sameRun)
  have segments :
      segmentsAbove meter.session packett.fiveTuple.key 0 ≤
        meter.session.flowCount := List.countP_le_length
  have bounded : (segmentsAbove meter.session packett.fiveTuple.key 0 : ℚ) <
      50000000 := by
    exact_mod_cast lt_of_le_of_lt segments few
  simp only [expiredUpdate] at threshold
  linarith

/-- In every state that a run reaches, a call that comes to the walk ends it
with the flow of an entry. -/
theorem walkLands_run
    (capacity : Nat) (frames : List Frame) (packett : Packet) :
    (run capacity frames).WalkLands packett := by
  intro start reached
  obtain ⟨rounds, last, entry, ran, few, isFlow, lands, -, goesOn⟩ :=
    walkLoop_landed reached
  exact ⟨rounds, last, entry, ran, few, isFlow, lands, goesOn⟩

/-- With one later segment, which is expired as well, there are two
rounds. -/
example :
    let meter := run 10 [clientFrame 1, clientFrame 50]
    let packett := (clientFrame 200).parsed
    segmentsAbove meter.session packett.fiveTuple.key 0 = 1 ∧
      (meter.reachesWalk packett).any (fun start =>
        ((walkLoop packett).run 2 start).any fun ended =>
          ended.1 = 2) = true := by
  decide +kernel

end Meter

end UzFlowMeter
