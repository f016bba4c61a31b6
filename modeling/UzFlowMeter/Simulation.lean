import UzFlowMeter.FlowSession
import UzFlowMeter.Library.Runs

/-!
# Processes that follow the model

A process that watches the memory follows the model if each of its calls does,
as long as its memory is in order.  What that means, and when a flow may be
read, is up to the process; that the functions of the session then follow the
model, too, is proved here once for all of them.
-/

namespace UzFlowMeter

variable {State Copies : Type}

/-- The calls of the process go through and do to its meter what those of the
model do.  Between the calls of `on_packet_received` the state is `Sound`, a
flow is `Ready` when the packet can be recorded in it, a `Fresh` flow is not in
the session yet, and the copies of the keys belong to a `Collecting` state. -/
structure Process.Simulation (process : Process Option State Copies) where
  meter : State → Meter
  Sound : State → Prop
  Ready : State → FlowPtr → Prop
  Fresh : State → FlowPtr → Prop
  Collecting : State → Copies → Prop
  session : ∀ state, process.session state = (meter state).session
  counted : ∀ {state}, Sound state → Sound (process.countPacket state) ∧
    meter (process.countPacket state) = (meter state).countPacket
  ready : ∀ {state key count flow}, Sound state →
    getFlow (meter state).session key count = some flow → Ready state flow
  readable : ∀ {state flow}, Ready state flow →
    process.latestTimestamp state flow =
      some ((meter state).heap flow).latestTimestamp
  recorded : ∀ {state flow} packet direction, Ready state flow →
    ∃ after, process.addPacketToFlow state flow packet direction =
        some after ∧
      Sound after ∧ Ready after flow ∧
      process.getDuration after flow =
        some (UzFlowMeter.getDuration ((meter after).heap flow)) ∧
      meter after = (meter state).addPacketToFlow flow packet direction
  allocated : ∀ {state} packett, Sound state →
    ∃ after, process.allocateFlow state packett =
        some (after, (meter state).nextFlow) ∧
      Fresh after (meter state).nextFlow ∧
      meter after = ((meter state).allocateFlow packett).1
  begun : ∀ {state flow} packet, Fresh state flow →
    ∃ after, process.addPacketToFlow state flow packet .forward =
        some after ∧
      Fresh after flow ∧
      meter after = (meter state).addPacketToFlow flow packet .forward
  filed : ∀ {state flow} flowKey count, Fresh state flow →
    ∃ after, process.addFlow state flowKey flow count = some after ∧
      Ready after flow ∧
      meter after = (meter state).addFlow flowKey flow count
  collecting : ∀ {state}, Sound state →
    ∃ after copies, process.beginCollection state = some (after, copies) ∧
      Collecting after copies ∧ meter after = (meter state).announce
  tested : ∀ {state copies key flow}, Collecting state copies →
    getFlowByItsKey (meter state).session key = some flow →
    process.latestTimestamp state flow =
        some ((meter state).heap flow).latestTimestamp ∧
      process.getDuration state flow =
        some (UzFlowMeter.getDuration ((meter state).heap flow))
  removed : ∀ {state copies key flow}, Collecting state copies →
    getFlowByItsKey (meter state).session key = some flow →
    ∃ exported after, process.getData state flow = some exported ∧
      process.deleteFlowByKey exported key = some after ∧
      Collecting after copies ∧
      meter after = ((meter state).getData flow).deleteFlowByKey key
  collected : ∀ {state copies}, Collecting state copies →
    ∃ after, process.endCollection state copies = some after ∧
      Sound after ∧ meter after = meter state

namespace Process.Simulation

variable {process : Process Option State Copies}
  (simulation : process.Simulation)

/-- The call goes through, and its state has the property and the meter. -/
def Reaches (result : Option State) (property : State → Prop)
    (meter : Meter) : Prop :=
  ∃ after, result = some after ∧ property after ∧
    simulation.meter after = meter

variable {simulation} {state : State} {copies : Copies} {flow : FlowPtr}

theorem isExpired_eq
    (collecting : simulation.Collecting state copies) {key : CString}
    (found : getFlowByItsKey (simulation.meter state).session key =
      some flow)
    (latestTime : ℚ) :
    process.isExpired state latestTime flow =
      some (decide
        (((simulation.meter state).heap flow).Expired latestTime)) := by
  obtain ⟨latest, duration⟩ := simulation.tested collecting found
  rw [← Meter.isExpired_eq, isExpired, latest, Option.bind_eq_bind,
    Option.bind_some, duration, Option.bind_some]
  exact (apply_ite some _ _ _).symm

private theorem reaches_collectKey
    (collecting : simulation.Collecting state copies) (latestTime : ℚ)
    (key : CString) :
    simulation.Reaches (process.collectKey state latestTime key)
      (simulation.Collecting · copies)
      ((simulation.meter state).collectKey latestTime key) := by
  rw [collectKey, Meter.collectKey_eq, simulation.session]
  cases found : getFlowByItsKey (simulation.meter state).session key with
  | none =>
      exact ⟨state, rfl, collecting, rfl⟩
  | some flow =>
      dsimp only
      rw [isExpired_eq collecting found, Option.bind_eq_bind,
        Option.bind_some]
      by_cases expired :
          ((simulation.meter state).heap flow).Expired latestTime
      · obtain ⟨exported, after, written, deleted, still, same⟩ :=
          simulation.removed collecting found
        rw [decide_eq_true expired, if_pos rfl, if_pos expired, written,
          Option.bind_eq_bind, Option.bind_some]
        exact ⟨after, deleted, still, same⟩
      · rw [decide_eq_false expired, if_neg Bool.false_ne_true,
          if_neg expired]
        exact ⟨state, rfl, collecting, rfl⟩

private theorem reaches_collectKeys
    (collecting : simulation.Collecting state copies) (latestTime : ℚ)
    (keys : List CString) (i : Nat) :
    simulation.Reaches (process.collectKeys latestTime keys i state)
      (simulation.Collecting · copies)
      (Meter.collectKeys latestTime keys i (simulation.meter state)) := by
  induction keys generalizing i state with
  | nil =>
      exact ⟨state, rfl, collecting, rfl⟩
  | cons key keys inductionHypothesis =>
      rw [collectKeys, Meter.collectKeys_cons, simulation.session]
      split_ifs
      · obtain ⟨after, collected, still, same⟩ :=
          reaches_collectKey collecting latestTime key
        rw [collected, Option.bind_eq_bind, Option.bind_some, ← same]
        exact inductionHypothesis still (i + 1)
      · exact ⟨state, rfl, collecting, rfl⟩

private theorem reaches_garbageCollect
    (sound : simulation.Sound state) (latestTime : ℚ) :
    simulation.Reaches (process.garbageCollect state latestTime)
      simulation.Sound
      ((simulation.meter state).garbageCollect latestTime) := by
  obtain ⟨begun, copies, taken, collecting, announced⟩ :=
    simulation.collecting sound
  obtain ⟨swept, collected, still, same⟩ :=
    reaches_collectKeys collecting latestTime
      (getFlowKeys (process.session state)) 0
  obtain ⟨after, ended, afterSound, sameMeter⟩ := simulation.collected still
  refine ⟨after, ?_, afterSound, ?_⟩
  · rw [garbageCollect, taken, Option.bind_eq_bind, Option.bind_some]
    dsimp only
    rw [collected, Option.bind_eq_bind, Option.bind_some, ended]
  · rw [sameMeter, same, announced, simulation.session,
      Meter.garbageCollect_eq]

/-- The test for a collection after the packet has been recorded. -/
theorem isDue_eq
    (duration : process.getDuration state flow =
      some (UzFlowMeter.getDuration ((simulation.meter state).heap flow))) :
    process.isDue state flow = some (decide
      ((simulation.meter state).session.packetCount %
          garbageCollectPackets = 0 ∨
        UzFlowMeter.getDuration ((simulation.meter state).heap flow) >
          120)) := by
  rw [isDue, simulation.session, duration, Option.bind_eq_bind,
    Option.bind_some]
  split_ifs with tenThousandth
  · rw [decide_eq_true (Or.inl tenThousandth)]
    rfl
  · exact congrArg some
      (decide_eq_decide.mpr (or_iff_right tenThousandth).symm)

private theorem reaches_recordPacket
    (ready : simulation.Ready state flow) (packett : Packet) :
    simulation.Reaches (process.recordPacket state packett flow)
      simulation.Sound
      ((simulation.meter state).recordPacket packett flow) := by
  obtain ⟨after, added, sound, -, duration, same⟩ :=
    simulation.recorded packett .forward ready
  rw [recordPacket, Meter.recordPacket_eq, added, Option.bind_eq_bind,
    Option.bind_some, ← same, isDue_eq duration, Option.bind_eq_bind,
    Option.bind_some]
  simp only [decide_eq_true_eq]
  split_ifs
  · exact reaches_garbageCollect sound packett.time
  · exact ⟨after, rfl, sound, rfl⟩

private theorem reaches_startFlow
    (sound : simulation.Sound state) (packett : Packet)
    (flowKey : CString) :
    simulation.Reaches (process.startFlow state packett flowKey)
      simulation.Sound
      ((simulation.meter state).startFlow packett flowKey) := by
  obtain ⟨opened, allocated, fresh, sameOpened⟩ :=
    simulation.allocated packett sound
  obtain ⟨begun, added, still, sameBegun⟩ := simulation.begun packett fresh
  obtain ⟨listed, filed, ready, sameListed⟩ :=
    simulation.filed (getFlowKey flowKey packett .forward) 0 still
  rw [startFlow, Meter.startFlow_eq, ← sameOpened, ← sameBegun,
    ← sameListed, allocated, Option.bind_eq_bind, Option.bind_some]
  dsimp only
  rw [added, Option.bind_eq_bind, Option.bind_some, filed, Option.bind_some]
  exact reaches_recordPacket ready packett

/-- The walk ends with a flow that the packet can be recorded in. -/
theorem exists_walkExpired
    {flow : FlowPtr} (sound : simulation.Sound state) (packett : Packet)
    (flowKey : CString) (count : Nat) (expired : ℚ)
    (ready : simulation.Ready state flow) :
    ∃ after last, process.walkExpired state packett flowKey count expired
        flow = some (after, last) ∧
      simulation.Ready after last ∧
      (simulation.meter state).walkExpired packett flowKey count expired
        flow = (simulation.meter after, last) := by
  rw [walkExpired, simulation.readable ready, Option.bind_eq_bind,
    Option.bind_some]
  by_cases old : packett.time -
      ((simulation.meter state).heap flow).latestTimestamp > expired
  · rw [if_pos old]
    split
    · rename_i next found
      rw [simulation.session] at found
      rw [Meter.walkExpired_of_found old found]
      exact exists_walkExpired sound packett flowKey (count + 1) _
        (simulation.ready sound found)
    · rename_i missing
      rw [simulation.session] at missing
      obtain ⟨opened, allocated, fresh, sameOpened⟩ :=
        simulation.allocated packett sound
      obtain ⟨listed, filed, listedReady, sameListed⟩ :=
        simulation.filed (getFlowKey flowKey packett .forward) (count + 1)
          fresh
      rw [Meter.walkExpired_of_missing old missing, ← sameOpened,
        ← sameListed, allocated, Option.bind_eq_bind, Option.bind_some]
      dsimp only
      rw [filed]
      exact ⟨listed, _, rfl, listedReady, rfl⟩
  · rw [if_neg old, Meter.walkExpired_of_young old]
    exact ⟨state, flow, rfl, ready, rfl⟩
termination_by segmentsAbove (process.session state) flowKey count
decreasing_by
  exact segmentsAbove_lt_of_getFlow ‹_›

private theorem reaches_continueFlow
    (sound : simulation.Sound state) (packett : Packet)
    (flowKey : CString) (ready : simulation.Ready state flow) :
    simulation.Reaches (process.continueFlow state packett flowKey flow)
      simulation.Sound
      ((simulation.meter state).continueFlow packett flowKey flow) := by
  rw [continueFlow, Meter.continueFlow_eq, simulation.readable ready,
    Option.bind_eq_bind, Option.bind_some]
  split_ifs
  · obtain ⟨after, last, walked, lastReady, sameWalk⟩ :=
      exists_walkExpired sound packett flowKey 0 expiredUpdate ready
    rw [walked, sameWalk, Option.bind_eq_bind, Option.bind_some]
    exact reaches_recordPacket lastReady packett
  · obtain ⟨after, added, afterSound, -, -, same⟩ :=
      simulation.recorded packett .forward ready
    rw [added, ← same, Option.bind_eq_bind, Option.bind_some]
    exact reaches_garbageCollect afterSound packett.time
  · exact reaches_recordPacket ready packett

private theorem reaches_receivePacket
    (sound : simulation.Sound state) (packett : Packet) :
    simulation.Reaches (process.receivePacket state packett)
      simulation.Sound
      ((simulation.meter state).receivePacket packett) := by
  obtain ⟨countedSound, counted⟩ := simulation.counted sound
  have sameLookup : getFlow (process.session (process.countPacket state)) =
      getFlow (simulation.meter state).session := by
    rw [simulation.session, counted]
    rfl
  rw [receivePacket, Meter.receivePacket_eq, ← counted]
  split_ifs
  · dsimp only
    rw [simulation.session, sameLookup]
    have ready : ∀ {key flow},
        getFlow (simulation.meter state).session key 0 = some flow →
        simulation.Ready (process.countPacket state) flow := by
      intro key flow found
      apply simulation.ready countedSound
      rw [← simulation.session, sameLookup]
      exact found
    cases found : getFlow (simulation.meter state).session
        (getFlowKey [] packett .forward) 0 with
    | some flow =>
        exact reaches_continueFlow countedSound packett _ (ready found)
    | none =>
        dsimp only
        cases otherFound : getFlow (simulation.meter state).session
            (getFlowKey (getFlowKey [] packett .forward) packett .reverse)
            0 with
        | some flow =>
            obtain ⟨after, added, afterSound, afterReady, -, same⟩ :=
              simulation.recorded packett .reverse (ready otherFound)
            dsimp only
            rw [added, ← same, Option.bind_eq_bind, Option.bind_some]
            exact reaches_continueFlow afterSound packett _ afterReady
        | none =>
            exact reaches_startFlow countedSound packett _
  · exact ⟨state, rfl, sound, rfl⟩

variable (simulation)

theorem reaches_packetHandler
    (sound : simulation.Sound state) (frame : Frame) :
    simulation.Reaches (process.packetHandler state frame)
      simulation.Sound
      (UzFlowMeter.packetHandler (simulation.meter state) frame) := by
  rw [packetHandler, UzFlowMeter.packetHandler, Process.packetHandler]
  split_ifs
  · exact reaches_receivePacket sound frame.parsed
  · exact ⟨state, rfl, sound, rfl⟩

/-- A sequence of calls goes through and leads to the state of the model. -/
theorem reaches_run
    {capacity : Nat} (sound : simulation.Sound state)
    (initial : simulation.meter state = Meter.initial capacity)
    (frames : List Frame) :
    simulation.Reaches (frames.foldlM process.onPacketReceived state)
      simulation.Sound (run capacity frames) := by
  apply @Runs.foldlM_simulates Meter Frame UzFlowMeter.onPacketReceived
    State process.onPacketReceived
    (fun state meter => simulation.Sound state ∧
      simulation.meter state = meter)
  · exact ⟨sound, initial⟩
  · rintro state _ frame ⟨sound, rfl⟩
    exact reaches_receivePacket sound frame.parsed

end Process.Simulation

end UzFlowMeter
