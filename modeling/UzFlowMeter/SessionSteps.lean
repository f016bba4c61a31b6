import UzFlowMeter.FiveTuple
import UzFlowMeter.FlowSession
import Mathlib.Tactic.Linarith
import Mathlib.Tactic.Ring

/-!
# What one received packet does

`on_packet_received` looks flows up twice, may walk over segments, and has
four calls of `add_packet_to_flow`.  This module says once what comes of it:
a packet takes one of five routes, the route is determined by the lookups
alone, and along it the packet is recorded in one flow under a fixed list of
labels.
-/

namespace UzFlowMeter

/-- Record a packet several times in one flow. -/
def recordLabels (flow : Flow) (packet : Packet)
    (labels : List PacketDirection) : Flow :=
  labels.foldl (fun flow label => addPacketToFlow flow packet label) flow

@[simp]
theorem recordLabels_pairs
    (flow : Flow) (packet : Packet) (labels : List PacketDirection) :
    (recordLabels flow packet labels).pairs =
      flow.pairs ++ labels.map (Pair.mk packet) := by
  induction labels generalizing flow with
  | nil =>
      simp [recordLabels]
  | cons label labels inductionHypothesis =>
      have later := inductionHypothesis (addPacketToFlow flow packet label)
      rw [recordLabels] at later
      rw [recordLabels, List.foldl_cons, later, addPacketToFlow_pairs]
      simp

theorem recordLabels_pairs_ne_nil
    (flow : Flow) (packet : Packet) {labels : List PacketDirection}
    (nonempty : labels ≠ []) :
    (recordLabels flow packet labels).pairs ≠ [] := by
  rw [recordLabels_pairs]
  simp [nonempty]

theorem recordLabels_header
    {flow : Flow} {packet : Packet} (labels : List PacketDirection)
    (sameProtocol : packet.protocol = flow.protocol) :
    (recordLabels flow packet labels).header = flow.header := by
  induction labels generalizing flow with
  | nil =>
      rfl
  | cons label labels inductionHypothesis =>
      have recorded := addPacketToFlow_header label sameProtocol
      have protocolKept :
          (addPacketToFlow flow packet label).protocol = flow.protocol :=
        congrArg (fun header => header.2.2.2.2) recorded
      exact (inductionHypothesis
        (sameProtocol.trans protocolKept.symm)).trans recorded

/-- The way of a packet through `on_packet_received`: a new flow, the flow
of its own or of the other orientation, or a later segment of its own
orientation, found or new. -/
inductive Route where
  | fresh
  | forward
  | reverse
  | segment (count : Nat)
  | newSegment (count : Nat)
  deriving DecidableEq, Repr

namespace Route

/-- Whether the route allocates a flow. -/
def opens : Route → Bool
  | fresh => true
  | forward => false
  | reverse => false
  | segment _ => false
  | newSegment _ => true

/-- The five-tuple under whose key the flow of the route is filed. -/
def tuple (packett : Packet) : Route → FiveTuple
  | fresh => packett.fiveTuple
  | forward => packett.fiveTuple
  | reverse => packett.fiveTuple.swap
  | segment _ => packett.fiveTuple
  | newSegment _ => packett.fiveTuple

/-- The count under which the flow of the route is filed. -/
def count : Route → Nat
  | fresh => 0
  | forward => 0
  | reverse => 0
  | segment count => count
  | newSegment count => count

/-- The directions the packet is recorded under, in order. -/
def labels : Route → List PacketDirection
  | fresh => [.forward, .forward]
  | forward => [.forward]
  | reverse => [.reverse, .forward]
  | segment _ => [.forward]
  | newSegment _ => [.forward]

end Route

/-- The segments below `count` are all there and too old: segment `j` by
`j + 1` times the update interval. -/
def StaleBelow (lookup : CString → Nat → Option Flow) (packett : Packet)
    (count : Nat) : Prop :=
  ∀ j < count, ∃ flow, lookup packett.fiveTuple.key j = some flow ∧
    packett.time - flow.latestTimestamp > expiredUpdate * (j + 1)

instance (lookup : CString → Nat → Option Flow) (packett : Packet)
    (count : Nat) : Decidable (StaleBelow lookup packett count) :=
  decidable_of_iff
    (∀ j < count, (lookup packett.fiveTuple.key j).any (fun flow =>
      decide (packett.time - flow.latestTimestamp >
        expiredUpdate * (j + 1))) = true)
    (by simp [StaleBelow, Option.any_eq_true])

/-- When a packet takes a route, in terms of the flows that the lookups of
`on_packet_received` find. -/
def Selects (lookup : CString → Nat → Option Flow) (packett : Packet) :
    Route → Prop
  | .fresh =>
      lookup packett.fiveTuple.key 0 = none ∧
        lookup packett.fiveTuple.swap.key 0 = none
  | .forward =>
      ∃ flow, lookup packett.fiveTuple.key 0 = some flow ∧
        packett.time - flow.latestTimestamp ≤ expiredUpdate
  | .reverse =>
      lookup packett.fiveTuple.key 0 = none ∧
        ∃ flow, lookup packett.fiveTuple.swap.key 0 = some flow
  | .segment count =>
      0 < count ∧ StaleBelow lookup packett count ∧
        ∃ flow, lookup packett.fiveTuple.key count = some flow ∧
          packett.time - flow.latestTimestamp ≤ expiredUpdate * (count + 1)
  | .newSegment count =>
      0 < count ∧ StaleBelow lookup packett count ∧
        lookup packett.fiveTuple.key count = none

/-- The flow of a route after the packet is recorded in it. -/
def recordedFlow (lookup : CString → Nat → Option Flow) (packett : Packet)
    (route : Route) : Option Flow :=
  if route.opens then
    some (recordLabels (newFlow packett) packett route.labels)
  else
    (lookup (route.tuple packett).key route.count).map fun flow =>
      recordLabels flow packett route.labels

namespace Meter

/-- The contents of the flow that `get_flow` finds. -/
def lookup (meter : Meter) (key : CString) (count : Nat) : Option Flow :=
  (getFlow meter.session key count).map meter.heap

/-- Allocate a flow for the packet, record the packet and file the flow. -/
def opened (meter : Meter) (packett : Packet) (count : Nat)
    (labels : List PacketDirection) : Meter :=
  { meter.countPacket with
    session := UzFlowMeter.addFlow meter.countPacket.session
      packett.fiveTuple.key meter.nextFlow count
    heap := Function.update meter.heap meter.nextFlow
      (recordLabels (newFlow packett) packett labels)
    nextFlow := meter.nextFlow + 1 }

/-- Record the packet in an existing flow. -/
def extended (meter : Meter) (packett : Packet) (flow : FlowPtr)
    (labels : List PacketDirection) : Meter :=
  { meter.countPacket with
    heap := Function.update meter.heap flow
      (recordLabels (meter.heap flow) packett labels) }

/-- The state after the packet is recorded along a route. -/
def record (meter : Meter) (packett : Packet) (route : Route) : Meter :=
  if route.opens then meter.opened packett route.count route.labels
  else
    match getFlow meter.session (route.tuple packett).key route.count with
    | some flow => meter.extended packett flow route.labels
    | none => meter

/-- When the call ends with a garbage collection: a `FIN` packet in time,
every ten thousandth packet, or a long flow. -/
def Collects (meter : Meter) (packett : Packet) (route : Route) : Prop :=
  ((route = .forward ∨ route = .reverse) ∧ packett.flags &&& thFin ≠ 0) ∨
    (meter.session.packetCount + 1) % garbageCollectPackets = 0 ∨
    (recordedFlow meter.lookup packett route).any
      (fun flow => decide (getDuration flow > 120)) = true

instance (meter : Meter) (packett : Packet) (route : Route) :
    Decidable (meter.Collects packett route) :=
  inferInstanceAs (Decidable (_ ∨ _ ∨ _))

/-- The state after the call, given the route. -/
def finished (meter : Meter) (packett : Packet) (route : Route) : Meter :=
  if meter.Collects packett route then
    (meter.record packett route).garbageCollect packett.time
  else meter.record packett route

end Meter

theorem Route.labels_ne_nil (route : Route) : route.labels ≠ [] := by
  cases route <;> simp [Route.labels]

/-- The walk over the segments ends at `count`: the segment is missing or
young enough. -/
def StopsAt (lookup : CString → Nat → Option Flow) (packett : Packet)
    (count : Nat) : Prop :=
  ∀ flow, lookup packett.fiveTuple.key count = some flow →
    packett.time - flow.latestTimestamp ≤ expiredUpdate * (count + 1)

private theorem StaleBelow.le_of_stopsAt
    {lookup : CString → Nat → Option Flow} {packett : Packet}
    {count stop : Nat} (stale : StaleBelow lookup packett count)
    (stops : StopsAt lookup packett stop) : count ≤ stop := by
  by_contra beyond
  obtain ⟨flow, found, old⟩ := stale stop (by omega)
  exact absurd (stops flow found) (not_le_of_gt old)

/-- Every route ends the walk at its own count. -/
theorem Selects.stale_and_stops
    {lookup : CString → Nat → Option Flow} {packett : Packet}
    {route : Route} (selects : Selects lookup packett route) :
    StaleBelow lookup packett route.count ∧
      StopsAt lookup packett route.count := by
  have noneBelow : StaleBelow lookup packett 0 := by
    intro j below
    exact absurd below (Nat.not_lt_zero j)
  cases route with
  | fresh =>
      refine ⟨noneBelow, ?_⟩
      intro flow found
      rw [Route.count, selects.1] at found
      cases found
  | forward =>
      obtain ⟨flow, found, young⟩ := selects
      refine ⟨noneBelow, ?_⟩
      intro other otherFound
      rw [Route.count, found] at otherFound
      cases otherFound
      simpa [Route.count] using young
  | reverse =>
      refine ⟨noneBelow, ?_⟩
      intro flow found
      rw [Route.count, selects.1] at found
      cases found
  | segment count =>
      obtain ⟨-, stale, flow, found, young⟩ := selects
      refine ⟨stale, ?_⟩
      intro other otherFound
      rw [Route.count, found] at otherFound
      cases otherFound
      exact young
  | newSegment count =>
      obtain ⟨-, stale, missing⟩ := selects
      refine ⟨stale, ?_⟩
      intro flow found
      rw [Route.count, missing] at found
      cases found

/-- The walk ends in one place only. -/
theorem Selects.count_eq
    {lookup : CString → Nat → Option Flow} {packett : Packet}
    {route : Route} (selects : Selects lookup packett route) {count : Nat}
    (stale : StaleBelow lookup packett count)
    (stops : StopsAt lookup packett count) : count = route.count := by
  obtain ⟨routeStale, routeStops⟩ := selects.stale_and_stops
  exact Nat.le_antisymm (stale.le_of_stopsAt routeStops)
    (routeStale.le_of_stopsAt stops)

/-- A packet takes at most one route. -/
theorem Selects.unique
    {lookup : CString → Nat → Option Flow} {packett : Packet}
    {first second : Route}
    (selectsFirst : Selects lookup packett first)
    (selectsSecond : Selects lookup packett second) :
    first = second := by
  obtain ⟨firstStale, firstStops⟩ := selectsFirst.stale_and_stops
  have sameCount : first.count = second.count :=
    selectsSecond.count_eq firstStale firstStops
  cases first <;> cases second <;>
    simp only [Selects, Route.count] at * <;> grind

/-- Lookups that agree on the two keys of a packet give it the same
routes. -/
theorem Selects.congr
    {first second : CString → Nat → Option Flow} {packett : Packet}
    {route : Route}
    (sameForward : ∀ count, first packett.fiveTuple.key count =
      second packett.fiveTuple.key count)
    (sameReverse : ∀ count, first packett.fiveTuple.swap.key count =
      second packett.fiveTuple.swap.key count)
    (selects : Selects first packett route) :
    Selects second packett route := by
  cases route <;>
    simpa only [Selects, StaleBelow, sameForward, sameReverse] using selects

/-! ## The walk over the segments -/

namespace Meter

/-- The walk passes stale segments and stops at the first one that is young
enough, or opens the first one that is missing. -/
theorem walkExpired_spec
    (meter : Meter) (packett : Packet) (count : Nat) (expired : ℚ)
    (flow : FlowPtr)
    (found : getFlow meter.session packett.fiveTuple.key count = some flow)
    (threshold : expired = expiredUpdate * (count + 1))
    (stale : StaleBelow meter.lookup packett count) :
    ∃ stop, count ≤ stop ∧ StaleBelow meter.lookup packett stop ∧
      ((∃ last,
          getFlow meter.session packett.fiveTuple.key stop = some last ∧
          packett.time - (meter.heap last).latestTimestamp ≤
            expiredUpdate * (stop + 1) ∧
          meter.walkExpired packett packett.fiveTuple.key count expired
            flow = (meter, last)) ∨
        (count < stop ∧
          getFlow meter.session packett.fiveTuple.key stop = none ∧
          meter.walkExpired packett packett.fiveTuple.key count expired
              flow =
            ((meter.allocateFlow packett).1.addFlow packett.fiveTuple.key
              meter.nextFlow stop, meter.nextFlow))) := by
  by_cases old :
      packett.time - (meter.heap flow).latestTimestamp > expired
  · have staleNext : StaleBelow meter.lookup packett (count + 1) := by
      intro j below
      rcases Nat.lt_succ_iff_lt_or_eq.mp below with earlier | rfl
      · exact stale j earlier
      · refine ⟨meter.heap flow, ?_, threshold ▸ old⟩
        simp [lookup, found]
    cases nextFound :
        getFlow meter.session packett.fiveTuple.key (count + 1) with
    | some next =>
        rw [walkExpired_of_found old nextFound]
        obtain ⟨stop, reached, staleStop, ended | ⟨beyond, opened⟩⟩ :=
          walkExpired_spec meter packett (count + 1)
            (expired + expiredUpdate) next nextFound
            (by rw [threshold]; push_cast; ring) staleNext
        · exact ⟨stop, by omega, staleStop, Or.inl ended⟩
        · exact ⟨stop, by omega, staleStop, Or.inr ⟨by omega, opened⟩⟩
    | none =>
        rw [walkExpired_of_missing old nextFound, getFlowKey_forward]
        exact ⟨count + 1, by omega, staleNext,
          Or.inr ⟨by omega, nextFound, rfl⟩⟩
  · rw [walkExpired_of_young old]
    refine ⟨count, le_refl count, stale, Or.inl ⟨flow, found, ?_, rfl⟩⟩
    rw [← threshold]
    exact le_of_not_gt old
termination_by segmentsAbove meter.session packett.fiveTuple.key count
decreasing_by
  exact segmentsAbove_lt_of_getFlow ‹_›

theorem lookup_eq_none_iff {meter : Meter} {key : CString} {count : Nat} :
    meter.lookup key count = none ↔
      getFlow meter.session key count = none := by
  simp [lookup]

theorem lookup_eq_some_iff
    {meter : Meter} {key : CString} {count : Nat} {contents : Flow} :
    meter.lookup key count = some contents ↔
      ∃ flow, getFlow meter.session key count = some flow ∧
        meter.heap flow = contents := by
  simp [lookup]

theorem record_of_opens
    {meter : Meter} {packett : Packet} {route : Route}
    (opens : route.opens = true) :
    meter.record packett route =
      meter.opened packett route.count route.labels := by
  rw [record, if_pos opens]

theorem record_of_found
    {meter : Meter} {packett : Packet} {route : Route} {flow : FlowPtr}
    (closed : route.opens = false)
    (found : getFlow meter.session (route.tuple packett).key route.count =
      some flow) :
    meter.record packett route =
      meter.extended packett flow route.labels := by
  rw [record, closed, if_neg Bool.false_ne_true, found]

/-- The flow of a route is missing when the route opens one, and found
otherwise. -/
theorem opens_or_found
    {meter : Meter} {packett : Packet} {route : Route}
    (selects : Selects meter.lookup packett route) :
    (route.opens = true ∧
      getFlow meter.session (route.tuple packett).key route.count =
        none) ∨
      (route.opens = false ∧ ∃ flow,
        getFlow meter.session (route.tuple packett).key route.count =
          some flow) := by
  cases route with
  | fresh =>
      exact Or.inl ⟨rfl, lookup_eq_none_iff.mp selects.1⟩
  | forward =>
      obtain ⟨contents, found, -⟩ := selects
      obtain ⟨flow, found, -⟩ := lookup_eq_some_iff.mp found
      exact Or.inr ⟨rfl, flow, found⟩
  | reverse =>
      obtain ⟨-, contents, found⟩ := selects
      obtain ⟨flow, found, -⟩ := lookup_eq_some_iff.mp found
      exact Or.inr ⟨rfl, flow, found⟩
  | segment count =>
      obtain ⟨-, -, contents, found, -⟩ := selects
      obtain ⟨flow, found, -⟩ := lookup_eq_some_iff.mp found
      exact Or.inr ⟨rfl, flow, found⟩
  | newSegment count =>
      exact Or.inl ⟨rfl, lookup_eq_none_iff.mp selects.2.2⟩

/-- The end of the call in terms of the recording along a route, unless a
`FIN` packet cut it short. -/
private theorem recordPacket_eq_finished
    {meter before : Meter} {packett : Packet} {flow : FlowPtr}
    {route : Route}
    (recorded : before.addPacketToFlow flow packett .forward =
      meter.record packett route)
    (counted : before.session.packetCount =
      meter.session.packetCount + 1)
    (contents : recordedFlow meter.lookup packett route =
      some ((before.addPacketToFlow flow packett .forward).heap flow))
    (notCut : ¬ ((route = .forward ∨ route = .reverse) ∧
      packett.flags &&& thFin ≠ 0)) :
    before.recordPacket packett flow = meter.finished packett route := by
  have sameTest :
      ((before.addPacketToFlow flow packett .forward).session.packetCount %
            garbageCollectPackets = 0 ∨
          getDuration
              ((before.addPacketToFlow flow packett .forward).heap flow) >
            120) ↔
        meter.Collects packett route := by
    rw [Collects]
    rw [contents]
    simp only [notCut, false_or, Option.any_some, decide_eq_true_eq]
    rw [← counted]
    rfl
  rw [recordPacket_eq, finished]
  rw [← recorded]
  by_cases collects : meter.Collects packett route
  · rw [if_pos collects]
    exact if_pos (sameTest.mpr collects)
  · rw [if_neg collects]
    exact if_neg (fun test => collects (sameTest.mp test))

private theorem startFlow_eq_finished
    (meter : Meter) (packett : Packet) (flowKey : CString) :
    meter.countPacket.startFlow packett flowKey =
      meter.finished packett .fresh := by
  rw [startFlow_eq]
  apply recordPacket_eq_finished
  · have opens : Route.fresh.opens = true := rfl
    rw [record_of_opens opens]
    simp [addPacketToFlow, addFlow, allocateFlow, opened, countPacket,
      Route.labels, Route.count, recordLabels]
  · rfl
  · simp [recordedFlow, Route.opens, Route.labels, recordLabels,
      addPacketToFlow, addFlow, allocateFlow, countPacket]
  · simp

/-- The `FIN` test and what follows it, for a flow that is not expired. -/
private theorem continueFlow_eq_finished
    {meter before : Meter} {packett : Packet} {flowKey : CString}
    {flow : FlowPtr} {route : Route}
    (inTime : route = .forward ∨ route = .reverse)
    (young : packett.time - (before.heap flow).latestTimestamp ≤
      expiredUpdate)
    (recorded : before.addPacketToFlow flow packett .forward =
      meter.record packett route)
    (counted : before.session.packetCount =
      meter.session.packetCount + 1)
    (contents : recordedFlow meter.lookup packett route =
      some ((before.addPacketToFlow flow packett .forward).heap flow)) :
    before.continueFlow packett flowKey flow =
      meter.finished packett route := by
  rw [continueFlow_eq]
  rw [if_neg (not_lt_of_ge young)]
  by_cases fin : packett.flags &&& thFin ≠ 0
  · have collects : meter.Collects packett route := Or.inl ⟨inTime, fin⟩
    rw [if_pos fin, recorded, finished, if_pos collects]
  · rw [if_neg fin]
    exact recordPacket_eq_finished recorded counted contents
      (fun cut => fin cut.2)

private theorem continueFlow_forward
    {meter : Meter} {packett : Packet} {flow : FlowPtr}
    (found : getFlow meter.session packett.fiveTuple.key 0 = some flow)
    (young : packett.time - (meter.heap flow).latestTimestamp ≤
      expiredUpdate) :
    meter.countPacket.continueFlow packett packett.fiveTuple.key flow =
      meter.finished packett .forward := by
  apply continueFlow_eq_finished (Or.inl rfl)
  · exact young
  · have closed : Route.forward.opens = false := rfl
    rw [record_of_found closed found]
    rfl
  · rfl
  · simp [recordedFlow, Route.opens, Route.labels, Route.tuple, Route.count,
      recordLabels, lookup, found, addPacketToFlow, countPacket]

private theorem continueFlow_reverse
    {meter : Meter} {packett : Packet} {flow : FlowPtr}
    (found : getFlow meter.session packett.fiveTuple.swap.key 0 =
      some flow) :
    (meter.countPacket.addPacketToFlow flow packett .reverse).continueFlow
        packett packett.fiveTuple.swap.key flow =
      meter.finished packett .reverse := by
  apply continueFlow_eq_finished (Or.inr rfl)
  · -- The packet is already in the flow, which is as late as it is.
    have late : packett.time ≤
        max (meter.heap flow).latestTimestamp packett.time :=
      le_max_right _ _
    simp only [addPacketToFlow, countPacket, Function.update_self,
      addPacketToFlow_latestTimestamp, expiredUpdate]
    linarith
  · have closed : Route.reverse.opens = false := rfl
    rw [record_of_found closed found]
    simp [addPacketToFlow, extended, countPacket, Route.labels,
      recordLabels]
  · rfl
  · simp [recordedFlow, Route.opens, Route.labels, Route.tuple, Route.count,
      recordLabels, lookup, found, addPacketToFlow, countPacket]

private theorem continueFlow_expired
    {meter : Meter} {packett : Packet} {flow : FlowPtr}
    (found : getFlow meter.session packett.fiveTuple.key 0 = some flow)
    (old : packett.time - (meter.heap flow).latestTimestamp >
      expiredUpdate) :
    ∃ route, Selects meter.lookup packett route ∧
      meter.countPacket.continueFlow packett packett.fiveTuple.key flow =
        meter.finished packett route := by
  obtain ⟨stop, -, stale, result⟩ :=
    walkExpired_spec meter.countPacket packett 0 expiredUpdate flow found
      (by simp) (fun j below => absurd below (Nat.not_lt_zero j))
  have oldCounted :
      packett.time - (meter.countPacket.heap flow).latestTimestamp >
        expiredUpdate := old
  rw [continueFlow_eq]
  rw [if_pos oldCounted]
  rcases result with ⟨last, lastFound, young, walked⟩ |
    ⟨beyond, missing, walked⟩
  · have sameFound :
        getFlow meter.session packett.fiveTuple.key stop = some last :=
      lastFound
    have beyond : 0 < stop := by
      rcases Nat.eq_zero_or_pos stop with rfl | positive
      · obtain rfl : flow = last :=
          Option.some.inj (found.symm.trans lastFound)
        rw [Nat.cast_zero, zero_add, mul_one] at young
        exact absurd young (not_le_of_gt old)
      · exact positive
    refine ⟨.segment stop, ⟨beyond, stale, meter.heap last, ?_, young⟩, ?_⟩
    · exact lookup_eq_some_iff.mpr ⟨last, lastFound, rfl⟩
    · rw [walked]
      apply recordPacket_eq_finished
      · have closed : (Route.segment stop).opens = false := rfl
        rw [record_of_found closed sameFound]
        rfl
      · rfl
      · simp [recordedFlow, Route.opens, Route.labels, Route.tuple,
          Route.count, recordLabels, lookup, sameFound, addPacketToFlow,
          countPacket]
      · simp
  · refine ⟨.newSegment stop,
      ⟨beyond, stale, lookup_eq_none_iff.mpr missing⟩, ?_⟩
    rw [walked]
    apply recordPacket_eq_finished
    · have opens : (Route.newSegment stop).opens = true := rfl
      rw [record_of_opens opens]
      simp [addPacketToFlow, addFlow, allocateFlow, opened, countPacket,
        Route.labels, Route.count, recordLabels]
    · rfl
    · simp [recordedFlow, Route.opens, Route.labels, recordLabels,
        addPacketToFlow, addFlow, allocateFlow, countPacket]
    · simp

/-- `on_packet_received` on an accepted packet: the packet takes a route and
is recorded along it, possibly followed by a garbage collection. -/
theorem receivePacket_spec
    (meter : Meter) {packett : Packet} (accepted : packett.Accepted) :
    ∃ route, Selects meter.lookup packett route ∧
      meter.receivePacket packett = meter.finished packett route := by
  rw [receivePacket_eq]
  rw [if_pos accepted]
  simp only [getFlowKey_forward, getFlowKey_reverse]
  cases found : getFlow meter.session packett.fiveTuple.key 0 with
  | some flow =>
      by_cases old :
          packett.time - (meter.heap flow).latestTimestamp > expiredUpdate
      · exact continueFlow_expired found old
      · have young := le_of_not_gt old
        exact ⟨.forward,
          ⟨meter.heap flow, lookup_eq_some_iff.mpr ⟨flow, found, rfl⟩,
            young⟩,
          continueFlow_forward found young⟩
  | none =>
      have missing := lookup_eq_none_iff.mpr found
      cases reverseFound :
          getFlow meter.session packett.fiveTuple.swap.key 0 with
      | some flow =>
          exact ⟨.reverse,
            ⟨missing, meter.heap flow,
              lookup_eq_some_iff.mpr ⟨flow, reverseFound, rfl⟩⟩,
            continueFlow_reverse reverseFound⟩
      | none =>
          exact ⟨.fresh, ⟨missing, lookup_eq_none_iff.mpr reverseFound⟩,
            startFlow_eq_finished meter packett
              packett.fiveTuple.swap.key⟩

theorem receivePacket_of_not_accepted
    (meter : Meter) {packett : Packet} (ignored : ¬ packett.Accepted) :
    meter.receivePacket packett = meter := by
  rw [receivePacket_eq, if_neg ignored]

end Meter

end UzFlowMeter
