import UzFlowMeter.FlowBytes
import UzFlowMeter.Library.Extremes
import UzFlowMeter.Lifecycle

/-!
# The minimum of the forward headers

`get_min_forward_header_bytes` begins with the header of the first pair.  A
flow of a session begins with a forward pair, since only packets that are
recorded as forward open a flow.
-/

namespace UzFlowMeter

open Extremes

/-- The first pair of the flow is a forward one. -/
def Flow.BeginsForward (flow : Flow) : Prop :=
  flow.pairs.head?.map Pair.direction = some .forward

instance (flow : Flow) : Decidable flow.BeginsForward :=
  inferInstanceAs (Decidable (_ = _))

private theorem foldl_forwardHeaders (start : Int) (pairs : List Pair) :
    pairs.foldl
        (fun minHeaderBytes pair =>
          if pair.direction = .forward then
            if pair.packet.headerSize < minHeaderBytes then
              pair.packet.headerSize
            else minHeaderBytes
          else minHeaderBytes) start =
      ((pairs.filter fun pair => pair.direction = .forward).map fun pair =>
        pair.packet.headerSize).foldl min start := by
  rw [List.foldl_map, List.foldl_filter]
  congr 1
  funext minHeaderBytes pair
  simp only [decide_eq_true_eq, ite_lt_eq_min]

/-- On a flow that begins with a forward pair the loop finds the minimum. -/
theorem Flow.BeginsForward.isLeast
    {flow : Flow} (begins : flow.BeginsForward) :
    IsLeast
      {size | ∃ pair ∈ flow.pairs,
        pair.direction = .forward ∧ pair.packet.headerSize = size}
      (getMinForwardHeaderBytes flow) := by
  have sizes : {size | ∃ pair ∈ flow.pairs,
      pair.direction = .forward ∧ pair.packet.headerSize = size} =
        {size | size ∈ (flow.pairs.filter fun pair =>
          pair.direction = .forward).map fun pair =>
            pair.packet.headerSize} := by
    ext size
    simp [and_assoc]
  rw [BeginsForward] at begins
  rw [sizes, getMinForwardHeaderBytes]
  cases recorded : flow.pairs with
  | nil =>
      rw [recorded] at begins
      exact absurd begins (by simp)
  | cons first rest =>
      rw [recorded] at begins
      have isForward : first.direction = .forward := by simpa using begins
      dsimp only
      rw [foldl_forwardHeaders, List.filter_cons_of_pos (by simpa),
        List.map_cons, List.foldl_cons, min_self]
      exact isLeast_foldl_min _ _

/-- On other flows the first header counts as well. -/
example :
    getMinForwardHeaderBytes
      { packets :=
          { block := some [⟨{ headerSize := 42 }, .reverse⟩,
              ⟨{ headerSize := 54 }, .forward⟩]
            capacity := 10 } } = 42 := by
  decide

/-- A route that opens a flow records the packet as forward. -/
theorem Route.labels_head_of_opens
    {route : Route} (opens : route.opens = true) :
    route.labels.head? = some .forward := by
  cases route with
  | fresh =>
      rfl
  | newSegment count =>
      rfl
  | forward =>
      exact absurd opens Bool.false_ne_true
  | reverse =>
      exact absurd opens Bool.false_ne_true
  | segment count =>
      exact absurd opens Bool.false_ne_true

private theorem beginsForward_newFlow
    (packet : Packet) {route : Route} (opens : route.opens = true) :
    (recordLabels (newFlow packet) packet route.labels).BeginsForward := by
  have empty : (newFlow packet).pairs = [] := rfl
  rw [Flow.BeginsForward, recordLabels_pairs, empty, List.nil_append,
    List.head?_map, Option.map_map, Route.labels_head_of_opens opens]
  rfl

/-- Recording appends and keeps the first pair. -/
theorem Flow.BeginsForward.recordLabels
    {flow : Flow} (begins : flow.BeginsForward) (packet : Packet)
    (labels : List PacketDirection) :
    (UzFlowMeter.recordLabels flow packet labels).BeginsForward := by
  rw [BeginsForward] at begins ⊢
  rw [recordLabels_pairs]
  cases recorded : flow.pairs with
  | nil =>
      rw [recorded] at begins
      exact absurd begins (by simp)
  | cons first rest =>
      rw [recorded] at begins
      exact begins

namespace Meter

theorem beginsForward_run (capacity : Nat) (frames : List Frame) :
    (run capacity frames).AllFlows Flow.BeginsForward := by
  apply @Runs.run_invariant Meter Frame UzFlowMeter.onPacketReceived
    (AllFlows Flow.BeginsForward)
  · exact allFlows_initial _ capacity
  · intro meter frame all
    apply onPacketReceived_invariant _ _ all
    · intro route _ selects
      apply all.record_of_route selects
      · exact beginsForward_newFlow frame.parsed
      · intro entry _ _ _ _ begins
        exact begins.recordLabels frame.parsed route.labels
    · intro collected begins
      exact begins.garbageCollect frame.parsed.time

/-- Every flow, live or exported, begins with a forward pair, and the minimum
is that of its forward headers. -/
def ForwardMinimaRight (meter : Meter) : Prop :=
  ∀ snapshot ∈ meter.flows,
    snapshot.contents.BeginsForward ∧
      IsLeast
        {size | ∃ pair ∈ snapshot.contents.pairs,
          pair.direction = .forward ∧ pair.packet.headerSize = size}
        (getMinForwardHeaderBytes snapshot.contents)

theorem forwardMinimaRight_of_run
    (capacity : Nat) (frames : List Frame) :
    (run capacity frames).ForwardMinimaRight := by
  have begins : ∀ snapshot ∈ (run capacity frames).flows,
      snapshot.contents.BeginsForward :=
    (tracked_run capacity frames).forall_flows_iff.mpr
      (beginsForward_run capacity frames)
  intro snapshot member
  exact ⟨begins snapshot member, (begins snapshot member).isLeast⟩

end Meter

end UzFlowMeter
