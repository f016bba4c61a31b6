import UzFlowMeter.FlowHistory

/-!
# Active and idle times

The machine of `update_active_idle` sees only the gaps between packets that
are longer than the clump timeout, and it sees their lengths where it
expects times.
-/

namespace UzFlowMeter

open Gaps

/-- The fields that the active/idle machine keeps. -/
structure Activity where
  startActive : ℚ := 0
  lastActive : ℚ := 0
  active : GrowArray ℚ := {}
  idle : GrowArray ℚ := {}
  deriving DecidableEq

def Flow.activity (flow : Flow) : Activity :=
  ⟨flow.startActive, flow.lastActive, flow.active, flow.idle⟩

namespace Activity

/-- `update_active_idle` on the fields of the machine alone. -/
def update (activity : Activity) (currentTime : ℚ) : Activity :=
  if currentTime - activity.lastActive > activeTimeout then
    let duration := |activity.lastActive - activity.startActive|
    let active :=
      if activity.active.count = 0 then initializeActive 5
      else activity.active
    let idle :=
      if activity.idle.count = 0 then initializeIdle 5 else activity.idle
    { startActive := currentTime
      lastActive := currentTime
      active :=
        if duration > 0 then appendActive active (1000000 * duration)
        else active
      idle :=
        appendIdle idle (1000000 * (currentTime - activity.lastActive)) }
  else
    { activity with lastActive := currentTime }

end Activity

private theorem updateActiveIdle_activity (flow : Flow) (currentTime : ℚ) :
    (updateActiveIdle flow currentTime).activity =
      flow.activity.update currentTime := by
  rw [Activity.update, updateActiveIdle]
  by_cases long : currentTime - flow.lastActive > activeTimeout
  · have sameTest :
        currentTime - flow.activity.lastActive > activeTimeout := long
    rw [if_pos long, if_pos sameTest]
    simp only [Flow.activity, apply_ite Flow.active, apply_ite Flow.idle,
      apply_ite Flow.lastActive, ite_self]
    rfl
  · have sameTest :
        ¬ currentTime - flow.activity.lastActive > activeTimeout := long
    rw [if_neg long, if_neg sameTest]
    rfl

namespace Activity

variable {activity : Activity} {currentTime : ℚ}

theorem update_of_short
    (short : ¬ currentTime - activity.lastActive > activeTimeout) :
    activity.update currentTime =
      { activity with lastActive := currentTime } := by
  rw [update, if_neg short]

/-- A gap that exceeds the one before it by more than the activity timeout
appends an idle time, and an active time unless it is zero. -/
theorem update_of_long
    (long : currentTime - activity.lastActive > activeTimeout) :
    (activity.update currentTime).startActive = currentTime ∧
      (activity.update currentTime).lastActive = currentTime ∧
      (activity.update currentTime).idle.items = activity.idle.items ++
        [1000000 * (currentTime - activity.lastActive)] ∧
      (activity.update currentTime).active.items =
        activity.active.items ++
          if activity.lastActive = activity.startActive then []
          else [1000000 * |activity.lastActive - activity.startActive|] := by
  have idleItems := activity.idle.items_allocated 5
  have activeItems := activity.active.items_allocated 5
  rw [update, if_pos long]
  refine ⟨rfl, rfl, ?_, ?_⟩
  · rw [appendIdle_items]
    exact congrArg (· ++ _) idleItems
  · dsimp only
    by_cases still : activity.lastActive = activity.startActive
    · have noTime :
          ¬ |activity.lastActive - activity.startActive| > 0 := by
        rw [still, sub_self, abs_zero]
        exact lt_irrefl 0
      rw [if_neg noTime, if_pos still, List.append_nil]
      exact activeItems
    · have someTime : |activity.lastActive - activity.startActive| > 0 :=
        abs_pos.mpr (sub_ne_zero.mpr still)
      rw [if_pos someTime, if_neg still, appendActive_items]
      exact congrArg (· ++ _) activeItems

/-- Updates only append idle times, at most one for each gap. -/
theorem foldl_update_idle (gapList : List ℚ) (activity : Activity) :
    ∃ added, added.length ≤ gapList.length ∧
      (gapList.foldl update activity).idle.items =
        activity.idle.items ++ added := by
  induction gapList generalizing activity with
  | nil =>
      exact ⟨[], le_refl 0, by simp⟩
  | cons gap gapList inductionHypothesis =>
      obtain ⟨added, few, appended⟩ :=
        inductionHypothesis (activity.update gap)
      rw [List.foldl_cons, appended]
      by_cases long : gap - activity.lastActive > activeTimeout
      · obtain ⟨-, -, idle, -⟩ := update_of_long long
        refine ⟨1000000 * (gap - activity.lastActive) :: added,
          Nat.succ_le_succ few, ?_⟩
        rw [idle, List.append_assoc]
        rfl
      · rw [update_of_short long]
        exact ⟨added, Nat.le_succ_of_le few, rfl⟩

end Activity

private theorem updateSubflow_activity (flow : Flow) (packet : Packet) :
    (updateSubflow flow packet).activity =
      if flow.latestTimestamp ≠ 0 ∧
          packet.time - flow.latestTimestamp > clumpTimeout then
        flow.activity.update (packet.time - flow.latestTimestamp)
      else flow.activity := by
  rw [updateSubflow]
  by_cases unset : flow.latestTimestamp = 0
  · have noGap : ¬ packet.time - packet.time > clumpTimeout := by
      rw [sub_self]
      decide
    simp only [unset, ne_eq, not_true_eq_false, false_and, if_false, noGap]
  · simp only [unset, ne_eq, not_false_eq_true, true_and, if_true]
    by_cases clump : packet.time - flow.latestTimestamp > clumpTimeout
    · rw [if_pos clump, if_pos clump, updateActiveIdle_activity]
    · rw [if_neg clump, if_neg clump]

/-- A packet reaches the machine when it comes more than the clump timeout
after the latest one. -/
theorem addPacketToFlow_activity
    (flow : Flow) (packet : Packet) (direction : PacketDirection) :
    (addPacketToFlow flow packet direction).activity =
      if flow.latestTimestamp ≠ 0 ∧
          packet.time - flow.latestTimestamp > clumpTimeout then
        flow.activity.update (packet.time - flow.latestTimestamp)
      else flow.activity := by
  have latest := bulk_recordPair_frame flow packet direction
    Flow.latestTimestamp (fun _ => rfl) (fun _ _ => rfl)
  have activity := bulk_recordPair_frame flow packet direction
    Flow.activity (fun _ => rfl) (fun _ _ => rfl)
  rw [addPacketToFlow, recordStart_eq, recordWindow_eq, recordLatest,
    recordInterarrival_eq]
  refine (updateSubflow_activity _ packet).trans ?_
  rw [latest, activity]

/-- The gaps that are longer than the clump timeout. -/
def longGaps (times : List ℚ) : List ℚ :=
  (gaps times).filter fun gap => decide (gap > clumpTimeout)

private theorem longGaps_concat (times : List ℚ) (last time : ℚ) :
    longGaps (times ++ [last] ++ [time]) =
      longGaps (times ++ [last]) ++
        if time - last > clumpTimeout then [time - last] else [] := by
  rw [longGaps, gaps_concat, List.filter_append, longGaps]
  congr 1
  by_cases long : time - last > clumpTimeout
  · simp [long]
  · simp [long]

/-- The machine of a flow runs over the long gaps between its packets. -/
theorem flowOf_activity
    {pairs : List Pair} (inOrder : InOrder (timesOf pairs)) :
    (flowOf pairs).activity =
      (longGaps (timesOf pairs)).foldl Activity.update {} := by
  induction pairs using List.reverseRecOn with
  | nil =>
      rfl
  | append_singleton pairs last inductionHypothesis =>
      rw [timesOf_concat] at inOrder ⊢
      have before := inductionHypothesis inOrder.initial
      have latest := flowOf_latestTimestamp inOrder.initial
      rw [flowOf_concat, Flow.record, addPacketToFlow_activity, before,
        latest]
      rcases List.eq_nil_or_concat' (timesOf pairs) with
        first | ⟨times, previous, split⟩
      · rw [first]
        rfl
      · have positive : previous ≠ 0 := by
          apply ne_of_gt
          apply inOrder.positive
          rw [split]
          simp
        rw [split, longGaps_concat, List.foldl_append,
          List.getLastD_concat]
        by_cases long : last.packet.time - previous > clumpTimeout
        · rw [if_pos ⟨positive, long⟩, if_pos long]
          rfl
        · rw [if_neg (fun both => long both.2), if_neg long]
          rfl

/-- There is one idle time for each long gap, its length in microseconds,
and idle and active times fit into the duration of the flow. -/
structure Flow.TimesAccounted (flow : Flow) : Prop where
  idle : flow.idle.items =
    (longGaps (timesOf flow.pairs)).map fun gap => 1000000 * gap
  total : flow.idle.items.sum + flow.active.items.sum ≤
    1000000 * getDuration flow

instance (flow : Flow) : Decidable flow.TimesAccounted :=
  decidable_of_iff
    (flow.idle.items =
        ((longGaps (timesOf flow.pairs)).map fun gap => 1000000 * gap) ∧
      flow.idle.items.sum + flow.active.items.sum ≤
        1000000 * getDuration flow)
    ⟨fun both => ⟨both.1, both.2⟩,
      fun accounted => ⟨accounted.1, accounted.2⟩⟩

private theorem clumpTimeout_lt_of_mem_longGaps
    {times : List ℚ} {gap : ℚ} (member : gap ∈ longGaps times) :
    clumpTimeout < gap := by
  simpa using (List.mem_filter.mp member).2

/-- A single gap is accounted for. -/
theorem update_initial {gap : ℚ} (long : clumpTimeout < gap) :
    (Activity.update {} gap).lastActive = gap ∧
      (Activity.update {} gap).idle.items = [1000000 * gap] ∧
      (Activity.update {} gap).active.items = [] := by
  have far : gap - ({} : Activity).lastActive > activeTimeout := by
    rw [clumpTimeout] at long
    rw [activeTimeout]
    linarith
  obtain ⟨-, last, idle, active⟩ := Activity.update_of_long far
  exact ⟨last, by simpa using idle, active⟩

/-- A second gap is not: what is appended for it, if anything, is the
difference of the two. -/
theorem idle_ne_of_two_gaps
    {first second : ℚ} (rest : List ℚ) (long : clumpTimeout < first) :
    ((first :: second :: rest).foldl Activity.update {}).idle.items ≠
      (first :: second :: rest).map fun gap => 1000000 * gap := by
  obtain ⟨last, idle, -⟩ := update_initial long
  obtain ⟨added, few, appended⟩ := Activity.foldl_update_idle rest
    ((Activity.update {} first).update second)
  rw [List.foldl_cons, List.foldl_cons, appended]
  intro same
  by_cases far : second - (Activity.update {} first).lastActive >
      activeTimeout
  · obtain ⟨-, -, secondIdle, -⟩ := Activity.update_of_long far
    rw [secondIdle, idle, last] at same
    simp only [List.cons_append, List.nil_append, List.map_cons,
      List.cons.injEq] at same
    rw [clumpTimeout] at long
    linarith [same.2.1]
  · rw [Activity.update_of_short far, idle] at same
    have sameLength := congrArg List.length same
    simp only [List.length_append, List.length_cons, List.length_nil,
      List.length_map] at sameLength
    omega

/-- The idle and active times of packets in order are right if and only if
there is at most one long gap. -/
theorem timesAccounted_flowOf_iff
    (pairs : List Pair) (inOrder : InOrder (timesOf pairs)) :
    (flowOf pairs).TimesAccounted ↔
      (longGaps (timesOf pairs)).length ≤ 1 := by
  have activity := flowOf_activity inOrder
  have idle : (flowOf pairs).idle =
      ((longGaps (timesOf pairs)).foldl Activity.update {}).idle :=
    congrArg Activity.idle activity
  have active : (flowOf pairs).active =
      ((longGaps (timesOf pairs)).foldl Activity.update {}).active :=
    congrArg Activity.active activity
  have samePairs := flowOf_pairs pairs
  have long : ∀ gap ∈ longGaps (timesOf pairs), clumpTimeout < gap :=
    fun _ => clumpTimeout_lt_of_mem_longGaps
  have fits : (longGaps (timesOf pairs)).sum ≤ getDuration (flowOf pairs) := by
    have sorted : (timesOf (flowOf pairs).pairs).Pairwise (· ≤ ·) := by
      rw [samePairs]
      exact inOrder.sorted
    rw [getDuration_of_sorted sorted, samePairs]
    exact sum_filter_gaps_le inOrder.sorted _
  constructor
  · intro accounted
    have idleTimes := accounted.idle
    rw [samePairs, idle] at idleTimes
    match gapsEq : longGaps (timesOf pairs) with
    | [] => simp
    | [_] => simp
    | first :: second :: rest =>
        rw [gapsEq] at idleTimes long
        exact absurd idleTimes
          (idle_ne_of_two_gaps rest (long first (by simp)))
  · intro few
    match gapsEq : longGaps (timesOf pairs) with
    | [] =>
        rw [gapsEq] at idle active fits
        refine ⟨?_, ?_⟩
        · rw [idle, samePairs, gapsEq]
          rfl
        · have noTimes : ({} : Activity).idle.items.sum +
              ({} : Activity).active.items.sum = 0 := add_zero 0
          rw [idle, active, List.foldl_nil, noTimes]
          rw [List.sum_nil] at fits
          linarith
    | [gap] =>
        rw [gapsEq] at idle active fits long
        obtain ⟨-, idleTimes, activeTimes⟩ :=
          update_initial (long gap (by simp))
        refine ⟨?_, ?_⟩
        · rw [idle, samePairs, gapsEq]
          exact idleTimes
        · rw [idle, active, List.foldl_cons, List.foldl_nil, idleTimes,
            activeTimes]
          simp only [List.sum_cons, List.sum_nil] at fits ⊢
          linarith
    | first :: second :: rest =>
        rw [gapsEq] at few
        simp at few

/-- A pause of four seconds is one idle time. -/
theorem timesAccounted_one_pause :
    (flowOf [tcpPair .forward 0 1, tcpPair .reverse 0 5]).TimesAccounted :=
  (timesAccounted_flowOf_iff
    [tcpPair .forward 0 1, tcpPair .reverse 0 5] (by decide +kernel)).mpr
    (by decide +kernel)

/-- Of a second pause only the excess over the first one is recorded. -/
theorem second_pause_not_accounted :
    InOrder (timesOf [tcpPair .forward 0 1, tcpPair .reverse 0 3,
        tcpPair .forward 0 8]) ∧
      ¬ (flowOf [tcpPair .forward 0 1, tcpPair .reverse 0 3,
        tcpPair .forward 0 8]).TimesAccounted := by
  decide +kernel

end UzFlowMeter
