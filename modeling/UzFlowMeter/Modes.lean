import UzFlowMeter.Library.LeastMode
import UzFlowMeter.Skewness

/-!
# Modes

The model of `get_mode` in `packet_time.c`, which counts the runs of the
sorted times, and of `get_mode_len` in `packet_length.c`, whose inner loop is
bounded by a counter that hides the number of lengths.
-/

namespace UzFlowMeter

open LeastMode MachineInt Sorting

/-- The variables of the loop of `get_mode`. -/
structure RunScan where
  previous : ℚ
  mode : ℚ
  maxCount : Int
  currentCount : Int
  deriving DecidableEq, Repr

namespace RunScan

/-- The comparison of a run that has ended with the longest one so far. -/
def commit (scan : RunScan) : RunScan :=
  if scan.currentCount > scan.maxCount then
    { scan with maxCount := scan.currentCount, mode := scan.previous }
  else scan

/-- One round of the loop. -/
def step (scan : RunScan) (time : ℚ) : RunScan :=
  if time = scan.previous then
    { scan with previous := time, currentCount := scan.currentCount + 1 }
  else { scan.commit with previous := time, currentCount := 1 }

end RunScan

/-- `get_mode`, with the check of the last run after the loop. -/
def getMode (flow : Flow) : ℚ :=
  let packetTimes := getPacketTimes flow
  let packetCount := flow.packets.count
  if packetCount = 0 then -1
  else
    match qsort compareDoubles packetTimes with
    | [] => -1 -- not reached, the array is not empty
    | first :: rest =>
        let scan : RunScan := ⟨first, first, 1, 1⟩
        (rest.foldl RunScan.step scan).commit.mode

/-- The scan between two rounds: the runs that have ended, whose least mode is
known, and the current run.  During the first run the mode is its value. -/
structure RunScan.Covers (scan : RunScan) (settled : List ℚ) (size : Nat) :
    Prop where
  current : scan.currentCount = size
  positive : 0 < size
  below : ∀ time ∈ settled, time < scan.previous
  known : settled = [] ∧ scan.mode = scan.previous ∧ scan.maxCount = 1 ∨
    IsLeastMode settled scan.mode ∧ scan.maxCount = settled.count scan.mode

section Scan

variable {scan : RunScan} {settled : List ℚ} {size : Nat}

/-- The current run is settled. -/
theorem RunScan.Covers.commit (covers : scan.Covers settled size) :
    IsLeastMode (settled ++ List.replicate size scan.previous)
        scan.commit.mode ∧
      scan.commit.maxCount =
        (settled ++ List.replicate size scan.previous).count
          scan.commit.mode := by
  have current := covers.current
  have positive := covers.positive
  rw [RunScan.commit]
  rcases covers.known with ⟨first, mode, once⟩ | ⟨isLeastMode, counted⟩
  · rw [first, List.nil_append]
    split_ifs with longer
    · refine ⟨isLeastMode_replicate positive _, ?_⟩
      rw [List.count_replicate_self]
      exact current
    · rw [mode]
      refine ⟨isLeastMode_replicate positive _, ?_⟩
      rw [List.count_replicate_self]
      omega
  · split_ifs with longer
    · refine ⟨isLeastMode.append_longer covers.below size (by omega), ?_⟩
      rw [count_append_run_self covers.below]
      exact current
    · refine ⟨isLeastMode.append_other covers.below size (by omega), ?_⟩
      have less := covers.below _ isLeastMode.occurs
      rw [count_append_run_other settled size (ne_of_lt less)]
      exact counted

/-- A round of the loop goes on with the run or settles it. -/
theorem RunScan.Covers.step
    (covers : scan.Covers settled size) {time : ℚ}
    (later : scan.previous ≤ time) :
    ∃ settled' size', (scan.step time).Covers settled' size' ∧
      (scan.step time).previous = time ∧
      settled' ++ List.replicate size' time =
        settled ++ List.replicate size scan.previous ++ [time] := by
  rw [RunScan.step]
  split_ifs with same
  · refine ⟨settled, size + 1, ⟨?_, by omega, ?_, ?_⟩, rfl, ?_⟩
    · rw [covers.current, Nat.cast_add, Nat.cast_one]
    · rw [same]
      exact covers.below
    · rw [same]
      exact covers.known
    · rw [same, List.replicate_succ', List.append_assoc]
  · have greater : scan.previous < time :=
      lt_of_le_of_ne later (Ne.symm same)
    have settledRun := covers.commit
    refine ⟨settled ++ List.replicate size scan.previous, 1,
      ⟨rfl, by omega, ?_, Or.inr settledRun⟩, rfl, rfl⟩
    intro earlier member
    rcases List.mem_append.mp member with old | inRun
    · exact lt_trans (covers.below earlier old) greater
    · rw [List.eq_of_mem_replicate inRun]
      exact greater

end Scan

/-- The loop and the check after it find the least mode of all times. -/
theorem isLeastMode_foldl_step
    {scan : RunScan} {settled times : List ℚ} {size : Nat}
    (covers : scan.Covers settled size)
    (sorted : (scan.previous :: times).Pairwise (· ≤ ·)) :
    IsLeastMode
      (settled ++ List.replicate size scan.previous ++ times)
      (times.foldl RunScan.step scan).commit.mode := by
  induction times generalizing scan settled size with
  | nil =>
      rw [List.append_nil]
      exact covers.commit.1
  | cons time times inductionHypothesis =>
      have ordered := List.pairwise_cons.mp sorted
      obtain ⟨settled', size', covers', previous, seen⟩ :=
        covers.step (ordered.1 time (by simp))
      have rest := inductionHypothesis covers' (by
        rw [previous]
        exact ordered.2)
      rw [previous, seen, List.append_assoc] at rest
      exact rest

/-- The mode of the packet times is the least of the most frequent ones. -/
theorem isLeastMode_getMode
    (flow : Flow) (nonempty : flow.pairs ≠ []) :
    IsLeastMode (getPacketTimes flow) (getMode flow) := by
  have recorded : flow.packets.count ≠ 0 :=
    ne_of_gt (List.length_pos_of_ne_nil nonempty)
  have perm := qsort_perm compareDoubles (getPacketTimes flow)
  have sorted := qsort_sorted compareDoubles_agrees (getPacketTimes flow)
  rw [getMode]
  dsimp only
  rw [if_neg recorded]
  cases times : qsort compareDoubles (getPacketTimes flow) with
  | nil =>
      have length := perm.length_eq
      rw [times, length_getPacketTimes] at length
      exact absurd length.symm recorded
  | cons first rest =>
      rw [times] at perm sorted
      have covers : RunScan.Covers ⟨first, first, 1, 1⟩ [] 1 :=
        ⟨rfl, Nat.one_pos, by simp, Or.inl ⟨rfl, rfl, rfl⟩⟩
      have found := isLeastMode_foldl_step covers sorted
      exact found.of_perm perm

/-- Two times that occur equally often, and one that occurs once. -/
theorem isLeastMode_getMode_tie :
    IsLeastMode [0, 5, 2, 5, 2]
      (getMode (flowOf [tcpPair .forward 0 1, tcpPair .forward 0 6,
        tcpPair .forward 0 3, tcpPair .forward 0 6,
        tcpPair .forward 0 3])) := by
  have times : getPacketTimes (flowOf [tcpPair .forward 0 1,
      tcpPair .forward 0 6, tcpPair .forward 0 3, tcpPair .forward 0 6,
      tcpPair .forward 0 3]) = [0, 5, 2, 5, 2] := by
    decide +kernel
  rw [← times]
  exact isLeastMode_getMode _ (by decide +kernel)

/-- The inner loop of `get_mode_len` from an index on.  Its own counter bounds
it in place of the number of lengths. -/
def countEqual (length : Int) : List Int → Nat → Nat → Nat
  | [], _, count => count
  | other :: rest, j, count =>
      if j < count then
        countEqual length rest (j + 1)
          (if other = length then count + 1 else count)
      else count

/-- One round of the outer loop on the pair of `max_count` and `mode`. -/
def updateMode (packetLengths : List Int) (best : Nat × Int)
    (length : Int) : Nat × Int :=
  let count := countEqual length packetLengths 0 0
  if count > best.1 then (count, length) else best

/-- `get_mode_len`. -/
def getModeLen {m : Type → Type} [Monad m] (add : Int → Int → m Int)
    (flow : Flow) (packetDirection : PacketDirection) : m Int := do
  let packetLengths ← getPacketLength add flow packetDirection
  match packetLengths with
  | [] => return -1
  | first :: _ =>
      return (packetLengths.foldl (updateMode packetLengths) (0, first)).2

/-- The bound of the inner loop is zero when it begins. -/
theorem countEqual_zero (length : Int) (lengths : List Int) :
    countEqual length lengths 0 0 = 0 := by
  cases lengths with
  | nil =>
      rfl
  | cons other rest =>
      rw [countEqual, if_neg (Nat.lt_irrefl 0)]

private theorem foldl_updateMode
    (packetLengths lengths : List Int) (best : Nat × Int) :
    lengths.foldl (updateMode packetLengths) best = best := by
  induction lengths with
  | nil =>
      rfl
  | cons length lengths inductionHypothesis =>
      have unchanged : updateMode packetLengths best length = best := by
        rw [updateMode, countEqual_zero]
        exact if_neg (Nat.not_lt_zero _)
      rw [List.foldl_cons, unchanged, inductionHypothesis]

/-- Nothing is counted, so that the first length is returned. -/
theorem getModeLen_eq_head (flow : Flow) (direction : PacketDirection) :
    Id.run (getModeLen exact flow direction) =
      (flow.lengthsAlong direction).headD (-1) := by
  rw [getModeLen, Id.run_bind, getPacketLength_exact]
  cases flow.lengthsAlong direction with
  | nil =>
      rfl
  | cons first rest =>
      exact congrArg Prod.snd (foldl_updateMode _ _ (0, first))

/-- How many of the selected packets have a length. -/
def Flow.multiplicity (flow : Flow) (direction : PacketDirection)
    (length : Int) : Nat :=
  (flow.pairsAlong direction).countP fun pair => pair.packet.length = length

private theorem multiplicity_eq_count
    (flow : Flow) (direction : PacketDirection)
    (length : Int) :
    flow.multiplicity direction length =
      (flow.lengthsAlong direction).count length := by
  rw [Flow.multiplicity, Flow.lengthsAlong, List.count, List.countP_map]
  apply List.countP_congr
  intro pair _
  simp

/-- The length that is returned is a mode exactly when the first selected
packet has one. -/
theorem getModeLen_maximal_iff
    (flow : Flow) (direction : PacketDirection)
    (first : Pair) (rest : List Pair)
    (selected : flow.pairsAlong direction = first :: rest) :
    (∀ length, flow.multiplicity direction length ≤
        flow.multiplicity direction
          (Id.run (getModeLen exact flow direction))) ↔
      ∀ pair ∈ rest, flow.multiplicity direction pair.packet.length ≤
        flow.multiplicity direction first.packet.length := by
  have returned : Id.run (getModeLen exact flow direction) =
      first.packet.length := by
    rw [getModeLen_eq_head, Flow.lengthsAlong, selected]
    rfl
  rw [returned]
  constructor
  · intro maximal pair _
    exact maximal pair.packet.length
  · intro commonest length
    by_cases occurs : length ∈ flow.lengthsAlong direction
    · obtain ⟨pair, member, rfl⟩ := List.mem_map.mp occurs
      rw [selected] at member
      rcases List.mem_cons.mp member with isFirst | inRest
      · rw [isFirst]
      · exact commonest pair inRest
    · rw [multiplicity_eq_count, List.count_eq_zero_of_not_mem occurs]
      exact Nat.zero_le _

/-- The first length is as frequent as the other one. -/
theorem getModeLen_maximal_exchange :
    Flow.multiplicity exchange .both 30 ≤
      Flow.multiplicity exchange .both
        (Id.run (getModeLen exact exchange .both)) :=
  (getModeLen_maximal_iff exchange .both (tcpPair .forward 10 1)
    [tcpPair .reverse 30 2] (by decide +kernel)).mpr
    (by decide +kernel) 30

/-- The second and third length are equal, but the first one is returned. -/
theorem getModeLen_not_maximal :
    ¬ Flow.multiplicity (flowOf [tcpPair .forward 10 1,
          tcpPair .forward 30 2, tcpPair .forward 30 3]) .forward 30 ≤
      Flow.multiplicity (flowOf [tcpPair .forward 10 1,
          tcpPair .forward 30 2, tcpPair .forward 30 3]) .forward
        (Id.run (getModeLen exact (flowOf [tcpPair .forward 10 1,
          tcpPair .forward 30 2, tcpPair .forward 30 3]) .forward)) := by
  decide +kernel

end UzFlowMeter
