import UzFlowMeter.FlowHistory

/-!
# Initial windows

`add_packet_to_flow` keeps one window for each direction.  The forward one is
set as long as it is zero, the backward one by every packet, so that neither
need be the window of the first packet.
-/

namespace UzFlowMeter

/-- The windows of the packets of a direction. -/
def windowsAlong (pairs : List Pair) (direction : PacketDirection) :
    List Int :=
  (pairs.filter fun pair => pair.direction = direction).map fun pair =>
    (pair.packet.window.toNat : Int)

theorem windowsAlong_concat_self
    {pairs : List Pair} {last : Pair} {direction : PacketDirection}
    (along : last.direction = direction) :
    windowsAlong (pairs ++ [last]) direction =
      windowsAlong pairs direction ++ [(last.packet.window.toNat : Int)] := by
  simp [windowsAlong, along]

theorem windowsAlong_concat_other
    {pairs : List Pair} {last : Pair} {direction : PacketDirection}
    (other : last.direction ≠ direction) :
    windowsAlong (pairs ++ [last]) direction =
      windowsAlong pairs direction := by
  simp [windowsAlong, other]

/-- A slot that is set as long as it is zero. -/
def firstNonzero (windows : List Int) : Int :=
  (windows.find? fun window => window ≠ 0).getD 0

theorem firstNonzero_concat (windows : List Int) (last : Int) :
    firstNonzero (windows ++ [last]) =
      if firstNonzero windows = 0 then last else firstNonzero windows := by
  rw [firstNonzero, firstNonzero, List.find?_append]
  cases found : windows.find? fun window => window ≠ 0 with
  | none =>
      by_cases zero : last = 0 <;> simp [zero]
  | some window =>
      have nonzero : window ≠ 0 := by
        simpa using List.find?_some found
      simp [nonzero]

/-- A TCP packet and the two slots. -/
theorem recordWindow_tcp
    (flow : Flow) {packet : Packet} (direction : PacketDirection)
    (tcp : packet.protocol = ipprotoTcp) :
    (recordWindow flow packet direction).initWindowSize =
      (if direction = .forward ∧ flow.initWindowSize.1 = 0 then
          (packet.window.toNat : Int)
        else flow.initWindowSize.1,
        if direction = .reverse then (packet.window.toNat : Int)
        else flow.initWindowSize.2) := by
  rw [recordWindow, if_pos tcp]
  cases direction with
  | forward =>
      by_cases unset : flow.initWindowSize.1 = 0 <;> simp [unset]
  | reverse =>
      simp
  | both =>
      simp

/-- The forward slot holds the first window that is not zero, the backward
slot the last window. -/
theorem flowOf_initWindowSize
    {pairs : List Pair}
    (tcp : ∀ pair ∈ pairs, pair.packet.protocol = ipprotoTcp) :
    (flowOf pairs).initWindowSize =
      (firstNonzero (windowsAlong pairs .forward),
        (windowsAlong pairs .reverse).getLastD 0) := by
  induction pairs using List.reverseRecOn with
  | nil =>
      rfl
  | append_singleton pairs last inductionHypothesis =>
      have before := inductionHypothesis fun pair member =>
        tcp pair (List.mem_append_left _ member)
      have lastTcp := tcp last (by simp)
      rw [flowOf_concat, Flow.record, addPacketToFlow_initWindowSize,
        recordWindow_tcp _ _ lastTcp, before]
      cases along : last.direction with
      | forward =>
          have other : last.direction ≠ .reverse := by simp [along]
          rw [windowsAlong_concat_self along, firstNonzero_concat,
            windowsAlong_concat_other other]
          simp
      | reverse =>
          have other : last.direction ≠ .forward := by simp [along]
          rw [windowsAlong_concat_self along, List.getLastD_concat,
            windowsAlong_concat_other other]
          simp
      | both =>
          have notForward : last.direction ≠ .forward := by simp [along]
          have notReverse : last.direction ≠ .reverse := by simp [along]
          rw [windowsAlong_concat_other notForward,
            windowsAlong_concat_other notReverse]
          simp

/-- Both slots hold the window of the first packet of their direction, zero
if there is none. -/
def HoldsFirstWindows (pairs : List Pair) : Prop :=
  (flowOf pairs).initWindowSize.1 =
      (windowsAlong pairs .forward).headD 0 ∧
    (flowOf pairs).initWindowSize.2 =
      (windowsAlong pairs .reverse).headD 0

/-- No window is overwritten by another one. -/
structure FirstWindowsStand (pairs : List Pair) : Prop where
  forward : (windowsAlong pairs .forward).headD 0 ≠ 0 ∨
    ∀ window ∈ windowsAlong pairs .forward, window = 0
  backward : (windowsAlong pairs .reverse).getLast? =
    (windowsAlong pairs .reverse).head?

instance (pairs : List Pair) : Decidable (FirstWindowsStand pairs) :=
  decidable_of_iff
    (((windowsAlong pairs .forward).headD 0 ≠ 0 ∨
        ∀ window ∈ windowsAlong pairs .forward, window = 0) ∧
      (windowsAlong pairs .reverse).getLast? =
        (windowsAlong pairs .reverse).head?)
    ⟨fun both => ⟨both.1, both.2⟩, fun stand =>
      ⟨stand.forward, stand.backward⟩⟩

private theorem firstNonzero_eq_head_iff (windows : List Int) :
    firstNonzero windows = windows.headD 0 ↔
      windows.headD 0 ≠ 0 ∨ ∀ window ∈ windows, window = 0 := by
  cases windows with
  | nil =>
      simp [firstNonzero]
  | cons first rest =>
      rw [firstNonzero, List.find?_cons, List.headD_cons]
      by_cases zero : first = 0
      · cases found : rest.find? fun window => window ≠ 0 with
        | none =>
            have allZero := List.find?_eq_none.mp found
            simpa [zero] using allZero
        | some window =>
            have nonzero : window ≠ 0 := by
              simpa using List.find?_some found
            have member := List.mem_of_find?_eq_some found
            simp only [zero, ne_eq, not_true_eq_false, decide_false,
              Option.getD_some, false_or, List.mem_cons,
              forall_eq_or_imp, true_and]
            exact iff_of_false nonzero
              fun allZero => nonzero (allZero window member)
      · simp [zero]

private theorem getLastD_eq_head_iff (windows : List Int) :
    windows.getLastD 0 = windows.headD 0 ↔
      windows.getLast? = windows.head? := by
  cases windows with
  | nil =>
      simp
  | cons first rest =>
      rw [List.getLastD_cons, List.headD_cons, List.getLast?_cons,
        List.head?_cons, Option.some.injEq, List.getLastD_eq_getLast?]

/-- The slots are those of the first packets exactly when nothing overwrites
them. -/
theorem holdsFirstWindows_iff
    (pairs : List Pair)
    (tcp : ∀ pair ∈ pairs, pair.packet.protocol = ipprotoTcp) :
    HoldsFirstWindows pairs ↔ FirstWindowsStand pairs := by
  rw [HoldsFirstWindows, flowOf_initWindowSize tcp,
    firstNonzero_eq_head_iff, getLastD_eq_head_iff]
  exact ⟨fun both => ⟨both.1, both.2⟩,
    fun stand => ⟨stand.forward, stand.backward⟩⟩

/-- A packet of a direction that announces a window. -/
def windowPair (direction : PacketDirection) (window : UInt16) (time : ℚ) :
    Pair :=
  ⟨{ protocol := ipprotoTcp, time := time, window := window }, direction⟩

theorem holdsFirstWindows_one_answer :
    HoldsFirstWindows [windowPair .forward 1024 1,
      windowPair .reverse 512 2, windowPair .forward 2048 3] :=
  (holdsFirstWindows_iff _ (by decide)).mpr (by decide)

/-- The second answer replaces the window of the first. -/
theorem second_answer_replaces_window :
    ¬ HoldsFirstWindows [windowPair .forward 1024 1,
      windowPair .reverse 512 2, windowPair .reverse 2048 3] := by
  rintro ⟨-, backward⟩
  exact absurd backward (by decide +kernel)

end UzFlowMeter
