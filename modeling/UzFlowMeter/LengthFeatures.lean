import Mathlib.Algebra.BigOperators.Ring.Finset
import UzFlowMeter.FlowHistory
import UzFlowMeter.Library.Extremes
import UzFlowMeter.Library.Spread
import UzFlowMeter.PacketLength

/-!
# Length features of the directions

The features of `BOTH` against those of `FORWARD` and `REVERSE`.  The lengths
of all packets are those of the two directions together, in another order.
-/

namespace UzFlowMeter

open Extremes MachineInt Spread

section Loops

variable (flow : Flow) (direction : PacketDirection)

/-- The lengths along a direction as doubles. -/
def Flow.doublesAlong : List ℚ :=
  (flow.lengthsAlong direction).map fun (length : Int) => (length : ℚ)

theorem length_doublesAlong :
    (flow.doublesAlong direction).length =
      (flow.lengthsAlong direction).length := by
  rw [Flow.doublesAlong, List.length_map]

private theorem sum_doublesAlong :
    (flow.doublesAlong direction).sum =
      ((flow.lengthsAlong direction).sum : ℚ) :=
  (Int.cast_list_sum _).symm

theorem getMeanLen_eq_mean :
    Id.run (getMeanLen exact flow direction) =
      mean (flow.doublesAlong direction) := by
  rw [getMeanLen_exact, mean, sum_doublesAlong, length_doublesAlong]

/-- The loop of `get_var_len`. -/
theorem foldl_add_squares (center start : ℚ) (lengths : List Int) :
    lengths.foldl
        (fun variance (length : Int) =>
          variance + ((length : ℚ) - center) ^ 2) start =
      start + squares center
        (lengths.map fun (length : Int) => (length : ℚ)) := by
  induction lengths generalizing start with
  | nil =>
      exact (add_zero start).symm
  | cons length lengths inductionHypothesis =>
      rw [List.foldl_cons, inductionHypothesis, List.map_cons,
        squares_cons, add_assoc]

theorem getVarLen_eq_variance :
    Id.run (getVarLen exact flow direction) =
      variance (flow.doublesAlong direction) := by
  rw [getVarLen, Id.run_bind, getPacketLength_exact, variance,
    length_doublesAlong]
  split_ifs with empty
  · rw [empty, Nat.cast_zero, div_zero]
    rfl
  · have sum := foldl_add_doubles (flow.lengthsAlong direction) 0
    rw [Int.cast_zero, zero_add] at sum
    have mean : mean (flow.doublesAlong direction) =
        (flow.lengthsAlong direction).foldl
            (fun sum (length : Int) => sum + (length : ℚ)) (0 : ℚ) /
          (flow.lengthsAlong direction).length := by
      rw [sum, Spread.mean, sum_doublesAlong, length_doublesAlong]
    have squared : (flow.lengthsAlong direction).foldl
        (fun variance (length : Int) => variance +
          ((length : ℚ) - Spread.mean (flow.doublesAlong direction)) ^ 2)
        (0 : ℚ) =
          squares (Spread.mean (flow.doublesAlong direction))
            (flow.doublesAlong direction) := by
      rw [foldl_add_squares, zero_add]
      rfl
    rw [← squared, mean]
    rfl

/-- `get_max` begins with zero if nothing is selected; among lengths that
are not negative zero makes no difference. -/
theorem isGreatest_getMax
    (nonneg : ∀ length ∈ flow.lengthsAlong direction, 0 ≤ length) :
    IsGreatest {length | length ∈ 0 :: flow.lengthsAlong direction}
      (Id.run (getMax exact flow direction)) := by
  rw [getMax, Id.run_bind, getPacketLength_exact]
  cases lengths : flow.lengthsAlong direction with
  | nil =>
      exact isGreatest_foldl_max 0 []
  | cons first rest =>
      have scan : (fun maxPacketLength length : Int =>
          if length > maxPacketLength then length
          else maxPacketLength) = max := by
        funext maxPacketLength length
        exact ite_gt_eq_max maxPacketLength length
      have greatest := isGreatest_foldl_max first rest
      have positive : 0 ≤ rest.foldl max first := by
        apply nonneg
        rw [lengths]
        exact greatest.1
      change IsGreatest _ (rest.foldl _ first)
      rw [scan]
      refine ⟨List.mem_cons_of_mem 0 greatest.1, ?_⟩
      intro length member
      rcases List.mem_cons.mp member with isZero | selected
      · rw [isZero]
        exact positive
      · exact greatest.2 selected

/-- `get_min` of a direction that has packets. -/
theorem isLeast_getMin
    (nonempty : flow.lengthsAlong direction ≠ []) :
    IsLeast {length | length ∈ flow.lengthsAlong direction}
      (Id.run (getMin exact flow direction)) := by
  rw [getMin, Id.run_bind, getPacketLength_exact]
  cases lengths : flow.lengthsAlong direction with
  | nil =>
      exact absurd lengths nonempty
  | cons first rest =>
      have scan : (fun minPacketLength length : Int =>
          if length < minPacketLength then length
          else minPacketLength) = min := by
        funext minPacketLength length
        exact ite_lt_eq_min minPacketLength length
      have least := isLeast_foldl_min first (first :: rest)
      rw [setOf_mem_cons_of_mem List.mem_cons_self] at least
      change IsLeast _ ((first :: rest).foldl _ first)
      rw [scan]
      exact least

end Loops

section Counts

variable (flow : Flow) (direction : PacketDirection)

theorem getTotal_eq :
    getTotal flow direction = ((flow.pairsAlong direction).length : Int) := by
  rw [getTotal, List.countP_eq_length_filter, Flow.pairsAlong]

private theorem getTotal_cast :
    (getTotal flow direction : ℚ) =
      (flow.doublesAlong direction).length := by
  rw [getTotal_eq, length_doublesAlong, Flow.lengthsAlong, List.length_map,
    Int.cast_natCast]

theorem flagCounter_eq (flag : UInt8) :
    flagCounter flow flag direction =
      ((flow.pairsAlong direction).countP fun pair =>
        pair.packet.protocol ≠ ipprotoUdp ∧
          pair.packet.flags &&& flag = flag : Nat) := by
  rw [flagCounter, Flow.pairsAlong, List.countP_filter, Nat.cast_inj]
  apply List.countP_congr
  intro pair _
  simp only [decide_eq_true_eq, Bool.and_eq_true]
  tauto

end Counts

/-! ## Both directions together -/

section Both

variable {flow : Flow} (sides : ∀ pair ∈ flow.pairs, pair.direction ≠ .both)

include sides

/-- Every pair is selected by one of the directions. -/
theorem pairsAlong_both_perm :
    (flow.pairsAlong .both).Perm
      (flow.pairsAlong .forward ++ flow.pairsAlong .reverse) := by
  have all : flow.pairsAlong .both = flow.pairs := by
    simp [Flow.pairsAlong]
  have others : flow.pairsAlong .reverse =
      flow.pairs.filter fun pair =>
        !decide ((PacketDirection.forward = .both) ∨
          pair.direction = .forward) := by
    apply List.filter_congr
    intro pair member
    have side := sides pair member
    cases direction : pair.direction with
    | forward =>
        simp
    | reverse =>
        simp
    | both =>
        exact absurd direction side
  rw [all, others]
  exact (List.filter_append_perm _ flow.pairs).symm

private theorem lengthsAlong_both_perm :
    (flow.lengthsAlong .both).Perm
      (flow.lengthsAlong .forward ++ flow.lengthsAlong .reverse) := by
  have selected := (pairsAlong_both_perm sides).map fun pair =>
    pair.packet.length
  rw [List.map_append] at selected
  exact selected

private theorem doublesAlong_both_perm :
    (flow.doublesAlong .both).Perm
      (flow.doublesAlong .forward ++ flow.doublesAlong .reverse) := by
  have lengths := (lengthsAlong_both_perm sides).map fun length : Int =>
    (length : ℚ)
  rw [List.map_append] at lengths
  exact lengths

theorem getTotal_both :
    getTotal flow .both = getTotal flow .forward + getTotal flow .reverse := by
  rw [getTotal_eq, getTotal_eq, getTotal_eq,
    (pairsAlong_both_perm sides).length_eq, List.length_append,
    Nat.cast_add]

private theorem flagCounter_both (flag : UInt8) :
    flagCounter flow flag .both =
      flagCounter flow flag .forward + flagCounter flow flag .reverse := by
  rw [flagCounter_eq, flagCounter_eq, flagCounter_eq,
    (pairsAlong_both_perm sides).countP_eq, List.countP_append,
    Nat.cast_add]

private theorem getTotalLen_both :
    Id.run (getTotalLen exact flow .both) =
      Id.run (getTotalLen exact flow .forward) +
        Id.run (getTotalLen exact flow .reverse) := by
  rw [getTotalLen_exact, getTotalLen_exact, getTotalLen_exact,
    (lengthsAlong_both_perm sides).sum_eq, List.sum_append]

private theorem getMax_both
    (nonneg : ∀ pair ∈ flow.pairs, 0 ≤ pair.packet.length) :
    Id.run (getMax exact flow .both) =
      max (Id.run (getMax exact flow .forward))
        (Id.run (getMax exact flow .reverse)) := by
  have lengthsNonneg : ∀ direction,
      ∀ length ∈ flow.lengthsAlong direction, 0 ≤ length := by
    intro direction length member
    obtain ⟨pair, selected, rfl⟩ := List.mem_map.mp member
    exact nonneg pair (List.mem_of_mem_filter selected)
  have sameLengths : {length | length ∈ 0 :: flow.lengthsAlong .both} =
      {length | length ∈ 0 :: flow.lengthsAlong .forward} ∪
        {length | length ∈ 0 :: flow.lengthsAlong .reverse} := by
    ext length
    have split := (lengthsAlong_both_perm sides).mem_iff (a := length)
    rw [List.mem_append] at split
    simp only [Set.mem_union, Set.mem_ofPred_eq, List.mem_cons, split]
    tauto
  have both := isGreatest_getMax flow .both (lengthsNonneg .both)
  rw [sameLengths] at both
  exact both.unique
    ((isGreatest_getMax flow .forward (lengthsNonneg .forward)).union
      (isGreatest_getMax flow .reverse (lengthsNonneg .reverse)))

/-- The minimum is the least one of the directions that have packets. -/
theorem isLeast_getMin_both (nonempty : flow.pairs ≠ []) :
    IsLeast
      {least | ∃ side : PacketDirection, side ≠ .both ∧
        0 < getTotal flow side ∧
        least = Id.run (getMin exact flow side)}
      (Id.run (getMin exact flow .both)) := by
  have occupied : ∀ side, 0 < getTotal flow side ↔
      flow.lengthsAlong side ≠ [] := by
    intro side
    rw [getTotal_eq, Nat.cast_pos, ← List.length_map,
      List.length_pos_iff]
    rfl
  have perm := lengthsAlong_both_perm sides
  have all : flow.lengthsAlong .both ≠ [] := by
    simpa [Flow.lengthsAlong, Flow.pairsAlong] using nonempty
  have least := isLeast_getMin flow .both all
  have lower : ∀ side : PacketDirection, side ≠ .both →
      ∀ length ∈ flow.lengthsAlong side,
        Id.run (getMin exact flow .both) ≤ length := by
    intro side notBoth length member
    apply least.2
    apply perm.mem_iff.mpr
    cases side with
    | forward =>
        exact List.mem_append_left _ member
    | reverse =>
        exact List.mem_append_right _ member
    | both =>
        exact absurd rfl notBoth
  have reached : ∀ side : PacketDirection, side ≠ .both →
      Id.run (getMin exact flow .both) ∈ flow.lengthsAlong side →
        Id.run (getMin exact flow .both) =
          Id.run (getMin exact flow side) := by
    intro side notBoth member
    have sideLeast :=
      isLeast_getMin flow side (List.ne_nil_of_mem member)
    exact le_antisymm (lower side notBoth _ sideLeast.1)
      (sideLeast.2 member)
  constructor
  · rcases List.mem_append.mp (perm.mem_iff.mp least.1) with
      inForward | inReverse
    · exact ⟨.forward, by decide,
        (occupied _).mpr (List.ne_nil_of_mem inForward),
        reached .forward (by decide) inForward⟩
    · exact ⟨.reverse, by decide,
        (occupied _).mpr (List.ne_nil_of_mem inReverse),
        reached .reverse (by decide) inReverse⟩
  · rintro length ⟨side, notBoth, some, rfl⟩
    have sideLeast := isLeast_getMin flow side ((occupied side).mp some)
    exact lower side notBoth _ sideLeast.1

private theorem getMeanLen_both :
    getTotal flow .both * Id.run (getMeanLen exact flow .both) =
      getTotal flow .forward * Id.run (getMeanLen exact flow .forward) +
        getTotal flow .reverse *
          Id.run (getMeanLen exact flow .reverse) := by
  have perm := doublesAlong_both_perm sides
  have parts := length_mul_mean_append (flow.doublesAlong .forward)
    (flow.doublesAlong .reverse)
  rw [← mean_perm perm, ← perm.length_eq] at parts
  simp only [getTotal_cast, getMeanLen_eq_mean]
  exact parts

private theorem getVarLen_both :
    getTotal flow .both * Id.run (getVarLen exact flow .both) =
      getTotal flow .forward *
          (Id.run (getVarLen exact flow .forward) +
            (Id.run (getMeanLen exact flow .forward) -
              Id.run (getMeanLen exact flow .both)) ^ 2) +
        getTotal flow .reverse *
          (Id.run (getVarLen exact flow .reverse) +
            (Id.run (getMeanLen exact flow .reverse) -
              Id.run (getMeanLen exact flow .both)) ^ 2) := by
  have perm := doublesAlong_both_perm sides
  have parts := length_mul_variance_append (flow.doublesAlong .forward)
    (flow.doublesAlong .reverse)
  rw [← variance_perm perm, ← mean_perm perm, ← perm.length_eq] at parts
  simp only [getTotal_cast, getMeanLen_eq_mean, getVarLen_eq_variance]
  exact parts

end Both

/-- The features of `BOTH` are those of the two directions together. -/
theorem lengthFeatures_consistent
    (flow : Flow) (nonempty : flow.pairs ≠ [])
    (sides : ∀ pair ∈ flow.pairs, pair.direction ≠ .both)
    (nonneg : ∀ pair ∈ flow.pairs, 0 ≤ pair.packet.length) :
    getTotal flow .both = getTotal flow .forward + getTotal flow .reverse ∧
      Id.run (getTotalLen exact flow .both) =
        Id.run (getTotalLen exact flow .forward) +
          Id.run (getTotalLen exact flow .reverse) ∧
      (∀ flag : UInt8, flagCounter flow flag .both =
        flagCounter flow flag .forward + flagCounter flow flag .reverse) ∧
      Id.run (getMax exact flow .both) =
        max (Id.run (getMax exact flow .forward))
          (Id.run (getMax exact flow .reverse)) ∧
      IsLeast
        {least | ∃ side : PacketDirection, side ≠ .both ∧
          0 < getTotal flow side ∧
          least = Id.run (getMin exact flow side)}
        (Id.run (getMin exact flow .both)) ∧
      getTotal flow .both * Id.run (getMeanLen exact flow .both) =
        getTotal flow .forward * Id.run (getMeanLen exact flow .forward) +
          getTotal flow .reverse *
            Id.run (getMeanLen exact flow .reverse) ∧
      getTotal flow .both * Id.run (getVarLen exact flow .both) =
        getTotal flow .forward *
            (Id.run (getVarLen exact flow .forward) +
              (Id.run (getMeanLen exact flow .forward) -
                Id.run (getMeanLen exact flow .both)) ^ 2) +
          getTotal flow .reverse *
            (Id.run (getVarLen exact flow .reverse) +
              (Id.run (getMeanLen exact flow .reverse) -
                Id.run (getMeanLen exact flow .both)) ^ 2) :=
  ⟨getTotal_both sides, getTotalLen_both sides, flagCounter_both sides,
    getMax_both sides nonneg, isLeast_getMin_both sides nonempty,
    getMeanLen_both sides, getVarLen_both sides⟩

/-- One packet of each direction. -/
def exchange : Flow :=
  flowOf [tcpPair .forward 10 1, tcpPair .reverse 30 2]

theorem lengthFeatures_exchange :
    Id.run (getMax exact exchange .both) =
      max (Id.run (getMax exact exchange .forward))
        (Id.run (getMax exact exchange .reverse)) :=
  (lengthFeatures_consistent exchange (by decide +kernel)
    (by decide +kernel) (by decide +kernel)).2.2.2.1

end UzFlowMeter
