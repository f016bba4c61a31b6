import Mathlib.Analysis.Real.Sqrt
import UzFlowMeter.FlowBytes
import UzFlowMeter.Library.Spread
import UzFlowMeter.PacketTime

/-!
# Statistics of a flow

The model of `get_statistics` in `utils.c` and of the statistics that
`get_data` takes of a flow.  Arithmetic is exact; the argument of the square
root is kept as a fraction.
-/

namespace UzFlowMeter

open MachineInt

/-- `Statistics`, with the variance in place of its square root. -/
structure Statistics where
  total : ℚ := 0
  max : ℚ := 0
  min : ℚ := 0
  mean : ℚ := 0
  variance : ℚ := 0
  deriving DecidableEq, Repr

/-- The field `std`. -/
noncomputable def Statistics.std (stats : Statistics) : ℝ :=
  √(stats.variance : ℝ)

def larger (max value : ℚ) : ℚ :=
  if value > max then value else max

def smaller (min value : ℚ) : ℚ :=
  if value < min then value else min

/-- `get_statistics`: the loops over the array, or zeros for fewer than two
values. -/
def getStatistics (array : List ℚ) : Statistics :=
  if array.length > 1 then
    let sum := array.foldl (fun sum value => sum + value) (0 : ℚ)
    let mean := sum / array.length
    let sumSqDiff :=
      array.foldl (fun sumSqDiff value => sumSqDiff + (value - mean) ^ 2)
        (0 : ℚ)
    { total := sum
      max := array.foldl larger (array.headD 0)
      min := array.foldl smaller (array.headD 0)
      mean := mean
      variance := sumSqDiff / array.length }
  else {}

/-- `get_active_statistics`. -/
def getActiveStatistics (active : GrowArray ℚ) : Statistics :=
  getStatistics active.items

/-- `get_idle_statistics`. -/
def getIdleStatistics (idle : GrowArray ℚ) : Statistics :=
  getStatistics idle.items

/-- `get_flow_interarrival_statistics`. -/
def getFlowInterarrivalStatistics (flowIat : GrowArray ℚ) : Statistics :=
  getStatistics flowIat.items

/-- The statistics that `get_data` takes. -/
def Flow.statistics (flow : Flow) : List Statistics :=
  [getFlowInterarrivalStatistics flow.flowInterarrivalTime,
    getStatistics (getPacketIat flow .forward),
    getStatistics (getPacketIat flow .reverse),
    getIdleStatistics flow.idle,
    getActiveStatistics flow.active]

/-- The values of all fields. -/
noncomputable def Statistics.values (stats : Statistics) : List ℝ :=
  [stats.total, stats.max, stats.min, stats.mean, stats.std]

theorem foldl_add_eq (measure : ℚ → ℚ) (start : ℚ) (array : List ℚ) :
    array.foldl (fun sum value => sum + measure value) start =
      start + (array.map measure).sum := by
  induction array generalizing start with
  | nil =>
      exact (add_zero start).symm
  | cons value array inductionHypothesis =>
      rw [List.foldl_cons, inductionHypothesis, List.map_cons,
        List.sum_cons, add_assoc]

theorem foldl_sum_eq (array : List ℚ) :
    array.foldl (fun sum value => sum + value) (0 : ℚ) = array.sum := by
  have added := foldl_add_eq id 0 array
  rw [List.map_id, zero_add] at added
  exact added

open Extremes Spread

private theorem larger_eq_max : larger = max := by
  funext best value
  exact ite_gt_eq_max best value

private theorem smaller_eq_min : smaller = min := by
  funext best value
  exact ite_lt_eq_min best value

/-- A scan of the whole array from its first value. -/
theorem setOf_mem_scanned {array : List ℚ} (nonempty : array ≠ []) :
    {value | value ∈ array.headD 0 :: array} = {value | value ∈ array} := by
  obtain ⟨first, rest, rfl⟩ := List.exists_cons_of_ne_nil nonempty
  exact setOf_mem_cons_of_mem List.mem_cons_self

section Several

variable {array : List ℚ} (several : 2 ≤ array.length)

include several

theorem getStatistics_of_several :
    getStatistics array =
      { total := array.sum
        max := array.foldl max (array.headD 0)
        min := array.foldl min (array.headD 0)
        mean := mean array
        variance := variance array } := by
  have long : array.length > 1 := several
  rw [getStatistics, if_pos long, larger_eq_max, smaller_eq_min]
  simp only [foldl_sum_eq, foldl_add_eq, zero_add]
  rfl

private theorem isGreatest_getStatistics_max :
    IsGreatest {value | value ∈ array} (getStatistics array).max := by
  have nonempty := List.ne_nil_of_length_pos (by omega : 0 < array.length)
  rw [getStatistics_of_several several, ← setOf_mem_scanned nonempty]
  exact isGreatest_foldl_max _ array

private theorem isLeast_getStatistics_min :
    IsLeast {value | value ∈ array} (getStatistics array).min := by
  have nonempty := List.ne_nil_of_length_pos (by omega : 0 < array.length)
  rw [getStatistics_of_several several, ← setOf_mem_scanned nonempty]
  exact isLeast_foldl_min _ array

private theorem getStatistics_of_perm
    {other : List ℚ} (perm : other.Perm array) :
    getStatistics other = getStatistics array := by
  have otherSeveral : 2 ≤ other.length := by
    rw [perm.length_eq]
    exact several
  have max := isGreatest_getStatistics_max otherSeveral
  have min := isLeast_getStatistics_min otherSeveral
  rw [setOf_mem_perm perm] at max min
  have sameMax := max.unique (isGreatest_getStatistics_max several)
  have sameMin := min.unique (isLeast_getStatistics_min several)
  rw [getStatistics_of_several several,
    getStatistics_of_several otherSeveral] at sameMax sameMin ⊢
  rw [Statistics.mk.injEq]
  exact ⟨perm.sum_eq, sameMax, sameMin, mean_perm perm, variance_perm perm⟩

end Several

/-- Values that are not negative and add up to at most a bound. -/
structure Within (array : List ℚ) (bound : ℚ) : Prop where
  nonneg : ∀ value ∈ array, 0 ≤ value
  sumLe : array.sum ≤ bound

private theorem Within.value_le
    {array : List ℚ} {bound : ℚ} (within : Within array bound) :
    ∀ value ∈ array, value ≤ bound :=
  fun value member =>
    le_trans (List.single_le_sum within.nonneg value member) within.sumLe

/-- All fields of the statistics are between zero and a bound. -/
structure Statistics.Bounded (stats : Statistics) (bound : ℚ) : Prop where
  total : 0 ≤ stats.total ∧ stats.total ≤ bound
  max : 0 ≤ stats.max ∧ stats.max ≤ bound
  min : 0 ≤ stats.min ∧ stats.min ≤ bound
  mean : 0 ≤ stats.mean ∧ stats.mean ≤ bound
  variance : 0 ≤ stats.variance ∧ stats.variance ≤ bound ^ 2

theorem Within.bounded_getStatistics
    {array : List ℚ} {bound : ℚ} (within : Within array bound)
    (boundNonneg : 0 ≤ bound) : (getStatistics array).Bounded bound := by
  by_cases several : 2 ≤ array.length
  · have nonempty := List.ne_nil_of_length_pos (by omega : 0 < array.length)
    have values : ∀ value ∈ array, 0 ≤ value ∧ value ≤ bound :=
      fun value member =>
        ⟨within.nonneg value member, within.value_le value member⟩
    have max := isGreatest_getStatistics_max several
    have min := isLeast_getStatistics_min several
    have meanNonneg := le_mean nonempty within.nonneg
    have meanLe := mean_le nonempty within.value_le
    have spread := variance_le nonempty values
    rw [getStatistics_of_several several] at max min ⊢
    refine ⟨⟨List.sum_nonneg within.nonneg, within.sumLe⟩,
      values _ max.1, values _ min.1, ⟨meanNonneg, meanLe⟩,
      variance_nonneg array, ?_⟩
    have product := mul_le_mul (sub_le_self bound meanNonneg) meanLe
      meanNonneg boundNonneg
    rw [sub_zero] at spread
    rw [sq]
    exact le_trans spread product
  · have zero : (0 : ℚ) ≤ 0 ∧ (0 : ℚ) ≤ bound := ⟨le_refl 0, boundNonneg⟩
    have few : ¬ array.length > 1 := several
    rw [getStatistics, if_neg few]
    exact ⟨zero, zero, zero, zero, le_refl 0, sq_nonneg bound⟩

/-- Statistics within the range of `int` can be converted, the standard
deviation included. -/
theorem Statistics.Bounded.convertible
    {stats : Statistics} {bound : ℚ} (bounded : stats.Bounded bound)
    (inRange : bound ≤ intMax) :
    ∀ value ∈ stats.values, Convertible value := by
  have rational : ∀ value : ℚ, 0 ≤ value ∧ value ≤ bound →
      Convertible (value : ℝ) := by
    rintro value ⟨nonneg, small⟩
    apply convertible_of_nonneg
    · exact_mod_cast nonneg
    · exact_mod_cast le_trans small inRange
  have boundNonneg : 0 ≤ bound := le_trans bounded.total.1 bounded.total.2
  have deviation : Convertible stats.std := by
    apply convertible_of_nonneg (Real.sqrt_nonneg _)
    have small : stats.variance ≤ (intMax : ℚ) ^ 2 :=
      le_trans bounded.variance.2 (pow_le_pow_left₀ boundNonneg inRange 2)
    apply Real.sqrt_le_iff.mpr
    constructor
    · exact_mod_cast le_trans boundNonneg inRange
    · exact_mod_cast small
  intro value member
  simp only [Statistics.values, List.mem_cons, List.not_mem_nil,
    or_false] at member
  rcases member with rfl | rfl | rfl | rfl | rfl
  · exact rational _ bounded.total
  · exact rational _ bounded.max
  · exact rational _ bounded.min
  · exact rational _ bounded.mean
  · exact deviation

/-- The square of the standard deviation. -/
theorem Statistics.std_sq
    {stats : Statistics} (nonneg : 0 ≤ stats.variance) :
    stats.std ^ 2 = stats.variance :=
  Real.sq_sqrt (by exact_mod_cast nonneg)

private theorem Statistics.std_eq_zero_iff
    {stats : Statistics} (nonneg : 0 ≤ stats.variance) :
    stats.std = 0 ↔ stats.variance = 0 := by
  rw [std, Real.sqrt_eq_zero (by exact_mod_cast nonneg)]
  exact Rat.cast_eq_zero

/-- The statistics of two or more values fit together and do not depend on
the order of the values. -/
theorem getStatistics_coherent
    (array : List ℚ) (several : 2 ≤ array.length) :
    IsLeast {value | value ∈ array} (getStatistics array).min ∧
      IsGreatest {value | value ∈ array} (getStatistics array).max ∧
      (getStatistics array).total = array.sum ∧
      array.length * (getStatistics array).mean = array.sum ∧
      (getStatistics array).min ≤ (getStatistics array).mean ∧
      (getStatistics array).mean ≤ (getStatistics array).max ∧
      (array.length : ℝ) * (getStatistics array).std ^ 2 =
        ((array.map fun value => value ^ 2).sum -
          array.length * (getStatistics array).mean ^ 2 : ℚ) ∧
      (getStatistics array).std ^ 2 ≤
        (((getStatistics array).max - (getStatistics array).mean) *
          ((getStatistics array).mean - (getStatistics array).min) : ℚ) ∧
      ((getStatistics array).std = 0 ↔
        ∀ value ∈ array, ∀ other ∈ array, value = other) ∧
      ∀ other : List ℚ, other.Perm array →
        getStatistics other = getStatistics array := by
  have nonempty := List.ne_nil_of_length_pos (by omega : 0 < array.length)
  have least := isLeast_getStatistics_min several
  have greatest := isGreatest_getStatistics_max several
  have mean : (getStatistics array).mean = Spread.mean array := by
    rw [getStatistics_of_several several]
  have variance : (getStatistics array).variance =
      Spread.variance array := by
    rw [getStatistics_of_several several]
  have nonneg : 0 ≤ (getStatistics array).variance := by
    rw [variance]
    exact variance_nonneg array
  have bounds : ∀ value ∈ array, (getStatistics array).min ≤ value ∧
      value ≤ (getStatistics array).max :=
    fun value member => ⟨least.2 member, greatest.2 member⟩
  refine ⟨least, greatest, ?_, ?_, ?_, ?_, ?_, ?_, ?_, ?_⟩
  · rw [getStatistics_of_several several]
  · rw [mean]
    exact length_mul_mean array
  · rw [mean]
    exact le_mean nonempty fun value member => (bounds value member).1
  · rw [mean]
    exact mean_le nonempty fun value member => (bounds value member).2
  · rw [Statistics.std_sq nonneg, variance, mean]
    have scaled := length_mul_variance_eq array
    exact_mod_cast scaled
  · rw [Statistics.std_sq nonneg, variance, mean]
    have bound := variance_le nonempty bounds
    exact_mod_cast bound
  · rw [Statistics.std_eq_zero_iff nonneg, variance]
    exact variance_eq_zero_iff_all_equal array
  · intro other perm
    exact getStatistics_of_perm several perm

/-- Two values of either sign. -/
theorem getStatistics_two_values :
    (getStatistics [-1, 3]).std ^ 2 ≤
      (((getStatistics [-1, 3]).max - (getStatistics [-1, 3]).mean) *
        ((getStatistics [-1, 3]).mean - (getStatistics [-1, 3]).min) : ℚ) :=
  (getStatistics_coherent [-1, 3] (by decide)).2.2.2.2.2.2.2.1

end UzFlowMeter
