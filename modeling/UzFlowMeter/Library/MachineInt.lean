import Mathlib.Algebra.Order.BigOperators.Group.List
import Mathlib.Data.Rat.Floor
import Mathlib.Tactic.Linarith

/-!
# Machine integers of 32 bits

Sums are written over the addition they use: the exact one, or the addition
of `int` values, whose overflow is undefined.  A conversion of a double to
an `int` drops the fraction; it is undefined when the result is out of range.
-/

namespace MachineInt

def intMin : Int := -2147483648
def intMax : Int := 2147483647

/-- The value is representable. -/
def Fits (value : Int) : Prop :=
  intMin ≤ value ∧ value ≤ intMax

instance (value : Int) : Decidable (Fits value) :=
  inferInstanceAs (Decidable (_ ∧ _))

/-- Addition of mathematical integers. -/
def exact (left right : Int) : Id Int :=
  pure (left + right)

/-- Addition of `int` values. -/
def checked (left right : Int) : Option Int :=
  if Fits (left + right) then some (left + right) else none

/-- A loop that adds the values of a list to a total. -/
def sumWith {m : Type → Type} [Monad m] (add : Int → Int → m Int)
    (total : Int) (values : List Int) : m Int :=
  values.foldlM add total

theorem sumWith_exact (total : Int) (values : List Int) :
    Id.run (sumWith exact total values) = total + values.sum := by
  induction values generalizing total with
  | nil =>
      exact (add_zero total).symm
  | cons value values inductionHypothesis =>
      rw [List.sum_cons, ← add_assoc, ← inductionHypothesis]
      rfl

/-- A sum of nonnegative values overflows on the way if and only if it does
at the end. -/
theorem sumWith_checked
    {total : Int} {values : List Int} (nonneg : ∀ value ∈ values, 0 ≤ value)
    (start : 0 ≤ total) (startFits : total ≤ intMax) :
    sumWith checked total values =
      if total + values.sum ≤ intMax then some (total + values.sum)
      else none := by
  induction values generalizing total with
  | nil =>
      rw [List.sum_nil, add_zero, if_pos startFits]
      rfl
  | cons value values inductionHypothesis =>
      have valueNonneg := nonneg value (by simp)
      have restNonneg : ∀ value ∈ values, 0 ≤ value :=
        fun value member => nonneg value (List.mem_cons_of_mem _ member)
      have sumNonneg := List.sum_nonneg restNonneg
      rw [List.sum_cons, ← add_assoc, sumWith, List.foldlM_cons]
      by_cases overflow : intMax < total + value
      · have unfit : ¬ Fits (total + value) := by
          rintro ⟨-, small⟩
          omega
        have large : ¬ total + value + values.sum ≤ intMax := by omega
        rw [checked, if_neg unfit, if_neg large]
        rfl
      · have fit : Fits (total + value) := by
          refine ⟨?_, by omega⟩
          rw [intMin]
          omega
        rw [checked, if_pos fit, ← inductionHypothesis restNonneg
          (by omega) (by omega)]
        rfl

theorem sumWith_checked_eq_some_iff
    {values : List Int} {total : Int}
    (nonneg : ∀ value ∈ values, 0 ≤ value) :
    sumWith checked 0 values = some total ↔
      values.sum = total ∧ total ≤ intMax := by
  rw [sumWith_checked nonneg (le_refl 0) (by decide), zero_add,
    Option.ite_none_right_eq_some, Option.some_inj]
  constructor
  · rintro ⟨fits, rfl⟩
    exact ⟨rfl, fits⟩
  · rintro ⟨rfl, fits⟩
    exact ⟨fits, rfl⟩

/-- Values that are sums of two parts each, computed one by one. -/
theorem mapM_exact {alpha : Type} (left right : alpha → Int)
    (items : List alpha) :
    Id.run (items.mapM fun item => exact (left item) (right item)) =
      items.map fun item => left item + right item := by
  induction items with
  | nil =>
      rfl
  | cons item items inductionHypothesis =>
      rw [List.mapM_cons, List.map_cons, ← inductionHypothesis]
      rfl

theorem mapM_checked {alpha : Type} {left right : alpha → Int}
    {items : List alpha}
    (fits : ∀ item ∈ items, Fits (left item + right item)) :
    items.mapM (fun item => checked (left item) (right item)) =
      some (items.map fun item => left item + right item) := by
  induction items with
  | nil =>
      rfl
  | cons item items inductionHypothesis =>
      have rest := inductionHypothesis fun other member =>
        fits other (List.mem_cons_of_mem _ member)
      rw [List.mapM_cons, checked, if_pos (fits item (by simp)), rest]
      rfl

/-- The double without its fraction. -/
def truncate (value : ℚ) : Int :=
  value.num.tdiv value.den

/-- The conversion of a double to an `int`. -/
def ofDouble (value : ℚ) : Option Int :=
  if Fits (truncate value) then some (truncate value) else none

/-- Without its fraction the double is representable. -/
def InRange (value : ℚ) : Prop :=
  (intMin : ℚ) - 1 < value ∧ value < intMax + 1

instance (value : ℚ) : Decidable (InRange value) :=
  inferInstanceAs (Decidable (_ ∧ _))

theorem inRange_of_bounds
    {value : ℚ} (low : (intMin : ℚ) ≤ value) (high : value ≤ intMax) :
    InRange value :=
  ⟨by linarith, by linarith⟩

theorem inRange_iff_of_nonneg {value : ℚ} (nonneg : 0 ≤ value) :
    InRange value ↔ value < intMax + 1 := by
  have low : (intMin : ℚ) - 1 < value :=
    lt_of_lt_of_le (by norm_num [intMin]) nonneg
  exact and_iff_right low

theorem inRange_of_nonneg
    {value : ℚ} (nonneg : 0 ≤ value) (high : value ≤ intMax) :
    InRange value :=
  (inRange_iff_of_nonneg nonneg).mpr (by linarith)

theorem truncate_of_nonneg {value : ℚ} (nonneg : 0 ≤ value) :
    truncate value = ⌊value⌋ := by
  rw [truncate, Rat.floor_def',
    Int.tdiv_eq_ediv_of_nonneg (Rat.num_nonneg.mpr nonneg)]

/-- The quotient of two integers as doubles, without its fraction, is their
quotient as integers. -/
theorem truncate_div {total : Int} (nonneg : 0 ≤ total) (count : Nat) :
    truncate ((total : ℚ) / count) = total.tdiv count := by
  have quotient : (0 : ℚ) ≤ (total : ℚ) / count :=
    div_nonneg (by exact_mod_cast nonneg) (Nat.cast_nonneg count)
  rw [truncate_of_nonneg quotient, Rat.floor_intCast_div_natCast,
    Int.tdiv_eq_ediv_of_nonneg nonneg]

theorem fits_truncate_iff {value : ℚ} (nonneg : 0 ≤ value) :
    Fits (truncate value) ↔ value < intMax + 1 := by
  have floorNonneg : 0 ≤ ⌊value⌋ := Int.floor_nonneg.mpr nonneg
  have floorBound : ⌊value⌋ < intMax + 1 ↔ value < intMax + 1 := by
    rw [Int.floor_lt]
    push_cast
    rfl
  rw [truncate_of_nonneg nonneg, Fits, ← floorBound, intMin]
  omega

/-- The conversion of a nonnegative double is defined below the first
integer that does not fit. -/
theorem ofDouble_isSome_iff {value : ℚ} (nonneg : 0 ≤ value) :
    (ofDouble value).isSome ↔ value < intMax + 1 := by
  rw [← fits_truncate_iff nonneg, ofDouble]
  split_ifs with fits
  · simpa using fits
  · simpa using fits

/-- The value lies in the range, and its conversion is defined and loses no
more than the fraction. -/
structure Convertible {alpha : Type} [Field alpha] [LinearOrder alpha]
    (value : alpha) : Prop where
  inRange : (intMin : alpha) ≤ value ∧ value ≤ intMax
  converted : ∃ result : Int, Fits result ∧ |(result : alpha)| ≤ |value| ∧
    |value - result| < 1

theorem convertible_of_nonneg {alpha : Type} [Field alpha]
    [LinearOrder alpha] [IsStrictOrderedRing alpha] [FloorRing alpha]
    {value : alpha} (nonneg : 0 ≤ value) (inRange : value ≤ intMax) :
    Convertible value := by
  have floorNonneg : 0 ≤ ⌊value⌋ := Int.floor_nonneg.mpr nonneg
  have floorLe := Int.floor_le value
  have belowNext := Int.lt_floor_add_one value
  have floorFits : ⌊value⌋ ≤ intMax := by
    exact_mod_cast le_trans floorLe inRange
  refine ⟨⟨?_, inRange⟩, ⌊value⌋, ⟨?_, floorFits⟩, ?_, ?_⟩
  · have low : (intMin : alpha) ≤ 0 := by
      exact_mod_cast (by decide : intMin ≤ 0)
    exact le_trans low nonneg
  · exact le_trans (by decide) floorNonneg
  · have castNonneg : (0 : alpha) ≤ ⌊value⌋ := by
      exact_mod_cast floorNonneg
    rw [abs_of_nonneg castNonneg, abs_of_nonneg nonneg]
    exact floorLe
  · rw [abs_of_nonneg (by linarith)]
    linarith

end MachineInt
