import Mathlib.Data.List.Basic

/-!
# Fields joined by a separator

A text that joins fields by a separator determines the fields when the
separator occurs in none of them; decimal numerals are such fields.
-/

namespace DelimitedFields

/-- Joining is injective on nonempty lists of separator-free fields. -/
theorem intercalate_inj
    {alpha : Type*} [DecidableEq alpha] {separator : alpha}
    {left right : List (List alpha)}
    (leftPlain : ∀ field ∈ left, separator ∉ field)
    (rightPlain : ∀ field ∈ right, separator ∉ field)
    (leftNonempty : left ≠ []) (rightNonempty : right ≠ []) :
    [separator].intercalate left = [separator].intercalate right ↔
      left = right := by
  constructor
  · intro sameText
    have sameFields := congrArg (List.splitOn separator) sameText
    rw [List.splitOn_intercalate separator leftPlain leftNonempty,
      List.splitOn_intercalate separator rightPlain
        rightNonempty] at sameFields
    exact sameFields
  · intro sameFields
    rw [sameFields]

/-- The length of five joined fields. -/
theorem length_intercalate_five
    {alpha : Type*} (separator : alpha) (a b c d e : List alpha) :
    ([separator].intercalate [a, b, c, d, e]).length =
      a.length + b.length + c.length + d.length + e.length + 4 := by
  simp only [List.intercalate, List.intersperse, List.flatten_cons,
    List.flatten_nil, List.length_append, List.length_cons, List.length_nil]
  omega

theorem toDigits_injective : Function.Injective (Nat.toDigits 10) := by
  intro left right sameDigits
  have sameValue :=
    congrArg (fun digits => Nat.ofDigitChars 10 digits 0) sameDigits
  simpa [Nat.ofDigitChars_toDigits] using sameValue

/-- A character that is not a digit does not occur in a numeral. -/
theorem not_mem_toDigits
    {separator : Char} (notDigit : separator.isDigit = false)
    (value : Nat) : separator ∉ Nat.toDigits 10 value := by
  intro member
  have digit :=
    Nat.isDigit_of_mem_toDigits (by decide) (by decide) member
  rw [notDigit] at digit
  exact Bool.false_ne_true digit

end DelimitedFields
