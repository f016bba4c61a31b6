import Mathlib.Data.List.Basic
import Mathlib.Tactic.SplitIfs

/-!
# Growable arrays

A heap-allocated array with an element count and a capacity.  The block is
`none` for the null pointer; otherwise it lists the elements stored so far,
so that the count is read off the block and cannot disagree with it.
-/

structure GrowArray (alpha : Type*) where
  block : Option (List alpha) := none
  capacity : Nat := 0
  deriving DecidableEq, Repr

namespace GrowArray

variable {alpha : Type*}

/-- The stored elements, none while there is no block. -/
def items (array : GrowArray alpha) : List alpha :=
  array.block.getD []

def count (array : GrowArray alpha) : Nat :=
  array.items.length

/-- A fresh block with room for `capacity` elements and nothing in it. -/
def ofCapacity (capacity : Nat) : GrowArray alpha :=
  ⟨some [], capacity⟩

/-- Double the capacity when `full` holds, keeping the elements. -/
def growWhen (full : Prop) [Decidable full] (array : GrowArray alpha) :
    GrowArray alpha :=
  if full then { array with capacity := array.capacity * 2 } else array

/-- Write an element at the index `count` and count it. -/
def store (array : GrowArray alpha) (item : alpha) : GrowArray alpha :=
  { array with block := some (array.items ++ [item]) }

/-- Keep the block and put other elements into it. -/
def withItems (array : GrowArray alpha) (items : List alpha) :
    GrowArray alpha :=
  { array with block := some items }

@[simp]
theorem ofCapacity_items (capacity : Nat) :
    (ofCapacity capacity : GrowArray alpha).items = [] := rfl

@[simp]
theorem growWhen_items
    (full : Prop) [Decidable full] (array : GrowArray alpha) :
    (growWhen full array).items = array.items := by
  rw [growWhen]
  split <;> rfl

@[simp]
theorem store_items (array : GrowArray alpha) (item : alpha) :
    (array.store item).items = array.items ++ [item] := rfl

@[simp]
theorem items_of_block_none {array : GrowArray alpha}
    (unallocated : array.block = none) : array.items = [] := by
  simp [items, unallocated]

/-- Allocating an array that holds nothing keeps what it holds. -/
theorem items_allocated (array : GrowArray alpha) (capacity : Nat) :
    (if array.count = 0 then ofCapacity capacity else array).items =
      array.items := by
  split_ifs with empty
  · exact (List.length_eq_zero_iff.mp empty).symm
  · rfl

end GrowArray
