import Mathlib.Data.List.Nodup
import UzFlowMeter.Library.GrowArray

/-!
# Growable arrays in memory

A growable array as it lies in memory: a block of cells behind a pointer
that may be null, with a count and a capacity kept beside it.  A cell is
`none` until it is written.  A write has no result unless it goes to a cell
of the block below the capacity, and a read needs a written cell.
-/

structure CellArray (alpha : Type*) where
  block : Option (List (Option alpha)) := none
  count : Nat := 0
  capacity : Nat := 0
  deriving DecidableEq, Repr

namespace CellArray

variable {alpha : Type*}

/-- `malloc` of a block of unwritten cells. -/
def allocate (capacity : Nat) : CellArray alpha :=
  ⟨some (List.replicate capacity none), 0, capacity⟩

/-- `realloc`: a block of `size` cells that starts with the old ones, as far
as they fit in. -/
def reallocate (block : Option (List (Option alpha))) (size : Nat) :
    List (Option alpha) :=
  let kept := (block.getD []).take size
  kept ++ List.replicate (size - kept.length) none

/-- Double the capacity when `full` holds. -/
def growWhen (full : Prop) [Decidable full] (array : CellArray alpha) :
    CellArray alpha :=
  if full then
    { array with
      block := some (reallocate array.block (array.capacity * 2))
      capacity := array.capacity * 2 }
  else array

def read (array : CellArray alpha) (index : Nat) : Option alpha :=
  array.block.bind fun block => block[index]?.join

def write (array : CellArray alpha) (index : Nat) (item : alpha) :
    Option (CellArray alpha) :=
  array.block.bind fun block =>
    if index < block.length ∧ index < array.capacity then
      some { array with block := some (block.set index (some item)) }
    else none

/-- Write at the index `count` and count the element. -/
def store (array : CellArray alpha) (item : alpha) :
    Option (CellArray alpha) :=
  (array.write array.count item).map fun written =>
    { written with count := array.count + 1 }

/-- Copy the cell behind `index` to `index`, and so on for a number of
cells. -/
def shiftDown : Nat → Nat → CellArray alpha → Option (CellArray alpha)
  | _, 0, array => some array
  | index, cells + 1, array =>
      ((array.read (index + 1)).bind (array.write index)).bind
        (shiftDown (index + 1) cells)

/-- Shift the later elements over the one at `index` and count one less. -/
def removeAt (array : CellArray alpha) (index : Nat) :
    Option (CellArray alpha) :=
  (shiftDown index (array.count - 1 - index) array).map fun shifted =>
    { shifted with count := array.count - 1 }

/-- The elements that a search through the counted cells meets. -/
def contents (array : CellArray alpha) : List alpha :=
  ((array.block.getD []).take array.count).filterMap id

/-- The counted cells are there and hold the elements, in order. -/
def Holds (array : CellArray alpha) (items : List alpha) : Prop :=
  array.count = items.length ∧
    (array.block.getD []).take array.count = items.map some

instance [DecidableEq alpha] (array : CellArray alpha)
    (items : List alpha) : Decidable (array.Holds items) :=
  inferInstanceAs (Decidable (_ ∧ _))

/-- The array lies in memory like this: either there is no block yet, or
there is one of the size of the capacity that starts with the elements. -/
inductive Represents : CellArray alpha → GrowArray alpha → Prop
  | null : Represents {} {}
  | block (items : List alpha) (spare : List (Option alpha))
      (capacity : Nat) (sized : items.length + spare.length = capacity)
      (positive : 0 < capacity) :
      Represents ⟨some (items.map some ++ spare), items.length, capacity⟩
        ⟨some items, capacity⟩

theorem represents_allocate {capacity : Nat} (positive : 0 < capacity) :
    (allocate capacity : CellArray alpha).Represents
      (GrowArray.ofCapacity capacity) :=
  Represents.block [] (List.replicate capacity none) capacity
    (by simp) positive

namespace Represents

variable {array : CellArray alpha} {grow : GrowArray alpha}
  (represents : array.Represents grow)

include represents

theorem count_eq : array.count = grow.count := by
  cases represents with
  | null =>
      rfl
  | block =>
      rfl

theorem capacity_eq : array.capacity = grow.capacity := by
  cases represents with
  | null =>
      rfl
  | block =>
      rfl

theorem block_eq_none_iff : array.block = none ↔ grow.block = none := by
  cases represents with
  | null =>
      simp
  | block =>
      simp

theorem count_eq_zero_of_null (unallocated : array.block = none) :
    array.count = 0 := by
  cases represents with
  | null =>
      rfl
  | block =>
      cases unallocated

theorem holds : array.Holds grow.items := by
  cases represents with
  | null =>
      exact ⟨rfl, rfl⟩
  | block items spare =>
      refine ⟨rfl, ?_⟩
      simp [GrowArray.items]

theorem contents_eq : array.contents = grow.items := by
  rw [contents, represents.holds.2, List.filterMap_map]
  exact List.filterMap_some

/-- Growing an allocated array leaves room for one more element, whatever
the test, as long as it is true of a full array. -/
theorem growWhen
    (allocated : array.block ≠ none)
    {full grown : Prop} [Decidable full] [Decidable grown]
    (sameTest : full ↔ grown) (whenFull : array.count = array.capacity → full) :
    (array.growWhen full).Represents (grow.growWhen grown) ∧
      (array.growWhen full).count < (array.growWhen full).capacity := by
  cases represents with
  | null =>
      exact absurd rfl allocated
  | block items spare capacity sized positive =>
      rw [CellArray.growWhen, GrowArray.growWhen]
      by_cases isFull : full
      · rw [if_pos isFull, if_pos (sameTest.mp isFull)]
        dsimp only
        have kept : reallocate (some (items.map some ++ spare))
              (capacity * 2) =
            items.map some ++
              (spare ++ List.replicate capacity none) := by
          rw [reallocate, Option.getD_some, List.take_of_length_le]
          · rw [List.append_assoc, List.length_append, List.length_map,
              sized]
            congr 3
            omega
          · rw [List.length_append, List.length_map, sized]
            omega
        rw [kept]
        refine ⟨Represents.block items _ _ ?_ (by omega), by omega⟩
        rw [List.length_append, List.length_replicate]
        omega
      · rw [if_neg isFull, if_neg (fun test => isFull (sameTest.mpr test))]
        have notFull : items.length ≠ capacity :=
          fun atEnd => isFull (whenFull atEnd)
        refine ⟨Represents.block items spare capacity sized positive, ?_⟩
        dsimp only
        omega

theorem store
    (room : array.count < array.capacity) (item : alpha) :
    ∃ after, array.store item = some after ∧
      after.Represents (grow.store item) := by
  cases represents with
  | null =>
      exact absurd room (Nat.lt_irrefl 0)
  | block items spare capacity sized positive =>
      dsimp only at room
      obtain ⟨first, rest, rfl⟩ : ∃ first rest, spare = first :: rest :=
        List.exists_cons_of_length_pos (by omega)
      rw [List.length_cons] at sized
      refine ⟨⟨some ((items ++ [item]).map some ++ rest),
        (items ++ [item]).length, capacity⟩, ?_,
        Represents.block _ rest capacity ?_ positive⟩
      · rw [CellArray.store, write, Option.bind_some, if_pos]
        · simp
        · refine ⟨?_, room⟩
          simp
      · rw [List.length_append, List.length_singleton]
        omega

end Represents

/-! ## Removing an element -/

/-- The cells before `index` and the spare ones are as before, the later
elements stand one cell further down, and one more cell is spare. -/
theorem shiftDown_eq
    (before later : List alpha) (removed : alpha)
    (spare : List (Option alpha)) (count capacity : Nat)
    (fits : before.length + later.length < capacity) :
    ∃ freed, shiftDown before.length later.length
        ⟨some ((before ++ removed :: later).map some ++ spare), count,
          capacity⟩ =
      some ⟨some ((before ++ later).map some ++ freed :: spare), count,
        capacity⟩ := by
  induction later generalizing before removed with
  | nil =>
      refine ⟨some removed, ?_⟩
      simp [shiftDown]
  | cons next later inductionHypothesis =>
      rw [List.length_cons] at fits ⊢
      have readNext :
          (read ⟨some ((before ++ removed :: next :: later).map some ++
            spare), count, capacity⟩ (before.length + 1)) = some next := by
        simp [read]
      have written :
          (write ⟨some ((before ++ removed :: next :: later).map some ++
            spare), count, capacity⟩ before.length next) =
          some ⟨some (((before ++ [next]) ++ next :: later).map some ++
            spare), count, capacity⟩ := by
        rw [write, Option.bind_some, if_pos]
        · simp
        · refine ⟨by simp, ?_⟩
          dsimp only
          omega
      have lengthBefore : (before ++ [next]).length = before.length + 1 := by
        rw [List.length_append, List.length_singleton]
      obtain ⟨freed, shifted⟩ :=
        inductionHypothesis (before ++ [next]) next (by omega)
      refine ⟨freed, ?_⟩
      rw [shiftDown, readNext, Option.bind_some, written, Option.bind_some,
        ← lengthBefore, shifted]
      simp

theorem Represents.removeAt
    {array : CellArray alpha} {grow : GrowArray alpha}
    (represents : array.Represents grow) {before later : List alpha}
    {removed : alpha} (split : grow.items = before ++ removed :: later) :
    ∃ after, array.removeAt before.length = some after ∧
      after.Represents (grow.withItems (before ++ later)) := by
  cases represents with
  | null =>
      simp [GrowArray.items] at split
  | block items spare capacity sized positive =>
      obtain rfl : items = before ++ removed :: later := split
      rw [List.length_append, List.length_cons] at sized
      have rounds : (before ++ removed :: later).length - 1 - before.length =
          later.length := by
        rw [List.length_append, List.length_cons]
        omega
      obtain ⟨freed, shifted⟩ :=
        shiftDown_eq before later removed spare
          (before ++ removed :: later).length capacity (by omega)
      have lessOne : (before ++ removed :: later).length - 1 =
          (before ++ later).length := by
        rw [List.length_append, List.length_cons, List.length_append]
        omega
      refine ⟨⟨some ((before ++ later).map some ++ freed :: spare),
        (before ++ later).length, capacity⟩, ?_,
        Represents.block _ _ capacity ?_ positive⟩
      · rw [CellArray.removeAt]
        dsimp only
        rw [rounds, shifted, Option.map_some, lessOne]
      · rw [List.length_append, List.length_cons]
        omega

end CellArray

/-- An array and the values that were ever appended to it, in order. -/
structure Ledger (alpha : Type*) where
  array : CellArray alpha := {}
  appended : List alpha := []
  deriving DecidableEq, Repr

namespace Ledger

variable {alpha : Type*}

/-- Put an empty block in the place of the array. -/
def renew (ledger : Ledger alpha) (capacity : Nat) : Ledger alpha :=
  { ledger with array := CellArray.allocate capacity }

/-- Grow the array when `full` holds, store the value and take it down. -/
def append (full : Prop) [Decidable full] (ledger : Ledger alpha)
    (item : alpha) : Option (Ledger alpha) :=
  ((ledger.array.growWhen full).store item).map fun array =>
    ⟨array, ledger.appended ++ [item]⟩

/-- What was appended, less what was removed. -/
def remaining [DecidableEq alpha] (ledger : Ledger alpha)
    (removed : List alpha) : List alpha :=
  ledger.appended.filter fun item => item ∉ removed

theorem remaining_concat
    [DecidableEq alpha] {ledger : Ledger alpha} {removed : List alpha}
    (distinct : ledger.appended.Nodup) {before later : List alpha}
    {item : alpha}
    (split : ledger.remaining removed = before ++ item :: later) :
    ledger.remaining (removed ++ [item]) = before ++ later := by
  have filtered : ledger.remaining (removed ++ [item]) =
      (ledger.remaining removed).filter fun other => other ≠ item := by
    rw [remaining, remaining, List.filter_filter]
    apply List.filter_congr
    intro other _
    simp [and_comm]
  have once : (before ++ item :: later).Nodup :=
    split ▸ distinct.filter _
  rw [List.nodup_middle, List.nodup_cons] at once
  rw [filtered, split, List.filter_append, List.filter_cons_of_neg (by simp),
    ← List.filter_append]
  apply List.filter_eq_self.mpr
  intro other member
  have different : other ≠ item := by
    rintro rfl
    exact once.1 member
  simpa using different

/-- Appending to an allocated array writes inside its block, if the array
grows at least when it is full. -/
theorem append_eq_some
    {ledger : Ledger alpha} {grow : GrowArray alpha}
    (represents : ledger.array.Represents grow)
    (allocated : ledger.array.block ≠ none)
    {full grown : Prop} [Decidable full] [Decidable grown]
    (sameTest : full ↔ grown)
    (whenFull : ledger.array.count = ledger.array.capacity → full)
    (item : alpha) :
    ∃ array, ledger.append full item =
        some ⟨array, ledger.appended ++ [item]⟩ ∧
      array.Represents ((grow.growWhen grown).store item) := by
  obtain ⟨grownArray, room⟩ :=
    represents.growWhen allocated sameTest whenFull
  obtain ⟨array, stored, after⟩ := grownArray.store room item
  refine ⟨array, ?_, after⟩
  rw [append, stored, Option.map_some]

/-- The array holds what was appended. -/
def Complete (ledger : Ledger alpha) : Prop :=
  ledger.array.Holds ledger.appended

/-- The memory is that of the array, which has what was appended. -/
structure Keeps (ledger : Ledger alpha) (grow : GrowArray alpha) : Prop where
  represents : ledger.array.Represents grow
  items : grow.items = ledger.appended

namespace Keeps

variable {ledger : Ledger alpha} {grow : GrowArray alpha}

theorem empty : (({} : Ledger alpha)).Keeps {} :=
  ⟨CellArray.Represents.null, rfl⟩

theorem complete (keeps : ledger.Keeps grow) : ledger.Complete := by
  rw [Ledger.Complete, ← keeps.items]
  exact keeps.represents.holds

/-- A block may be replaced as long as nothing is in it, and has to be there
unless it is replaced. -/
theorem renew
    (keeps : ledger.Keeps grow)
    {unused empty : Prop} [Decidable unused] [Decidable empty]
    (sameTest : unused ↔ empty)
    (whenUnused : unused → ledger.array.count = 0)
    (whenNull : ledger.array.block = none → unused)
    {capacity : Nat} (positive : 0 < capacity) :
    (if unused then ledger.renew capacity else ledger).Keeps
        (if empty then GrowArray.ofCapacity capacity else grow) ∧
      (if unused then ledger.renew capacity else ledger).array.block ≠
        none := by
  by_cases isUnused : unused
  · rw [if_pos isUnused, if_pos (sameTest.mp isUnused)]
    refine ⟨⟨CellArray.represents_allocate positive, ?_⟩,
      Option.some_ne_none _⟩
    have noItems := whenUnused isUnused
    rw [keeps.represents.count_eq] at noItems
    rw [GrowArray.ofCapacity_items, Ledger.renew, ← keeps.items]
    exact (List.length_eq_zero_iff.mp noItems).symm
  · rw [if_neg isUnused, if_neg (fun test => isUnused (sameTest.mpr test))]
    exact ⟨keeps, fun null => isUnused (whenNull null)⟩

/-- Appending to an allocated array that keeps what was appended loses
nothing. -/
theorem append
    (keeps : ledger.Keeps grow) (allocated : ledger.array.block ≠ none)
    {full grown : Prop} [Decidable full] [Decidable grown]
    (sameTest : full ↔ grown)
    (whenFull : ledger.array.count = ledger.array.capacity → full)
    (item : alpha) :
    ∃ after, ledger.append full item = some after ∧
      after.Keeps ((grow.growWhen grown).store item) := by
  obtain ⟨array, appended, holds⟩ :=
    append_eq_some keeps.represents allocated sameTest whenFull item
  refine ⟨_, appended, holds, ?_⟩
  rw [GrowArray.store_items, GrowArray.growWhen_items, keeps.items]

end Keeps

end Ledger
