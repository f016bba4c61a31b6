import Mathlib.Algebra.BigOperators.Group.Finset.Basic
import Mathlib.Algebra.Order.Group.Multiset
import Mathlib.Data.Multiset.ZeroCons

/-!
# Blocks and their owners

A heap that hands out blocks and takes them back.  Giving back a block that
is not allocated has no result.  A triple says which blocks an action owns
before and after it, whatever other blocks there are, so that triples can be
composed; and it says that the action goes through.
-/

/-- The address of an allocated block. -/
abbrev Block := Nat

/-- The blocks that are allocated, and the next one. -/
structure BlockHeap where
  next : Block := 0
  live : List Block := []
  deriving DecidableEq

/-- An action on the heap, which may fail. -/
abbrev Allocating (alpha : Type) := StateT BlockHeap Option alpha

namespace Allocating

def malloc : Allocating Block := fun heap =>
  some (heap.next, ⟨heap.next + 1, heap.next :: heap.live⟩)

/-- Only an allocated block can be freed. -/
def free (block : Block) : Allocating Unit := fun heap =>
  if block ∈ heap.live then
    some ((), { heap with live := heap.live.erase block })
  else none

/-- A null pointer can be freed, too. -/
def freePointer : Option Block → Allocating Unit
  | none => pure ()
  | some block => free block

def freeAll : List Block → Allocating Unit
  | [] => pure ()
  | block :: blocks => do
      free block
      freeAll blocks

/-- The block moves. -/
def realloc (pointer : Option Block) : Allocating Block := do
  freePointer pointer
  malloc

def mallocs : Nat → Allocating (List Block)
  | 0 => pure []
  | size + 1 => do
      let block ← malloc
      let blocks ← mallocs size
      return block :: blocks

end Allocating

/-- Exactly the owned blocks are allocated, and no two owners have a block in
common. -/
structure BlockHeap.Accounts (heap : BlockHeap) (owned : Multiset Block) :
    Prop where
  live : (heap.live : Multiset Block) = owned
  nodup : owned.Nodup
  fresh : ∀ block ∈ owned, block < heap.next

/-- Beside any other blocks, the action turns the owned ones into those that
it leaves, and its result is as ensured. -/
def Owns {alpha : Type} (action : Allocating alpha) (owned : Multiset Block)
    (leaves : alpha → Multiset Block)
    (ensures : alpha → Prop) : Prop :=
  ∀ (heap : BlockHeap) (others : Multiset Block),
    heap.Accounts (owned + others) →
      ∃ result after, action heap = some (result, after) ∧
        ensures result ∧ after.Accounts (leaves result + others)

namespace Owns

open Allocating

variable {alpha beta : Type} {owned used left rest : Multiset Block}

theorem pure
    {leaves : alpha → Multiset Block} {ensures : alpha → Prop}
    {value : alpha} (kept : leaves value = owned)
    (holds : ensures value) :
    Owns (Pure.pure value) owned leaves ensures := by
  intro heap others accounts
  refine ⟨value, heap, rfl, holds, ?_⟩
  rw [kept]
  exact accounts

/-- An action that owns a part of the blocks, and what follows it. -/
theorem bind
    {first : Allocating alpha} {next : alpha → Allocating beta}
    {middle : alpha → Multiset Block} {between : alpha → Prop}
    {leaves : beta → Multiset Block} {ensures : beta → Prop}
    (firstOwns : Owns first used middle between)
    (split : owned = used + rest)
    (nextOwns : ∀ result, between result →
      Owns (next result) (middle result + rest) leaves ensures) :
    Owns (first >>= next) owned leaves ensures := by
  intro heap others accounts
  rw [split, add_assoc] at accounts
  obtain ⟨result, after, ran, holds, kept⟩ :=
    firstOwns heap (rest + others) accounts
  rw [← add_assoc] at kept
  obtain ⟨last, final, lastRan, lastHolds, lastKept⟩ :=
    nextOwns result holds after others kept
  refine ⟨last, final, ?_, lastHolds, lastKept⟩
  exact Option.bind_eq_some_iff.mpr ⟨_, ran, lastRan⟩

theorem weaken
    {action : Allocating alpha} {leaves other : alpha → Multiset Block}
    {ensures weaker : alpha → Prop}
    (owns : Owns action used leaves ensures) (same : owned = used)
    (kept : ∀ result, ensures result → leaves result = other result)
    (holds : ∀ result, ensures result → weaker result) :
    Owns action owned other weaker := by
  intro heap others accounts
  rw [same] at accounts
  obtain ⟨result, after, ran, ensured, accounts⟩ :=
    owns heap others accounts
  rw [kept result ensured] at accounts
  exact ⟨result, after, ran, holds result ensured, accounts⟩

/-- The test decides who does the work. -/
theorem ite
    {test : Prop} [Decidable test] {yes no : Allocating alpha}
    {leaves : alpha → Multiset Block} {ensures : alpha → Prop}
    (yesOwns : test → Owns yes owned leaves ensures)
    (noOwns : ¬ test → Owns no owned leaves ensures) :
    Owns (if test then yes else no) owned leaves ensures := by
  split_ifs with holds
  · exact yesOwns holds
  · exact noOwns holds

theorem malloc :
    Owns malloc 0 (fun block => {block}) fun _ => True := by
  intro heap others accounts
  rw [zero_add] at accounts
  have new : heap.next ∉ others := fun member =>
    Nat.lt_irrefl _ (accounts.fresh _ member)
  refine ⟨heap.next, _, rfl, trivial, ?_⟩
  rw [Multiset.singleton_add]
  refine ⟨?_, Multiset.nodup_cons.mpr ⟨new, accounts.nodup⟩, ?_⟩
  · rw [← accounts.live]
    rfl
  · intro block member
    rcases Multiset.mem_cons.mp member with rfl | old
    · exact Nat.lt_succ_self _
    · exact Nat.lt_succ_of_lt (accounts.fresh block old)

theorem free (block : Block) :
    Owns (free block) {block} (fun _ => 0) fun _ => True := by
  intro heap others accounts
  rw [Multiset.singleton_add] at accounts
  have allocated : block ∈ heap.live := by
    rw [← Multiset.mem_coe, accounts.live]
    exact Multiset.mem_cons_self block others
  refine ⟨(), _, if_pos allocated, trivial, ?_⟩
  rw [zero_add]
  refine ⟨?_, (Multiset.nodup_cons.mp accounts.nodup).2, ?_⟩
  · have erased := congrArg (Multiset.erase · block) accounts.live
    simpa using erased
  · intro other member
    exact accounts.fresh other (Multiset.mem_cons_of_mem member)

theorem freePointer (pointer : Option Block) :
    Owns (freePointer pointer) pointer.toList (fun _ => 0)
      fun _ => True := by
  cases pointer with
  | none =>
      exact Owns.pure rfl trivial
  | some block =>
      exact free block

theorem freeAll (blocks : List Block) :
    Owns (freeAll blocks) blocks (fun _ => 0) fun _ => True := by
  induction blocks with
  | nil =>
      exact Owns.pure rfl trivial
  | cons block blocks inductionHypothesis =>
      have split : ((block :: blocks : List Block) : Multiset Block) =
          {block} + blocks := by
        rw [Multiset.singleton_add, Multiset.cons_coe]
      apply (free block).bind split
      intro _ _
      rw [zero_add]
      exact inductionHypothesis

theorem realloc (pointer : Option Block) :
    Owns (realloc pointer) pointer.toList (fun block => {block})
      fun _ => True := by
  apply (freePointer pointer).bind (add_zero _).symm
  intro _ _
  rw [add_zero]
  exact malloc

theorem mallocs (size : Nat) :
    Owns (mallocs size) 0 (fun blocks => blocks)
      fun blocks => blocks.length = size := by
  induction size with
  | zero =>
      exact Owns.pure rfl rfl
  | succ size inductionHypothesis =>
      apply malloc.bind (zero_add 0).symm
      intro block _
      apply inductionHypothesis.bind (add_comm _ _)
      intro blocks sameLength
      apply Owns.pure
      · rw [add_comm, Multiset.singleton_add, Multiset.cons_coe]
      · rw [List.length_cons, sameLength]

end Owns

/-- When one owner's blocks change, those of the others stay together. -/
theorem exists_rest_of_sum_range
    {held : Nat → Multiset Block} {owner bound : Nat}
    (below : owner < bound) :
    ∃ rest, ∑ index ∈ Finset.range bound, held index =
        held owner + rest ∧
      ∀ after : Nat → Multiset Block,
        (∀ other, other ≠ owner → after other = held other) →
          ∑ index ∈ Finset.range bound, after index =
            after owner + rest := by
  have member : owner ∈ Finset.range bound := Finset.mem_range.mpr below
  refine ⟨∑ index ∈ (Finset.range bound).erase owner, held index,
    (Finset.add_sum_erase _ held member).symm, ?_⟩
  intro after others
  rw [← Finset.add_sum_erase _ after member]
  congr 1
  apply Finset.sum_congr rfl
  intro index indexMember
  exact others index (Finset.ne_of_mem_erase indexMember)
