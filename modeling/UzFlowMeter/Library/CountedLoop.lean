import Mathlib.Data.Nat.Notation
import Mathlib.Tactic.TypeStar

/-!
# Loops with counted rounds

A `while` loop whose body may `break`, run for a limited number of rounds.
The guard has no value where evaluating it is undefined.  Such a loop has no
result, and neither has a loop that needs more rounds than it is given.
-/

/-- How a round of a loop ends: before the guard again, or behind the
loop. -/
inductive Round (sigma : Type*) where
  | again (state : sigma)
  | leave (state : sigma)

structure CountedLoop (sigma : Type*) where
  guard : sigma → Option Bool
  body : sigma → Round sigma

namespace CountedLoop

variable {sigma : Type*} (loop : CountedLoop sigma)

/-- The number of rounds and the state behind the loop, with at most `limit`
rounds. -/
def run : Nat → sigma → Option (Nat × sigma)
  | 0, state =>
      if loop.guard state = some false then some (0, state) else none
  | limit + 1, state =>
      match loop.guard state with
      | none => none
      | some false => some (0, state)
      | some true =>
          match loop.body state with
          | .again next =>
              (run limit next).map fun ended => (ended.1 + 1, ended.2)
          | .leave last => some (1, last)

theorem rounds_le
    {limit : Nat} {state : sigma} {ended : Nat × sigma}
    (run : loop.run limit state = some ended) : ended.1 ≤ limit := by
  induction limit generalizing state ended with
  | zero =>
      rw [CountedLoop.run, Option.ite_none_right_eq_some] at run
      obtain rfl := Option.some.inj run.2
      exact Nat.le_refl 0
  | succ limit inductionHypothesis =>
      rw [CountedLoop.run] at run
      split at run
      · cases run
      · obtain rfl := Option.some.inj run
        exact Nat.zero_le _
      · split at run
        · obtain ⟨inner, innerRun, rfl⟩ := Option.map_eq_some_iff.mp run
          exact Nat.succ_le_succ (inductionHypothesis innerRun)
        · obtain rfl := Option.some.inj run
          exact Nat.succ_le_succ (Nat.zero_le _)

/-- An invariant under which the guard has a value and every repeated round
decreases a measure, and what holds behind the loop. -/
structure Annotated (invariant : sigma → Prop) (measure : sigma → Nat)
    (post : sigma → Prop) : Prop where
  defined : ∀ state, invariant state → loop.guard state ≠ none
  again : ∀ state next, invariant state →
    loop.guard state = some true → loop.body state = .again next →
    invariant next ∧ measure next < measure state
  leave : ∀ state last, invariant state →
    loop.guard state = some true → loop.body state = .leave last → post last
  stop : ∀ state, invariant state →
    loop.guard state = some false → post state

variable {loop}

/-- An annotated loop ends after at most one round more than its measure
allows to repeat. -/
theorem Annotated.run_eq_some
    {invariant : sigma → Prop} {measure : sigma → Nat}
    {post : sigma → Prop}
    (annotated : loop.Annotated invariant measure post)
    {state : sigma} (start : invariant state) :
    ∃ rounds last, loop.run (measure state + 1) state =
        some (rounds, last) ∧
      rounds ≤ measure state + 1 ∧ post last := by
  suffices ends : ∀ limit state, invariant state → measure state < limit →
      ∃ ended, loop.run limit state = some ended ∧ post ended.2 by
    obtain ⟨ended, ran, holds⟩ := ends _ state start (Nat.lt_succ_self _)
    exact ⟨ended.1, ended.2, ran, rounds_le loop ran, holds⟩
  intro limit
  induction limit with
  | zero =>
      intro state _ negative
      exact absurd negative (Nat.not_lt_zero _)
  | succ limit inductionHypothesis =>
      intro state kept small
      rw [run]
      split
      · exact absurd ‹_› (annotated.defined state kept)
      · exact ⟨(0, state), rfl, annotated.stop state kept ‹_›⟩
      · split
        · rename_i next repeated
          obtain ⟨nextKept, smaller⟩ :=
            annotated.again state next kept ‹_› repeated
          obtain ⟨ended, ran, holds⟩ :=
            inductionHypothesis next nextKept (by omega)
          exact ⟨(ended.1 + 1, ended.2), by rw [ran]; rfl, holds⟩
        · exact ⟨(1, _), rfl, annotated.leave state _ kept ‹_› ‹_›⟩

end CountedLoop
