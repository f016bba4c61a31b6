import Mathlib.Data.List.Forall2
import Mathlib.Data.List.Induction

/-!
# Runs of a deterministic step function

A run folds a step function over a list of inputs.  `EveryStep` says that a
condition on the state before a step and its input holds along a whole run.
-/

namespace Runs

variable {sigma iota : Type*} (step : sigma → iota → sigma)

/-- Every step of the run from `state` meets the condition. -/
def EveryStep (condition : sigma → iota → Prop) : sigma → List iota → Prop
  | _, [] => True
  | state, input :: inputs =>
      condition state input ∧
        EveryStep condition (step state input) inputs

instance decidableEveryStep
    (condition : sigma → iota → Prop)
    [∀ state input, Decidable (condition state input)] :
    ∀ state inputs, Decidable (EveryStep step condition state inputs)
  | _, [] => Decidable.isTrue True.intro
  | state, input :: inputs =>
      @instDecidableAnd (condition state input) _ inferInstance
        (decidableEveryStep condition (step state input) inputs)

theorem everyStep_append
    {condition : sigma → iota → Prop} {state : sigma}
    {first second : List iota} :
    EveryStep step condition state (first ++ second) ↔
      EveryStep step condition state first ∧
        EveryStep step condition (first.foldl step state) second := by
  induction first generalizing state with
  | nil =>
      simp [EveryStep]
  | cons input inputs inductionHypothesis =>
      simp only [List.cons_append, EveryStep, List.foldl_cons,
        inductionHypothesis, and_assoc]

theorem everyStep_concat
    {condition : sigma → iota → Prop} {state : sigma}
    {inputs : List iota} {last : iota} :
    EveryStep step condition state (inputs ++ [last]) ↔
      EveryStep step condition state inputs ∧
        condition (inputs.foldl step state) last := by
  rw [everyStep_append]
  simp [EveryStep]

/-- A statement about the inputs consumed so far and the state they lead to
holds of a whole run when every step preserves it. -/
theorem run_induction
    {motive : List iota → sigma → Prop} {state : sigma}
    (start : motive [] state)
    (next : ∀ inputs input,
      motive inputs (inputs.foldl step state) →
      motive (inputs ++ [input])
        (step (inputs.foldl step state) input))
    (inputs : List iota) :
    motive inputs (inputs.foldl step state) := by
  induction inputs using List.reverseRecOn with
  | nil =>
      exact start
  | append_singleton inputs last inductionHypothesis =>
      rw [List.foldl_append]
      exact next inputs last inductionHypothesis

/-- An invariant of the state alone. -/
theorem run_invariant
    {invariant : sigma → Prop} {state : sigma}
    (start : invariant state)
    (next : ∀ state input, invariant state → invariant (step state input))
    (inputs : List iota) :
    invariant (inputs.foldl step state) :=
  run_induction step (motive := fun _ state => invariant state) start
    (fun inputs input => next (inputs.foldl step state) input) inputs

/-- A step function on other states that may fail simulates one that does
not: related states step to related states. -/
theorem foldlM_simulates
    {tau : Type*} {detailed : tau → iota → Option tau}
    {related : tau → sigma → Prop} {detail : tau} {state : sigma}
    (start : related detail state)
    (next : ∀ detail state input, related detail state →
      ∃ after, detailed detail input = some after ∧
        related after (step state input))
    (inputs : List iota) :
    ∃ after, inputs.foldlM detailed detail = some after ∧
      related after (inputs.foldl step state) := by
  induction inputs generalizing detail state with
  | nil =>
      exact ⟨detail, rfl, start⟩
  | cons input inputs inductionHypothesis =>
      obtain ⟨after, stepped, stillRelated⟩ :=
        next detail state input start
      rw [List.foldlM_cons, stepped, List.foldl_cons]
      exact inductionHypothesis stillRelated

/-- A statement about two sequences of inputs that are alike, one by one,
holds when it is kept by every further pair of inputs. -/
theorem alike_induction
    {kappa : Type*} {alike : iota → kappa → Prop}
    {motive : List iota → List kappa → Prop}
    (start : motive [] [])
    (next : ∀ inputs others input other, motive inputs others →
      alike input other → motive (inputs ++ [input]) (others ++ [other]))
    {inputs : List iota} {others : List kappa}
    (related : List.Forall₂ alike inputs others) :
    motive inputs others := by
  have backwards : ∀ {later : List iota} {otherLater : List kappa},
      List.Forall₂ alike later otherLater →
      motive later.reverse otherLater.reverse := by
    intro later otherLater reversed
    induction reversed with
    | nil =>
        exact start
    | cons here _ inductionHypothesis =>
        rw [List.reverse_cons, List.reverse_cons]
        exact next _ _ _ _ inductionHypothesis here
  have whole := backwards (List.forall₂_reverse_iff.mpr related)
  rwa [List.reverse_reverse, List.reverse_reverse] at whole

end Runs
