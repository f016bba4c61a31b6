import Mathlib.Data.List.Basic

/-!
# Observed reads

A computation that fetches cells of a memory one at a time can be run so
that it also logs the indices it touches.  `Observes` says which value such
a computation returns and which indices it touches, in order; the rules
follow the structure of the computation.
-/

namespace Observation

variable {iota alpha beta gamma : Type}

/-- Fetch a cell and log its index. -/
def fetch (memory : iota → alpha) (index : iota) :
    StateM (List iota) alpha :=
  fun log => (memory index, log ++ [index])

/-- The indices a computation touches when it is run on its own. -/
def touched (computation : StateM (List iota) beta) : List iota :=
  (computation []).2

/-- The computation returns the value and touches the indices. -/
def Observes (computation : StateM (List iota) beta) (value : beta)
    (indices : List iota) : Prop :=
  ∀ log, computation log = (value, log ++ indices)

theorem Observes.touched_eq
    {computation : StateM (List iota) beta} {value : beta}
    {indices : List iota} (observes : Observes computation value indices) :
    touched computation = indices := by
  rw [touched, observes, List.nil_append]

theorem observes_pure (value : beta) :
    Observes (pure value : StateM (List iota) beta) value [] := by
  intro log
  rw [List.append_nil]
  rfl

theorem observes_fetch (memory : iota → alpha) (index : iota) :
    Observes (fetch memory index) (memory index) [index] :=
  fun _ => rfl

theorem Observes.bind
    {first : StateM (List iota) beta}
    {next : beta → StateM (List iota) gamma} {middle : beta}
    {value : gamma} {early late : List iota}
    (firstObserves : Observes first middle early)
    (nextObserves : Observes (next middle) value late) :
    Observes (first >>= next) value (early ++ late) := by
  intro log
  have firstRun := firstObserves log
  have nextRun := nextObserves (log ++ early)
  rw [List.append_assoc] at nextRun
  rw [← nextRun]
  change next (first log).1 (first log).2 = next middle (log ++ early)
  rw [firstRun]

/-- A computation that goes on with `pure`. -/
theorem Observes.map
    {first : StateM (List iota) beta} {middle : beta}
    {indices : List iota} (transform : beta → gamma)
    (firstObserves : Observes first middle indices) :
    Observes (first >>= fun result => pure (transform result))
      (transform middle) indices := by
  have observed :
      Observes (first >>= fun result => pure (transform result))
        (transform middle) (indices ++ []) :=
    firstObserves.bind (observes_pure (transform middle))
  rwa [List.append_nil] at observed

/-- Run on any memory, the computation depends on the cells it touches there
and on no others. -/
def Local (computation : (iota → alpha) → StateM (List iota) beta) : Prop :=
  ∀ memory : iota → alpha, ∃ value indices,
    ∀ other : iota → alpha, (∀ index ∈ indices, memory index = other index) →
      Observes (computation other) value indices

theorem local_pure (value : beta) :
    Local (fun _ : iota → alpha => pure value) := by
  intro memory
  exact ⟨value, [], fun _ _ => observes_pure value⟩

theorem local_fetch (index : iota) :
    Local (fun memory : iota → alpha => fetch memory index) := by
  intro memory
  refine ⟨memory index, [index], ?_⟩
  intro other agree
  rw [agree index List.mem_cons_self]
  exact observes_fetch other index

theorem Local.bind
    {first : (iota → alpha) → StateM (List iota) beta}
    {next : beta → (iota → alpha) → StateM (List iota) gamma}
    (firstLocal : Local first) (nextLocal : ∀ middle, Local (next middle)) :
    Local fun memory => first memory >>= fun middle => next middle memory := by
  intro memory
  obtain ⟨middle, early, firstObserves⟩ := firstLocal memory
  obtain ⟨value, late, nextObserves⟩ := nextLocal middle memory
  refine ⟨value, early ++ late, ?_⟩
  intro other agree
  have firstObserved := firstObserves other fun index member =>
    agree index (List.mem_append_left late member)
  have nextObserved := nextObserves other fun index member =>
    agree index (List.mem_append_right early member)
  exact firstObserved.bind nextObserved

/-- Memories that agree on what the computation touches are the same to
it. -/
theorem Local.congr
    {computation : (iota → alpha) → StateM (List iota) beta}
    (isLocal : Local computation) {memory other : iota → alpha}
    (agree : ∀ index ∈ touched (computation memory),
      memory index = other index) :
    computation other [] = computation memory [] := by
  obtain ⟨value, indices, observes⟩ := isLocal memory
  have own := observes memory fun _ _ => rfl
  rw [own.touched_eq] at agree
  rw [own [], observes other agree []]

end Observation
