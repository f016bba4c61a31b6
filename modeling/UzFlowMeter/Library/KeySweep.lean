import Mathlib.Data.List.Basic

/-!
# Sweeping a table by a snapshot of its keys

A sweep takes the keys of a table once, then looks every key up again and
removes the first item under it when that item is dead.  It stops as soon as
its index reaches the number of items that are left, so every removal brings
the end of the sweep one step closer.

The sweep only ever removes dead items, keeps the others in their order, and
removes the items of one key from the front.  It removes every dead item
exactly under the two conditions of `sweep_complete_iff`.
-/

namespace KeySweep

variable {alpha kappa : Type*} [BEq kappa]
  (keyOf : alpha → kappa) (dead : alpha → Bool)

/-- Look one key up: the items that stay and the items that are removed. -/
def probe (key : kappa) (table : List alpha) : List alpha × List alpha :=
  match table.find? (fun item => keyOf item == key) with
  | none => (table, [])
  | some item =>
      if dead item then
        (table.eraseP (fun item => keyOf item == key), [item])
      else (table, [])

/-- The sweep over the remaining keys from index `i` on. -/
def sweepFrom : List kappa → Nat → List alpha → List alpha × List alpha
  | [], _, table => (table, [])
  | key :: keys, i, table =>
      if i < table.length then
        let probed := probe keyOf dead key table
        let swept := sweepFrom keys (i + 1) probed.1
        (swept.1, probed.2 ++ swept.2)
      else (table, [])

/-- The sweep of a table by the keys it has at the start. -/
def sweep (table : List alpha) : List alpha × List alpha :=
  sweepFrom keyOf dead (table.map keyOf) 0 table

theorem probe_sublist (key : kappa) (table : List alpha) :
    (probe keyOf dead key table).1.Sublist table := by
  rw [probe]
  split
  · exact List.Sublist.refl table
  · split_ifs
    · exact List.eraseP_sublist
    · exact List.Sublist.refl table

variable [LawfulBEq kappa]

/-- Either no item is under the key, or the table splits at the first one. -/
theorem exists_first_or_absent (key : kappa) (table : List alpha) :
    (∀ item ∈ table, keyOf item ≠ key) ∨
      ∃ before item after,
        table = before ++ item :: after ∧
        (∀ other ∈ before, keyOf other ≠ key) ∧ keyOf item = key := by
  cases found : table.find? (fun item => keyOf item == key) with
  | none =>
      left
      intro item member
      simpa using List.find?_eq_none.mp found item member
  | some item =>
      right
      obtain ⟨matched, before, after, split, earlier⟩ :=
        List.find?_eq_some_iff_append.mp found
      refine ⟨before, item, after, split, ?_, by simpa using matched⟩
      intro other member
      simpa using earlier other member

section Position

variable {keyOf : alpha → kappa} {key : kappa}

theorem findIdx?_of_absent
    {table : List alpha} (absent : ∀ item ∈ table, keyOf item ≠ key) :
    table.findIdx? (fun item => keyOf item == key) = none := by
  apply List.findIdx?_eq_none_iff.mpr
  intro item member
  simpa using absent item member

/-- A search through the table stops behind the earlier items. -/
theorem findIdx?_of_first
    {before after : List alpha} {item : alpha}
    (earlier : ∀ other ∈ before, keyOf other ≠ key)
    (matched : keyOf item = key) :
    (before ++ item :: after).findIdx? (fun item => keyOf item == key) =
      some before.length := by
  rw [List.findIdx?_append, findIdx?_of_absent earlier, List.findIdx?_cons,
    matched, beq_self_eq_true]
  simp

theorem eraseP_of_first
    {before after : List alpha} {item : alpha}
    (earlier : ∀ other ∈ before, keyOf other ≠ key)
    (matched : keyOf item = key) :
    (before ++ item :: after).eraseP (fun item => keyOf item == key) =
      before ++ after := by
  rw [List.eraseP_append_right, List.eraseP_cons, matched,
    beq_self_eq_true, cond_true]
  intro other member
  simpa using earlier other member

end Position

theorem probe_of_absent
    {key : kappa} {table : List alpha}
    (absent : ∀ item ∈ table, keyOf item ≠ key) :
    probe keyOf dead key table = (table, []) := by
  have notFound :
      table.find? (fun item => keyOf item == key) = none := by
    apply List.find?_eq_none.mpr
    intro item member
    simpa using absent item member
  simp only [probe, notFound]

theorem probe_of_first
    {key : kappa} {before after : List alpha} {item : alpha}
    (earlier : ∀ other ∈ before, keyOf other ≠ key)
    (matched : keyOf item = key) :
    probe keyOf dead key (before ++ item :: after) =
      if dead item then (before ++ after, [item])
      else (before ++ item :: after, []) := by
  have here : (keyOf item == key) = true := by simpa using matched
  have found :
      (before ++ item :: after).find? (fun other => keyOf other == key) =
        some item := by
    apply List.find?_eq_some_iff_append.mpr
    refine ⟨here, before, after, rfl, ?_⟩
    intro other member
    simpa using earlier other member
  simp only [probe, found, eraseP_of_first earlier matched]

/-- A statement about a table, the items that stay and the removed ones that
holds when nothing happens and composes over the removal of one dead item
holds of every sweep. -/
theorem sweepFrom_induction
    {motive : List alpha → List alpha → List alpha → Prop}
    (idle : ∀ table, motive table table [])
    (remove : ∀ before item after kept removed,
      dead item = true →
      (∀ other ∈ before, keyOf other ≠ keyOf item) →
      motive (before ++ after) kept removed →
      motive (before ++ item :: after) kept (item :: removed))
    (keys : List kappa) (i : Nat) (table : List alpha) :
    motive table (sweepFrom keyOf dead keys i table).1
      (sweepFrom keyOf dead keys i table).2 := by
  induction keys generalizing i table with
  | nil =>
      exact idle table
  | cons key keys inductionHypothesis =>
      rw [sweepFrom]
      by_cases inside : i < table.length
      · simp only [inside, if_true]
        rcases exists_first_or_absent keyOf key table with
          absent | ⟨before, item, after, split, earlier, matched⟩
        · rw [probe_of_absent keyOf dead absent]
          exact inductionHypothesis (i + 1) table
        · subst split matched
          rw [probe_of_first keyOf dead earlier rfl]
          by_cases isDead : dead item = true
          · rw [if_pos isDead]
            exact remove before item after _ _ isDead earlier
              (inductionHypothesis (i + 1) (before ++ after))
          · rw [if_neg isDead]
            exact inductionHypothesis (i + 1) (before ++ item :: after)
      · simp only [inside, if_false]
        exact idle table

theorem sweepFrom_sublist
    (keys : List kappa) (i : Nat) (table : List alpha) :
    (sweepFrom keyOf dead keys i table).1.Sublist table := by
  apply sweepFrom_induction keyOf dead
    (motive := fun table kept _ => kept.Sublist table)
  · exact List.Sublist.refl
  · intro before item after kept _ _ _ inductionHypothesis
    exact inductionHypothesis.trans <|
      (List.sublist_cons_self item after).append_left before

theorem sweepFrom_perm
    (keys : List kappa) (i : Nat) (table : List alpha) :
    ((sweepFrom keyOf dead keys i table).1 ++
      (sweepFrom keyOf dead keys i table).2).Perm table := by
  apply sweepFrom_induction keyOf dead
    (motive := fun table kept removed => (kept ++ removed).Perm table)
  · intro table
    simp
  · intro before item after kept removed _ _ inductionHypothesis
    have exposed :
        (kept ++ item :: removed).Perm (item :: (kept ++ removed)) :=
      List.perm_middle
    exact exposed.trans <|
      (inductionHypothesis.cons item).trans List.perm_middle.symm

theorem sweepFrom_removed_dead
    (keys : List kappa) (i : Nat) (table : List alpha) :
    ∀ item ∈ (sweepFrom keyOf dead keys i table).2, dead item = true := by
  apply sweepFrom_induction keyOf dead
    (motive := fun _ _ removed => ∀ item ∈ removed, dead item = true)
  · intro table item member
    exact absurd member List.not_mem_nil
  · intro before item after kept removed isDead _ inductionHypothesis other
      member
    rcases List.mem_cons.mp member with equal | later
    · exact equal ▸ isDead
    · exact inductionHypothesis other later

/-- Under one key the removed items come first: first in, first out. -/
theorem sweepFrom_filter_key
    (keys : List kappa) (i : Nat) (table : List alpha) (key : kappa) :
    table.filter (fun item => keyOf item == key) =
      (sweepFrom keyOf dead keys i table).2.filter
          (fun item => keyOf item == key) ++
        (sweepFrom keyOf dead keys i table).1.filter
          (fun item => keyOf item == key) := by
  apply sweepFrom_induction keyOf dead
    (motive := fun table kept removed =>
      table.filter (fun item => keyOf item == key) =
        removed.filter (fun item => keyOf item == key) ++
          kept.filter (fun item => keyOf item == key))
  · intro table
    simp
  · intro before item after kept removed _ earlier inductionHypothesis
    rw [List.filter_append] at inductionHypothesis ⊢
    by_cases matched : keyOf item = key
    · have here : (keyOf item == key) = true := by simpa using matched
      have noneBefore :
          before.filter (fun other => keyOf other == key) = [] := by
        apply List.filter_eq_nil_iff.mpr
        intro other member
        simpa [← matched] using earlier other member
      rw [noneBefore, List.nil_append] at inductionHypothesis ⊢
      simp only [List.filter_cons, here, if_true, List.cons_append]
      rw [inductionHypothesis]
    · have skipped : (keyOf item == key) = false := by
        simpa using matched
      simp only [List.filter_cons, skipped, Bool.false_eq_true, if_false]
      exact inductionHypothesis

/-- A removed item stood before every item of its key that stays. -/
theorem sweepFrom_removed_before_kept
    {relation : alpha → alpha → Prop}
    (keys : List kappa) (i : Nat) {table : List alpha}
    (pairwise : table.Pairwise relation) {removed kept : alpha}
    (removedMember : removed ∈ (sweepFrom keyOf dead keys i table).2)
    (keptMember : kept ∈ (sweepFrom keyOf dead keys i table).1)
    (sameKey : keyOf removed = keyOf kept) :
    relation removed kept := by
  have inOrder := pairwise.filter (fun item => keyOf item == keyOf kept)
  rw [sweepFrom_filter_key keyOf dead keys i table (keyOf kept),
    List.pairwise_append] at inOrder
  apply inOrder.2.2
  · exact List.mem_filter.mpr ⟨removedMember, by simpa using sameKey⟩
  · exact List.mem_filter.mpr ⟨keptMember, by simp⟩

/-! ## When a sweep removes every dead item -/

/-- Under every key the dead items precede the others. -/
def DeadFirst (table : List alpha) : Prop :=
  table.Pairwise fun earlier later =>
    keyOf earlier = keyOf later → dead later = true → dead earlier = true

/-- No dead item lies so far back that the removals end the sweep before
reaching it. -/
def DeadInReach (table : List alpha) : Prop :=
  ∀ i item, table[i]? = some item → dead item = true →
    i + table.countP dead ≤ table.length

private theorem length_eq_alive_add_dead (table : List alpha) :
    table.length =
      (table.filter (fun item => !dead item)).length +
        table.countP dead := by
  rw [List.length_eq_countP_add_countP dead, List.countP_eq_length_filter
    (p := fun item => decide ¬ dead item = true)]
  have same :
      (fun item => decide ¬ dead item = true) =
        fun item => !dead item := by
    funext item
    simp
  rw [same, Nat.add_comm]

/-- The bound on the places of dead items, one item later: the item itself
is in reach if a later dead one is, or if there is none and there is room. -/
private theorem reach_cons_iff
    (head : alpha) (tail : List alpha) (before : Nat)
    (room : before < tail.length + 1) :
    (∀ i item, tail[i]? = some item → dead item = true →
        i + (before + [head].countP dead) + tail.countP dead ≤
          tail.length) ↔
      ∀ i item, (head :: tail)[i]? = some item → dead item = true →
        i + before + (head :: tail).countP dead ≤
          (head :: tail).length := by
  constructor
  · intro tailReach i item here isDead
    cases i with
    | zero =>
        obtain rfl : head = item := by simpa using here
        simp only [List.countP_cons, isDead, if_true,
          List.length_cons] at tailReach ⊢
        by_cases later : tail.countP dead = 0
        · omega
        · obtain ⟨other, member, otherDead⟩ :=
            List.countP_pos_iff.mp (Nat.pos_of_ne_zero later)
          obtain ⟨j, atJ⟩ := List.mem_iff_getElem?.mp member
          have reached := tailReach j other atJ otherDead
          simp only [List.countP_nil] at reached
          omega
    | succ i =>
        have reached := tailReach i item (by simpa using here) isDead
        simp only [List.countP_cons, List.countP_nil,
          List.length_cons] at reached ⊢
        omega
  · intro reach i item here isDead
    have reached := reach (i + 1) item (by simpa using here) isDead
    simp only [List.countP_cons, List.countP_nil,
      List.length_cons] at reached ⊢
    omega

/-- One round of the sweep when the swept part `done` has lost its dead items
and the rest is untouched: the next item is removed exactly when it is
dead. -/
private theorem probe_next
    {done rest : List alpha} {item : alpha}
    (deadFirst : DeadFirst keyOf dead (done ++ item :: rest)) :
    (probe keyOf dead (keyOf item)
        (done.filter (fun other => !dead other) ++ item :: rest)).1 =
      (done ++ [item]).filter (fun other => !dead other) ++ rest := by
  rw [List.filter_append, List.append_assoc]
  rcases exists_first_or_absent keyOf (keyOf item)
      (done.filter (fun other => !dead other)) with
    absent | ⟨before, first, after, split, earlier, matched⟩
  · rw [probe_of_first keyOf dead absent rfl]
    by_cases isDead : dead item = true
    · simp [isDead]
    · simp [isDead]
  · have firstMember : first ∈ done.filter (fun other => !dead other) := by
      rw [split]
      simp
    have firstAlive : dead first = false := by
      simpa using (List.mem_filter.mp firstMember).2
    have itemAlive : dead item = false := by
      by_contra itemDead
      have firstDead :=
        (List.pairwise_append.mp deadFirst).2.2 first
          (List.mem_filter.mp firstMember).1 item List.mem_cons_self
          matched (by simpa using itemDead)
      rw [firstAlive] at firstDead
      exact Bool.false_ne_true firstDead
    rw [split, List.append_assoc, List.cons_append,
      probe_of_first keyOf dead earlier matched]
    simp [firstAlive, itemAlive]

private theorem sweepFrom_complete_iff
    (done rest : List alpha)
    (deadFirst : DeadFirst keyOf dead (done ++ rest)) :
    (∀ item ∈ (sweepFrom keyOf dead (rest.map keyOf) done.length
        (done.filter (fun item => !dead item) ++ rest)).1,
      dead item = false) ↔
      ∀ i item, rest[i]? = some item → dead item = true →
        i + done.countP dead + rest.countP dead ≤ rest.length := by
  induction rest generalizing done with
  | nil =>
      simp [sweepFrom]
  | cons head tail inductionHypothesis =>
      have doneLength := length_eq_alive_add_dead dead done
      rw [List.map_cons, sweepFrom]
      by_cases inside :
          done.length <
            (done.filter (fun item => !dead item) ++ head :: tail).length
      · have room : done.countP dead < tail.length + 1 := by
          rw [List.length_append, List.length_cons] at inside
          omega
        have continued :=
          inductionHypothesis (done ++ [head]) (by simpa using deadFirst)
        rw [List.length_append, List.length_singleton] at continued
        simp only [inside, if_true, probe_next keyOf dead deadFirst]
        rw [continued, List.countP_append]
        exact reach_cons_iff dead head tail (done.countP dead) room
      · have noRoom : tail.length + 1 ≤ done.countP dead := by
          rw [List.length_append, List.length_cons] at inside
          omega
        simp only [inside, if_false]
        constructor
        · intro clean i item here isDead
          have member : item ∈ head :: tail :=
            List.mem_of_getElem? here
          rw [clean item (List.mem_append_right _ member)] at isDead
          exact absurd isDead Bool.false_ne_true
        · intro reach item member
          rcases List.mem_append.mp member with swept | untouched
          · simpa using (List.mem_filter.mp swept).2
          · by_contra notAlive
            have isDead : dead item = true := by simpa using notAlive
            obtain ⟨i, here⟩ := List.mem_iff_getElem?.mp untouched
            have bound := reach i item here isDead
            have counted : 0 < (head :: tail).countP dead :=
              List.countP_pos_iff.mpr ⟨item, untouched, isDead⟩
            simp only [List.length_cons] at bound
            omega

/-- A complete sweep finds the dead items of every key in front. -/
theorem deadFirst_of_complete
    {table : List alpha}
    (complete : ∀ item ∈ (sweep keyOf dead table).1, dead item = false) :
    DeadFirst keyOf dead table := by
  apply List.pairwise_iff_forall_sublist.mpr
  intro earlier later inOrder sameKey laterDead
  have inKey :
      [earlier, later].Sublist
        (table.filter (fun item => keyOf item == keyOf later)) := by
    have filtered := inOrder.filter (fun item => keyOf item == keyOf later)
    simpa [sameKey] using filtered
  rw [sweepFrom_filter_key keyOf dead (table.map keyOf) 0] at inKey
  obtain ⟨gone, stayed, parts, goneSublist, stayedSublist⟩ :=
    List.sublist_append_iff.mp inKey
  have laterGone : later ∉ stayed := by
    intro member
    have laterKept := (List.mem_filter.mp (stayedSublist.subset member)).1
    rw [complete later laterKept] at laterDead
    exact Bool.false_ne_true laterDead
  -- The later item was removed, so the split lies behind both of them.
  cases gone with
  | nil =>
      rw [List.nil_append] at parts
      exact absurd (parts ▸ by simp) laterGone
  | cons first goneTail =>
      obtain ⟨rfl, -⟩ := List.cons.inj parts
      have removed :=
        (List.mem_filter.mp (goneSublist.subset List.mem_cons_self)).1
      exact sweepFrom_removed_dead keyOf dead _ _ _ earlier removed

/-- A sweep removes every dead item if and only if under every key the dead
items come first, and every dead item is within reach. -/
theorem sweep_complete_iff (table : List alpha) :
    (∀ item ∈ (sweep keyOf dead table).1, dead item = false) ↔
      DeadFirst keyOf dead table ∧ DeadInReach dead table := by
  have swept := sweepFrom_complete_iff keyOf dead [] table
  simp only [List.nil_append, List.filter_nil, List.length_nil,
    List.countP_nil, Nat.add_zero] at swept
  constructor
  · intro complete
    have deadFirst := deadFirst_of_complete keyOf dead complete
    exact ⟨deadFirst, (swept deadFirst).mp complete⟩
  · rintro ⟨deadFirst, inReach⟩
    exact (swept deadFirst).mpr inReach

section Renamed

variable {beta lambda : Type*} [BEq lambda] [LawfulBEq lambda]
  (newKeyOf : beta → lambda) (newDead : beta → Bool)
  (rename : alpha → beta)

/-- Renaming both parts of a split table. -/
def renameBoth (parts : List alpha × List alpha) : List beta × List beta :=
  (parts.1.map rename, parts.2.map rename)

theorem probe_rename
    {key : kappa} {newKey : lambda} {table : List alpha}
    (sameMatches : ∀ item ∈ table,
      newKeyOf (rename item) = newKey ↔ keyOf item = key)
    (sameDead : ∀ item ∈ table, newDead (rename item) = dead item) :
    probe newKeyOf newDead newKey (table.map rename) =
      renameBoth rename (probe keyOf dead key table) := by
  rcases exists_first_or_absent keyOf key table with
    absent | ⟨before, item, after, split, earlier, matched⟩
  · have newAbsent : ∀ newItem ∈ table.map rename,
        newKeyOf newItem ≠ newKey := by
      intro newItem member
      obtain ⟨item, itemMember, rfl⟩ := List.mem_map.mp member
      exact mt (sameMatches item itemMember).mp (absent item itemMember)
    rw [probe_of_absent keyOf dead absent,
      probe_of_absent newKeyOf newDead newAbsent]
    rfl
  · subst split
    have here := (sameMatches item (by simp)).mpr matched
    have newEarlier : ∀ newItem ∈ before.map rename,
        newKeyOf newItem ≠ newKey := by
      intro newItem member
      obtain ⟨other, otherMember, rfl⟩ := List.mem_map.mp member
      exact mt (sameMatches other (List.mem_append_left _ otherMember)).mp
        (earlier other otherMember)
    rw [probe_of_first keyOf dead earlier matched, List.map_append,
      List.map_cons, probe_of_first newKeyOf newDead newEarlier here,
      sameDead item (by simp)]
    split_ifs
    · rw [renameBoth, List.map_append]
      rfl
    · rw [renameBoth, List.map_append]
      rfl

theorem sweepFrom_rename
    (items : List alpha) (i : Nat) (table : List alpha)
    (sameMatches : ∀ item ∈ table, ∀ other ∈ items,
      newKeyOf (rename item) = newKeyOf (rename other) ↔
        keyOf item = keyOf other)
    (sameDead : ∀ item ∈ table, newDead (rename item) = dead item) :
    sweepFrom newKeyOf newDead ((items.map rename).map newKeyOf) i
        (table.map rename) =
      renameBoth rename
        (sweepFrom keyOf dead (items.map keyOf) i table) := by
  induction items generalizing i table with
  | nil =>
      rfl
  | cons head items inductionHypothesis =>
      rw [List.map_cons, List.map_cons, List.map_cons, sweepFrom, sweepFrom,
        List.length_map]
      split_ifs with inside
      · have probed := probe_rename keyOf dead newKeyOf newDead rename
          (fun item member => sameMatches item member head (by simp))
          sameDead
        have stays := (probe_sublist keyOf dead (keyOf head) table).subset
        have swept := inductionHypothesis (i + 1)
          (probe keyOf dead (keyOf head) table).1
          (fun item member other otherMember =>
            sameMatches item (stays member) other
              (List.mem_cons_of_mem head otherMember))
          fun item member => sameDead item (stays member)
        rw [probed]
        dsimp only [renameBoth] at swept ⊢
        rw [swept, List.map_append]
      · rfl

/-- A sweep does not depend on what the keys are, only on which items share
one. -/
theorem sweep_rename
    (table : List alpha)
    (sameMatches : ∀ item ∈ table, ∀ other ∈ table,
      newKeyOf (rename item) = newKeyOf (rename other) ↔
        keyOf item = keyOf other)
    (sameDead : ∀ item ∈ table, newDead (rename item) = dead item) :
    sweep newKeyOf newDead (table.map rename) =
      renameBoth rename (sweep keyOf dead table) :=
  sweepFrom_rename keyOf dead newKeyOf newDead rename table 0 table
    sameMatches sameDead

end Renamed

end KeySweep
