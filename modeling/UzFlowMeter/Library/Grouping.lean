import Mathlib.Algebra.BigOperators.Group.List.Basic
import Mathlib.Data.List.Induction
import Mathlib.Data.List.SplitBy

/-!
# Grouping a list as it arrives

A list is cut into groups one item at a time: an item joins the last group
or begins a new one.  `List.splitBy` is the case in which only the last item
of the last group decides.  `longTotal` sums a measure over the groups of a
least length, as an accumulator sees them.
-/

namespace Grouping

variable {alpha beta : Type*}

/-- Put an item into the last group if it joins that group, and into a new
one otherwise. -/
def extend (joins : List alpha → alpha → Bool)
    (groups : List (List alpha)) (item : alpha) : List (List alpha) :=
  match groups.getLast? with
  | none => [[item]]
  | some group =>
      if joins group item then groups.dropLast ++ [group ++ [item]]
      else groups ++ [[item]]

@[simp]
theorem extend_nil (joins : List alpha → alpha → Bool) (item : alpha) :
    extend joins [] item = [[item]] := rfl

theorem extend_concat (joins : List alpha → alpha → Bool)
    (earlier : List (List alpha)) (group : List alpha) (item : alpha) :
    extend joins (earlier ++ [group]) item =
      if joins group item then earlier ++ [group ++ [item]]
      else earlier ++ [group] ++ [[item]] := by
  simp [extend]

/-- Only the last group is asked whether the item joins it. -/
theorem extend_congr
    {joins otherJoins : List alpha → alpha → Bool}
    {groups : List (List alpha)} {item : alpha}
    (same : ∀ group, groups.getLast? = some group →
      joins group item = otherJoins group item) :
    extend joins groups item = extend otherJoins groups item := by
  rcases List.eq_nil_or_concat' groups with rfl | ⟨earlier, group, rfl⟩
  · rfl
  · rw [extend_concat, extend_concat, same group (by simp)]

/-- A property of groups that are begun and extended with the item. -/
theorem extend_forall
    {joins : List alpha → alpha → Bool} {groups : List (List alpha)}
    {item : alpha} {property : List alpha → Prop}
    (old : ∀ group ∈ groups, property group)
    (begun : property [item])
    (extended : ∀ group ∈ groups, joins group item →
      property (group ++ [item])) :
    ∀ group ∈ extend joins groups item, property group := by
  rcases List.eq_nil_or_concat' groups with rfl | ⟨earlier, last, rfl⟩
  · intro group member
    rw [List.mem_singleton.mp member]
    exact begun
  · intro group member
    rw [extend_concat] at member
    split_ifs at member with joined
    · rcases List.mem_append.mp member with inEarlier | isLast
      · exact old group (List.mem_append_left _ inEarlier)
      · rw [List.mem_singleton.mp isLast]
        exact extended last (by simp) joined
    · rcases List.mem_append.mp member with inGroups | isNew
      · exact old group inGroups
      · rw [List.mem_singleton.mp isNew]
        exact begun

/-- The last group was begun or extended with the item. -/
theorem extend_getLast
    {joins : List alpha → alpha → Bool} {groups : List (List alpha)}
    {item : alpha} {property : List alpha → Prop}
    (begun : property [item])
    (extended : ∀ group ∈ groups, joins group item →
      property (group ++ [item])) :
    ∀ group, (extend joins groups item).getLast? = some group →
      property group := by
  rcases List.eq_nil_or_concat' groups with rfl | ⟨earlier, last, rfl⟩
  · intro group isLast
    rw [← Option.some.inj isLast]
    exact begun
  · intro group isLast
    rw [extend_concat] at isLast
    split_ifs at isLast with joined
    · rw [List.getLast?_concat] at isLast
      rw [← Option.some.inj isLast]
      exact extended last (by simp) joined
    · rw [List.getLast?_concat] at isLast
      rw [← Option.some.inj isLast]
      exact begun

/-- The item is related to the last item of the group. -/
def joinsLast (related : alpha → alpha → Bool) (group : List alpha)
    (item : alpha) : Bool :=
  group.getLast?.any fun last => related last item

@[simp]
theorem joinsLast_concat (related : alpha → alpha → Bool)
    (group : List alpha) (last item : alpha) :
    joinsLast related (group ++ [last]) item = related last item := by
  simp [joinsLast]

/-- The last group of a nonempty list ends with the last item. -/
theorem splitBy_eq_concat (related : alpha → alpha → Bool)
    (items : List alpha) (last : alpha) :
    ∃ earlier group,
      (items ++ [last]).splitBy related = earlier ++ [group ++ [last]] := by
  have flattened := List.flatten_splitBy related (items ++ [last])
  have noneEmpty := List.nil_notMem_splitBy related (items ++ [last])
  rcases List.eq_nil_or_concat' ((items ++ [last]).splitBy related) with
    none | ⟨earlier, full, split⟩
  · rw [none] at flattened
    simp at flattened
  · rw [split] at flattened noneEmpty
    rcases List.eq_nil_or_concat' full with rfl | ⟨group, final, rfl⟩
    · simp at noneEmpty
    · have sameLast : final = last := by
        rw [List.flatten_append, List.flatten_singleton,
          ← List.append_assoc] at flattened
        simpa using (List.append_inj' flattened rfl).2
      rw [split, sameLast]
      exact ⟨earlier, group, rfl⟩

/-- `splitBy` groups the items as they arrive. -/
theorem splitBy_concat (related : alpha → alpha → Bool)
    (items : List alpha) (item : alpha) :
    (items ++ [item]).splitBy related =
      extend (joinsLast related) (items.splitBy related) item := by
  rcases List.eq_nil_or_concat' items with rfl | ⟨before, last, rfl⟩
  · rfl
  · obtain ⟨earlier, group, split⟩ := splitBy_eq_concat related before last
    rw [split, extend_concat, joinsLast_concat]
    by_cases joined : related last item = true
    · obtain ⟨flattened, noneEmpty, chains, cuts⟩ :=
        List.splitBy_eq_iff.mp split
      rw [if_pos joined, List.splitBy_eq_iff]
      refine ⟨?_, ?_, ?_, ?_⟩
      · rw [flattened]
        simp
      · simpa using noneEmpty
      · intro member isMember
        rcases List.mem_append.mp isMember with old | new
        · exact chains member (List.mem_append_left _ old)
        · rw [List.mem_singleton.mp new]
          have groupChain := chains (group ++ [last]) (by simp)
          rw [List.isChain_append]
          refine ⟨groupChain, List.isChain_singleton item, ?_⟩
          simpa using joined
      · rw [List.isChain_append] at cuts ⊢
        refine ⟨cuts.1, List.isChain_singleton _, ?_⟩
        intro left leftLast right rightHead
        obtain ⟨leftNonempty, rightNonempty, cut⟩ :=
          cuts.2.2 left leftLast (group ++ [last]) (by simp)
        have sameRight : right = group ++ [last] ++ [item] := by
          simpa using rightHead.symm
        subst sameRight
        refine ⟨leftNonempty, by simp, ?_⟩
        rwa [List.head_append_of_ne_nil rightNonempty]
    · rw [if_neg joined, ← split]
      apply List.splitBy_append_cons
      simpa using joined

/-! ## Cutting twice -/

/-- Cut the list where neighbours are not related by `outer`, and every
piece again where they are not related by `inner`. -/
def splitTwice (outer inner : alpha → alpha → Bool)
    (items : List alpha) : List (List alpha) :=
  (items.splitBy outer).flatMap fun piece => piece.splitBy inner

@[simp]
theorem splitTwice_nil (outer inner : alpha → alpha → Bool) :
    splitTwice outer inner [] = [] := rfl

/-- Cutting twice groups the items as they arrive, too. -/
theorem splitTwice_concat (outer inner : alpha → alpha → Bool)
    (items : List alpha) (item : alpha) :
    splitTwice outer inner (items ++ [item]) =
      extend (joinsLast fun last item => outer last item && inner last item)
        (splitTwice outer inner items) item := by
  rcases List.eq_nil_or_concat' items with rfl | ⟨before, last, rfl⟩
  · rfl
  · obtain ⟨pieces, piece, outerSplit⟩ :=
      splitBy_eq_concat outer before last
    obtain ⟨groups, group, innerSplit⟩ :=
      splitBy_eq_concat inner piece last
    have split :
        splitTwice outer inner (before ++ [last]) =
          (pieces.flatMap (fun piece => piece.splitBy inner) ++ groups) ++
            [group ++ [last]] := by
      simp [splitTwice, outerSplit, innerSplit]
    rw [split, extend_concat, joinsLast_concat, splitTwice, splitBy_concat,
      outerSplit, extend_concat, joinsLast_concat]
    by_cases sameOuter : outer last item = true
    · rw [if_pos sameOuter, List.flatMap_append, List.flatMap_singleton,
        splitBy_concat, innerSplit, extend_concat, joinsLast_concat]
      by_cases sameInner : inner last item = true
      · simp [sameOuter, sameInner]
      · simp [sameOuter, sameInner]
    · have apart : ¬ (outer last item && inner last item) = true := by
        simp [sameOuter]
      rw [if_neg sameOuter, if_neg apart, List.flatMap_append,
        List.flatMap_append, List.flatMap_singleton, innerSplit,
        List.flatMap_singleton, List.append_assoc _ groups]
      rfl

section Keyed

variable {kappa : Type*} [DecidableEq kappa] (key : alpha → kappa)
  (inner : alpha → alpha → Bool)

/-- The pieces of the items with a key, when the list is cut where the key
changes and again where neighbours are not related by `inner`. -/
def keyedPieces (wanted : kappa) (items : List alpha) :
    List (List alpha) :=
  (splitTwice (fun left right => decide (key left = key right)) inner
    items).filter fun piece => piece.all fun item => key item = wanted

@[simp]
theorem keyedPieces_nil (wanted : kappa) :
    keyedPieces key inner wanted [] = [] := rfl

/-- The last piece of a nonempty list ends with the last item, and has the
key of that item throughout. -/
theorem splitTwice_eq_concat (items : List alpha) (last : alpha) :
    ∃ earlier group,
      splitTwice (fun left right => decide (key left = key right)) inner
          (items ++ [last]) = earlier ++ [group ++ [last]] ∧
        ∀ item ∈ group, key item = key last := by
  induction items using List.reverseRecOn generalizing last with
  | nil =>
      exact ⟨[], [], rfl, by simp⟩
  | append_singleton items previous inductionHypothesis =>
      obtain ⟨earlier, group, split, sameKey⟩ :=
        inductionHypothesis previous
      rw [splitTwice_concat, split, extend_concat, joinsLast_concat]
      split_ifs with joined
      · rw [Bool.and_eq_true, decide_eq_true_eq] at joined
        refine ⟨earlier, group ++ [previous], rfl, ?_⟩
        intro item member
        rcases List.mem_append.mp member with inGroup | isPrevious
        · rw [sameKey item inGroup, joined.1]
        · rw [List.mem_singleton.mp isPrevious, joined.1]
      · exact ⟨_, [], rfl, by simp⟩

/-- An item with another key leaves the pieces of a key as they are. -/
theorem keyedPieces_concat_other
    {wanted : kappa} {item : alpha} (other : key item ≠ wanted)
    (items : List alpha) :
    keyedPieces key inner wanted (items ++ [item]) =
      keyedPieces key inner wanted items := by
  rcases List.eq_nil_or_concat' items with rfl | ⟨before, last, rfl⟩
  · rw [keyedPieces, keyedPieces, splitTwice_concat]
    simp [other]
  · obtain ⟨earlier, group, split, -⟩ :=
      splitTwice_eq_concat key inner before last
    rw [keyedPieces, keyedPieces, splitTwice_concat, split, extend_concat,
      joinsLast_concat]
    split_ifs with joined
    · rw [Bool.and_eq_true, decide_eq_true_eq] at joined
      have lastOther : key last ≠ wanted := by
        rw [joined.1]
        exact other
      simp [List.filter_append, other, lastOther]
    · rw [List.filter_append _ [[item]]]
      simp [other]

/-- An item with the key joins the last piece of that key if it comes right
after an item of the key to which it is related. -/
theorem keyedPieces_concat_own
    {wanted : kappa} {item : alpha} (own : key item = wanted)
    (items : List alpha) :
    keyedPieces key inner wanted (items ++ [item]) =
      extend
        (fun group next =>
          items.getLast?.any (fun last => key last = wanted) &&
            joinsLast inner group next)
        (keyedPieces key inner wanted items) item := by
  rcases List.eq_nil_or_concat' items with rfl | ⟨before, last, rfl⟩
  · rw [keyedPieces, keyedPieces, splitTwice_concat]
    simp [own]
  · obtain ⟨earlier, group, split, sameKey⟩ :=
      splitTwice_eq_concat key inner before last
    rw [keyedPieces, keyedPieces, splitTwice_concat, split, extend_concat,
      joinsLast_concat, own]
    by_cases lastOwn : key last = wanted
    · have lastJoins : (before ++ [last]).getLast?.any
          (fun last => decide (key last = wanted)) = true := by
        simp [lastOwn]
      have kept : (group ++ [last]).all
          (fun member => decide (key member = wanted)) = true := by
        rw [List.all_eq_true]
        intro member inPiece
        apply decide_eq_true
        rcases List.mem_append.mp inPiece with inGroup | isLast
        · rw [sameKey member inGroup, lastOwn]
        · rw [List.mem_singleton.mp isLast, lastOwn]
      have grown : (group ++ [last] ++ [item]).all
          (fun member => decide (key member = wanted)) = true := by
        rw [List.all_append, kept]
        simp [own]
      rw [List.filter_append _ [group ++ [last]], List.filter_singleton,
        kept, cond_true, extend_concat, lastJoins, joinsLast_concat,
        lastOwn, decide_eq_true rfl, Bool.true_and]
      by_cases related : inner last item = true
      · rw [if_pos related, if_pos related, List.filter_append,
          List.filter_singleton, grown, cond_true]
      · rw [if_neg related, if_neg related, List.filter_append,
          List.filter_append, List.filter_singleton, kept, cond_true,
          List.filter_singleton]
        simp [own]
    · have extended :
          (extend (fun group next =>
            (before ++ [last]).getLast?.any
                (fun last => decide (key last = wanted)) &&
              joinsLast inner group next)
            ((earlier ++ [group ++ [last]]).filter fun piece =>
              piece.all fun item => decide (key item = wanted)) item) =
            ((earlier ++ [group ++ [last]]).filter fun piece =>
              piece.all fun item => decide (key item = wanted)) ++
                [[item]] := by
        generalize (earlier ++ [group ++ [last]]).filter _ = pieces
        rcases List.eq_nil_or_concat' pieces with rfl | ⟨init, final, rfl⟩
        · rfl
        · rw [extend_concat]
          simp [lastOwn]
      rw [extended]
      simp [lastOwn, own, List.filter_append]

end Keyed

variable [AddMonoid beta]

/-- The sum of a measure over the groups with at least `bound` items. -/
def longTotal (bound : Nat) (measure : List alpha → beta)
    (groups : List (List alpha)) : beta :=
  ((groups.filter fun group => decide (bound ≤ group.length)).map
    measure).sum

@[simp]
theorem longTotal_nil (bound : Nat) (measure : List alpha → beta) :
    longTotal bound measure [] = 0 := rfl

theorem longTotal_concat (bound : Nat) (measure : List alpha → beta)
    (groups : List (List alpha)) (group : List alpha) :
    longTotal bound measure (groups ++ [group]) =
      longTotal bound measure groups +
        if bound ≤ group.length then measure group else 0 := by
  by_cases long : bound ≤ group.length
  · simp [longTotal, long]
  · simp [longTotal, long]

end Grouping
