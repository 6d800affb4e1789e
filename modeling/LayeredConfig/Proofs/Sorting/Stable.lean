/-
**Stable sorting by a rank, the highest first.**

Items of one rank keep their order (`filter_byRank`), and a list that stands in order is known when
its items of every rank are (`eq_of_filter_eq`). Together this says what sorting gives:

* `byRank_eq`: a list in order with the items of every rank as they were is the sorted one;
* `byRank_append_cons`: the first item of the sorted list.
-/

import Mathlib.Data.List.Sort

namespace LayeredConfig.Sorting

variable {Item Rank : Type} [LinearOrder Rank] (rank : Item → Rank)

/-- A list in which no item stands before one of higher rank. -/
def Descending (items : List Item) : Prop :=
  items.Pairwise fun first second => rank second ≤ rank first

theorem descending_of_level {items : List Item} {level : Rank}
    (levelled : ∀ item ∈ items, rank item = level) : Descending rank items := by
  refine List.pairwise_of_forall_mem_list fun first inFirst second inSecond => ?_
  rw [levelled first inFirst, levelled second inSecond]

theorem atLeast_trans (first second third : Item)
    (one : decide (rank second ≤ rank first) = true)
    (two : decide (rank third ≤ rank second) = true) : decide (rank third ≤ rank first) = true := by
  rw [decide_eq_true_eq] at one two ⊢
  exact two.trans one

theorem atLeast_total (first second : Item) :
    (decide (rank second ≤ rank first) || decide (rank first ≤ rank second)) = true := by
  rw [Bool.or_eq_true, decide_eq_true_eq, decide_eq_true_eq]
  exact le_total _ _

/-- The items in the order of their ranks, the highest first. -/
def byRank (items : List Item) : List Item :=
  items.mergeSort fun first second => rank second ≤ rank first

theorem descending_byRank (items : List Item) : Descending rank (byRank rank items) :=
  (List.pairwise_mergeSort (atLeast_trans rank) (atLeast_total rank) items).imp
    fun ordered => of_decide_eq_true ordered

/-- Items of one rank keep their order. -/
theorem filter_byRank (items : List Item) (level : Rank) :
    (byRank rank items).filter (rank · = level) = items.filter (rank · = level) := by
  have levelled : ∀ item ∈ items.filter (rank · = level), rank item = level := fun item member =>
    of_decide_eq_true (List.mem_filter.mp member).2
  have even : (items.filter (rank · = level)).Pairwise
      fun first second => decide (rank second ≤ rank first) = true :=
    (descending_of_level rank levelled).imp fun ordered => decide_eq_true ordered
  have inside : (items.filter (rank · = level)).Sublist (byRank rank items) :=
    List.sublist_mergeSort (atLeast_trans rank) (atLeast_total rank) even List.filter_sublist
  have kept := inside.filter (rank · = level)
  rw [List.filter_filter] at kept
  simp only [Bool.and_self] at kept
  refine (kept.eq_of_length ?_).symm
  exact (((List.mergeSort_perm items _).filter _).length_eq).symm

/-- A list in order is known by its items of every rank. -/
theorem eq_of_filter_eq {first second : List Item} (one : Descending rank first)
    (two : Descending rank second)
    (same : ∀ level, first.filter (rank · = level) = second.filter (rank · = level)) :
    first = second := by
  induction first generalizing second with
  | nil =>
    cases second with
    | nil => rfl
    | cons item rest => exact absurd (same (rank item)) (by simp)
  | cons item rest hypothesis =>
    cases second with
    | nil => exact absurd (same (rank item)) (by simp)
    | cons other more =>
      obtain ⟨above, rest'⟩ := List.pairwise_cons.mp one
      obtain ⟨beyond, more'⟩ := List.pairwise_cons.mp two
      -- Each of the two first items is somewhere in the other list, so their ranks are equal.
      have inSecond : item ∈ other :: more := by
        have : item ∈ (other :: more).filter (rank · = rank item) := by
          rw [← same]
          simp
        exact (List.mem_filter.mp this).1
      have inFirst : other ∈ item :: rest := by
        have : other ∈ (item :: rest).filter (rank · = rank other) := by
          rw [same]
          simp
        exact (List.mem_filter.mp this).1
      have level : rank item = rank other := by
        apply le_antisymm
        · rcases List.mem_cons.mp inSecond with rfl | member
          · exact le_rfl
          · exact beyond item member
        · rcases List.mem_cons.mp inFirst with rfl | member
          · exact le_rfl
          · exact above other member
      have heads := same (rank item)
      rw [List.filter_cons_of_pos (by simp), List.filter_cons_of_pos (by simp [level])] at heads
      obtain ⟨rfl, _⟩ := List.cons.inj heads
      refine congrArg (item :: ·) (hypothesis rest' more' fun level => ?_)
      have both := same level
      by_cases here : rank item = level
      · rw [List.filter_cons_of_pos (by simp [here]), List.filter_cons_of_pos (by simp [here])]
          at both
        exact (List.cons.inj both).2
      · rwa [List.filter_cons_of_neg (by simp [here]), List.filter_cons_of_neg (by simp [here])]
          at both

/-- **The sorted list is the one list in order that keeps the items of every rank as they are.** -/
theorem byRank_eq {items sorted : List Item} (ordered : Descending rank sorted)
    (same : ∀ level, sorted.filter (rank · = level) = items.filter (rank · = level)) :
    byRank rank items = sorted :=
  eq_of_filter_eq rank (descending_byRank rank items) ordered fun level =>
    (filter_byRank rank items level).trans (same level).symm

/-- Items that are sorted already may be sorted again with others behind them. -/
theorem byRank_append_byRank (first second : List Item) :
    byRank rank (byRank rank first ++ second) = byRank rank (first ++ second) := by
  refine (byRank_eq rank (descending_byRank rank _) fun level => ?_).symm
  rw [filter_byRank, List.filter_append, filter_byRank, List.filter_append]

/-- The item of highest rank comes first, the earliest one if several share it. -/
theorem byRank_append_cons {before after : List Item} {best : Item}
    (lower : ∀ other ∈ before, rank other < rank best)
    (notHigher : ∀ other ∈ after, rank other ≤ rank best) :
    byRank rank (before ++ best :: after) = best :: byRank rank (before ++ after) := by
  refine byRank_eq rank (List.pairwise_cons.mpr ⟨fun other member => ?_, descending_byRank rank _⟩)
    fun level => ?_
  · rcases List.mem_append.mp (List.mem_mergeSort.mp member) with earlier | later
    · exact (lower other earlier).le
    · exact notHigher other later
  · rw [List.filter_cons, filter_byRank, List.filter_append, List.filter_append, List.filter_cons]
    by_cases here : rank best = level
    · -- No earlier item shares the rank, so this one was the first of its rank before.
      have none : before.filter (rank · = level) = [] := by
        refine List.filter_eq_nil_iff.mpr fun other member => ?_
        rw [decide_eq_true_eq, ← here]
        exact (lower other member).ne
      simp [here, none]
    · simp [here]

/-- Some of the items may be left out before or after. -/
theorem byRank_filter (items : List Item) (keep : Item → Bool) :
    byRank rank (items.filter keep) = (byRank rank items).filter keep := by
  refine byRank_eq rank ((descending_byRank rank items).filter keep) fun level => ?_
  rw [List.filter_comm, filter_byRank, List.filter_comm]

/-- What is made of items may be sorted by what their rank becomes. -/
theorem byRank_map {Source : Type} (make : Source → Item) (items : List Source) :
    byRank rank (items.map make) = (byRank (rank ∘ make) items).map make := by
  refine byRank_eq rank (List.pairwise_map.mpr (descending_byRank (rank ∘ make) items))
    fun level => ?_
  rw [List.filter_map, List.filter_map]
  exact congrArg (List.map make) (filter_byRank (rank ∘ make) items level)

end LayeredConfig.Sorting
