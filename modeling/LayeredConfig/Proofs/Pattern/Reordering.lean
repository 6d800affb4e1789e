/-
**The order of writes does not show.**

The branches of a node stand in strict order of their labels, so a trie has one form: it is known by
which paths have a node and by the values that they have (`eq_of_contents`). Both are said
without the order of what was done:

* `after_eq_after_iff`: which histories make the same trie;
* `after_reordered`: one history in two orders does, if no path is given two values;
* `ofWrites_reordered`: so writes to different paths make the same trie in any order, and every text and
  answer of it is the same.
-/

import LayeredConfig.Pattern.TrieText
import LayeredConfig.Proofs.Pattern.History
import Mathlib.Data.List.Sort

namespace LayeredConfig.Pattern.Trie

variable {Value : Type}

/-! ## Part 1 — a trie is its nodes and values -/

section Branches

variable {branches others : List (Segment × Trie Value)}

theorem lookup_eq_some_iff_mem
    (strict : branches.Pairwise fun first second => first.1.place < second.1.place)
    {segment : Segment} {child : Trie Value} :
    branches.lookup segment = some child ↔ (segment, child) ∈ branches := by
  rw [List.lookup_eq_some_iff]
  constructor
  · rintro ⟨before, behind, rfl, -⟩
    simp
  · intro member
    obtain ⟨before, behind, rfl⟩ := List.append_of_mem member
    refine ⟨before, behind, rfl, fun earlier inFront => ?_⟩
    have smaller := (List.pairwise_append.mp strict).2.2 earlier inFront _ List.mem_cons_self
    rw [bne_iff_ne]
    rintro rfl
    exact lt_irrefl _ smaller

/-- Branches in strict order are known by the node of each segment. -/
theorem eq_of_lookup_eq
    (strict : branches.Pairwise fun first second => first.1.place < second.1.place)
    (strictOthers : others.Pairwise fun first second => first.1.place < second.1.place)
    (same : ∀ segment, branches.lookup segment = others.lookup segment) : branches = others := by
  let earlier : Segment × Trie Value → Segment × Trie Value → Prop :=
    fun first second => first.1.place < second.1.place
  have : Std.Irrefl earlier := ⟨fun _ => lt_irrefl _⟩
  have : Std.Antisymm earlier := ⟨fun _ _ before behind => absurd before (lt_asymm behind)⟩
  apply List.Pairwise.eq_of_mem_iff (r := earlier) strict strictOthers
  rintro ⟨segment, child⟩
  rw [← lookup_eq_some_iff_mem strict, ← lookup_eq_some_iff_mem strictOthers, same]

end Branches

/-- **A trie is known by its nodes and values.** -/
theorem eq_of_contents {first second : Trie Value} (one : first.Labelled)
    (other : second.Labelled)
    (nodes : ∀ path, (first.descend? path).isSome ↔ (second.descend? path).isSome)
    (values : ∀ path, first.valueAt path = second.valueAt path) : first = second := by
  induction one generalizing second with
  | @node value branches strict _ _ hypothesis =>
    obtain @⟨otherValue, others, strictOthers, _, childrenOthers⟩ := other
    have sameValue : value = otherValue := values []
    have sameBranches : branches = others := by
      apply eq_of_lookup_eq strict strictOthers
      intro segment
      -- The nodes and values below a branch are those of the paths that begin with its segment.
      have below : ∀ rest, ((branches.lookup segment).bind (descend? rest)).isSome
          ↔ ((others.lookup segment).bind (descend? rest)).isSome :=
        fun rest => nodes (segment :: rest)
      have within : ∀ rest, ((branches.lookup segment).getD empty).valueAt rest
          = ((others.lookup segment).getD empty).valueAt rest := by
        intro rest
        have same := values (segment :: rest)
        rwa [valueAt, valueAt, nodeAt_cons, nodeAt_cons] at same
      have present : (branches.lookup segment).isSome ↔ (others.lookup segment).isSome := by
        simpa [descend?] using below []
      cases found : branches.lookup segment <;> cases there : others.lookup segment
      case none.none => rfl
      case none.some node => simp [found, there] at present
      case some.none child => simp [found, there] at present
      case some.some child node =>
        rw [found, there] at below within
        have member := (lookup_eq_some_iff_mem strict).mp found
        have memberOthers := (lookup_eq_some_iff_mem strictOthers).mp there
        exact congrArg some (hypothesis _ member (childrenOthers _ memberOthers) below within)
    rw [sameValue, sameBranches]

/-! ## Part 2 — histories that make the same trie -/

/-- **Histories make the same trie exactly if** they act on paths with the same beginnings and put the
same last value at each path. -/
theorem after_eq_after_iff (first second : List (Operation Value)) :
    after first = after second
      ↔ (∀ path, (path = [] ∨ ∃ operation ∈ first, path <+: operation.path)
          ↔ (path = [] ∨ ∃ operation ∈ second, path <+: operation.path))
        ∧ ∀ path, lastPut path first = lastPut path second := by
  constructor
  · intro same
    constructor
    · intro path
      rw [← isSome_descend?_after, ← isSome_descend?_after, same]
    · intro path
      rw [← valueAt_after, ← valueAt_after, same]
  · rintro ⟨beginnings, puts⟩
    apply eq_of_contents (labelled_after first) (labelled_after second)
    · intro path
      rw [isSome_descend?_after, isSome_descend?_after, beginnings]
    · intro path
      rw [valueAt_after, valueAt_after, puts]

/-- The path at which an operation puts a value, if it puts one. -/
def Operation.putPath? : Operation Value → Option Path
  | .add _ => none
  | .put addresses _ => some (pathOf addresses)

/-- The paths at which values are put, one for each time. -/
def putPaths (history : List (Operation Value)) : List Path :=
  history.filterMap Operation.putPath?

theorem length_filterMap_valueFor? (path : Path) (history : List (Operation Value)) :
    (history.filterMap (Operation.valueFor? path)).length = (putPaths history).count path := by
  unfold putPaths
  induction history with
  | nil => rfl
  | cons operation history hypothesis =>
    cases operation with
    | add addresses =>
      rw [List.filterMap_cons_none rfl, List.filterMap_cons_none rfl]
      exact hypothesis
    | put addresses new =>
      by_cases same : pathOf addresses = path <;>
        simpa [Operation.valueFor?, Operation.putPath?, same] using hypothesis

theorem lastPut_reordered {first second : List (Operation Value)} (reordered : first.Perm second)
    (distinct : (putPaths first).Nodup) (path : Path) : lastPut path first = lastPut path second := by
  have values := reordered.filterMap (Operation.valueFor? path)
  have few : (first.filterMap (Operation.valueFor? path)).length ≤ 1 := by
    rw [length_filterMap_valueFor?]
    exact List.nodup_iff_count_le_one.mp distinct path
  unfold lastPut
  -- There is at most one value, and a single value has one order.
  match first.filterMap (Operation.valueFor? path), values, few with
  | [], values, _ => rw [values.nil_eq]
  | [value], values, _ => rw [List.perm_singleton.mp values.symm]
  | _ :: _ :: _, _, few => simp at few

/-- **One history in two orders makes the same trie**, if no path is given two values. -/
theorem after_reordered {first second : List (Operation Value)} (reordered : first.Perm second)
    (distinct : (putPaths first).Nodup) : after first = after second := by
  rw [after_eq_after_iff]
  constructor
  · intro path
    simp only [reordered.mem_iff]
  · exact lastPut_reordered reordered distinct

/-! ## Part 3 — writes -/

/-- A write as an operation. -/
def write (entry : String × Value) : Operation Value := .put [.name entry.1] entry.2

theorem after_map_write (writes : List (String × Value)) :
    after (writes.map write) = ofWrites writes := by
  have step : ∀ (trie : Trie Value) (entry : String × Value),
      (perform (write entry) trie).2 = (put (Path.parse entry.1) entry.2 trie).2 := fun _ _ => rfl
  simp only [after, List.foldl_map, step]
  rfl

theorem putPaths_map_write (writes : List (String × Value)) :
    putPaths (writes.map write) = writtenPaths writes := by
  have paths : ∀ entry : String × Value, (write entry).putPath? = some (Path.parse entry.1) := by
    simp [write, Operation.putPath?]
  simp [putPaths, writtenPaths, List.filterMap_map, paths]

theorem ofWrites_eq_of_perm {first second : List (String × Value)} (reordered : first.Perm second)
    (distinct : (writtenPaths first).Nodup) : ofWrites first = ofWrites second := by
  rw [← putPaths_map_write] at distinct
  rw [← after_map_write, ← after_map_write]
  exact after_reordered (reordered.map write) distinct

/-- **Writes to different paths make the same trie in any order**, so no text and no answer shows the
order. -/
theorem ofWrites_reordered :
    (∀ (Value : Type) (first second : List (String × Value)),
      first.Perm second → (writtenPaths first).Nodup →
      ofWrites first = ofWrites second
      ∧ (∀ name, (ofWrites first).descend? (Path.parse name)
        = (ofWrites second).descend? (Path.parse name))
      ∧ ∀ name, (ofWrites first).lookup (Path.parse name)
        = (ofWrites second).lookup (Path.parse name))
    ∧ ∀ first second : List (String × String),
      first.Perm second → (writtenPaths first).Nodup →
      (ofWrites first).display = (ofWrites second).display
      ∧ (ofWrites first).debug = (ofWrites second).debug := by
  constructor
  · intro Value first second reordered distinct
    rw [ofWrites_eq_of_perm reordered distinct]
    exact ⟨rfl, fun _ => rfl, fun _ => rfl⟩
  · intro first second reordered distinct
    rw [ofWrites_eq_of_perm reordered distinct]
    exact ⟨rfl, rfl⟩

/-- Writes that share the beginnings of their paths, the root and wildcards among them. -/
def sampleWrites : List (String × String) :=
  [("a.b", "1"), ("a", "2"), ("a[3].b", "3"), ("", "4"), ("a.*", "5"), ("a[*]", "6")]

theorem ofWrites_reordered_sample :
    sampleWrites.Perm sampleWrites.reverse ∧ (writtenPaths sampleWrites).Nodup
    ∧ ofWrites sampleWrites = ofWrites sampleWrites.reverse
    ∧ (ofWrites sampleWrites).display = (ofWrites sampleWrites.reverse).display := by
  have reordered : sampleWrites.Perm sampleWrites.reverse := (List.reverse_perm _).symm
  have distinct : (writtenPaths sampleWrites).Nodup := by decide +kernel
  obtain ⟨anyValues, texts⟩ := ofWrites_reordered
  have same := (anyValues _ _ _ reordered distinct).1
  exact ⟨reordered, distinct, same, (texts _ _ reordered distinct).1⟩

end LayeredConfig.Pattern.Trie
