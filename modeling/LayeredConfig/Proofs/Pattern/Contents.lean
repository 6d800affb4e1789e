/-
**What a trie holds, path by path.**

The branches of every node stand in order (`Trie.Ordered`): the empty trie begins so, and growing
keeps it. For tries in order a write acts on the node of its path and on no other:

* `focus_self`: the action is asked once, at the node of the path, a missing one being empty, and
  what it leaves stands there afterwards;
* `valueAt_focus_of_ne`: every other path has the value that it had, if the action changes no value
  below its node;
* `valueAt_ofWrites`: after any writes into the empty trie, a path has its last value.
-/

import LayeredConfig.Pattern.Trie
import Mathlib.Data.List.Induction
import Mathlib.Data.Prod.Lex
import Mathlib.Data.String.Basic

namespace LayeredConfig.Pattern

/-! ## Part 1 — the order of branches -/

/-- What the order of branches compares. -/
def Segment.place (segment : Segment) : Nat ×ₗ String := toLex (segment.rank, segment.label)

theorem Segment.before_iff (first second : Segment) :
    first.before second ↔ first.place < second.place := by
  simp [before, place, Prod.Lex.toLex_lt_toLex]

namespace Trie

variable {Value Result : Type}

/-- The branches of a node in order. Different segments may have one label, so the order is not
strict. -/
def Ascending (branches : List (Segment × Trie Value)) : Prop :=
  branches.Pairwise fun first second => first.1.place ≤ second.1.place

/-- Every node has its branches in order. -/
inductive Ordered : Trie Value → Prop
  | node {value : Option Value} {branches : List (Segment × Trie Value)}
      (ascending : Ascending branches) (children : ∀ branch ∈ branches, Ordered branch.2) :
      Ordered (.node value branches)

theorem ordered_empty : Ordered (empty : Trie Value) :=
  .node .nil fun _ member => by cases member

/-- A segment that comes before all branches has none. -/
theorem lookup_eq_none_of_before {segment : Segment} {branches : List (Segment × Trie Value)}
    (before : ∀ branch ∈ branches, segment.place < branch.1.place) :
    branches.lookup segment = none := by
  rw [List.lookup_eq_none_iff]
  intro branch member
  rw [bne_iff_ne]
  rintro rfl
  exact lt_irrefl _ (before branch member)

/-! ## Part 2 — growing at one branch -/

section FocusBranch

variable {segment : Segment} {action : Trie Value → Result × Trie Value}
variable {branches : List (Segment × Trie Value)}

/-- The action is asked at the branch of the segment, and its answer stands there afterwards. -/
theorem focusBranch_self (ascending : Ascending branches) :
    (focusBranch segment action branches).1 = (action ((branches.lookup segment).getD empty)).1
      ∧ (focusBranch segment action branches).2.lookup segment
        = some (action ((branches.lookup segment).getD empty)).2 := by
  induction branches with
  | nil => simp [focusBranch]
  | cons branch rest hypothesis =>
    obtain ⟨key, child⟩ := branch
    obtain ⟨first, later⟩ := List.pairwise_cons.mp ascending
    unfold focusBranch
    by_cases same : key = segment
    · subst same
      simp
    · have different : (segment == key) = false := beq_eq_false_iff_ne.mpr (Ne.symm same)
      rw [if_neg same]
      by_cases earlier : segment.before key
      · -- A branch of the segment further on would break the order.
        have absent : List.lookup segment rest = none :=
          lookup_eq_none_of_before fun branch member =>
            lt_of_lt_of_le ((Segment.before_iff _ _).mp earlier) (first branch member)
        rw [if_pos earlier]
        simp [List.lookup_cons, different, absent]
      · rw [if_neg earlier]
        simpa [List.lookup_cons, different] using hypothesis later

theorem lookup_focusBranch_of_ne {other : Segment} (different : other ≠ segment) :
    (focusBranch segment action branches).2.lookup other = branches.lookup other := by
  have apart : (other == segment) = false := beq_eq_false_iff_ne.mpr different
  induction branches with
  | nil => simp [focusBranch, List.lookup_cons, apart]
  | cons branch rest hypothesis =>
    obtain ⟨key, child⟩ := branch
    unfold focusBranch
    by_cases same : key = segment
    · subst same
      simp [List.lookup_cons, apart]
    · rw [if_neg same]
      split
      · simp [List.lookup_cons, apart]
      · simp [List.lookup_cons, hypothesis]

/-- A branch is an old one, or it holds what the action made of an old or of an empty node. -/
theorem mem_focusBranch {branch : Segment × Trie Value}
    (member : branch ∈ (focusBranch segment action branches).2) :
    branch ∈ branches ∨ branch.1 = segment ∧
      ∃ node, (node = empty ∨ (segment, node) ∈ branches) ∧ branch.2 = (action node).2 := by
  induction branches with
  | nil =>
    cases List.mem_singleton.mp member
    exact .inr ⟨rfl, empty, .inl rfl, rfl⟩
  | cons first rest hypothesis =>
    obtain ⟨key, child⟩ := first
    unfold focusBranch at member
    by_cases same : key = segment
    · subst same
      rw [if_pos rfl] at member
      rcases List.mem_cons.mp member with rfl | member
      · exact .inr ⟨rfl, child, .inr List.mem_cons_self, rfl⟩
      · exact .inl (List.mem_cons_of_mem _ member)
    · rw [if_neg same] at member
      split at member
      · rcases List.mem_cons.mp member with rfl | member
        · exact .inr ⟨rfl, empty, .inl rfl, rfl⟩
        · exact .inl member
      · rcases List.mem_cons.mp member with rfl | member
        · exact .inl List.mem_cons_self
        · rcases hypothesis member with old | ⟨here, node, origin, changed⟩
          · exact .inl (List.mem_cons_of_mem _ old)
          · exact .inr ⟨here, node, origin.imp_right (List.mem_cons_of_mem _), changed⟩

theorem ascending_focusBranch (ascending : Ascending branches) :
    Ascending (focusBranch segment action branches).2 := by
  induction branches with
  | nil => exact List.pairwise_singleton _ _
  | cons branch rest hypothesis =>
    obtain ⟨key, child⟩ := branch
    obtain ⟨first, later⟩ := List.pairwise_cons.mp ascending
    unfold focusBranch
    by_cases same : key = segment
    · subst same
      rw [if_pos rfl]
      exact List.pairwise_cons.mpr ⟨first, later⟩
    · rw [if_neg same]
      by_cases earlier : segment.before key
      · have smaller := (Segment.before_iff _ _).mp earlier
        rw [if_pos earlier]
        refine List.pairwise_cons.mpr ⟨fun branch member => ?_, ascending⟩
        rcases List.mem_cons.mp member with rfl | member
        · exact smaller.le
        · exact smaller.le.trans (first branch member)
      · have behind : key.place ≤ segment.place :=
          not_lt.mp fun smaller => earlier ((Segment.before_iff _ _).mpr smaller)
        rw [if_neg earlier]
        refine List.pairwise_cons.mpr ⟨fun branch member => ?_, hypothesis later⟩
        rcases mem_focusBranch member with old | ⟨here, _⟩
        · exact first branch old
        · rw [here]
          exact behind

end FocusBranch

/-! ## Part 3 — growing at a path -/

/-- The node of a path, the empty one if it is missing. -/
def nodeAt (path : Path) (trie : Trie Value) : Trie Value := (trie.descend? path).getD empty

/-- The value that is kept at a path itself. -/
def valueAt (path : Path) (trie : Trie Value) : Option Value := (trie.nodeAt path).value

@[simp]
theorem nodeAt_nil (trie : Trie Value) : trie.nodeAt [] = trie := rfl

@[simp]
theorem nodeAt_empty (path : Path) : (empty : Trie Value).nodeAt path = empty := by
  cases path <;> rfl

theorem nodeAt_cons (segment : Segment) (rest : Path) (trie : Trie Value) :
    trie.nodeAt (segment :: rest) = ((trie.child? segment).getD empty).nodeAt rest := by
  show ((trie.child? segment).bind (descend? rest)).getD empty = _
  cases trie.child? segment with
  | none => exact (nodeAt_empty rest).symm
  | some child => rfl

theorem Ordered.child {value : Option Value} {branches : List (Segment × Trie Value)}
    (ordered : Ordered (.node value branches)) (segment : Segment) :
    Ordered ((branches.lookup segment).getD empty) := by
  cases found : branches.lookup segment with
  | none => exact ordered_empty
  | some child =>
    obtain ⟨_, children⟩ := ordered
    obtain ⟨before, after, rfl, _⟩ := List.lookup_eq_some_iff.mp found
    exact children (segment, child) (by simp)

section Focus

variable {action : Trie Value → Result × Trie Value}

/-- The action is asked at the node of the path, and its answer stands there afterwards. -/
theorem focus_self {path : Path} {trie : Trie Value} (ordered : trie.Ordered) :
    (focus path action trie).1 = (action (trie.nodeAt path)).1
      ∧ (focus path action trie).2.descend? path = some (action (trie.nodeAt path)).2 := by
  induction path generalizing trie with
  | nil => exact ⟨rfl, rfl⟩
  | cons segment rest hypothesis =>
    obtain ⟨value, branches⟩ := trie
    have child := ordered.child segment
    obtain ⟨ascending, _⟩ := ordered
    obtain ⟨answer, branch⟩ : (focusBranch segment (focus rest action) branches).1 = _ ∧ _ :=
      focusBranch_self ascending
    obtain ⟨deepAnswer, deepBranch⟩ := hypothesis child
    rw [nodeAt_cons]
    constructor
    · exact answer.trans deepAnswer
    · show ((focusBranch segment (focus rest action) branches).2.lookup segment).bind _ = _
      rw [branch]
      exact deepBranch

/-- A path that is not the one acted on keeps its value. -/
theorem valueAt_focus_of_ne {path other : Path} {trie : Trie Value} (ordered : trie.Ordered)
    (keeps : ∀ node segment rest,
      (action node).2.valueAt (segment :: rest) = node.valueAt (segment :: rest))
    (different : other ≠ path) : (focus path action trie).2.valueAt other = trie.valueAt other := by
  induction path generalizing other trie with
  | nil =>
    cases other with
    | nil => exact absurd rfl different
    | cons segment rest => exact keeps trie segment rest
  | cons segment rest hypothesis =>
    obtain ⟨value, branches⟩ := trie
    cases other with
    | nil => rfl
    | cons key more =>
      have child := ordered.child segment
      obtain ⟨ascending, _⟩ := ordered
      simp only [valueAt, nodeAt_cons]
      show ((((focusBranch segment (focus rest action) branches).2.lookup key).getD empty).nodeAt
        more).value = (((branches.lookup key).getD empty).nodeAt more).value
      by_cases same : key = segment
      · subst same
        rw [(focusBranch_self ascending).2]
        exact hypothesis child fun equal => different (by rw [equal])
      · rw [lookup_focusBranch_of_ne same]

theorem ordered_focus (keeps : ∀ node : Trie Value, node.Ordered → (action node).2.Ordered)
    (path : Path) {trie : Trie Value} (ordered : trie.Ordered) :
    (focus path action trie).2.Ordered := by
  induction path generalizing trie with
  | nil => exact keeps trie ordered
  | cons segment rest hypothesis =>
    obtain ⟨ascending, children⟩ := ordered
    refine .node (ascending_focusBranch ascending) fun branch member => ?_
    rcases mem_focusBranch member with old | ⟨_, node, origin, changed⟩
    · exact children branch old
    · rw [changed]
      rcases origin with rfl | old
      · exact hypothesis ordered_empty
      · exact hypothesis (children _ old)

end Focus

/-! ## Part 4 — writing -/

theorem ordered_put (path : Path) (new : Value) {trie : Trie Value} (ordered : trie.Ordered) :
    (put path new trie).2.Ordered := by
  refine ordered_focus (fun node ordered => ?_) path ordered
  obtain ⟨ascending, children⟩ := ordered
  exact .node ascending children

theorem value_swapValue (new : Value) (node : Trie Value) : (swapValue new node).2.value = some new := by
  cases node
  rfl

theorem valueAt_put_self (path : Path) (new : Value) {trie : Trie Value} (ordered : trie.Ordered) :
    (put path new trie).2.valueAt path = some new := by
  show ((descend? path (focus path (swapValue new) trie).2).getD empty).value = some new
  rw [(focus_self ordered).2]
  exact value_swapValue new _

theorem valueAt_put_of_ne {path other : Path} (new : Value) {trie : Trie Value}
    (ordered : trie.Ordered) (different : other ≠ path) :
    (put path new trie).2.valueAt other = trie.valueAt other := by
  refine valueAt_focus_of_ne ordered (fun node segment rest => ?_) different
  cases node
  rfl

/-- The empty trie after some writes, each to the path of a name. -/
def ofWrites (writes : List (String × Value)) : Trie Value :=
  writes.foldl (fun trie write => (put (Path.parse write.1) write.2 trie).2) empty

/-- The value of the last write to a path. -/
def lastWritten (path : Path) (writes : List (String × Value)) : Option Value :=
  (writes.reverse.find? fun write => Path.parse write.1 = path).map Prod.snd

theorem ofWrites_append_singleton (writes : List (String × Value)) (write : String × Value) :
    ofWrites (writes ++ [write]) = (put (Path.parse write.1) write.2 (ofWrites writes)).2 := by
  simp [ofWrites]

theorem ordered_ofWrites (writes : List (String × Value)) : (ofWrites writes).Ordered := by
  induction writes using List.reverseRecOn with
  | nil => exact ordered_empty
  | append_singleton earlier write hypothesis =>
    rw [ofWrites_append_singleton]
    exact ordered_put _ _ hypothesis

/-- **A path holds what was last written to it.** -/
theorem valueAt_ofWrites (path : Path) (writes : List (String × Value)) :
    (ofWrites writes).valueAt path = lastWritten path writes := by
  induction writes using List.reverseRecOn with
  | nil => exact congrArg value (nodeAt_empty path)
  | append_singleton earlier write hypothesis =>
    have ordered := ordered_ofWrites earlier
    rw [ofWrites_append_singleton]
    by_cases same : Path.parse write.1 = path
    · subst same
      rw [valueAt_put_self _ _ ordered]
      simp [lastWritten]
    · rw [valueAt_put_of_ne _ ordered (Ne.symm same), hypothesis]
      simp [lastWritten, same]

theorem lastWritten_eq_none_iff (path : Path) (writes : List (String × Value)) :
    lastWritten path writes = none ↔ ∀ write ∈ writes, Path.parse write.1 ≠ path := by
  simp [lastWritten]

end Trie

end LayeredConfig.Pattern
