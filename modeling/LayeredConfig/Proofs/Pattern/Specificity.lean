/-
**A query finds the most specific pattern.**

A pattern meets a query of the same length if at every position it has the segment of the query or
the wildcard for it (`Path.Meets`). Of two such patterns the more specific one has the segment of
the query at the first position where they differ (`Path.Prefers`). A query walks a trie with
backtracking; what it finds is said here without the walk:

* `mem_variants_iff`, `pairwise_variants`: the paths that a query may end at are the patterns that
  meet it, the more specific first;
* `lookup_eq_findSome?_variants`: a query finds the first value among them;
* `lookup_ofWrites`: after any writes into the empty trie a query finds nothing if no pattern meets
  it, and else the last value of the most specific one that does.
-/

import LayeredConfig.Proofs.Pattern.Contents
import Mathlib.Data.List.Forall2

namespace LayeredConfig.Pattern

/-! ## Part 1 — patterns that meet a query -/

/-- A segment of a pattern meets the same segment of a query, a wildcard the literals or the
indices too. -/
inductive Segment.Meets : (query pattern : Segment) → Prop
  | same (segment : Segment) : Meets segment segment
  | any (name : String) : Meets (.literal name) .any
  | anyIndex (digits : String) : Meets (.index digits) .anyIndex

/-- A pattern meets a query of the same length, segment by segment. -/
def Path.Meets (query pattern : Path) : Prop := List.Forall₂ Segment.Meets query pattern

/-- Of two patterns for a query the first is more specific: where they differ for the first time,
it has the segment of the query and the second a wildcard. -/
inductive Path.Prefers : (query first second : Path) → Prop
  | here (segment wildcard : Segment) (query first second : Path) (different : wildcard ≠ segment) :
      Prefers (segment :: query) (segment :: first) (wildcard :: second)
  | later (asked segment : Segment) {query first second : Path} (rest : Prefers query first second) :
      Prefers (asked :: query) (segment :: first) (segment :: second)

theorem Path.Prefers.asymm {query first second : Path} (prefers : query.Prefers first second) :
    ¬ query.Prefers second first := by
  induction prefers with
  | here segment wildcard query first second different =>
    rintro (_ | ⟨_, _, _⟩)
    · exact different rfl
    · exact different rfl
  | later asked segment rest hypothesis =>
    rintro (⟨_, _, _, _, _, different⟩ | ⟨_, _, back⟩)
    · exact different rfl
    · exact hypothesis back

/-- The most specific of some patterns that meet a query. -/
structure Path.MostSpecific (query : Path) (patterns : List Path) (best : Path) : Prop where
  mem : best ∈ patterns
  meets : query.Meets best
  least : ∀ other ∈ patterns, query.Meets other → other = best ∨ query.Prefers best other

theorem Path.MostSpecific.unique {query first second : Path} {patterns : List Path}
    (one : query.MostSpecific patterns first) (two : query.MostSpecific patterns second) :
    first = second := by
  rcases one.least second two.mem two.meets with same | before
  · exact same.symm
  · rcases two.least first one.mem one.meets with same | behind
    · exact same
    · exact absurd behind before.asymm

/-! ## Part 2 — the paths that a query tries -/

theorem Segment.mem_candidates_iff (query pattern : Segment) :
    pattern ∈ query.candidates ↔ query.Meets pattern := by
  constructor
  · intro member
    cases query <;> simp only [candidates, List.mem_cons, List.not_mem_nil, or_false] at member
    case literal name =>
      rcases member with rfl | rfl
      · exact .same _
      · exact .any name
    case index digits =>
      rcases member with rfl | rfl
      · exact .same _
      · exact .anyIndex digits
    case any => exact member ▸ .same _
    case anyIndex => exact member ▸ .same _
  · rintro (_ | _ | _)
    · cases query <;> simp [candidates]
    · simp [candidates]
    · simp [candidates]

/-- The paths that a query may end at, in the order in which it tries them. -/
def Path.variants : Path → List Path
  | [] => [[]]
  | segment :: rest => segment.candidates.flatMap fun key => (variants rest).map (key :: ·)

theorem Path.mem_variants_iff (query pattern : Path) :
    pattern ∈ query.variants ↔ query.Meets pattern := by
  induction query generalizing pattern with
  | nil => exact List.mem_singleton.trans List.forall₂_nil_left_iff.symm
  | cons segment rest hypothesis =>
    simp only [variants, List.mem_flatMap, List.mem_map, Segment.mem_candidates_iff, hypothesis]
    constructor
    · rintro ⟨key, here, tail, there, rfl⟩
      exact .cons here there
    · rintro (_ | ⟨here, there⟩)
      exact ⟨_, here, _, there, rfl⟩

theorem Path.pairwise_variants (query : Path) : query.variants.Pairwise query.Prefers := by
  induction query with
  | nil => exact List.pairwise_singleton _ _
  | cons segment rest hypothesis =>
    have within : ∀ key : Segment,
        ((variants rest).map (key :: ·)).Pairwise (Prefers (segment :: rest)) := fun key =>
      List.pairwise_map.mpr (hypothesis.imp fun prefers => .later segment key prefers)
    have across : ∀ wildcard, wildcard ≠ segment →
        ∀ first ∈ (variants rest).map (segment :: ·),
          ∀ second ∈ (variants rest).map (wildcard :: ·),
            Prefers (segment :: rest) first second := by
      intro wildcard different first inFirst second inSecond
      obtain ⟨first, _, rfl⟩ := List.mem_map.mp inFirst
      obtain ⟨second, _, rfl⟩ := List.mem_map.mp inSecond
      exact .here segment wildcard rest first second different
    cases segment <;>
      simp only [variants, Segment.candidates, List.flatMap_cons, List.flatMap_nil, List.append_nil]
    case literal name =>
      exact List.pairwise_append.mpr ⟨within _, within _, across .any (by simp)⟩
    case index digits =>
      exact List.pairwise_append.mpr ⟨within _, within _, across .anyIndex (by simp)⟩
    case any => exact within _
    case anyIndex => exact within _

/-! ## Part 3 — what a query finds -/

namespace Trie

variable {Value : Type}

theorem valueAt_cons_of_child? {segment : Segment} {trie child : Trie Value}
    (found : trie.child? segment = some child) (rest : Path) :
    trie.valueAt (segment :: rest) = child.valueAt rest := by
  rw [valueAt, nodeAt_cons, found]
  rfl

theorem findSome?_flatMap {Key Item Answer : Type} (items : Key → List Item)
    (answer : Item → Option Answer) (keys : List Key) :
    (keys.flatMap items).findSome? answer
      = keys.findSome? fun key => (items key).findSome? answer := by
  induction keys with
  | nil => rfl
  | cons key rest hypothesis =>
    rw [List.flatMap_cons, List.findSome?_append, hypothesis]
    cases found : (items key).findSome? answer <;> simp [found]

/-- **The walk with backtracking tries the variants of a query in their order.** -/
theorem lookup_eq_findSome?_variants (query : Path) (trie : Trie Value) :
    lookup query trie = query.variants.findSome? fun pattern => trie.valueAt pattern := by
  induction query generalizing trie with
  | nil => simp [lookup, Path.variants, valueAt]
  | cons segment rest hypothesis =>
    have branch : ∀ key, (trie.child? key).bind (lookup rest)
        = ((Path.variants rest).map (key :: ·)).findSome? fun pattern => trie.valueAt pattern := by
      intro key
      rw [List.findSome?_map]
      cases found : trie.child? key with
      | none =>
        refine (List.findSome?_eq_none_iff.mpr fun pattern _ => ?_).symm
        show (trie.nodeAt (key :: pattern)).value = none
        rw [nodeAt_cons, found]
        exact congrArg value (nodeAt_empty pattern)
      | some child =>
        show lookup rest child = _
        rw [hypothesis child]
        exact congrArg (List.findSome? · _)
          (funext fun pattern => (valueAt_cons_of_child? found pattern).symm)
    simp only [lookup, branch, Path.variants, findSome?_flatMap]

/-- The paths of some writes. -/
def writtenPaths (writes : List (String × Value)) : List Path :=
  writes.map fun write => Path.parse write.1

theorem mem_writtenPaths_iff (path : Path) (writes : List (String × Value)) :
    path ∈ writtenPaths writes ↔ lastWritten path writes ≠ none := by
  rw [Ne, lastWritten_eq_none_iff]
  simp [writtenPaths]

/-- What the first variant with a value tells: it is the most specific pattern. -/
theorem mostSpecific_of_first {query best : Path} {before after : List Path}
    {writes : List (String × Value)} {value : Value}
    (split : query.variants = before ++ best :: after)
    (here : lastWritten best writes = some value)
    (earlier : ∀ pattern ∈ before, lastWritten pattern writes = none) :
    query.MostSpecific (writtenPaths writes) best := by
  have ordered := query.pairwise_variants
  rw [split] at ordered
  have behind := (List.pairwise_cons.mp (List.pairwise_append.mp ordered).2.1).1
  refine ⟨?_, ?_, fun other written meets => ?_⟩
  · rw [mem_writtenPaths_iff, here]
    simp
  · rw [← Path.mem_variants_iff, split]
    simp
  · rw [← Path.mem_variants_iff, split, List.mem_append, List.mem_cons] at meets
    rcases meets with inFront | same | inBack
    · exact absurd (earlier other inFront) ((mem_writtenPaths_iff other writes).mp written)
    · exact .inl same
    · exact .inr (behind other inBack)

/-- **A query finds the last value of the most specific pattern that meets it**, and nothing exactly
if no pattern does. -/
theorem lookup_ofWrites (writes : List (String × Value)) (query : String) :
    (lookup (Path.parse query) (ofWrites writes) = none
      ↔ ∀ write ∈ writes, ¬ (Path.parse query).Meets (Path.parse write.1))
    ∧ ∀ value, lookup (Path.parse query) (ofWrites writes) = some value
      ↔ ∃ best, (Path.parse query).MostSpecific (writtenPaths writes) best
        ∧ lastWritten best writes = some value := by
  have walk : lookup (Path.parse query) (ofWrites writes)
      = (Path.parse query).variants.findSome? fun pattern => lastWritten pattern writes := by
    simp only [lookup_eq_findSome?_variants, valueAt_ofWrites]
  have found : ∀ value, lookup (Path.parse query) (ofWrites writes) = some value →
      ∃ best, (Path.parse query).MostSpecific (writtenPaths writes) best
        ∧ lastWritten best writes = some value := by
    intro value equal
    rw [walk] at equal
    obtain ⟨before, best, after, split, here, earlier⟩ := List.findSome?_eq_some_iff.mp equal
    exact ⟨best, mostSpecific_of_first split here earlier, here⟩
  have nothing : lookup (Path.parse query) (ofWrites writes) = none
      ↔ ∀ write ∈ writes, ¬ (Path.parse query).Meets (Path.parse write.1) := by
    rw [walk, List.findSome?_eq_none_iff]
    simp only [lastWritten_eq_none_iff, Path.mem_variants_iff]
    constructor
    · exact fun none write member meets => none _ meets write member rfl
    · exact fun none pattern meets write member same => none write member (same ▸ meets)
  refine ⟨nothing, fun value => ⟨found value, ?_⟩⟩
  rintro ⟨best, specific, last⟩
  cases answer : lookup (Path.parse query) (ofWrites writes) with
  | none =>
    obtain ⟨write, member, parsed⟩ := List.mem_map.mp specific.mem
    exact absurd specific.meets (parsed ▸ nothing.mp answer write member)
  | some other =>
    obtain ⟨first, alsoSpecific, alsoLast⟩ := found other answer
    rw [alsoSpecific.unique specific, last] at alsoLast
    exact alsoLast.symm

end Trie

end LayeredConfig.Pattern
