/-
**Every node is a trie of its own.**

A node is addressed by the pieces of its name, by the whole name, or by one name after the other, each
from the node before. The same path makes the same node (`sameNode_iff`), and a dot between two names
puts their paths together unless one of the names is empty:

* `parse_joined_eq_iff`, `parse_intercalate_eq_iff`: the path of a name that is put together;
* `sameNode_joined`: so all three ways to a node agree;
* `lookup_joined`: what a query finds from the exact node of a name, it finds from the root too,
  whatever wildcards there are on the way.
-/

import LayeredConfig.Proofs.Pattern.History

namespace LayeredConfig.Pattern

open LayeredConfig.Text

/-! ## Part 1 — names that are put together -/

namespace Path

/-- The path of the pieces between the dots; the empty name has one empty piece. -/
def ofDotted (name : String) : Path := (cutAt '.' name.toList).flatMap Segment.ofPiece

theorem parse_of_ne_empty {name : String} (filled : name ≠ "") : parse name = ofDotted name := by
  have notEmpty : ¬ name.isEmpty = true := by simpa using filled
  rw [parse, if_neg notEmpty]
  rfl

theorem ofDotted_ne_nil (name : String) : ofDotted name ≠ [] := by
  have nonempty : cutAt '.' name.toList ≠ [] := cutAt_ne_nil _
  obtain ⟨first, others, pieces⟩ := List.exists_cons_of_ne_nil nonempty
  simp [ofDotted, pieces, Segment.ofPiece_ne_nil]

theorem length_parse_le (name : String) : (parse name).length ≤ (ofDotted name).length := by
  by_cases filled : name = ""
  · subst filled
    exact Nat.zero_le _
  · rw [parse_of_ne_empty filled]

theorem parse_joined (first second : String) :
    parse (first ++ "." ++ second) = ofDotted first ++ ofDotted second := by
  have filled : first ++ "." ++ second ≠ "" := by simp
  have letters : (first ++ "." ++ second).toList = first.toList ++ '.' :: second.toList := by simp
  rw [parse_of_ne_empty filled, ofDotted, letters, cutAt_append_separator, List.flatMap_append]
  rfl

/-- **A dot between two names puts their paths together**, if none of the names is empty. -/
theorem parse_joined_eq_iff (first second : String) :
    parse (first ++ "." ++ second) = parse first ++ parse second ↔ first ≠ "" ∧ second ≠ "" := by
  rw [parse_joined]
  constructor
  · intro same
    have lengths := congrArg List.length same
    simp only [List.length_append] at lengths
    have shortFirst := length_parse_le first
    have shortSecond := length_parse_le second
    have someFirst := List.length_pos_iff.mpr (ofDotted_ne_nil first)
    have someSecond := List.length_pos_iff.mpr (ofDotted_ne_nil second)
    -- An empty name has no segment, and its empty piece has one.
    have none : (parse "").length = 0 := rfl
    constructor
    · rintro rfl
      omega
    · rintro rfl
      omega
  · rintro ⟨one, other⟩
    rw [parse_of_ne_empty one, parse_of_ne_empty other]

theorem toList_intercalate_dot (pieces : List String) :
    (".".intercalate pieces).toList = joinWith '.' (pieces.map String.toList) := by
  rw [String.toList_intercalate]
  exact intercalate_eq_joinWith _

theorem intercalate_dot_ne_empty {pieces : List String} (nonempty : pieces ≠ [])
    (other : pieces ≠ [""]) : ".".intercalate pieces ≠ "" := by
  rw [Ne, ← String.toList_inj, toList_intercalate_dot]
  intro empty
  rcases joinWith_eq_nil_iff.mp empty with none | alone
  · exact nonempty (List.map_eq_nil_iff.mp none)
  · obtain ⟨piece, rfl, letters⟩ := List.map_eq_singleton_iff.mp alone
    exact other (by rw [String.toList_eq_nil_iff.mp letters])

/-- **Pieces joined by dots have the path of the pieces**, but for one empty piece alone, whose join
is the name of the root. -/
theorem parse_intercalate_eq_iff {pieces : List String}
    (undotted : ∀ piece ∈ pieces, '.' ∉ piece.toList) :
    parse (".".intercalate pieces) = ofPieces pieces ↔ pieces ≠ [""] := by
  constructor
  · rintro same rfl
    have none : ofPieces [""] = [] := by simpa [parse] using same.symm
    simp [ofPieces, Segment.ofPiece_ne_nil] at none
  · intro other
    by_cases nonempty : pieces = []
    · subst nonempty
      rfl
    · have whole : ∀ piece ∈ pieces.map String.toList, '.' ∉ piece := by simpa using undotted
      rw [parse_of_ne_empty (intercalate_dot_ne_empty nonempty other), ofDotted,
        toList_intercalate_dot, cutAt_joinWith (by simpa using nonempty) whole, List.flatMap_map]
      rfl

end Path

namespace Trie

variable {Value : Type}

/-! ## Part 2 — ways to a node -/

/-- Two ways lead to the same node: in every trie, whatever is done with the node that is reached, the
answer and the trie afterwards are the same. -/
def SameNode (first second : List Address) : Prop :=
  ∀ (Value Result : Type) (trie : Trie Value) (action : Trie Value → Result × Trie Value),
    follow first action trie = follow second action trie

/-- **A node is the same exactly if its path is.** -/
theorem sameNode_iff (first second : List Address) :
    SameNode first second ↔ pathOf first = pathOf second := by
  constructor
  · intro same
    by_contra different
    -- A value put at one of the nodes of the empty trie would be found at the other one.
    have puts := congrArg Prod.snd (same Unit _ empty (swapValue ()))
    rw [follow_eq_focus, follow_eq_focus] at puts
    have here := valueAt_put_self (pathOf first) () ordered_empty
    have there := valueAt_put_of_ne () ordered_empty different
    rw [put, puts] at here
    rw [put, here, valueAt, nodeAt_empty] at there
    cases there
  · intro same Value Result trie action
    rw [follow_eq_focus, follow_eq_focus, same]

/-- **All ways to a node agree.** Pieces without dots lead to the same node as the name that joins them,
and a name from the node of another name to the same node as both names with a dot between them. The
exceptions are one empty piece alone and empty names, since the empty name is the one of the root. -/
theorem sameNode_joined :
    (∀ pieces : List String, (∀ piece ∈ pieces, '.' ∉ piece.toList) →
      (SameNode [.pieces pieces] [.name (".".intercalate pieces)] ↔ pieces ≠ [""]))
    ∧ ∀ first second : String,
      SameNode [.name first, .name second] [.name (first ++ "." ++ second)]
        ↔ first ≠ "" ∧ second ≠ "" := by
  constructor
  · intro pieces undotted
    rw [sameNode_iff, ← Path.parse_intercalate_eq_iff undotted]
    simpa using eq_comm
  · intro first second
    rw [sameNode_iff, ← Path.parse_joined_eq_iff]
    simpa using eq_comm

/-- Empty pieces in front and within, a wildcard, suffixes behind a name and alone. -/
def samplePieces : List String := ["", "pool[0][*]", "", "*", "[7]"]

theorem sameNode_joined_sample :
    (∀ piece ∈ samplePieces, '.' ∉ piece.toList) ∧ samplePieces ≠ [""]
    ∧ ".".intercalate samplePieces = ".pool[0][*]..*.[7]"
    ∧ SameNode [.pieces samplePieces] [.name ".pool[0][*]..*.[7]"] := by
  have undotted : ∀ piece ∈ samplePieces, '.' ∉ piece.toList := by decide
  have other : samplePieces ≠ [""] := by decide
  exact ⟨undotted, other, rfl, (sameNode_joined.1 samplePieces undotted).mpr other⟩

/-! ## Part 3 — queries below a node -/

/-- A query tries the branch of its own segment first. -/
theorem exists_candidates_eq (segment : Segment) :
    ∃ wildcards, segment.candidates = segment :: wildcards := by
  cases segment with
  | literal | any | index | anyIndex => exact ⟨_, rfl⟩

theorem lookup_append_of_descend? {path rest : Path} {trie node : Trie Value} {value : Value}
    (found : trie.descend? path = some node) (here : node.lookup rest = some value) :
    trie.lookup (path ++ rest) = some value := by
  induction path generalizing trie with
  | nil =>
    obtain rfl := Option.some.inj found
    exact here
  | cons segment path hypothesis =>
    obtain ⟨child, branch, below⟩ := Option.bind_eq_some_iff.mp found
    obtain ⟨wildcards, candidates⟩ := exists_candidates_eq segment
    have own : (trie.child? segment).bind (lookup (path ++ rest)) = some value := by
      rw [branch]
      exact hypothesis below
    rw [List.cons_append, lookup, candidates, List.findSome?_cons, own]

/-- **What a query finds from the exact node of a name, it finds from the root too**: no wildcard beside
the node or above it comes first. -/
theorem lookup_joined {trie node : Trie Value} {first second : String} {value : Value}
    (one : first ≠ "") (other : second ≠ "")
    (found : trie.descend? (Path.parse first) = some node)
    (here : node.lookup (Path.parse second) = some value) :
    trie.lookup (Path.parse (first ++ "." ++ second)) = some value := by
  rw [(Path.parse_joined_eq_iff first second).mpr ⟨one, other⟩]
  exact lookup_append_of_descend? found here

/-- Wildcards above a node, beside it and below it. -/
def sampleWildcards : Trie Nat := ofWrites [("*.b.c", 1), ("a.*.c", 2), ("a.b.*", 3)]

theorem lookup_joined_sample :
    ∃ node, sampleWildcards.descend? (Path.parse "a.b") = some node
      ∧ node.lookup (Path.parse "c") = some 3
      ∧ sampleWildcards.lookup (Path.parse ("a.b" ++ "." ++ "c")) = some 3 := by
  have below : (sampleWildcards.descend? (Path.parse "a.b")).bind (lookup (Path.parse "c"))
      = some 3 := by decide +kernel
  obtain ⟨node, found, here⟩ := Option.bind_eq_some_iff.mp below
  exact ⟨node, found, here, lookup_joined (by decide) (by decide) found here⟩

end Trie

end LayeredConfig.Pattern
