/-
**Property names as paths of segments.**

A name is cut at its dots. A piece may end in index suffixes, `[3]` or `[*]`, which are segments of
their own; a piece that is just `*` is the wildcard. Any other piece is a literal, the empty one
too.

* `Segment`: literals, indices and the two wildcards;
* `Segment.ofPiece`: the segments of one piece;
* `Path.parse`: the segments of a whole name, none for the empty name;
* `Path.join`: a name with the given segments.
-/

import LayeredConfig.Text.Separated

namespace LayeredConfig.Pattern

/-- One step of a path. -/
inductive Segment where
  /-- A name taken as it is. -/
  | literal (name : String)
  /-- The wildcard for one literal. -/
  | any
  /-- An index, given by its decimal digits. -/
  | index (digits : String)
  /-- The wildcard for one index. -/
  | anyIndex
deriving DecidableEq, Repr

/-! ## Part 1 — reading -/

/-- The index segment written between two square brackets, if it is one. -/
def Segment.ofBracketed (inner : List Char) : Option Segment :=
  if inner = ['*'] then some .anyIndex
  else if !inner.isEmpty && inner.all Char.isDigit then some (.index (String.ofList inner))
  else none

/-- The last index suffix of a piece and what stands before it, both pieces given from their last
character backwards. -/
def Segment.cutSuffix? : List Char → Option (Segment × List Char)
  | ']' :: tail =>
    match tail.dropWhile (· ≠ '[') with
    | '[' :: base =>
      (Segment.ofBracketed (tail.takeWhile (· ≠ '[')).reverse).map fun suffix => (suffix, base)
    | _ => none
  | _ => none

/-- What stands before a suffix is shorter than the piece. -/
theorem Segment.length_of_cutSuffix? {reversed base : List Char} {suffix : Segment}
    (cut : Segment.cutSuffix? reversed = some (suffix, base)) : base.length < reversed.length := by
  unfold Segment.cutSuffix? at cut
  split at cut
  next tail =>
    split at cut
    next found opened =>
      have shorter : (tail.dropWhile (· ≠ '[')).length ≤ tail.length :=
        (List.dropWhile_suffix _).length_le
      rw [opened] at shorter
      obtain ⟨_, _, equal⟩ := Option.map_eq_some_iff.mp cut
      obtain ⟨_, rfl⟩ := Prod.mk.injEq .. ▸ equal
      simp only [List.length_cons] at shorter ⊢
      omega
    next => cases cut
  next => cases cut

/-- Takes the index suffixes off the end of a piece, which is given from its last character
backwards. The answer is what remains, backwards too, and the suffixes in reading order. -/
def Segment.detachSuffixes (reversed : List Char) (suffixes : List Segment) :
    List Char × List Segment :=
  match _ : Segment.cutSuffix? reversed with
  | some (suffix, base) => detachSuffixes base (suffix :: suffixes)
  | none => (reversed, suffixes)
termination_by reversed.length
decreasing_by exact Segment.length_of_cutSuffix? ‹_›

/-- The segment of a piece without suffixes before its suffixes: nothing for the empty piece. -/
def Segment.ofBase (base : List Char) : List Segment :=
  if base = [] then []
  else if base = ['*'] then [.any]
  else [.literal (String.ofList base)]

/-- The segments of one piece of a name. -/
def Segment.ofPiece (piece : List Char) : List Segment :=
  if piece = ['*'] then [.any]
  else
    match Segment.detachSuffixes piece.reverse [] with
    | (_, []) => [.literal (String.ofList piece)]
    | (base, suffixes) => Segment.ofBase base.reverse ++ suffixes

/-- A name as a list of segments. -/
abbrev Path := List Segment

/-- The path of several pieces, none of which is cut at its dots. -/
def Path.ofPieces (pieces : List String) : Path :=
  pieces.flatMap fun piece => Segment.ofPiece piece.toList

/-- The path of a name; the empty name has the empty path. -/
def Path.parse (name : String) : Path :=
  if name.isEmpty then []
  else (Text.cutAt '.' name.toList).flatMap Segment.ofPiece

/-! ## Part 2 — writing -/

/-- The written form of one segment. -/
def Segment.write : Segment → List Char
  | .literal name => name.toList
  | .any => ['*']
  | .index digits => '[' :: digits.toList ++ [']']
  | .anyIndex => ['[', '*', ']']

/-- The name with the given segments and a dot between each two. -/
def Path.join (path : Path) : String :=
  String.ofList (Text.joinWith '.' (path.map Segment.write))

end LayeredConfig.Pattern
