/-
**Values kept at patterns of property names.**

A trie holds at most one value for each path, and its paths may contain wildcards. A query walks
down from the root. At each step the branch of the very segment is tried first, and the branch of
its wildcard only if that one led to no value.

* `Trie.focus`: acts on the node of a path, which is created if it is missing;
* `Trie.ensure` and `Trie.put`: the two ways in which a trie grows;
* `Trie.descend?`: the node of a path, wildcards standing for themselves;
* `Trie.lookup`: the value that a query finds.
-/

import LayeredConfig.Pattern.Segment

namespace LayeredConfig.Pattern

/-! ## Part 1 — the order of branches -/

/-- Branches of names and indices come first, then the wildcard, then the wildcard of indices. -/
def Segment.rank : Segment → Nat
  | .literal _ | .index _ => 0
  | .any => 1
  | .anyIndex => 2

/-- The text by which a branch is labelled. -/
def Segment.label : Segment → String
  | .literal name => name
  | .index digits => "[" ++ digits ++ "]"
  | .any => "(any)"
  | .anyIndex => "[*]"

/-- The order of the branches of a node: by rank, and by label within a rank. -/
def Segment.before (first second : Segment) : Bool :=
  first.rank < second.rank || (first.rank == second.rank && first.label < second.label)

/-- The branches that a segment of a query may take, the best first. -/
def Segment.candidates : Segment → List Segment
  | .literal name => [.literal name, .any]
  | .index digits => [.index digits, .anyIndex]
  | .any => [.any]
  | .anyIndex => [.anyIndex]

/-! ## Part 2 — tries -/

/-- A node with its value and its branches, the branches in ascending order. -/
inductive Trie (Value : Type) where
  | node (value : Option Value) (branches : List (Segment × Trie Value))

namespace Trie

variable {Value Result : Type}

/-- The node without value and branches. -/
def empty : Trie Value := .node none []

/-- The value of the node itself. -/
def value : Trie Value → Option Value
  | .node value _ => value

/-- The branches of the node. -/
def branches : Trie Value → List (Segment × Trie Value)
  | .node _ branches => branches

/-- A node without value and branches. -/
def isEmpty (trie : Trie Value) : Bool :=
  trie.value.isNone && trie.branches.isEmpty

/-- The node at the end of one branch. -/
def child? (trie : Trie Value) (segment : Segment) : Option (Trie Value) :=
  trie.branches.lookup segment

/-! ## Part 3 — growing -/

/-- Acts on the node of one branch; a missing branch starts empty and is put at its place. -/
def focusBranch (segment : Segment) (action : Trie Value → Result × Trie Value) :
    List (Segment × Trie Value) → Result × List (Segment × Trie Value)
  | [] =>
    let (result, child) := action empty
    (result, [(segment, child)])
  | (key, child) :: rest =>
    if key = segment then
      let (result, child) := action child
      (result, (key, child) :: rest)
    else if segment.before key then
      let (result, created) := action empty
      (result, (segment, created) :: (key, child) :: rest)
    else
      let (result, rest) := focusBranch segment action rest
      (result, (key, child) :: rest)

/-- Acts on the node of a path and answers what the action answers. -/
def focus : Path → (Trie Value → Result × Trie Value) → Trie Value → Result × Trie Value
  | [], action, trie => action trie
  | segment :: rest, action, .node value branches =>
    let (result, branches) := focusBranch segment (focus rest action) branches
    (result, .node value branches)

/-- Gives the node a value; the answer is the value that it had. -/
def swapValue (new : Value) : Trie Value → Option Value × Trie Value
  | .node old branches => (old, .node (some new) branches)

/-- The trie in which the node of a path exists. -/
def ensure (path : Path) (trie : Trie Value) : Trie Value :=
  (focus path (fun node => ((), node)) trie).2

/-- Stores a value at a path; the answer is the value that was stored there. -/
def put (path : Path) (new : Value) (trie : Trie Value) : Option Value × Trie Value :=
  focus path (swapValue new) trie

/-! ## Part 4 — asking -/

/-- The node of a path; wildcards of the path name the wildcard branches only. -/
def descend? : Path → Trie Value → Option (Trie Value)
  | [], trie => some trie
  | segment :: rest, trie => (trie.child? segment).bind (descend? rest)

/-- The value that a query finds, the most specific branch first at each step. -/
def lookup : Path → Trie Value → Option Value
  | [], trie => trie.value
  | segment :: rest, trie =>
    segment.candidates.findSome? fun key => (trie.child? key).bind (lookup rest)

end Trie

end LayeredConfig.Pattern
