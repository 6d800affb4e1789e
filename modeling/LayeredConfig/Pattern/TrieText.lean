/-
**The diagnostic texts of a trie.**

* `Trie.display`: the values and branches of a trie of texts;
* `Trie.debug`: the same with every part named and every text quoted.
-/

import LayeredConfig.Pattern.Trie
import LayeredConfig.Text.Quoted
import LayeredConfig.Text.Record

namespace LayeredConfig.Pattern.Trie

open LayeredConfig.Text

/-! ## Part 1 — the short form -/

mutual

/-- A trie as its value and its labelled branches. -/
def display : Trie String → String
  | .node value branches =>
    let header := match value with
      | some value => "KeyMap(value=" ++ value ++ ")"
      | none => "KeyMap(no value)"
    header ++ " \x7b" ++ commaSeparated (displayBranches branches) ++ "\x7d"

/-- The labelled branches of a node. -/
def displayBranches : List (Segment × Trie String) → List String
  | [] => []
  | (segment, child) :: rest => (segment.label ++ "=>" ++ display child) :: displayBranches rest

end

/-! ## Part 2 — the long form -/

/-- The text of the branch of one segment among the texts of all branches. -/
def branchText (segment : Segment) (texts : List (Segment × String)) : String :=
  optional (texts.lookup segment)

/-- A node whose branches are already texts. -/
def debugNode (value : Option String) (texts : List (Segment × String)) : String :=
  let named := texts.filter fun branch => branch.1.rank == 0
  record "KeyMap"
    [("root_value", optional (value.map quote)),
     ("children", braced (named.map fun branch => (quote branch.1.label, branch.2))),
     ("any", branchText .any texts),
     ("any_index", branchText .anyIndex texts)] .complete

mutual

/-- A trie with its parts named. -/
def debug : Trie String → String
  | .node value branches => debugNode value (debugBranches branches)

/-- The texts of the branches of a node. -/
def debugBranches : List (Segment × Trie String) → List (Segment × String)
  | [] => []
  | (segment, child) :: rest => (segment, debug child) :: debugBranches rest

end

end LayeredConfig.Pattern.Trie
