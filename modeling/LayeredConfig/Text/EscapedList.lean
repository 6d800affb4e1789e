/-
**Lists of texts written in one text.**

Elements are separated by commas. Inside an element a comma is written with a backslash before it,
and a backslash is written twice; a backslash before any other character stands for itself. Blanks
around an element do not belong to it.

* `pieces`: the elements of a text, still with their blanks;
* `split`: the elements of a text;
* `encodeElement` and `join`: the written form of one element and of a list.
-/

import LayeredConfig.Text.Blank
import LayeredConfig.Text.Separated

namespace LayeredConfig.Text.EscapedList

/-! ## Part 1 — reading -/

/-- The pieces between the separating commas, with every escape resolved. -/
def pieces : List Char → List (List Char)
  | [] => [[]]
  | '\\' :: ',' :: rest => prepend ',' (pieces rest)
  | '\\' :: '\\' :: rest => prepend '\\' (pieces rest)
  | '\\' :: other :: rest => prepend '\\' (prepend other (pieces rest))
  | ',' :: rest => [] :: pieces rest
  | character :: rest => prepend character (pieces rest)

/-- The elements of a text; a blank text has one empty element. -/
def split (text : String) : List String :=
  (pieces text.toList).map fun piece => String.ofList (trimmed piece)

/-! ## Part 2 — writing -/

/-- One element with its commas and backslashes escaped. -/
def encodeElement (element : List Char) : List Char :=
  element.flatMap fun character =>
    if character = ',' ∨ character = '\\' then ['\\', character] else [character]

/-- The written form of a list of texts. -/
def join (elements : List String) : String :=
  String.ofList (joinWith ',' (elements.map fun element => encodeElement element.toList))

end LayeredConfig.Text.EscapedList
