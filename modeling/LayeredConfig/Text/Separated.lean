/-
**Texts cut at a separator and put together again.**

* `cutAt`: the pieces of a text between the separators, one more than there are separators;
* `joinWith`: the text with the given pieces and a separator between each two.
-/

namespace LayeredConfig.Text

/-- Puts a character in front of the first piece. -/
def prepend (character : Char) : List (List Char) → List (List Char)
  | [] => [[character]]
  | first :: rest => (character :: first) :: rest

/-- The pieces of a text between the separators. -/
def cutAt (separator : Char) : List Char → List (List Char)
  | [] => [[]]
  | character :: rest =>
    if character = separator then [] :: cutAt separator rest
    else prepend character (cutAt separator rest)

/-- The pieces one after the other with a separator between each two. -/
def joinWith (separator : Char) : List (List Char) → List Char
  | [] => []
  | [last] => last
  | first :: second :: rest => first ++ separator :: joinWith separator (second :: rest)

end LayeredConfig.Text
