/-
**Names and entries in ascending order, each name once.**

* `insertName` and `ascending`: lists of names;
* `setEntry`: lists of entries, where a later value of a name replaces an earlier one.
-/

namespace LayeredConfig.Text

/-- Puts a name at its place among ascending names, unless it is there. -/
def insertName (name : String) : List String → List String
  | [] => [name]
  | first :: rest =>
    if name = first then first :: rest
    else if name < first then name :: first :: rest
    else first :: insertName name rest

/-- The names in ascending order, each once. -/
def ascending (names : List String) : List String :=
  names.foldr insertName []

/-- Sets the value of a name among entries with ascending names. -/
def setEntry {Value : Type} (name : String) (value : Value) :
    List (String × Value) → List (String × Value)
  | [] => [(name, value)]
  | (other, old) :: rest =>
    if name = other then (name, value) :: rest
    else if name < other then (name, value) :: (other, old) :: rest
    else (other, old) :: setEntry name value rest

/-- Entries in ascending order of their names, the last value of each name. -/
def entriesOf {Value : Type} (pairs : List (String × Value)) : List (String × Value) :=
  pairs.foldl (fun entries pair => setEntry pair.1 pair.2 entries) []

end LayeredConfig.Text
