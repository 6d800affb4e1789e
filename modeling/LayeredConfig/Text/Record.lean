/-
**The one-line texts of records, lists and maps in diagnostics.**

* `record`: a named record with its fields, closed by two dots when some fields are left out;
* `bracketed`: a list between square brackets;
* `braced`: a map between braces;
* `optional`: a value that may be missing.
-/

namespace LayeredConfig.Text

/-- Texts one after the other with a comma and a space between them. -/
def commaSeparated (items : List String) : String :=
  ", ".intercalate items

/-- A list between square brackets. -/
def bracketed (items : List String) : String :=
  "[" ++ commaSeparated items ++ "]"

/-- A map between braces, each key before its value. -/
def braced (entries : List (String × String)) : String :=
  "\x7b" ++ commaSeparated (entries.map fun entry => entry.1 ++ ": " ++ entry.2) ++ "\x7d"

/-- A value that may be missing. -/
def optional : Option String → String
  | some value => "Some(" ++ value ++ ")"
  | none => "None"

/-- Whether a record's text shows every field of the record. -/
inductive Coverage where
  | complete
  | partly
deriving DecidableEq

/-- A record as its name and its fields; a record shown in part ends in two dots. -/
def record (name : String) (fields : List (String × String)) (coverage : Coverage) : String :=
  let shown := fields.map fun field => field.1 ++ ": " ++ field.2
  let items := match coverage with
    | .complete => shown
    | .partly => shown ++ [".."]
  name ++ " \x7b " ++ commaSeparated items ++ " \x7d"

end LayeredConfig.Text
