/-
**Reading JSON values and arrays.**

Values may be nested up to a fixed number of levels; that many arrays and objects may be open at
once.

* `readValue`: a value within so many levels;
* `Found.read`: what stands where something else was expected;
* `readElements` and `readMembers`: what stands between brackets and between braces;
* `parseArray`: a text that is one array.
-/

import LayeredConfig.Json.Numeral
import LayeredConfig.Text.Ascending

namespace LayeredConfig.Json

/-! ## Part 1 — what stands between brackets and braces -/

/-- Whether another element follows; the cursor is then at its first character. -/
def hasElement (first : Bool) : Reading Bool := do
  match ← skipBlanks with
  | none => fail .endInList
  | some ']' => return false
  | some character =>
    if first then return true
    else if character = ',' then
      skip
      match ← skipBlanks with
      | some ']' => failAhead .trailingComma
      | some _ => return true
      | none => fail .endInValue
    else failAhead .expectedCommaInList

/-- Takes the elements of an array and its closing bracket. -/
def readElements (readOne : Reading Value) : (first : Bool) → (bound : List Char) →
    Reading (List Value)
  | _, [] => fail .endInList
  | first, _ :: bound => do
    if ← hasElement first then
      let element ← readOne
      return element :: (← readElements readOne false bound)
    else
      skip
      return []

/-- Whether another member follows; the cursor is then at the quote of its key. -/
def hasMember (first : Bool) : Reading Bool := do
  match ← skipBlanks with
  | none => fail .endInObject
  | some '}' => return false
  | some character =>
    if first then
      if character = '"' then return true else failAhead .keyMustBeText
    else if character = ',' then
      skip
      match ← skipBlanks with
      | some '"' => return true
      | some '}' => failAhead .trailingComma
      | some _ => failAhead .keyMustBeText
      | none => fail .endInValue
    else failAhead .expectedCommaInObject

/-- Takes the colon between a key and its value. -/
def readColon : Reading Unit := do
  match ← skipBlanks with
  | some ':' => skip
  | some _ => failAhead .expectedColon
  | none => fail .endInObject

/-- Takes the members of an object and its closing brace. -/
def readMembers (readOne : Reading Value) : (first : Bool) → (members : List (String × Value)) →
    (bound : List Char) → Reading (List (String × Value))
  | _, _, [] => fail .endInObject
  | first, members, _ :: bound => do
    if ← hasMember first then
      skip
      let key ← readText
      readColon
      let value ← readOne
      readMembers readOne false (Text.setEntry key value members) bound
    else
      skip
      return members

/-! ## Part 2 — values -/

/-- The number of arrays and objects that may be open at once. -/
def nestingLimit : Nat := 127

/-- Takes a value, an array or an object by the given steps. -/
def readValueWith (readList readObject : Reading Value) : Reading Value := do
  match ← skipBlanks with
  | none => fail .endInValue
  | some 'n' => skip; readWord ['u', 'l', 'l']; return .null
  | some 't' => skip; readWord ['r', 'u', 'e']; return .boolean true
  | some 'f' => skip; readWord ['a', 'l', 's', 'e']; return .boolean false
  | some '-' => skip; return .number (← readNumeral true)
  | some '"' => skip; return .text (← readText)
  | some '[' => readList
  | some '{' => readObject
  | some character =>
    if character.isDigit then return .number (← readNumeral false) else failAhead .expectedValue

/-- Takes an array from its bracket on, its elements by the given step. -/
def readListOf (readOne : Reading Value) : Reading (List Value) := do
  skip
  withRest (readElements readOne true)

/-- Takes an object from its brace on, the values of its members by the given step. -/
def readObjectOf (readOne : Reading Value) : Reading (List (String × Value)) := do
  skip
  withRest (readMembers readOne true [])

/-- Takes a value in which so many arrays and objects may be open at once. -/
def readValue : Nat → Reading Value
  | 0 => readValueWith (failAhead .tooDeep) (failAhead .tooDeep)
  | levels + 1 =>
    readValueWith (.array <$> readListOf (readValue levels))
      (.object <$> readObjectOf (readValue levels))

/-- Takes as much of a value as tells what it is, and fails if nothing can. -/
def Found.read : Reading Found := do
  match ← peek with
  | some 'n' => skip; readWord ['u', 'l', 'l']; return .null
  | some 't' => skip; readWord ['r', 'u', 'e']; return .boolean true
  | some 'f' => skip; readWord ['a', 'l', 's', 'e']; return .boolean false
  | some '-' => skip; return .number (← readNumeral true)
  | some '"' => skip; return .text (← readText)
  | some '[' => return .sequence
  | some '{' => return .map
  | some character =>
    if character.isDigit then return .number (← readNumeral false) else failAhead .expectedValue
  | none => fail .expectedValue

/-- Fails because of what stands at the cursor. -/
def refuse {Result : Type} (expected : String) : Reading Result := do
  fail (.invalidType (← Found.read) expected)

/-! ## Part 3 — skipping values -/

/-- A bracket that is open while values are skipped. -/
inductive Bracket where
  | square
  | curly
deriving DecidableEq

/-- The faults of a list and of an object, where a comma or the end is missing. -/
def Bracket.faults : Bracket → Fault × Fault
  | .square => (.expectedCommaInList, .endInList)
  | .curly => (.expectedCommaInObject, .endInObject)

/-- Skips a scalar, or opens a bracket. -/
def skipScalar : Reading (Option Bracket) := do
  match ← skipBlanks with
  | none => fail .endInValue
  | some 'n' => skip; readWord ['u', 'l', 'l']; return none
  | some 't' => skip; readWord ['r', 'u', 'e']; return none
  | some 'f' => skip; readWord ['a', 'l', 's', 'e']; return none
  | some '-' => skip; skipNumeral; return none
  | some '"' => skip; skipText; return none
  | some '[' => skip; return some .square
  | some '{' => skip; return some .curly
  | some character =>
    if character.isDigit then
      skipNumeral
      return none
    else failAhead .expectedValue

/-- Closes as many brackets as are closed here. The answer is the brackets that stay open with the
next element still to come, or none if all are closed. A comma is taken only behind an element. -/
def skipClosings : (afterElement : Bool) → List Bracket → Reading (List Bracket)
  | _, [] => return []
  | afterElement, bracket :: outer => do
    match ← skipBlanks with
    | none => fail bracket.faults.2
    | some character =>
      if character = ',' && afterElement then
        skip
        return bracket :: outer
      else if (character = ']' && bracket = .square) || (character = '}' && bracket = .curly) then
        skip
        skipClosings true outer
      else if afterElement then failAhead bracket.faults.1
      else return bracket :: outer

/-- Skips the key of the next member if an object is the innermost open bracket. -/
def skipKey : List Bracket → Reading Unit
  | .curly :: _ => do
    match ← skipBlanks with
    | some '"' => skip
    | some _ => failAhead .keyMustBeText
    | none => fail .endInObject
    skipText
    readColon
  | _ => return ()

/-- Skips a value inside the open brackets, and on until all of them are closed. -/
def skipNested : (brackets : List Bracket) → (bound : List Char) → Reading Unit
  | _, [] => fail .endInValue
  | brackets, _ :: bound => do
    let (afterElement, brackets) := match ← skipScalar with
      | some bracket => (false, bracket :: brackets)
      | none => (true, brackets)
    match ← skipClosings afterElement brackets with
    | [] => return ()
    | brackets =>
      skipKey brackets
      skipNested brackets bound

/-- Skips a value that nobody asks for; only its form is looked at. -/
def skipValue : Reading Unit :=
  withRest (skipNested [])

/-! ## Part 4 — whole texts -/

/-- Nothing but blanks may be left. -/
def readEnd : Reading Unit := do
  match ← skipBlanks with
  | some _ => failAhead .trailingCharacters
  | none => return ()

/-- Takes an array. -/
def readArray : Reading (List Value) := do
  match ← skipBlanks with
  | none => fail .endInValue
  | some '[' => readListOf (readValue (nestingLimit - 1))
  | some _ => refuse "a sequence"

/-- What a reading step gives for a text that it takes whole. -/
def parseWith {Result : Type} (reading : Reading Result) (text : String) :
    Except Failure Result := do
  let (result, cursor) ← reading (Cursor.start text)
  let _ ← readEnd cursor
  return result

/-- The elements of a text that is one array. -/
def parseArray (text : String) : Except Failure (List Value) :=
  parseWith readArray text

end LayeredConfig.Json
