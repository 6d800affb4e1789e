/-
**JSON values, and what can be wrong with a JSON text.**

A number is kept exactly while it is an integer of sixty-four bits, with or without sign, and as a
floating-point number otherwise. The members of an object are in the order of their keys.

* `Value`: JSON values;
* `Fault`: the causes for which a text is refused, with `Fault.message`;
* `Failure`: a fault and where it was found.
-/

import LayeredConfig.Number.Shortest
import LayeredConfig.Text.Quoted

namespace LayeredConfig.Json

open LayeredConfig.Number

/-! ## Part 1 — values -/

/-- A JSON number. -/
inductive Numeral where
  | integer (value : Int)
  | float (value : Binary .double)
deriving DecidableEq, Repr

/-- A JSON value. -/
inductive Value where
  | null
  | boolean (value : Bool)
  | number (value : Numeral)
  | text (value : String)
  | array (elements : List Value)
  | object (members : List (String × Value))

/-! ## Part 2 — faults -/

/-- What was found where something else was expected. -/
inductive Found where
  | null
  | boolean (value : Bool)
  | number (value : Numeral)
  | text (value : String)
  | sequence
  | map
deriving DecidableEq, Repr

/-- The words for what was found. -/
def Found.message : Found → String
  | null => "null"
  | boolean value => "boolean `" ++ toString value ++ "`"
  | number (.integer value) => "integer `" ++ toString value ++ "`"
  | number (.float value) => "floating point `" ++ value.write ++ "`"
  | text value => "string " ++ Text.quote value
  | sequence => "sequence"
  | map => "map"

/-- Why a JSON text is refused. -/
inductive Fault where
  | endInValue
  | endInList
  | endInObject
  | endInText
  | expectedValue
  | expectedWord
  | expectedCommaInList
  | expectedCommaInObject
  | expectedColon
  | trailingComma
  | trailingCharacters
  | invalidNumber
  | numberOutOfRange
  | invalidEscape
  | endOfHexEscape
  | loneSurrogate
  | controlCharacter
  | keyMustBeText
  | tooDeep
  | invalidType (found : Found) (expected : String)
  | invalidLength (length : Nat) (expected : String)
  | unknownVariant (name : String) (known : List String)
  | missingField (name : String)
  | duplicateField (name : String)
deriving DecidableEq, Repr

/-- A name in backticks. -/
def ticked (name : String) : String := "`" ++ name ++ "`"

/-- The words for a choice among names. -/
def oneOf : List String → String
  | [] => "there are no variants"
  | [only] => "expected " ++ ticked only
  | [first, second] => "expected " ++ ticked first ++ " or " ++ ticked second
  | names => "expected one of " ++ ", ".intercalate (names.map ticked)

/-- The message of a fault. -/
def Fault.message : Fault → String
  | endInValue => "EOF while parsing a value"
  | endInList => "EOF while parsing a list"
  | endInObject => "EOF while parsing an object"
  | endInText => "EOF while parsing a string"
  | expectedValue => "expected value"
  | expectedWord => "expected ident"
  | expectedCommaInList => "expected `,` or `]`"
  | expectedCommaInObject => "expected `,` or `\x7d`"
  | expectedColon => "expected `:`"
  | trailingComma => "trailing comma"
  | trailingCharacters => "trailing characters"
  | invalidNumber => "invalid number"
  | numberOutOfRange => "number out of range"
  | invalidEscape => "invalid escape"
  | endOfHexEscape => "unexpected end of hex escape"
  | loneSurrogate => "lone leading surrogate in hex escape"
  | controlCharacter => "control character (\\u0000-\\u001F) found while parsing a string"
  | keyMustBeText => "key must be a string"
  | tooDeep => "recursion limit exceeded"
  | invalidType found expected => "invalid type: " ++ found.message ++ ", expected " ++ expected
  | invalidLength length expected =>
    "invalid length " ++ toString length ++ ", expected " ++ expected
  | unknownVariant name known => "unknown variant " ++ ticked name ++ ", " ++ oneOf known
  | missingField name => "missing field " ++ ticked name
  | duplicateField name => "duplicate field " ++ ticked name

/-- A place in a text: the line, and the bytes of that line before it. -/
structure Position where
  line : Nat
  column : Nat
deriving DecidableEq, Repr

/-- A fault and where it was found. -/
structure Failure where
  fault : Fault
  position : Position
deriving DecidableEq, Repr

/-- The message of a failure, with its place. -/
def Failure.message (failure : Failure) : String :=
  failure.fault.message ++ " at line " ++ toString failure.position.line ++ " column "
    ++ toString failure.position.column

end LayeredConfig.Json
