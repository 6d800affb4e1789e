/-
**Descriptors of derived converters, and their JSON form.**

A descriptor names a type and an idiom. It is written as an object with two members. It is read from
such an object, whose other members are skipped, or from an array of the two.

* `Descriptor`: the type's name and the idiom;
* `Descriptor.write`: the JSON text;
* `Descriptor.parse`: the descriptor of a JSON text.
-/

import LayeredConfig.Conversion.Idiom

namespace LayeredConfig.Conversion

open LayeredConfig.Json

/-- What has to be known to derive a converter again. -/
structure Descriptor where
  typeName : String
  idiom : Idiom
deriving DecidableEq, Repr

/-- The descriptor of a derived converter. -/
def ImplicitConverter.descriptor {Value : Type} (implicit : ImplicitConverter Value) : Descriptor :=
  ⟨implicit.typeName, implicit.idiom⟩

/-! ## Part 1 — writing -/

/-- Two hexadecimal digits of a small number. -/
def twoHexDigits (code : Nat) : List Char :=
  let digits := Nat.toDigits 16 code
  List.replicate (2 - digits.length) '0' ++ digits

/-- How one character is written in a JSON text. -/
def escapedInJson (character : Char) : List Char :=
  if character = '"' then ['\\', '"']
  else if character = '\\' then ['\\', '\\']
  else if character = '\x08' then ['\\', 'b']
  else if character = '\x0c' then ['\\', 'f']
  else if character = '\n' then ['\\', 'n']
  else if character = '\r' then ['\\', 'r']
  else if character = '\t' then ['\\', 't']
  else if character.toNat < 0x20 then ['\\', 'u', '0', '0'] ++ twoHexDigits character.toNat
  else [character]

/-- A quoted JSON text. -/
def writeJsonText (text : String) : String :=
  String.ofList ('"' :: text.toList.flatMap escapedInJson ++ ['"'])

/-- The JSON text of a descriptor. -/
def Descriptor.write (descriptor : Descriptor) : String :=
  "\x7b" ++ writeJsonText "type_name" ++ ":" ++ writeJsonText descriptor.typeName ++ ","
    ++ writeJsonText "idiom" ++ ":" ++ writeJsonText descriptor.idiom.name ++ "\x7d"

/-! ## Part 2 — reading the members -/

/-- Takes the name of a type. -/
def readTypeName : Reading String := do
  match ← skipBlanks with
  | none => fail .endInValue
  | some '"' => skip; readText
  | some _ => refuse "a string"

/-- Takes the name of an idiom from its quote on. -/
def readIdiomName : Reading Idiom := do
  skip
  let name ← readText
  match Idiom.ofName? name with
  | some idiom => return idiom
  | none => fail (.unknownVariant name (Idiom.probeOrder.map Idiom.name))

/-- Takes the name of an idiom as the key of an object behind its brace. An empty object lacks a
value; anything else that is not quoted is no key. -/
def readIdiomKey : Reading Idiom := do
  match ← skipBlanks with
  | some '"' => readIdiomName
  | some '}' => failAhead .expectedValue
  | some _ => failAhead .keyMustBeText
  | none => fail .endInObject

/-- Takes the value null where nothing else makes sense. -/
def readUnit : Reading Unit := do
  match ← skipBlanks with
  | none => fail .endInValue
  | some 'n' => skip; readWord ['u', 'l', 'l']
  | some _ => refuse "unit"

/-- Takes an idiom: its name, or an object with the name as its only key and null as its value. -/
def readIdiom : Reading Idiom := do
  match ← skipBlanks with
  | some '"' => readIdiomName
  | some '{' =>
    skip
    let idiom ← readIdiomKey
    readColon
    readUnit
    match ← skipBlanks with
    | some '}' =>
      skip
      return idiom
    | some _ => fail .expectedValue
    | none => fail .endInObject
  | some _ => failAhead .expectedValue
  | none => fail .endInValue

/-! ## Part 3 — reading a descriptor -/

/-- What an array of two elements is expected to be. -/
def sequenceExpectation : String := "struct ImplicitDescriptor with 2 elements"

/-- Takes a bracket that ends a list, if it is there. -/
def skipBracket : Reading Unit := do
  match ← skipBlanks with
  | some ']' => skip
  | _ => return ()

/-- Takes an element of an array that has to be there. -/
def readElement {Result : Type} (position : Nat) (readOne : Reading Result) : Reading Result := do
  if ← hasElement (position == 0) then readOne
  else
    skipBracket
    fail (.invalidLength position sequenceExpectation)

/-- Takes the bracket after the last element that is allowed. -/
def readListEnd : Reading Unit := do
  match ← skipBlanks with
  | some ']' => skip
  | some ',' =>
    skip
    match ← skipBlanks with
    | some ']' => failAhead .trailingComma
    | _ => failAhead .trailingCharacters
  | some _ => failAhead .trailingCharacters
  | none => fail .endInList

/-- Takes a descriptor in the form of an array behind its bracket. -/
def readSequence : Reading Descriptor := do
  let typeName ← readElement 0 readTypeName
  let idiom ← readElement 1 readIdiom
  readListEnd
  return ⟨typeName, idiom⟩

/-- A member that may have been read already. -/
structure Members where
  typeName : Option String
  idiom : Option Idiom

/-- Takes a brace that ends an object, if it is there. -/
def skipBrace : Reading Unit := do
  match ← skipBlanks with
  | some '}' => skip
  | _ => return ()

/-- Takes the value of a member that has not been read yet; a second one is refused behind its key.
-/
def readOnce {Result : Type} (name : String) (old : Option Result) (readOne : Reading Result) :
    Reading Result := do
  if old.isSome then
    skipBrace
    fail (.duplicateField name)
  else
    readColon
    readOne

/-- Takes the members of an object and its closing brace. -/
def readFields : (first : Bool) → Members → (bound : List Char) → Reading Members
  | _, _, [] => fail .endInObject
  | first, members, _ :: bound => do
    if ← hasMember first then
      skip
      let key ← readText
      if key = "type_name" then
        let typeName ← readOnce key members.typeName readTypeName
        readFields false { members with typeName := some typeName } bound
      else if key = "idiom" then
        let idiom ← readOnce key members.idiom readIdiom
        readFields false { members with idiom := some idiom } bound
      else
        readColon
        skipValue
        readFields false members bound
    else
      skip
      return members

/-- A member that has to be there. -/
def require {Result : Type} (name : String) : Option Result → Reading Result
  | some value => return value
  | none => fail (.missingField name)

/-- Takes a descriptor in the form of an object behind its brace. -/
def readObject : Reading Descriptor := do
  let members ← withRest (readFields true ⟨none, none⟩)
  return ⟨← require "type_name" members.typeName, ← require "idiom" members.idiom⟩

/-- Takes a descriptor in either form. -/
def readDescriptor : Reading Descriptor := do
  match ← skipBlanks with
  | none => fail .endInValue
  | some '[' => skip; readSequence
  | some '{' => skip; readObject
  | some _ => refuse "struct ImplicitDescriptor"

/-- The descriptor of a JSON text. -/
def Descriptor.parse (text : String) : Except Failure Descriptor :=
  parseWith readDescriptor text

end LayeredConfig.Conversion
