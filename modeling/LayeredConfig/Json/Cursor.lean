/-
**Reading a JSON text from left to right.**

A cursor is what is left of a text and the place where it begins. A reading step moves the cursor or
fails. A failure names either the place of the cursor or the place one byte ahead of it. A step that
is repeated takes at least one character each time, so the text that is left bounds the repetition.

* `Reading`: steps that move a cursor, and `withRest`: those that the text left bounds;
* `skipBlanks`, `peek`, `take`, `takeWhile`: the elementary steps;
* `readWord`, `readText`: words and quoted texts;
* `skipText`: a quoted text that nobody asks for.
-/

import LayeredConfig.Json.Value
import LayeredConfig.Net.Reader

namespace LayeredConfig.Json

/-! ## Part 1 — cursors -/

/-- The place behind a character. -/
def Position.after (position : Position) (character : Char) : Position :=
  if character = '\n' then ⟨position.line + 1, 0⟩
  else ⟨position.line, position.column + character.utf8Size⟩

/-- The place one byte ahead, the end of the text apart. -/
def Position.ahead (position : Position) : List Char → Position
  | [] => position
  | '\n' :: _ => ⟨position.line + 1, 0⟩
  | _ :: _ => ⟨position.line, position.column + 1⟩

/-- What is left of a text, and where that begins. -/
structure Cursor where
  rest : List Char
  position : Position

/-- The cursor at the start of a text. -/
def Cursor.start (text : String) : Cursor := ⟨text.toList, ⟨1, 0⟩⟩

/-- A step that moves the cursor and gives a result, or fails. -/
abbrev Reading := StateT Cursor (Except Failure)

/-- Fails at the place of the cursor. -/
def fail {Result : Type} (fault : Fault) : Reading Result := fun cursor =>
  .error ⟨fault, cursor.position⟩

/-- Fails one byte ahead of the cursor. -/
def failAhead {Result : Type} (fault : Fault) : Reading Result := fun cursor =>
  .error ⟨fault, cursor.position.ahead cursor.rest⟩

/-- A step that is bounded by the text that is left where it begins. -/
def withRest {Result : Type} (reading : List Char → Reading Result) : Reading Result :=
  fun cursor => reading cursor.rest cursor

/-! ## Part 2 — elementary steps -/

/-- The next character, which stays where it is. -/
def peek : Reading (Option Char) := do
  return (← get).rest.head?

/-- Moves the cursor behind the next character. -/
def take : Reading (Option Char) := fun cursor =>
  match cursor.rest with
  | [] => .ok (none, cursor)
  | character :: rest => .ok (some character, ⟨rest, cursor.position.after character⟩)

/-- Moves the cursor behind the next character without looking at it. -/
def skip : Reading Unit := do
  let _ ← take

/-- The characters at the front that satisfy a condition, and the cursor behind them. -/
def spanFrom (condition : Char → Bool) (position : Position) : List Char → List Char × Cursor
  | [] => ([], ⟨[], position⟩)
  | character :: rest =>
    if condition character then
      let (taken, cursor) := spanFrom condition (position.after character) rest
      (character :: taken, cursor)
    else ([], ⟨character :: rest, position⟩)

/-- Takes the characters at the front that satisfy a condition. -/
def takeWhile (condition : Char → Bool) : Reading (List Char) := fun cursor =>
  .ok (spanFrom condition cursor.position cursor.rest)

/-- The blanks that may stand between the tokens of a JSON text. -/
def isSpace (character : Char) : Bool :=
  character == ' ' || character == '\n' || character == '\t' || character == '\r'

/-- Skips blanks and looks at the next character. -/
def skipBlanks : Reading (Option Char) := do
  let _ ← takeWhile isSpace
  peek

/-- Takes the rest of a word of which the first character has been taken. -/
def readWord : List Char → Reading Unit
  | [] => return ()
  | expected :: rest => do
    match ← peek with
    | none => fail .endInValue
    | some character =>
      if character = expected then
        skip
        readWord rest
      else failAhead .expectedWord

/-! ## Part 3 — quoted texts -/

/-- The characters that fill four bytes, or nothing if the text ends before. -/
def fourBytes : Nat → List Char → Option (List Char)
  | 0, _ => some []
  | _ + 1, [] => none
  | bytes + 1, character :: rest =>
    (fourBytes (bytes + 1 - character.utf8Size) rest).map (character :: ·)

/-- The place so many bytes ahead. -/
def Position.advance (position : Position) : Nat → List Char → Position
  | 0, _ | _ + 1, [] => position
  | bytes + 1, character :: rest =>
    if bytes + 1 < character.utf8Size then ⟨position.line, position.column + (bytes + 1)⟩
    else (position.after character).advance (bytes + 1 - character.utf8Size) rest

/-- Takes four hexadecimal digits. -/
def readHex : Reading Nat := fun cursor =>
  match fourBytes 4 cursor.rest with
  | none => .error ⟨.endInText, cursor.rest.foldl Position.after cursor.position⟩
  | some characters =>
    match characters.mapM (Net.digitOf? 16) with
    | some digits =>
      .ok (Net.numberOf 16 digits,
        ⟨cursor.rest.drop characters.length, characters.foldl Position.after cursor.position⟩)
    | none => .error ⟨.invalidEscape, cursor.position.advance 4 cursor.rest⟩

/-- Takes one given character in front of the second half of a surrogate pair. -/
def expectInPair (expected : Char) : Reading Unit := do
  match ← peek with
  | none => fail .endInText
  | some character => if character = expected then skip else failAhead .endOfHexEscape

/-- Takes the character of a hexadecimal escape, which is a pair of escapes beyond sixteen bits. -/
def readHexEscape : Reading Char := do
  let first ← readHex
  if 0xDC00 ≤ first ∧ first ≤ 0xDFFF then fail .loneSurrogate
  else if first < 0xD800 ∨ 0xDBFF < first then return Char.ofNat first
  else
    expectInPair '\\'
    expectInPair 'u'
    let second ← readHex
    if second < 0xDC00 ∨ 0xDFFF < second then fail .loneSurrogate
    else return Char.ofNat (0x10000 + (first - 0xD800) * 0x400 + (second - 0xDC00))

/-- The character of an escape by one letter. -/
def letterEscape? : Char → Option Char
  | '"' => some '"'
  | '\\' => some '\\'
  | '/' => some '/'
  | 'b' => some '\x08'
  | 'f' => some '\x0c'
  | 'n' => some '\n'
  | 'r' => some '\r'
  | 't' => some '\t'
  | _ => none

/-- Takes the character of an escape behind its backslash. -/
def readEscape : Reading Char := do
  match ← peek with
  | none => fail .endInText
  | some 'u' =>
    skip
    readHexEscape
  | some letter =>
    match letterEscape? letter with
    | some character =>
      skip
      return character
    | none => failAhead .invalidEscape

/-- Takes the characters of a text up to its closing quote. -/
def readCharacters : (bound : List Char) → Reading (List Char)
  | [] => fail .endInText
  | _ :: bound => do
    match ← peek with
    | none => fail .endInText
    | some '"' =>
      skip
      return []
    | some '\\' =>
      skip
      let character ← readEscape
      return character :: (← readCharacters bound)
    | some character =>
      if character.toNat < 0x20 then failAhead .controlCharacter
      else
        skip
        return character :: (← readCharacters bound)

/-- Takes a text behind its opening quote. -/
def readText : Reading String := do
  return String.ofList (← withRest readCharacters)

/-- Skips an escape behind its backslash; any four hexadecimal digits will do. -/
def skipEscape : Reading Unit := do
  match ← peek with
  | none => fail .endInText
  | some 'u' =>
    skip
    let _ ← readHex
  | some letter => if (letterEscape? letter).isSome then skip else failAhead .invalidEscape

/-- Skips the characters of a text up to its closing quote. -/
def skipCharacters : (bound : List Char) → Reading Unit
  | [] => fail .endInText
  | _ :: bound => do
    match ← peek with
    | none => fail .endInText
    | some '"' => skip
    | some '\\' =>
      skip
      skipEscape
      skipCharacters bound
    | some character =>
      if character.toNat < 0x20 then fail .controlCharacter
      else
        skip
        skipCharacters bound

/-- Skips a text behind its opening quote. -/
def skipText : Reading Unit :=
  withRest skipCharacters

end LayeredConfig.Json
