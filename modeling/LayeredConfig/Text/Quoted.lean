/-
**Texts in double quotes, as diagnostics show them.**

A quote and a backslash get a backslash, line breaks and tabs get their short names, and a character
that cannot be shown is written by its number, as in `\u{1b}`. A single quote stays as it is.

* `escaped`: how one character is written between the quotes;
* `quote`: a whole text with its quotes.
-/

import LayeredConfig.Text.Printable

namespace LayeredConfig.Text

/-- A character by its number: the code point in lower-case hexadecimal between braces. -/
def numbered (character : Char) : List Char :=
  ['\\', 'u', '{'] ++ Nat.toDigits 16 character.toNat ++ ['}']

/-- How one character is written between double quotes. -/
def escaped (character : Char) : List Char :=
  if character = '"' then ['\\', '"']
  else if character = '\\' then ['\\', '\\']
  else if character = '\n' then ['\\', 'n']
  else if character = '\r' then ['\\', 'r']
  else if character = '\t' then ['\\', 't']
  else if character = '\x00' then ['\\', '0']
  else if isShownByNumber character then numbered character
  else [character]

/-- A text between double quotes. -/
def quote (text : String) : String :=
  String.ofList ('"' :: text.toList.flatMap escaped ++ ['"'])

end LayeredConfig.Text
