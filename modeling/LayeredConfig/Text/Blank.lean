/-
**White space at the ends of a text.**

Values arrive with blanks around them, and most readers ignore those. Blank means the Unicode
property White_Space, which is wider than the class of core's `Char.isWhitespace`.

* `isBlank`: the twenty-five characters of the property;
* `trimmed`: a text without the blanks at its two ends, on lists of characters;
* `trim`: the same on strings.
-/

namespace LayeredConfig.Text

/-! ## Part 1 — the property -/

/-- A character with the Unicode property White_Space. -/
def isBlank (character : Char) : Bool :=
  let code := character.toNat
  (0x9 ≤ code && code ≤ 0xD) || code == 0x20 || code == 0x85 || code == 0xA0 || code == 0x1680
    || (0x2000 ≤ code && code ≤ 0x200A) || code == 0x2028 || code == 0x2029 || code == 0x202F
    || code == 0x205F || code == 0x3000

/-! ## Part 2 — trimming -/

/-- The text from its first character that is not blank. -/
def withoutLeadingBlanks (text : List Char) : List Char :=
  text.dropWhile isBlank

/-- The text up to its last character that is not blank. -/
def withoutTrailingBlanks (text : List Char) : List Char :=
  (text.reverse.dropWhile isBlank).reverse

/-- The text between its first and its last character that is not blank. -/
def trimmed (text : List Char) : List Char :=
  withoutTrailingBlanks (withoutLeadingBlanks text)

/-- A string without the blanks at its two ends. -/
def trim (text : String) : String :=
  String.ofList (trimmed text.toList)

end LayeredConfig.Text
