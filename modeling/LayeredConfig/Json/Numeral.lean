/-
**JSON numbers.**

The digits of a number are gathered in sixty-four bits. Digits that no longer fit are left out, and
only their count enters the power of ten. The power is applied by one rounded product or quotient,
or by several if it is very negative, so a number with a fraction may differ from the nearest one in
its last bit.

* `gather`: digits within sixty-four bits and the count of those left out;
* `scaleByTen`: a gathered number times a power of ten;
* `readNumeral`: a number behind its sign;
* `skipNumeral`: a number that nobody asks for.
-/

import LayeredConfig.Json.Cursor

namespace LayeredConfig.Json

open LayeredConfig.Number

/-! ## Part 1 — gathering digits -/

/-- The greatest number of sixty-four bits. -/
def gatherLimit : Nat := Nat.pow 2 64 - 1

/-- The value of the digits behind those that gave `total` as long as it fits, and how many digits
are left out from the first one that does not fit. -/
def gather (total : Nat) : List Char → Nat × Nat
  | [] => (total, 0)
  | character :: rest =>
    let next := 10 * total + digitValue character
    if next ≤ gatherLimit then gather next rest else (total, rest.length + 1)

/-! ## Part 2 — powers of ten -/

/-- The number nearest to a power of ten. -/
def powerOfTen (exponent : Nat) : Binary .double :=
  Binary.ofRatio false (Nat.pow 10 exponent) 1

/-- The greatest power of ten that is applied at once. -/
def greatestPower : Nat := 308

/-- A number times a power of ten, or nothing if that is too large. -/
def scaleByTen (number : Binary .double) (exponent : Int) : Option (Binary .double) :=
  if 0 ≤ exponent then
    if exponent ≤ greatestPower then
      let product := number.times (powerOfTen exponent.toNat)
      if product.isInfinite then none else some product
    else if number.magnitude = 0 then some number
    else none
  else if -(greatestPower : Int) ≤ exponent then
    some (number.dividedBy (powerOfTen (-exponent).toNat))
  else if number.magnitude = 0 then some number
  else scaleByTen (number.dividedBy (powerOfTen greatestPower)) (exponent + greatestPower)
termination_by (-exponent).toNat
decreasing_by simp only [greatestPower] at *; omega

/-- The signed number with gathered digits and a power of ten. -/
def readScaled (negative : Bool) (significand : Nat) (exponent : Int) : Reading (Binary .double) :=
  match scaleByTen (Binary.ofRatio false significand 1) exponent with
  | some number => return { number with negative }
  | none => fail .numberOutOfRange

/-! ## Part 3 — reading -/

/-- The greatest exponent that is gathered. -/
def exponentLimit : Nat := Nat.pow 2 31 - 1

/-- Takes the digits of an exponent behind those that gave `total`, or stops behind the first one
with which it exceeds the limit. -/
def readExponentDigits (total : Nat) : (bound : List Char) → Reading (Option Nat)
  | [] => return some total
  | _ :: bound => do
    match (← peek).bind digitValue? with
    | none => return some total
    | some digit =>
      skip
      if 10 * total + digit ≤ exponentLimit then readExponentDigits (10 * total + digit) bound
      else return none

/-- Takes an exponent from its mark on and gives the number with these digits. -/
def readExponent (negative : Bool) (significand : Nat) (exponent : Int) :
    Reading (Binary .double) := do
  skip
  let below ← do
    match ← peek with
    | some '+' => skip; pure false
    | some '-' => skip; pure true
    | _ => pure false
  match ← peek with
  | none => fail .endInValue
  | some character =>
    if character.isDigit then
      match ← withRest (readExponentDigits 0) with
      | some value =>
        readScaled negative significand (if below then exponent - value else exponent + value)
      | none =>
        if significand ≠ 0 ∧ !below then fail .numberOutOfRange
        else
          let _ ← takeWhile Char.isDigit
          return ⟨negative, 0⟩
    else failAhead .invalidNumber

/-- Goes on behind the digits of a number: an exponent or the end of the number. -/
def readAfterDigits (negative : Bool) (significand : Nat) (exponent : Int) :
    Reading (Binary .double) := do
  match ← peek with
  | some 'e' | some 'E' => readExponent negative significand exponent
  | _ => readScaled negative significand exponent

/-- Takes a point and the digits behind it. -/
def readFraction (negative : Bool) (significand : Nat) (exponent : Int) :
    Reading (Binary .double) := do
  skip
  let digits ← takeWhile Char.isDigit
  if digits.isEmpty then
    match ← peek with
    | some _ => failAhead .invalidNumber
    | none => fail .endInValue
  else
    let (significand, leftOut) := gather significand digits
    readAfterDigits negative significand (exponent - (digits.length - leftOut : Nat))

/-- An integer without fraction and exponent: exact if it fits, and minus zero is no integer. -/
def integerNumeral (negative : Bool) (significand : Nat) : Numeral :=
  if !negative then .integer significand
  else if 0 < significand ∧ significand ≤ Nat.pow 2 63 then .integer (-(significand : Int))
  else .float { (Binary.ofRatio false significand 1 : Binary .double) with negative := true }

/-- Goes on behind the whole digits of a number. -/
def readAfterWhole (negative : Bool) (significand leftOut : Nat) : Reading Numeral := do
  match ← peek with
  | some '.' => return .float (← readFraction negative significand leftOut)
  | some 'e' | some 'E' => return .float (← readExponent negative significand leftOut)
  | _ =>
    if leftOut = 0 then return integerNumeral negative significand
    else return .float (← readScaled negative significand leftOut)

/-- Takes a number behind its sign. -/
def readNumeral (negative : Bool) : Reading Numeral := do
  match ← peek with
  | none => fail .endInValue
  | some '0' =>
    skip
    match ← peek with
    | some character =>
      if character.isDigit then failAhead .invalidNumber else readAfterWhole negative 0 0
    | none => readAfterWhole negative 0 0
  | some character =>
    if character.isDigit then
      let (significand, leftOut) := gather 0 (← takeWhile Char.isDigit)
      readAfterWhole negative significand leftOut
    else failAhead .invalidNumber

/-! ## Part 4 — skipping -/

/-- Skips an exponent from its mark on. -/
def skipExponent : Reading Unit := do
  skip
  match ← peek with
  | some '+' | some '-' => skip
  | _ => pure ()
  match ← peek with
  | some character =>
    if character.isDigit then
      let _ ← takeWhile Char.isDigit
    else failAhead .invalidNumber
  | none => fail .invalidNumber

/-- Skips the exponent of a number if it has one. -/
def skipAfterDigits : Reading Unit := do
  match ← peek with
  | some 'e' | some 'E' => skipExponent
  | _ => return ()

/-- Skips what follows the whole digits of a number. -/
def skipAfterWhole : Reading Unit := do
  match ← peek with
  | some '.' =>
    skip
    let digits ← takeWhile Char.isDigit
    if digits.isEmpty then failAhead .invalidNumber else skipAfterDigits
  | _ => skipAfterDigits

/-- Skips a number behind its sign. -/
def skipNumeral : Reading Unit := do
  match ← peek with
  | some '0' =>
    skip
    match ← peek with
    | some character =>
      if character.isDigit then failAhead .invalidNumber else skipAfterWhole
    | none => skipAfterWhole
  | some character =>
    if character.isDigit then
      let _ ← takeWhile Char.isDigit
      skipAfterWhole
    else failAhead .invalidNumber
  | none => fail .invalidNumber

end LayeredConfig.Json
