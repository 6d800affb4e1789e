/-
**Decimal texts of floating-point numbers.**

A number is written as digits with at most one point among them and at least one digit, then perhaps
an exponent of at least one digit. A sign may stand in front. The words `inf`, `infinity` and `nan`
are read in any case. The number is the one nearest to what is written, however many digits that
has.

* `Decimal`: digits times a power of ten;
* `Decimal.read`: the decimal that a text without a sign writes;
* `Binary.read`: the floating-point number that a text writes.
-/

import LayeredConfig.Number.Binary
import LayeredConfig.Number.Digits

namespace LayeredConfig.Number

/-! ## Part 1 — decimals -/

/-- The number `digits * 10 ^ exponent`. -/
structure Decimal where
  digits : Nat
  exponent : Int
deriving DecidableEq, Repr

/-- Reads an exponent: an `e` of either case, perhaps a sign, and digits to the end. An empty text
is the exponent zero. -/
def readExponent : List Char → Option Int
  | [] => some 0
  | mark :: rest =>
    if mark ≠ 'e' ∧ mark ≠ 'E' then none
    else
      let (negative, digits) := match rest with
        | '-' :: digits => (true, digits)
        | '+' :: digits => (false, digits)
        | digits => (false, digits)
      if digits.isEmpty || !digits.all Char.isDigit then none
      else
        let value : Int := digitsValue digits
        some (if negative then -value else value)

/-- The decimal that a text writes, to the end of the text. -/
def Decimal.read (text : List Char) : Option Decimal :=
  let whole := text.takeWhile Char.isDigit
  let (fraction, rest) := match text.dropWhile Char.isDigit with
    | '.' :: behind => (behind.takeWhile Char.isDigit, behind.dropWhile Char.isDigit)
    | rest => ([], rest)
  if whole.isEmpty && fraction.isEmpty then none
  else (readExponent rest).map fun exponent =>
    ⟨digitsValue (whole ++ fraction), exponent - fraction.length⟩

/-! ## Part 2 — to the nearest binary number -/

/-- An exponent of ten beyond which a decimal with such digits is infinite or zero. The digits are
counted in base two, of which there are no fewer than in base ten. -/
def Decimal.reach (decimal : Decimal) : Nat :=
  500 + decimal.digits.log2

/-- The number nearest to a decimal. -/
def Binary.ofDecimal {format : BinaryFormat} (negative : Bool) (decimal : Decimal) :
    Binary format :=
  if decimal.digits = 0 then ⟨negative, 0⟩
  else if decimal.exponent > decimal.reach then infinite negative
  else if decimal.exponent < -(decimal.reach : Int) then ⟨negative, 0⟩
  else if 0 ≤ decimal.exponent then
    ofRatio negative (decimal.digits * Nat.pow 10 decimal.exponent.toNat) 1
  else ofRatio negative decimal.digits (Nat.pow 10 (-decimal.exponent).toNat)

/-! ## Part 3 — whole texts -/

/-- Why a text writes no floating-point number. -/
inductive FloatFault where
  | empty
  | invalid
deriving DecidableEq, Repr

/-- The message of a fault. -/
def FloatFault.message : FloatFault → String
  | empty => "cannot parse float from empty string"
  | invalid => "invalid float literal"

/-- Reads what stands behind the sign. -/
def Binary.readUnsigned {format : BinaryFormat} (negative : Bool) (text : List Char) :
    Except FloatFault (Binary format) :=
  let word := String.ofList (text.map Char.toLower)
  if word = "inf" ∨ word = "infinity" then .ok (infinite negative)
  else if word = "nan" then .ok { (nan : Binary format) with negative }
  else
    match Decimal.read text with
    | some decimal => .ok (ofDecimal negative decimal)
    | none => .error .invalid

/-- The floating-point number that a text writes. -/
def Binary.read (format : BinaryFormat) : List Char → Except FloatFault (Binary format)
  | [] => .error .empty
  | '-' :: text => readUnsigned true text
  | '+' :: text => readUnsigned false text
  | text => readUnsigned false text

end LayeredConfig.Number
