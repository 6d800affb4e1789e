/-
**The shortest decimal text of a floating-point number.**

The decimals that read back as a number fill an interval around it. Among those with the fewest
digits the nearest one is written.

* `Binary.shortest`: the fewest digits that read back, and their power of ten;
* `Binary.write`: positional notation near one, an exponent with its sign elsewhere.
-/

import LayeredConfig.Number.Decimal

namespace LayeredConfig.Number

/-! ## Part 1 — the digits -/

/-- The greatest power of ten that does not exceed a positive ratio, searched upwards from a power
that does not exceed it. -/
def floorLog10 (numerator denominator : Nat) : Nat → Int → Int
  | 0, power => power
  | steps + 1, power =>
    let above := power + 1
    let fits :=
      if 0 ≤ above then denominator * Nat.pow 10 above.toNat ≤ numerator
      else denominator ≤ numerator * Nat.pow 10 (-above).toNat
    if fits then floorLog10 numerator denominator steps above else power

namespace Binary

variable {format : BinaryFormat}

/-- A finite number as a ratio. -/
def ratio (number : Binary format) : Nat × Nat :=
  let (numerator, exponent) := number.decompose
  scaled numerator 1 (-exponent)

/-- The distance of a decimal from a ratio, in units that depend on the ratio and the exponent of
the decimal only. -/
def distance (numerator denominator : Nat) (decimal : Decimal) : Nat :=
  let (left, right) :=
    if 0 ≤ decimal.exponent then
      (decimal.digits * Nat.pow 10 decimal.exponent.toNat * denominator, numerator)
    else (decimal.digits * denominator, numerator * Nat.pow 10 (-decimal.exponent).toNat)
  if left ≤ right then right - left else left - right

/-- The nearest decimal that is a multiple of a power of ten and reads back, if there is one; of two
that are equally near the even one. -/
def onGrid (number : Binary format) (exponent : Int) : Option Decimal :=
  let (numerator, denominator) := number.ratio
  let low :=
    if 0 ≤ exponent then numerator / (denominator * Nat.pow 10 exponent.toNat)
    else numerator * Nat.pow 10 (-exponent).toNat / denominator
  let readsBack (decimal : Decimal) : Bool :=
    decimal.digits ≠ 0 && (ofDecimal number.negative decimal : Binary format) == number
  let below : Decimal := ⟨low, exponent⟩
  let above : Decimal := ⟨low + 1, exponent⟩
  match readsBack below, readsBack above with
  | false, false => none
  | true, false => some below
  | false, true => some above
  | true, true =>
    let lower := distance numerator denominator below
    let upper := distance numerator denominator above
    if lower < upper ∨ (lower = upper ∧ low % 2 = 0) then some below else some above

/-- Drops the zeros at the end of a decimal. -/
def withoutTrailingZeros : Nat → Decimal → Decimal
  | 0, decimal => decimal
  | steps + 1, decimal =>
    if decimal.digits ≠ 0 ∧ decimal.digits % 10 = 0 then
      withoutTrailingZeros steps ⟨decimal.digits / 10, decimal.exponent + 1⟩
    else decimal

/-- The decimal with the fewest digits that reads back as a finite number other than zero. -/
def shortest (number : Binary format) : Decimal :=
  let (numerator, denominator) := number.ratio
  let guess := floorLog2 numerator denominator
  let start := guess * 30103 / 100000 - 2
  let leading := floorLog10 numerator denominator 8 start
  let found := (List.range 17).findSome? fun (count : Nat) =>
    number.onGrid (leading - count)
  withoutTrailingZeros 400 (found.getD ⟨0, 0⟩)

/-! ## Part 2 — the text -/

/-- A decimal without trailing zeros, positional where its leading digit stands for a power of ten
from minus five to fifteen, and with an exponent and its sign elsewhere. -/
def writeDecimal (decimal : Decimal) : String :=
  let digits := Nat.toDigits 10 decimal.digits
  let pointAt : Int := digits.length + decimal.exponent
  if 0 ≤ decimal.exponent ∧ pointAt ≤ 16 then
    String.ofList (digits ++ List.replicate decimal.exponent.toNat '0' ++ ['.', '0'])
  else if 0 < pointAt ∧ pointAt ≤ 16 then
    String.ofList (digits.take pointAt.toNat ++ '.' :: digits.drop pointAt.toNat)
  else if -5 < pointAt ∧ pointAt ≤ 0 then
    String.ofList (['0', '.'] ++ List.replicate (-pointAt).toNat '0' ++ digits)
  else
    let mantissa := match digits with
      | first :: second :: rest => first :: '.' :: second :: rest
      | digits => digits
    let mark := if 0 < pointAt then "e+" else "e"
    String.ofList mantissa ++ mark ++ toString (pointAt - 1)

/-- The shortest text of a finite number. -/
def write (number : Binary format) : String :=
  let sign := if number.negative then "-" else ""
  if number.magnitude = 0 then sign ++ "0.0" else sign ++ writeDecimal number.shortest

end Binary

end LayeredConfig.Number
