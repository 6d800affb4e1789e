/-
**Binary floating-point numbers.**

A number is kept as its sign and its magnitude, the bits of the interchange format without the sign
bit. Magnitudes grow with the numbers that they stand for, and one more is the next number, so a
rounded numerator that carries into the next power of two needs no care.

* `BinaryFormat`: the precision and the width of the exponent;
* `Binary`: numbers of a format, with zeros, infinities and one kind of "not a number";
* `Binary.ofRatio`: the number nearest to a ratio, of two the one with the even magnitude;
* `Binary.times` and `Binary.dividedBy`: correctly rounded products and quotients of finite numbers.
-/

namespace LayeredConfig.Number

/-! ## Part 1 — formats -/

/-- A binary interchange format. -/
structure BinaryFormat where
  /-- The bits of a numerator, the leading one included. -/
  precision : Nat
  /-- The bits of the exponent. -/
  exponentWidth : Nat
deriving DecidableEq, Repr

namespace BinaryFormat

/-- The format of thirty-two bits. -/
def single : BinaryFormat := ⟨24, 8⟩

/-- The format of sixty-four bits. -/
def double : BinaryFormat := ⟨53, 11⟩

/-- The bits of a whole number. -/
def width (format : BinaryFormat) : Nat :=
  format.precision + format.exponentWidth

/-- The power of two of which every number is a multiple. -/
def leastExponent (format : BinaryFormat) : Int :=
  3 - Nat.pow 2 (format.exponentWidth - 1) - format.precision

/-- The magnitude of infinity; finite numbers have smaller ones. -/
def infinity (format : BinaryFormat) : Nat :=
  (Nat.pow 2 format.exponentWidth - 1) * Nat.pow 2 (format.precision - 1)

end BinaryFormat

/-- A number of a format. -/
structure Binary (format : BinaryFormat) where
  negative : Bool
  magnitude : Nat
deriving DecidableEq, Repr

namespace Binary

variable {format : BinaryFormat}

/-- Zero with the sign plus. -/
def zero : Binary format := ⟨false, 0⟩

/-- Infinity with a sign. -/
def infinite (negative : Bool) : Binary format := ⟨negative, format.infinity⟩

/-- A value that is not a number. -/
def nan : Binary format := ⟨false, format.infinity + Nat.pow 2 (format.precision - 2)⟩

/-- A value that is not a number has a magnitude above that of infinity. -/
def isNan (number : Binary format) : Bool :=
  format.infinity < number.magnitude

/-- An infinity of either sign. -/
def isInfinite (number : Binary format) : Bool :=
  number.magnitude == format.infinity

/-- The interchange bits, the sign first. -/
def bits (number : Binary format) : Nat :=
  (if number.negative then Nat.pow 2 (format.width - 1) else 0) + number.magnitude

/-- The number with the other sign. -/
def negate (number : Binary format) : Binary format :=
  { number with negative := !number.negative }

/-- A finite number is its numerator times a power of two. -/
def decompose (number : Binary format) : Nat × Int :=
  let half := Nat.pow 2 (format.precision - 1)
  let exponent := number.magnitude / half
  if exponent = 0 then (number.magnitude, format.leastExponent)
  else (number.magnitude % half + half, format.leastExponent + (exponent - 1))

end Binary

/-! ## Part 2 — rounding -/

/-- The integer nearest to a quotient; a half goes to the even neighbour. -/
def nearest (numerator denominator : Nat) : Nat :=
  let quotient := numerator / denominator
  let rest := numerator % denominator
  if 2 * rest > denominator ∨ (2 * rest = denominator ∧ quotient % 2 = 1) then quotient + 1
  else quotient

/-- The greatest power of two that does not exceed a positive ratio, as its exponent. -/
def floorLog2 (numerator denominator : Nat) : Int :=
  let guess : Int := (numerator.log2 : Int) - denominator.log2
  let fits :=
    if 0 ≤ guess then denominator * Nat.pow 2 guess.toNat ≤ numerator
    else denominator ≤ numerator * Nat.pow 2 (-guess).toNat
  if fits then guess else guess - 1

/-- A ratio divided by a power of two. -/
def scaled (numerator denominator : Nat) (exponent : Int) : Nat × Nat :=
  if 0 ≤ exponent then (numerator, denominator * Nat.pow 2 exponent.toNat)
  else (numerator * Nat.pow 2 (-exponent).toNat, denominator)

/-- The magnitude nearest to a ratio, that of infinity if the ratio is too large. -/
def roundedMagnitude (format : BinaryFormat) (numerator denominator : Nat) : Nat :=
  if numerator = 0 then 0
  else
    let exponent := max format.leastExponent
      (floorLog2 numerator denominator - (format.precision - 1 : Nat))
    let (numerator, denominator) := scaled numerator denominator exponent
    let steps := (exponent - format.leastExponent).toNat
    min format.infinity (steps * Nat.pow 2 (format.precision - 1) + nearest numerator denominator)

namespace Binary

variable {format : BinaryFormat}

/-- The number nearest to a ratio with the given sign. -/
def ofRatio (negative : Bool) (numerator denominator : Nat) : Binary format :=
  ⟨negative, roundedMagnitude format numerator denominator⟩

/-- The number nearest to a ratio times a power of two. -/
def ofScaledRatio (negative : Bool) (numerator denominator : Nat) (exponent : Int) :
    Binary format :=
  let (numerator, denominator) := scaled numerator denominator (-exponent)
  ofRatio negative numerator denominator

/-- The rounded product of two finite numbers. -/
def times (first second : Binary format) : Binary format :=
  let (firstNumerator, firstExponent) := first.decompose
  let (secondNumerator, secondExponent) := second.decompose
  ofScaledRatio (first.negative != second.negative) (firstNumerator * secondNumerator) 1
    (firstExponent + secondExponent)

/-- The rounded quotient of a finite number by a finite number other than zero. -/
def dividedBy (first second : Binary format) : Binary format :=
  let (firstNumerator, firstExponent) := first.decompose
  let (secondNumerator, secondExponent) := second.decompose
  ofScaledRatio (first.negative != second.negative) firstNumerator secondNumerator
    (firstExponent - secondExponent)

end Binary

end LayeredConfig.Number
