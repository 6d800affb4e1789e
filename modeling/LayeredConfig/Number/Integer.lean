/-
**Integers of a fixed range and their decimal texts.**

A text is read from left to right. The first fault ends the reading: a character that is no digit
where it stands, and a number out of range as soon as the digits read so far exceed the bound.

* `IntegerKind`: the twelve ranges, each with its name;
* `Integer`: a number of a range, with the proof that it lies there;
* `Integer.read`: the number that a text writes, or the fault;
* `Integer.write`: the decimal text of a number.
-/

import LayeredConfig.Number.Digits

namespace LayeredConfig.Number

/-! ## Part 1 — ranges -/

/-- The ranges of the integer types, signed ones in two's complement. -/
inductive IntegerKind where
  | i8 | i16 | i32 | i64 | i128 | isize | u8 | u16 | u32 | u64 | u128 | usize
deriving DecidableEq, Repr

namespace IntegerKind

/-- The name of the type. -/
def name : IntegerKind → String
  | i8 => "i8" | i16 => "i16" | i32 => "i32" | i64 => "i64" | i128 => "i128" | isize => "isize"
  | u8 => "u8" | u16 => "u16" | u32 => "u32" | u64 => "u64" | u128 => "u128" | usize => "usize"

/-- Whether the range holds negative numbers. -/
def signed : IntegerKind → Bool
  | i8 | i16 | i32 | i64 | i128 | isize => true
  | u8 | u16 | u32 | u64 | u128 | usize => false

/-- The number of bits of the type. -/
def width : IntegerKind → Nat
  | i8 | u8 => 8
  | i16 | u16 => 16
  | i32 | u32 => 32
  | i64 | u64 | isize | usize => 64
  | i128 | u128 => 128

/-- The greatest absolute value of a negative number of the range. -/
def depth (kind : IntegerKind) : Nat :=
  if kind.signed then Nat.pow 2 (kind.width - 1) else 0

/-- The greatest number of the range. -/
def height (kind : IntegerKind) : Nat :=
  if kind.signed then Nat.pow 2 (kind.width - 1) - 1 else Nat.pow 2 kind.width - 1

end IntegerKind

/-- A number that lies in the range of its kind. -/
structure Integer (kind : IntegerKind) where
  value : Int
  depth_le : -(kind.depth : Int) ≤ value
  le_height : value ≤ kind.height
deriving DecidableEq

/-! ## Part 2 — reading -/

/-- Why a text writes no number of a range. -/
inductive IntegerFault where
  | empty
  | invalidDigit
  | tooLarge
  | tooSmall
deriving DecidableEq, Repr

/-- The message of a fault. -/
def IntegerFault.message : IntegerFault → String
  | empty => "cannot parse integer from empty string"
  | invalidDigit => "invalid digit found in string"
  | tooLarge => "number too large to fit in target type"
  | tooSmall => "number too small to fit in target type"

/-- Reads digits behind those that gave `total`; `overflow` is the fault of exceeding the limit. -/
def readDigits (limit : Nat) (overflow : IntegerFault) :
    (total : Nat) → total ≤ limit → List Char → Except IntegerFault { value : Nat // value ≤ limit }
  | total, bound, [] => .ok ⟨total, bound⟩
  | total, _, character :: rest =>
    match digitValue? character with
    | none => .error .invalidDigit
    | some digit =>
      if bound : 10 * total + digit ≤ limit then
        readDigits limit overflow (10 * total + digit) bound rest
      else .error overflow

/-- A number of the range that is not negative. -/
def Integer.ofHeight {kind : IntegerKind} (value : { value : Nat // value ≤ kind.height }) :
    Integer kind :=
  ⟨value.1, by omega, by have bound := value.2; omega⟩

/-- A number of the range that is not positive, from its absolute value. -/
def Integer.ofDepth {kind : IntegerKind} (value : { value : Nat // value ≤ kind.depth }) :
    Integer kind :=
  ⟨-(value.1 : Int), by have bound := value.2; omega, by omega⟩

/-- The number that a text writes: digits, after a plus sign or, where the range is signed, after a
minus sign. -/
def Integer.read (kind : IntegerKind) : List Char → Except IntegerFault (Integer kind)
  | [] => .error .empty
  | ['+'] | ['-'] => .error .invalidDigit
  | '+' :: digits =>
    (readDigits kind.height .tooLarge 0 (Nat.zero_le _) digits).map Integer.ofHeight
  | '-' :: digits =>
    if kind.signed then
      (readDigits kind.depth .tooSmall 0 (Nat.zero_le _) digits).map Integer.ofDepth
    else .error .invalidDigit
  | digits => (readDigits kind.height .tooLarge 0 (Nat.zero_le _) digits).map Integer.ofHeight

/-! ## Part 3 — writing -/

/-- Zero lies in every range. -/
def Integer.zero {kind : IntegerKind} : Integer kind :=
  Integer.ofHeight ⟨0, Nat.zero_le _⟩

/-- The decimal digits of a number. -/
def decimalDigits (value : Nat) : List Char :=
  Nat.toDigits 10 value

/-- The decimal text of a number: its digits, after a minus sign if it is negative. -/
def Integer.write {kind : IntegerKind} (integer : Integer kind) : List Char :=
  if integer.value < 0 then '-' :: decimalDigits integer.value.natAbs
  else decimalDigits integer.value.natAbs

end LayeredConfig.Number
