/-
**The number that digits write.**

Adding one digit after the other costs a product of the whole number for every digit. Joining digits
in pairs, then the pairs in pairs, and so on, gives the same number at a small part of that cost,
which is what a text of many thousand digits needs.

* `positional`: the number of a list of digits;
* `joinPairs`: two digits of a base as one of its square, with `positional_joinPairs`;
* `positionalByPairs`: the number by joining pairs, with `positionalByPairs_eq`;
* `digitValue?`: the value of one decimal digit;
* `digitsValue`: the number that decimal digits write.
-/

namespace LayeredConfig.Number

/-! ## Part 1 — digits of a base -/

/-- The number of digits of a base, the digit of the ones first. -/
def positional (base : Nat) : List Nat → Nat
  | [] => 0
  | digit :: rest => digit + base * positional base rest

/-- Joins the digits of a base in pairs, which are digits of its square. -/
def joinPairs (base : Nat) : List Nat → List Nat
  | low :: high :: rest => (low + base * high) :: joinPairs base rest
  | digits => digits

/-- Joining pairs leaves the number as it is. -/
theorem positional_joinPairs (base : Nat) (digits : List Nat) :
    positional (base * base) (joinPairs base digits) = positional base digits := by
  fun_induction joinPairs base digits with
  | case1 low high rest hypothesis =>
    simp only [positional, hypothesis, Nat.mul_add, Nat.mul_assoc, Nat.add_assoc]
  | case2 digits short =>
    match digits, short with
    | [], _ => rfl
    | [digit], _ => simp [positional]
    | low :: high :: rest, short => exact absurd rfl (short low high rest)

/-- The number of digits of a base, which are joined in pairs so many times before. -/
def positionalByPairs : Nat → Nat → List Nat → Nat
  | 0, base, digits => positional base digits
  | rounds + 1, base, digits => positionalByPairs rounds (base * base) (joinPairs base digits)

/-- However often pairs are joined, the number is the same. -/
theorem positionalByPairs_eq (rounds base : Nat) (digits : List Nat) :
    positionalByPairs rounds base digits = positional base digits := by
  induction rounds generalizing base digits with
  | zero => rfl
  | succ rounds hypothesis =>
    rw [positionalByPairs, hypothesis, positional_joinPairs]

/-! ## Part 2 — decimal digits -/

/-- The value of a decimal digit. -/
def digitValue (character : Char) : Nat :=
  character.toNat - '0'.toNat

/-- The value of a character that is a decimal digit. -/
def digitValue? (character : Char) : Option Nat :=
  if character.isDigit then some (digitValue character) else none

/-- The number that decimal digits write; as many rounds of joining as leave two digits or fewer. -/
def digitsValue (digits : List Char) : Nat :=
  positionalByPairs digits.length.log2 10 (digits.reverse.map digitValue)

/-- The number that decimal digits write grows by one place with each digit. -/
theorem digitsValue_append_singleton (digits : List Char) (last : Char) :
    digitsValue (digits ++ [last]) = 10 * digitsValue digits + digitValue last := by
  simp only [digitsValue, positionalByPairs_eq, List.reverse_append, List.reverse_singleton,
    List.singleton_append, List.map_cons, positional]
  omega

end LayeredConfig.Number
