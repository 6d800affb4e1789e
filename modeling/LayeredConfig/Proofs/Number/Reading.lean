/-
**Decimal texts are read as the numbers that they write.**

A limit that the digits read so far exceed ends the reading, and the number only grows with the digits
behind (`le_ofDigitChars`). So reading gives the number of all the digits if it is within the limit, and
the fault of exceeding it otherwise:

* `readDigits_of_le`, `readDigits_of_lt`: digits, within a limit and beyond it;
* `Integer.read_of_high`, `Integer.read_of_low`: decimal texts (`DecimalText`) outside a range;
* `Integer.read_write`: what is written for a number of a range is read back.
-/

import LayeredConfig.Number.Integer
import Mathlib.Tactic.Common

namespace LayeredConfig.Number

/-! ## Part 1 — digits -/

/-- A text of decimal digits only, with at least one of them. -/
structure Digits (text : List Char) : Prop where
  nonempty : text ≠ []
  digits : ∀ character ∈ text, character.isDigit = true

variable {text : List Char} {limit total : Nat} {overflow : IntegerFault}

theorem le_ofDigitChars (text : List Char) (total : Nat) : total ≤ Nat.ofDigitChars 10 text total := by
  rw [Nat.ofDigitChars_eq_ofDigitChars_zero]
  have shifted := Nat.le_mul_of_pos_left total (Nat.pow_pos (n := text.length) (by decide : 0 < 10))
  exact Nat.le_add_right_of_le shifted

/-- Reading goes on behind a digit that stays within the limit. -/
theorem readDigits_cons_of_le {character : Char} (digit : character.isDigit = true)
    (start : total ≤ limit) (inside : 10 * total + digitValue character ≤ limit) (rest : List Char) :
    readDigits limit overflow total start (character :: rest)
      = readDigits limit overflow (10 * total + digitValue character) inside rest := by
  simp only [readDigits, digitValue?, if_pos digit, dif_pos inside]

theorem readDigits_cons_of_lt {character : Char} (digit : character.isDigit = true)
    (start : total ≤ limit) (outside : limit < 10 * total + digitValue character) (rest : List Char) :
    readDigits limit overflow total start (character :: rest) = .error overflow := by
  simp only [readDigits, digitValue?, if_pos digit, dif_neg (Nat.not_le.mpr outside)]

/-- **Digits within the limit are read as their number.** -/
theorem readDigits_of_le (digits : ∀ character ∈ text, character.isDigit = true)
    (start : total ≤ limit) (inside : Nat.ofDigitChars 10 text total ≤ limit) :
    readDigits limit overflow total start text = .ok ⟨Nat.ofDigitChars 10 text total, inside⟩ := by
  induction text generalizing total with
  | nil => rfl
  | cons character rest hypothesis =>
    obtain ⟨here, later⟩ := List.forall_mem_cons.mp digits
    have step : 10 * total + digitValue character ≤ limit :=
      Nat.le_trans (le_ofDigitChars rest _) inside
    rw [readDigits_cons_of_le here start step]
    exact hypothesis later step inside

/-- **Digits beyond the limit are a fault.** -/
theorem readDigits_of_lt (digits : ∀ character ∈ text, character.isDigit = true)
    (start : total ≤ limit) (outside : limit < Nat.ofDigitChars 10 text total) :
    readDigits limit overflow total start text = .error overflow := by
  induction text generalizing total with
  | nil => exact absurd start (Nat.not_le.mpr outside)
  | cons character rest hypothesis =>
    obtain ⟨here, later⟩ := List.forall_mem_cons.mp digits
    by_cases step : 10 * total + digitValue character ≤ limit
    · rw [readDigits_cons_of_le here start step]
      exact hypothesis later step outside
    · exact readDigits_cons_of_lt here start (Nat.not_le.mp step) rest

theorem digits_decimalDigits (value : Nat) : Digits (decimalDigits value) :=
  ⟨Nat.toDigits_ne_nil, fun _ member => Nat.isDigit_of_mem_toDigits (by decide) (by decide) member⟩

theorem ofDigitChars_decimalDigits (value : Nat) :
    Nat.ofDigitChars 10 (decimalDigits value) 0 = value :=
  Nat.ofDigitChars_ten_toDigits

/-! ## Part 2 — integers -/

/-- A decimal text of an integer: digits, of which zeros may stand in front, after any sign or none. -/
inductive DecimalText : Int → List Char → Prop
  | unsigned {digits : List Char} (written : Digits digits) :
      DecimalText (Nat.ofDigitChars 10 digits 0) digits
  | positive {digits : List Char} (written : Digits digits) :
      DecimalText (Nat.ofDigitChars 10 digits 0) ('+' :: digits)
  | negative {digits : List Char} (written : Digits digits) :
      DecimalText (-(Nat.ofDigitChars 10 digits 0 : Int)) ('-' :: digits)

namespace DecimalText

variable {value : Int}

/-- A decimal text holds digits and signs. -/
theorem isDigit_or_sign (decimal : DecimalText value text) :
    ∀ character ∈ text, character.isDigit = true ∨ character = '+' ∨ character = '-' := by
  cases decimal with
  | unsigned written => exact fun character member => .inl (written.digits character member)
  | positive written =>
    refine List.forall_mem_cons.mpr ⟨.inr (.inl rfl), fun character member => ?_⟩
    exact .inl (written.digits character member)
  | negative written =>
    refine List.forall_mem_cons.mpr ⟨.inr (.inr rfl), fun character member => ?_⟩
    exact .inl (written.digits character member)

theorem nonempty (decimal : DecimalText value text) : text ≠ [] := by
  cases decimal with
  | unsigned written => exact written.nonempty
  | positive | negative => exact List.cons_ne_nil _ _

end DecimalText

namespace Integer

variable {kind : IntegerKind} {value : Int}

theorem read_unsigned (written : Digits text) :
    Integer.read kind text
      = (readDigits kind.height .tooLarge 0 (Nat.zero_le _) text).map Integer.ofHeight := by
  obtain ⟨first, rest, rfl⟩ := List.exists_cons_of_ne_nil written.nonempty
  have digit := written.digits first List.mem_cons_self
  have noPlus : first ≠ '+' := by
    rintro rfl
    exact absurd digit (by decide)
  have noMinus : first ≠ '-' := by
    rintro rfl
    exact absurd digit (by decide)
  simp [Integer.read, noPlus, noMinus]

theorem read_positive (written : Digits text) :
    Integer.read kind ('+' :: text)
      = (readDigits kind.height .tooLarge 0 (Nat.zero_le _) text).map Integer.ofHeight := by
  simp [Integer.read, written.nonempty]

theorem read_negative (written : Digits text) :
    Integer.read kind ('-' :: text)
      = if kind.signed then
          (readDigits kind.depth .tooSmall 0 (Nat.zero_le _) text).map Integer.ofDepth
        else .error .invalidDigit := by
  simp [Integer.read, written.nonempty]

/-- **A number above the range is too large.** -/
theorem read_of_high (decimal : DecimalText value text) (high : kind.height < value) :
    Integer.read kind text = .error .tooLarge := by
  cases decimal with
  | unsigned written =>
    rw [read_unsigned written, readDigits_of_lt written.digits _ (by exact_mod_cast high)]
    rfl
  | positive written =>
    rw [read_positive written, readDigits_of_lt written.digits _ (by exact_mod_cast high)]
    rfl
  | negative => omega

/-- **A number below the range is too small**, and one with a minus sign is no number of a range that
has no sign. -/
theorem read_of_low (decimal : DecimalText value text) (low : value < -(kind.depth : Int)) :
    Integer.read kind text = .error (if kind.signed then .tooSmall else .invalidDigit) := by
  cases decimal with
  | unsigned | positive => omega
  | @negative digits written =>
    have beyond : kind.depth < Nat.ofDigitChars 10 digits 0 := by omega
    rw [read_negative written]
    split
    · rw [readDigits_of_lt written.digits _ beyond]
      rfl
    · rfl

theorem decimal_write (integer : Integer kind) : DecimalText integer.value integer.write := by
  have written := digits_decimalDigits integer.value.natAbs
  have number := ofDigitChars_decimalDigits integer.value.natAbs
  unfold write
  split
  · have decimal := DecimalText.negative written
    rwa [number, Int.ofNat_natAbs_of_nonpos (by omega), Int.neg_neg] at decimal
  · have decimal := DecimalText.unsigned written
    rwa [number, Int.natAbs_of_nonneg (by omega)] at decimal

/-- **What is written for a number of a range is read back.** -/
theorem read_write (integer : Integer kind) : Integer.read kind integer.write = .ok integer := by
  have written := digits_decimalDigits integer.value.natAbs
  have number := ofDigitChars_decimalDigits integer.value.natAbs
  obtain ⟨value, lower, upper⟩ := integer
  unfold write
  dsimp only at written number ⊢
  split
  next negative =>
    -- Only a range with a sign has negative numbers.
    have signed : kind.signed = true := by
      by_contra unsigned
      rw [IntegerKind.depth, if_neg unsigned] at lower
      omega
    have inside : Nat.ofDigitChars 10 (decimalDigits value.natAbs) 0 ≤ kind.depth := by omega
    rw [read_negative written, if_pos signed, readDigits_of_le written.digits _ inside]
    simp only [Except.map, ofDepth, number, Except.ok.injEq, Integer.mk.injEq]
    omega
  next positive =>
    have inside : Nat.ofDigitChars 10 (decimalDigits value.natAbs) 0 ≤ kind.height := by omega
    rw [read_unsigned written, readDigits_of_le written.digits _ inside]
    simp only [Except.map, ofHeight, number, Except.ok.injEq, Integer.mk.injEq]
    omega

end Integer

end LayeredConfig.Number
