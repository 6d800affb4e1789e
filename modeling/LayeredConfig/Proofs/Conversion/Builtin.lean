/-
**The types with a reader of their own are read between the blanks.**

A text of such a type, texts themselves apart, is absent if it is blank, and else it is whatever its
trimmed form is read as. So blanks around it never matter:

* `convert_trimming_eq_none_iff`, `convert_trimming_eq_some_iff`, `convert_trimming_eq_error_iff`: the
  three outcomes of a converter that trims;
* `convert_builtin_eq_none_iff`, `convert_builtin_eq_some_iff`, `convert_builtin_eq_error_iff`: those of
  such a type;
* `convert_integer_of_write`, `refuses_integer_of_outside`: texts of integers, those in range and those
  beyond it.
-/

import LayeredConfig.Conversion.Builtin
import LayeredConfig.Proofs.Conversion.Elements
import LayeredConfig.Proofs.Number.Reading
import LayeredConfig.Proofs.Text.Trimming

namespace LayeredConfig.Conversion

open LayeredConfig.Number LayeredConfig.Text

/-! ## Part 1 — converters that trim -/

section Refusals

variable {Fault Refusal Value : Type} {refusal : Fault → Refusal} {outcome : Except Fault Value}

theorem mapError_eq_ok_iff {value : Value} :
    outcome.mapError refusal = .ok value ↔ outcome = .ok value := by
  cases outcome <;> simp [Except.mapError]

theorem mapError_eq_error_iff {error : Refusal} :
    outcome.mapError refusal = .error error
      ↔ ∃ fault, outcome = .error fault ∧ error = refusal fault := by
  cases outcome <;> simp [Except.mapError, eq_comm]

end Refusals

section Trimming

variable {Value : Type} {name : String} {read : String → Except ConversionError Value} {text : String}

theorem convert_trimming (name : String) (read : String → Except ConversionError Value)
    (text : String) :
    (Converter.trimming name read).convert text
      = if trim text = "" then .ok none else (read (trim text)).map some := by
  simp only [Converter.trimming, String.isEmpty_iff]

theorem convert_trimming_eq_none_iff :
    (Converter.trimming name read).convert text = .ok none ↔ trim text = "" := by
  rw [convert_trimming]
  by_cases blank : trim text = ""
  · simp [blank]
  · rcases read (trim text) with error | value <;> simp [blank, Except.map]

theorem convert_trimming_eq_some_iff {value : Value} :
    (Converter.trimming name read).convert text = .ok (some value)
      ↔ trim text ≠ "" ∧ read (trim text) = .ok value := by
  rw [convert_trimming]
  by_cases blank : trim text = ""
  · simp [blank]
  · rcases read (trim text) with error | value <;> simp [blank, Except.map]

theorem convert_trimming_eq_error_iff {error : ConversionError} :
    (Converter.trimming name read).convert text = .error error
      ↔ trim text ≠ "" ∧ read (trim text) = .error error := by
  rw [convert_trimming]
  by_cases blank : trim text = ""
  · simp [blank]
  · rcases read (trim text) with error | value <;> simp [blank, Except.map]

end Trimming

/-! ## Part 2 — types with a reader of their own -/

section Outcomes

variable {type : Builtin} {text : String}

theorem builtin_eq_trimming (other : type ≠ .text) :
    Converter.builtin type = .trimming type.converterName fun text =>
      (type.read text.toList).mapError (ConversionError.ofFault type.converterName text) := by
  rw [Converter.builtin]
  exact other

theorem convert_builtin_eq_none_iff (other : type ≠ .text) :
    (Converter.builtin type).convert text = .ok none ↔ trimmed text.toList = [] := by
  rw [builtin_eq_trimming other, convert_trimming_eq_none_iff, trim_eq_empty_iff]

theorem convert_builtin_eq_some_iff (other : type ≠ .text) {value : type.Value} :
    (Converter.builtin type).convert text = .ok (some value)
      ↔ trimmed text.toList ≠ [] ∧ type.read (trimmed text.toList) = .ok value := by
  rw [builtin_eq_trimming other, convert_trimming_eq_some_iff, mapError_eq_ok_iff, toList_trim,
    Ne, trim_eq_empty_iff]

theorem convert_builtin_eq_error_iff (other : type ≠ .text) {error : ConversionError} :
    (Converter.builtin type).convert text = .error error
      ↔ trimmed text.toList ≠ [] ∧ ∃ fault, type.read (trimmed text.toList) = .error fault
        ∧ error = ConversionError.ofFault type.converterName (trim text) fault := by
  rw [builtin_eq_trimming other, convert_trimming_eq_error_iff, mapError_eq_error_iff, toList_trim,
    Ne, trim_eq_empty_iff]

end Outcomes

/-! ## Part 3 — integers -/

section Integers

variable {kind : IntegerKind} {value : Int} {decimal : List Char} {text : String}

theorem integer_ne_text (kind : IntegerKind) : Builtin.integer kind ≠ .text := nofun

theorem isBlank_of_decimal (written : DecimalText value decimal) :
    ∀ character ∈ decimal, isBlank character = false := by
  intro character member
  rcases written.isDigit_or_sign character member with digit | rfl | rfl
  · exact isBlank_of_isDigit digit
  · rfl
  · rfl

theorem trimmed_of_decimal (written : DecimalText value decimal) : trimmed decimal = decimal :=
  trimmed_of_unblanked (isBlank_of_decimal written)

/-- **What is written for a number of a range is read back.** -/
theorem convert_integer_of_write {integer : Integer kind}
    (written : trimmed text.toList = integer.write) :
    (Converter.builtin (.integer kind)).convert text = .ok (some integer) := by
  rw [convert_builtin_eq_some_iff (integer_ne_text kind), written]
  refine ⟨integer.decimal_write.nonempty, ?_⟩
  show (Integer.read kind integer.write).mapError ReadFault.integer = .ok integer
  rw [Integer.read_write]
  rfl

/-- **A decimal text of a number outside the range is refused.** -/
theorem refuses_integer_of_outside (written : DecimalText value decimal)
    (outside : value < -(kind.depth : Int) ∨ kind.height < value)
    (same : trimmed text.toList = decimal) :
    (Converter.builtin (.integer kind)).Refuses text := by
  obtain ⟨fault, refused⟩ : ∃ fault, Integer.read kind decimal = .error fault := by
    rcases outside with low | high
    · exact ⟨_, Integer.read_of_low written low⟩
    · exact ⟨_, Integer.read_of_high written high⟩
  refine ⟨_, (convert_builtin_eq_error_iff (integer_ne_text kind)).mpr ⟨?_, .integer fault, ?_, rfl⟩⟩
  · rw [same]
    exact written.nonempty
  · show (Integer.read kind (trimmed text.toList)).mapError ReadFault.integer = .error (.integer fault)
    rw [same, refused]
    rfl

end Integers

end LayeredConfig.Conversion
