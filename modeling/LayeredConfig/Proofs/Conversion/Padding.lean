/-
**Blanks around a text do not matter.**

A converter that reads the trimmed text gives and refuses the same whatever blanks stand around the
text, takes exactly the blank texts for absent, and shows the trimmed text in every refusal
(`Converter.IgnoresBlanks`):

* `ignoresBlanks_trimming`: so do all converters that hand the trimmed text to a reader;
* `asksTrimmed`: a construction function is asked for nothing but trimmed texts that are not empty;
* `ignoresBlanks_converters`: among the converters of the built-in types the one of texts is the only
  one to which blanks matter, and they do not matter to JSON arrays, parsers and derived converters.
-/

import LayeredConfig.Conversion.Idiom
import LayeredConfig.Proofs.Conversion.Builtin

namespace LayeredConfig.Conversion

open LayeredConfig.Text

variable {Value : Type}

/-! ## Part 1 — converters that trim -/

/-- To a converter it does not matter which blanks stand around a text. -/
structure Converter.IgnoresBlanks (converter : Converter Value) : Prop where
  /-- With blanks around it a text gives the same value, the same absence or the same refusal. -/
  padded : ∀ before text after : String, Blanks before.toList → Blanks after.toList →
    converter.convert (before ++ text ++ after) = converter.convert text
  /-- The blank texts, and no others, are absent. -/
  absent_iff : ∀ text, converter.convert text = .ok none ↔ Blanks text.toList
  /-- A refusal shows the text without the blanks around it. -/
  shown : ∀ text error, converter.convert text = .error error → error.input = trim text

/-- **A converter that hands the trimmed text to a reader ignores blanks**, if it shows in a refusal the
text that the reader was given. -/
theorem ignoresBlanks_trimming {Fault : Type} (name : String) (read : String → Except Fault Value)
    {refusal : String → Fault → ConversionError}
    (shows : ∀ text fault, (refusal text fault).input = text) :
    (Converter.trimming name fun text => (read text).mapError (refusal text)).IgnoresBlanks := by
  constructor
  case padded =>
    intro before text after blankBefore blankAfter
    rw [convert_trimming, convert_trimming, trim_padded blankBefore blankAfter]
  case absent_iff =>
    intro text
    rw [convert_trimming_eq_none_iff, trim_eq_empty_iff, trimmed_eq_nil_iff]
  case shown =>
    intro text error refused
    obtain ⟨_, refusedTrimmed⟩ := convert_trimming_eq_error_iff.mp refused
    obtain ⟨fault, _, rfl⟩ := mapError_eq_error_iff.mp refusedTrimmed
    exact shows _ fault

theorem input_ofFault (converter input : String) (fault : ReadFault) :
    (ConversionError.ofFault converter input fault).input = input := by
  unfold ConversionError.ofFault
  split <;> rfl

/-! ## Part 2 — built-in types -/

/-- A text keeps the blanks around it. -/
theorem not_ignoresBlanks_text : ¬ (Converter.builtin .text).IgnoresBlanks := by
  intro ignores
  have blank : Blanks " ".toList := by decide
  cases (ignores.absent_iff " ").mpr blank

theorem ignoresBlanks_builtin_iff (type : Builtin) :
    (Converter.builtin type).IgnoresBlanks ↔ type ≠ .text := by
  refine ⟨fun ignores same => not_ignoresBlanks_text (same ▸ ignores), fun other => ?_⟩
  rw [builtin_eq_trimming other]
  exact ignoresBlanks_trimming _ _ (input_ofFault type.converterName)

theorem ignoresBlanks_jsonArray : Converter.jsonArray.IgnoresBlanks :=
  ignoresBlanks_trimming _ _ fun _ _ => rfl

/-! ## Part 3 — construction functions -/

/-- The converter of a parser, whose errors are the causes of the refusals, ignores blanks. -/
theorem ignoresBlanks_parsing (name : String) (parse : Construct Value) :
    (Converter.trimming name fun text =>
      (parse text).mapError (ConversionError.causedBy name text)).IgnoresBlanks :=
  ignoresBlanks_trimming _ _ fun _ _ => rfl

/-- A text that may be put to a construction function: it is trimmed and not empty. -/
def IsQuestion (text : String) : Prop := text ≠ "" ∧ trim text = text

/-- The converter puts nothing to its construction function but trimmed texts that are not empty. -/
structure ImplicitConverter.AsksTrimmed (implicit : ImplicitConverter Value) : Prop where
  /-- A text that is not blank becomes what the function makes of its trimmed form. -/
  answered : ∀ text, ¬ Blanks text.toList → IsQuestion (trim text)
    ∧ implicit.converter.convert text
      = ((implicit.construct (trim text)).mapError
          (ConversionError.causedBy implicit.name (trim text))).map some
  /-- Another function that agrees on these questions makes the same converter. -/
  unasked : ∀ construct, (∀ text, IsQuestion text → construct text = implicit.construct text) →
    ∀ text, ({ implicit with construct } : ImplicitConverter Value).converter.convert text
      = implicit.converter.convert text

theorem isQuestion_trim {text : String} (filled : trim text ≠ "") : IsQuestion (trim text) :=
  ⟨filled, trim_trim text⟩

/-- **A construction function is only asked for trimmed texts that are not empty.** -/
theorem asksTrimmed (implicit : ImplicitConverter Value) : implicit.AsksTrimmed := by
  constructor
  case answered =>
    intro text filled
    rw [← trimmed_eq_nil_iff, ← trim_eq_empty_iff] at filled
    refine ⟨isQuestion_trim filled, ?_⟩
    rw [ImplicitConverter.converter, convert_trimming, if_neg filled]
  case unasked =>
    intro construct agree text
    rw [ImplicitConverter.converter, ImplicitConverter.converter, convert_trimming, convert_trimming]
    split
    next => rfl
    next filled =>
      have same := agree _ (isQuestion_trim filled)
      show ((construct (trim text)).mapError _).map some = _
      rw [same]
      rfl

/-- **Blanks around a text matter to the converter of texts only**, be it for values, for absence or
for any part of a refusal. -/
theorem ignoresBlanks_converters :
    (∀ type : Builtin, (Converter.builtin type).IgnoresBlanks ↔ type ≠ .text)
    ∧ Converter.jsonArray.IgnoresBlanks
    ∧ (∀ (Value : Type) (name : String) (parse : Construct Value),
      (Converter.trimming name fun text =>
        (parse text).mapError (ConversionError.causedBy name text)).IgnoresBlanks)
    ∧ ∀ (Value : Type) (implicit : ImplicitConverter Value),
      implicit.converter.IgnoresBlanks ∧ implicit.AsksTrimmed :=
  ⟨ignoresBlanks_builtin_iff, ignoresBlanks_jsonArray, fun _ => ignoresBlanks_parsing,
    fun _ implicit => ⟨ignoresBlanks_parsing implicit.name implicit.construct, asksTrimmed implicit⟩⟩

/-- Blanks of four kinds around a text that is no number, and a text of blanks only. -/
theorem ignoresBlanks_converters_sample :
    let integers := Converter.builtin (.integer .i32)
    Builtin.integer .i32 ≠ .text ∧ Blanks "\t\u2003".toList ∧ Blanks "\u3000\n".toList
    ∧ integers.convert ("\t\u2003" ++ "4 2" ++ "\u3000\n") = integers.convert "4 2"
    ∧ integers.convert "4 2" = .error
      ⟨"i32", "4 2", "invalid digit found in string", ["invalid digit found in string"]⟩
    ∧ integers.convert "\t\u2003" = .ok none := by
  intro integers
  have other : Builtin.integer .i32 ≠ .text := by decide
  have before : Blanks "\t\u2003".toList := by decide
  have after : Blanks "\u3000\n".toList := by decide
  have ignores := (ignoresBlanks_converters.1 (.integer .i32)).mpr other
  exact ⟨other, before, after, ignores.padded _ "4 2" _ before after, rfl,
    (ignores.absent_iff _).mpr before⟩

end LayeredConfig.Conversion
