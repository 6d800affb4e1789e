/-
**Converters from texts to values.**

A converter gives a value, reports that the text stands for no value at all, or refuses the text. A
refusal names the converter, the refused text and a detail, and keeps the messages of its causes.

* `ConversionError`: a refusal;
* `Converter`: a conversion with its name;
* `Converter.optional`: absence as a value;
* `Converter.prioritized`: several converters, tried one after the other.
-/

namespace LayeredConfig.Conversion

/-! ## Part 1 — refusals -/

/-- An error as others see it: its message, and the messages of its own causes from the outside in.
-/
structure Cause where
  message : String
  causes : List String
deriving DecidableEq, Repr, Inhabited

/-- A cause that has no causes of its own. -/
def Cause.plain (message : String) : Cause := ⟨message, []⟩

/-- Why a converter refused a text. -/
structure ConversionError where
  /-- The name of the converter. -/
  converter : String
  /-- The refused text. -/
  input : String
  /-- What is wrong with it. -/
  detail : String
  /-- The messages of the causes, from the outside in. -/
  causes : List String
deriving DecidableEq, Repr, Inhabited

namespace ConversionError

/-- A refusal without causes. -/
def plain (converter input detail : String) : ConversionError :=
  ⟨converter, input, detail, []⟩

/-- The messages of a cause and of its causes. -/
def chain (cause : Cause) : List String := cause.message :: cause.causes

/-- A refusal because of another error, whose message is the detail. -/
def causedBy (converter input : String) (cause : Cause) : ConversionError :=
  ⟨converter, input, cause.message, chain cause⟩

/-- The same refusal with another cause. -/
def withCause (error : ConversionError) (cause : Cause) : ConversionError :=
  { error with causes := chain cause }

/-- The message of a refusal. -/
def message (error : ConversionError) : String :=
  "converter `" ++ error.converter ++ "` rejected `" ++ error.input ++ "`: " ++ error.detail

/-- A refusal as the cause of another error. -/
def toCause (error : ConversionError) : Cause := ⟨error.message, error.causes⟩

end ConversionError

/-! ## Part 2 — converters -/

/-- A conversion of texts; no value means that the text stands for an absent one. -/
structure Converter (Value : Type) where
  /-- The name under which refusals mention the converter. -/
  name : String
  convert : String → Except ConversionError (Option Value)

namespace Converter

variable {Value Other : Type}

/-- The converter that gives every value of another one in a different form. -/
def map (change : Value → Other) (converter : Converter Value) : Converter Other where
  name := converter.name
  convert text := (converter.convert text).map fun value => value.map change

/-- The converter that gives an absent value as a value. A refusal of the empty text counts as
absence. -/
def optional (inner : Converter Value) : Converter (Option Value) where
  name := "optional<" ++ inner.name ++ ">"
  convert text :=
    match inner.convert text with
    | .ok converted => .ok (some converted)
    | .error error => if text.isEmpty then .ok (some none) else .error error

/-- The first value or refusal of several converters; none if all of them report absence. -/
def firstOf : List (Converter Value) → String → Except ConversionError (Option Value)
  | [], _ => .ok none
  | converter :: rest, text =>
    match converter.convert text with
    | .ok none => firstOf rest text
    | outcome => outcome

/-- Several converters as one, tried in the given order. -/
def prioritized (converters : List (Converter Value)) : Converter Value where
  name := "prioritized[" ++ ", ".intercalate (converters.map name) ++ "]"
  convert := firstOf converters

end Converter

end LayeredConfig.Conversion
