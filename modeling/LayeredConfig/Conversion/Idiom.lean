/-
**Converters derived from the ways in which a type is made from a text.**

A type may offer several construction functions, at most one for each idiom. The idioms are probed
in a fixed order and the first one that is offered makes the converter. What was chosen can be
written down as a descriptor, which names the type and the idiom only.

* `Idiom`: the seven idioms, in the order in which they are probed;
* `Idioms`: the functions that a type offers;
* `Idioms.probe`: the idiom that is chosen, with its function;
* `ImplicitConverter`: the converter of an idiom.
-/

import LayeredConfig.Conversion.Builtin
import LayeredConfig.Text.Quoted
import LayeredConfig.Text.Record

namespace LayeredConfig.Conversion

/-! ## Part 1 — idioms -/

/-- The ways in which a value is made from a text. -/
inductive Idiom where
  | of
  | valueOf
  | constructor
  | parse
  | constructorStr
  | valueOfStr
  | parseString
deriving DecidableEq, Repr

namespace Idiom

/-- The order in which idioms are probed. -/
def probeOrder : List Idiom :=
  [of, valueOf, constructor, parse, constructorStr, valueOfStr, parseString]

/-- The lasting name of an idiom. -/
def name : Idiom → String
  | of => "of"
  | valueOf => "value_of"
  | constructor => "constructor"
  | parse => "parse"
  | constructorStr => "constructor_str"
  | valueOfStr => "value_of_str"
  | parseString => "parse_string"

/-- The idiom with a lasting name. -/
def ofName? (name : String) : Option Idiom :=
  probeOrder.find? fun idiom => idiom.name == name

/-- The name of an idiom in diagnostics. -/
def label : Idiom → String
  | of => "Of"
  | valueOf => "ValueOf"
  | constructor => "Constructor"
  | parse => "Parse"
  | constructorStr => "ConstructorStr"
  | valueOfStr => "ValueOfStr"
  | parseString => "ParseString"

end Idiom

/-! ## Part 2 — what a type offers -/

/-- A function that makes a value from a text, or fails. -/
abbrev Construct (Value : Type) := String → Except Cause Value

/-- The construction functions of a type, one at most for each idiom. -/
structure Idioms (Value : Type) where
  slot : Idiom → Option (Construct Value)

namespace Idioms

variable {Value : Type}

/-- No functions at all. -/
def empty : Idioms Value := ⟨fun _ => none⟩

/-- Sets the function of an idiom, in place of an earlier one. -/
def set (idioms : Idioms Value) (idiom : Idiom) (construct : Construct Value) : Idioms Value :=
  ⟨fun other => if other = idiom then some construct else idioms.slot other⟩

/-- Whether an idiom is offered. -/
def has (idioms : Idioms Value) (idiom : Idiom) : Bool :=
  (idioms.slot idiom).isSome

/-- The offer of a type that is parsed from texts. -/
def ofParser (construct : Construct Value) : Idioms Value :=
  empty.set .parse construct

/-- The offer of a type that wraps a text and never fails. -/
def ofWrapper (wrap : String → Value) : Idioms Value :=
  empty.set .constructor fun text => .ok (wrap text)

/-- The first idiom of the probe order that is offered, with its function. -/
def probe (idioms : Idioms Value) : Option (Idiom × Construct Value) :=
  Idiom.probeOrder.findSome? fun idiom =>
    (idioms.slot idiom).map fun construct => (idiom, construct)

/-- The diagnostic text of what a type offers. -/
def debug (idioms : Idioms Value) (typeName : String) : String :=
  let offered := Idiom.probeOrder.filter idioms.has
  Text.record "ImplicitIdioms"
    [("type", Text.quote typeName),
     ("idioms", Text.bracketed (offered.map fun idiom => Text.quote idiom.name))] .complete

end Idioms

/-! ## Part 3 — the derived converter -/

/-- The converter that an idiom of a type makes. -/
structure ImplicitConverter (Value : Type) where
  typeName : String
  idiom : Idiom
  construct : Construct Value

namespace ImplicitConverter

variable {Value : Type}

/-- The name of the converter: the type and the idiom. -/
def name (implicit : ImplicitConverter Value) : String :=
  implicit.typeName ++ "::" ++ implicit.idiom.name

/-- The converter itself; its function is called with a trimmed text that is not empty. -/
def converter (implicit : ImplicitConverter Value) : Converter Value :=
  Converter.trimming implicit.name fun text =>
    (implicit.construct text).mapError (ConversionError.causedBy implicit.name text)

/-- The diagnostic text of the converter. -/
def debug (implicit : ImplicitConverter Value) : String :=
  Text.record "ImplicitConverter"
    [("type", Text.quote implicit.typeName), ("idiom", implicit.idiom.label)] .complete

end ImplicitConverter

end LayeredConfig.Conversion
