/-
**The types that can be read without further ado.**

Every type but texts is read from the trimmed text, and a blank text stands for an absent value.
Texts are taken as they are, and only the empty one is absent.

* `Builtin`: the types, `Builtin.Value` their values and `Builtin.typeName` their full names;
* `Builtin.read`: the value that a trimmed text writes, or a `ReadFault`;
* `Converter.builtin`: the converter of each type;
* `Converter.jsonArray`: the converter of arrays of JSON values.
-/

import LayeredConfig.Conversion.Converter
import LayeredConfig.Json.Reader
import LayeredConfig.Text.Blank
import LayeredConfig.Time.Duration

namespace LayeredConfig.Conversion

open LayeredConfig.Number LayeredConfig.Time LayeredConfig.Net

/-! ## Part 1 — types and values -/

/-- The types with a reader of their own. -/
inductive Builtin where
  | text
  | boolean
  | duration
  | integer (kind : IntegerKind)
  | single
  | double
  | character
  | path
  | ip
  | ipv4
  | ipv6
  | socket
deriving DecidableEq, Repr

namespace Builtin

/-- The values of a type. -/
@[reducible] def Value : Builtin → Type
  | text => String
  | boolean => Bool
  | duration => Duration
  | integer kind => Integer kind
  | single => Binary .single
  | double => Binary .double
  | character => Char
  | path => String
  | ip => Ip
  | ipv4 => Ipv4
  | ipv6 => Ipv6
  | socket => Socket

/-- The full name of a type. -/
def typeName : Builtin → String
  | text => "alloc::string::String"
  | boolean => "bool"
  | duration => "core::time::Duration"
  | integer kind => kind.name
  | single => "f32"
  | double => "f64"
  | character => "char"
  | path => "std::path::PathBuf"
  | ip => "core::net::ip_addr::IpAddr"
  | ipv4 => "core::net::ip_addr::Ipv4Addr"
  | ipv6 => "core::net::ip_addr::Ipv6Addr"
  | socket => "core::net::socket_addr::SocketAddr"

/-- The name of the converter of a type: a short one for three types and the full one elsewhere. -/
def converterName : Builtin → String
  | text => "String"
  | boolean => "bool"
  | duration => "Duration"
  | other => other.typeName

/-- All types, in the order in which a registry learns them. -/
def all : List Builtin :=
  [text, boolean, duration, integer .i8, integer .i16, integer .i32, integer .i64, integer .i128,
   integer .isize, integer .u8, integer .u16, integer .u32, integer .u64, integer .u128,
   integer .usize, single, double, character, path, ip, ipv4, ipv6, socket]

end Builtin

/-! ## Part 2 — reading -/

/-- Why a text writes no value of a type. -/
inductive ReadFault where
  | integer (fault : IntegerFault)
  | float (fault : FloatFault)
  | noCharacter
  | manyCharacters
  | duration (fault : DurationFault)
  | ip
  | ipv4
  | ipv6
  | socket
deriving DecidableEq, Repr

namespace ReadFault

/-- The message of a fault. -/
def message : ReadFault → String
  | integer fault => fault.message
  | float fault => fault.message
  | noCharacter => "cannot parse char from empty string"
  | manyCharacters => "too many characters in string"
  | duration fault => fault.message
  | ip => "invalid IP address syntax"
  | ipv4 => "invalid IPv4 address syntax"
  | ipv6 => "invalid IPv6 address syntax"
  | socket => "invalid socket address syntax"

/-- Whether the fault is an error of its own below the refusal. Of the faults of durations only that
of the amount is. -/
def isCause : ReadFault → Bool
  | duration (.amount _) => true
  | duration _ => false
  | _ => true

end ReadFault

/-- A refusal because of a fault. -/
def ConversionError.ofFault (converter input : String) (fault : ReadFault) : ConversionError :=
  if fault.isCause then causedBy converter input (.plain fault.message)
  else plain converter input fault.message

/-- The words that mean true; everything else means false. -/
def truthyWords : List String := ["true", "1", "yes", "y", "on"]

/-- Whether a text means true; the case of ASCII letters does not matter. -/
def isTruthy (text : List Char) : Bool :=
  truthyWords.contains (String.ofList (text.map Char.toLower))

/-- The only character of a text. -/
def readCharacter : List Char → Except ReadFault Char
  | [] => .error .noCharacter
  | [character] => .ok character
  | _ :: _ :: _ => .error .manyCharacters

/-- The value that a text writes. -/
def Builtin.read : (type : Builtin) → List Char → Except ReadFault type.Value
  | .text, written => .ok (String.ofList written)
  | .boolean, written => .ok (isTruthy written)
  | .duration, written => (Duration.read written).mapError .duration
  | .integer kind, written => (Integer.read kind written).mapError .integer
  | .single, written => (Binary.read .single written).mapError .float
  | .double, written => (Binary.read .double written).mapError .float
  | .character, written => readCharacter written
  | .path, written => .ok (String.ofList written)
  | .ip, written => (Ip.read? written).elim (.error .ip) .ok
  | .ipv4, written => (Ipv4.read? written).elim (.error .ipv4) .ok
  | .ipv6, written => (Ipv6.read? written).elim (.error .ipv6) .ok
  | .socket, written => (Socket.read? written).elim (.error .socket) .ok

/-! ## Part 3 — converters -/

/-- The converter of texts: only the empty text is absent. -/
def Converter.text : Converter String where
  name := Builtin.text.converterName
  convert text := .ok (if text.isEmpty then none else some text)

/-- The converter that hands the trimmed text to a reader; a blank text is absent. -/
def Converter.trimming {Value : Type} (name : String)
    (convert : String → Except ConversionError Value) : Converter Value where
  name := name
  convert text :=
    let trimmed := Text.trim text
    if trimmed.isEmpty then .ok none else (convert trimmed).map some

/-- The converter of a type. -/
def Converter.builtin : (type : Builtin) → Converter type.Value
  | .text => Converter.text
  | type =>
    Converter.trimming type.converterName fun text =>
      (type.read text.toList).mapError (ConversionError.ofFault type.converterName text)

/-- The converter of arrays of JSON values. -/
def Converter.jsonArray : Converter (List Json.Value) :=
  Converter.trimming "json-array" fun text =>
    (Json.parseArray text).mapError fun failure =>
      ConversionError.causedBy "json-array" text (.plain failure.message)

end LayeredConfig.Conversion
