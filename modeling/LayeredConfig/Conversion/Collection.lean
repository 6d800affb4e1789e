/-
**Lists of values in one text.**

The text is split at its commas and every element is converted. All elements are converted before
any absent one is looked at, so a refused element comes first wherever it stands.

* `NullHandling`: what becomes of an element that is absent;
* `convertElements` and `settle`: the two passes;
* `Converter.collection`: the converter of lists over a converter of elements.
-/

import LayeredConfig.Conversion.Converter
import LayeredConfig.Text.EscapedList
import LayeredConfig.Text.Quoted
import LayeredConfig.Text.Record

namespace LayeredConfig.Conversion

/-! ## Part 1 — absent elements -/

/-- What becomes of an absent element. -/
inductive NullHandling (Value : Type) where
  /-- It is left out. -/
  | skip
  /-- A default value takes its place. -/
  | fill (default : Value)
  /-- The list is refused. -/
  | reject

/-- The name of a way to handle absent elements. -/
def NullHandling.name {Value : Type} : NullHandling Value → String
  | skip => "Skip"
  | fill _ => "ZeroFill"
  | reject => "Reject"

/-! ## Part 2 — the two passes -/

section

variable {Value : Type}

/-- The name of the converter of lists over a converter of elements. -/
def collectionName (element : Converter Value) : String :=
  "collection<" ++ element.name ++ ">"

/-- The refusal of a list because one of its elements is refused. -/
def elementError (element : Converter Value) (position : Nat) (text : String)
    (error : ConversionError) : ConversionError :=
  (ConversionError.plain (collectionName element) text
    ("element " ++ toString position ++ ": " ++ error.detail)).withCause error.toCause

/-- The refusal of a list because one of its elements is absent. -/
def nullError (element : Converter Value) (position : Nat) (text : String) : ConversionError :=
  ConversionError.plain (collectionName element) text
    ("element " ++ toString position ++ " converted to null by converter " ++ element.name)

/-- Converts the elements that stand behind `position` others; the first refusal ends it. -/
def convertElements (element : Converter Value) :
    (position : Nat) → List String → Except ConversionError (List (Option Value))
  | _, [] => .ok []
  | position, text :: rest =>
    match element.convert text with
    | .error error => .error (elementError element position text error)
    | .ok item => (convertElements element (position + 1) rest).map (item :: ·)

/-- The values of converted elements that stand behind `position` others, absent ones handled. -/
def settle (element : Converter Value) (nulls : NullHandling Value) (text : String) :
    (position : Nat) → List (Option Value) → Except ConversionError (List Value)
  | _, [] => .ok []
  | position, some item :: rest =>
    (settle element nulls text (position + 1) rest).map (item :: ·)
  | position, none :: rest =>
    match nulls with
    | .skip => settle element nulls text (position + 1) rest
    | .fill default => (settle element nulls text (position + 1) rest).map (default :: ·)
    | .reject => .error (nullError element position text)

/-- The list that a text writes; absent if every element is. -/
def convertList (element : Converter Value) (nulls : NullHandling Value) (text : String) :
    Except ConversionError (Option (List Value)) :=
  match convertElements element 0 (Text.EscapedList.split text) with
  | .error error => .error error
  | .ok items =>
    if items.all Option.isNone then .ok none
    else (settle element nulls text 0 items).map some

/-! ## Part 3 — the converter -/

/-- The converter of lists over a converter of elements. -/
def Converter.collection (element : Converter Value) (nulls : NullHandling Value) :
    Converter (List Value) where
  name := collectionName element
  convert := convertList element nulls

/-- The diagnostic text of a converter of lists. -/
def collectionDebug (element : Converter Value) (nulls : NullHandling Value) : String :=
  Text.record "CollectionConverter"
    [("element", Text.quote element.name), ("policy", nulls.name)] .complete

end

end LayeredConfig.Conversion
