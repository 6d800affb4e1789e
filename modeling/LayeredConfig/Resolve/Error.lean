/-
**Why a property has no value.**

* `ExpansionError`: a reference that leads nowhere, or too far;
* `ResolveError`: a property that is not found, one that cannot be converted, and a type without
  converter;
* `RestoreError`: a descriptor that no longer fits;
* `message` of each: its wording.
-/

import LayeredConfig.Conversion.Converter

namespace LayeredConfig.Resolve

open LayeredConfig.Conversion

/-! ## Part 1 — references -/

/-- A reference that could not be followed. -/
structure ExpansionError where
  /-- What the reference names. -/
  reference : String
  /-- Whether a limit was reached, which mostly means that the references run in a circle. -/
  depthExceeded : Bool
deriving DecidableEq, Repr

namespace ExpansionError

/-- A reference to a property that does not exist. -/
def unresolved (reference : String) : ExpansionError := ⟨reference, false⟩

/-- A reference that is followed no further. -/
def tooDeep (reference : String) : ExpansionError := ⟨reference, true⟩

/-- The message of a failed reference. -/
def message (error : ExpansionError) : String :=
  if error.depthExceeded then
    "expression expansion depth exceeded while resolving `" ++ error.reference ++ "`"
  else "unresolved expression reference `" ++ error.reference ++ "`"

end ExpansionError

/-! ## Part 2 — properties -/

/-- Why a property has no value of the type that was asked for. -/
inductive ResolveError where
  /-- No source gives a value, or a reference in it leads nowhere. -/
  | notFound (name : String) (unresolved : Option String)
  /-- There is a value, and its converter refuses it. -/
  | conversion (name raw : String) (error : ConversionError)
  /-- No converter is known for the type. -/
  | noConverter (typeName : String)
deriving DecidableEq, Repr

namespace ResolveError

/-- Whether a property is missing. -/
def isNotFound : ResolveError → Bool
  | notFound _ _ => true
  | _ => false

/-- The property that is asked for; a type without converter concerns none. -/
def propertyName? : ResolveError → Option String
  | notFound name _ => some name
  | conversion name _ _ => some name
  | noConverter _ => none

/-- The messages of the causes, from the outside in. -/
def causes : ResolveError → List String
  | conversion _ _ error => error.message :: error.causes
  | _ => []

/-- The message of an error. -/
def message : ResolveError → String
  | notFound name none => "property `" ++ name ++ "` not found"
  | notFound name (some reference) =>
    "property `" ++ name ++ "` not found (unresolved expression reference `" ++ reference ++ "`)"
  | conversion name raw error =>
    "failed to convert property `" ++ name ++ "` (raw value `" ++ raw ++ "`): " ++ error.message
  | noConverter typeName => "no converter registered for type `" ++ typeName ++ "`"

end ResolveError

/-! ## Part 3 — descriptors -/

/-- Why a descriptor gives no converter. -/
inductive RestoreError where
  /-- It was written for another type. -/
  | typeMismatch (recorded requested : String)
  /-- The type does not offer its idiom. -/
  | missingIdiom (typeName idiom : String)
deriving DecidableEq, Repr

/-- The message of an error. -/
def RestoreError.message : RestoreError → String
  | typeMismatch recorded requested =>
    "descriptor was recorded for `" ++ recorded ++ "` but `" ++ requested ++ "` was requested"
  | missingIdiom typeName idiom =>
    "type `" ++ typeName ++ "` no longer provides the `" ++ idiom ++ "` construction idiom"

end LayeredConfig.Resolve
