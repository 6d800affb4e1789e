/-
**Which converter is used for a type.**

Converters may be registered for a type, each with a priority. Where none is registered, one is
derived from what the type offers, and remembered until the offer changes.

* `Target`: the types that can be asked for, built in or added by the user;
* `Registry.register` and `Registry.offer`: the two ways to teach a registry;
* `Registry.supply?` and `Registry.converter`: the registered converters before the derived one;
* `Registry.implicit`: the derived converter, the same one as long as the offer stays;
* `Registry.restore`: the converter of a descriptor.
-/

import LayeredConfig.Conversion.Descriptor
import LayeredConfig.Conversion.Table
import LayeredConfig.Log.Event
import LayeredConfig.Resolve.Error

namespace LayeredConfig.Conversion

open LayeredConfig.Log LayeredConfig.Resolve

/-! ## Part 1 — types -/

/-- Types that are added to those with a reader of their own. -/
class Extension (Extra : Type) where
  /-- The values of a type. -/
  Value : Extra → Type
  /-- The full name of a type. -/
  typeName : Extra → String

/-- A type that can be asked for. -/
inductive Target (Extra : Type) where
  | builtin (type : Builtin)
  | extra (type : Extra)
deriving DecidableEq

namespace Target

variable {Extra : Type} [Extension Extra]

/-- The values of a type. -/
@[reducible] def Value : Target Extra → Type
  | builtin type => type.Value
  | extra type => Extension.Value type

/-- The full name of a type. -/
def typeName : Target Extra → String
  | builtin type => type.typeName
  | extra type => Extension.typeName type

end Target

/-! ## Part 2 — registries -/

/-- A converter with the priority of its registration. -/
structure Registration (Value : Type) where
  priority : Int
  converter : Converter Value

/-- Puts a registration before the first one that does not exceed its priority. -/
def insertRegistration {Value : Type} (new : Registration Value) :
    List (Registration Value) → List (Registration Value)
  | [] => [new]
  | first :: rest =>
    if first.priority ≤ new.priority then new :: first :: rest
    else first :: insertRegistration new rest

/-- A derived converter; derivations are counted, and the count tells one from the other. -/
structure Derivation (Value : Type) where
  serial : Nat
  implicit : ImplicitConverter Value

/-- What a type is supplied with: the registered converters as one, or a derived one. -/
inductive Supply (Value : Type) where
  | registered (converter : Converter Value)
  | derived (derivation : Derivation Value)

/-- The converter that is supplied. -/
def Supply.converter {Value : Type} : Supply Value → Converter Value
  | registered converter => converter
  | derived derivation => derivation.implicit.converter

/-- The registered, the offered and the derived converters of all types. -/
structure Registry (Extra : Type) [Extension Extra] where
  explicit : Table (Target Extra) fun target => List (Registration target.Value)
  idioms : Table (Target Extra) fun target => Idioms target.Value
  derived : Table (Target Extra) fun target => Derivation target.Value
  /-- How many converters have been derived so far. -/
  derivations : Nat

/-- The priority of a registration that names none. -/
def defaultPriority : Int := 100

/-- The priority of the converters that every registry knows. -/
def builtinPriority : Int := 1

namespace Registry

variable {Extra : Type} [DecidableEq Extra] [Extension Extra]

/-- The registry that knows nothing. -/
def empty : Registry Extra := ⟨.empty, .empty, .empty, 0⟩

/-- The registrations for a type, the one to be tried first in front. -/
def registrations (registry : Registry Extra) (target : Target Extra) :
    List (Registration target.Value) :=
  (registry.explicit.get? target).getD []

/-- Registers a converter. -/
def register (registry : Registry Extra) (target : Target Extra)
    (converter : Converter target.Value) (priority : Int) : Registry Extra :=
  let registrations := insertRegistration ⟨priority, converter⟩ (registry.registrations target)
  { registry with explicit := registry.explicit.set target registrations }

/-- Replaces what a type offers; a converter derived from an earlier offer is forgotten. -/
def offer (registry : Registry Extra) (target : Target Extra) (idioms : Idioms target.Value) :
    Registry Extra :=
  { registry with
    idioms := registry.idioms.set target idioms
    derived := registry.derived.erase target }

/-- Registers the converter of a built-in type. -/
def registerBuiltin (registry : Registry Extra) (type : Builtin) : Registry Extra :=
  registry.register (.builtin type) (Converter.builtin type) builtinPriority

/-- The registry that knows the built-in types. -/
def standard : Registry Extra := Builtin.all.foldl registerBuiltin empty

/-! ## Part 3 — asking -/

/-- Whether a converter is registered for a type. -/
def hasExplicit (registry : Registry Extra) (target : Target Extra) : Bool :=
  (registry.explicit.get? target).isSome

/-- The names of the types with registered converters, in ascending order. -/
def registeredTypes (registry : Registry Extra) : List String :=
  (registry.explicit.keys.map Target.typeName).mergeSort fun first second => first ≤ second

/-- The registered converters of a type as one; a single one is given as it is. -/
def explicit? (registry : Registry Extra) (target : Target Extra) :
    Option (Converter target.Value) :=
  match registry.registrations target with
  | [] => none
  | [single] => some single.converter
  | registrations => some (.prioritized (registrations.map Registration.converter))

/-- The converter that the offer of a type makes. -/
def derive? (registry : Registry Extra) (target : Target Extra) :
    Option (ImplicitConverter target.Value) := do
  let idioms ← registry.idioms.get? target
  let (idiom, construct) ← idioms.probe
  return ⟨target.typeName, idiom, construct⟩

/-- The derived converter of a type, derived now if it is not remembered. -/
def implicit (registry : Registry Extra) (target : Target Extra) :
    Logged (Option (Derivation target.Value) × Registry Extra) :=
  match registry.derived.get? target with
  | some derivation => return (some derivation, registry)
  | none =>
    match registry.derive? target with
    | none => return (none, registry)
    | some implicit => do
      let derivation : Derivation target.Value := ⟨registry.derivations, implicit⟩
      emit (.converterDerived target.typeName implicit.idiom.name)
      return (some derivation,
        { registry with
          derived := registry.derived.set target derivation
          derivations := registry.derivations + 1 })

/-- What a type is supplied with: what is registered, else what is derived. -/
def supply? (registry : Registry Extra) (target : Target Extra) :
    Logged (Option (Supply target.Value) × Registry Extra) :=
  match registry.explicit? target with
  | some converter => return (some (.registered converter), registry)
  | none => do
    let (derivation, registry) ← registry.implicit target
    return (derivation.map .derived, registry)

/-- The converter of a type. -/
def converter (registry : Registry Extra) (target : Target Extra) :
    Logged (Except ResolveError (Converter target.Value) × Registry Extra) := do
  let (supply, registry) ← registry.supply? target
  match supply with
  | some supply => return (.ok supply.converter, registry)
  | none => return (.error (.noConverter target.typeName), registry)

/-- The converter of a descriptor, made from what its type offers now. -/
def restore (registry : Registry Extra) (target : Target Extra) (descriptor : Descriptor) :
    Except RestoreError (ImplicitConverter target.Value) :=
  if descriptor.typeName ≠ target.typeName then
    .error (.typeMismatch descriptor.typeName target.typeName)
  else
    match (registry.idioms.get? target).bind fun idioms => idioms.slot descriptor.idiom with
    | some construct => .ok ⟨target.typeName, descriptor.idiom, construct⟩
    | none => .error (.missingIdiom target.typeName descriptor.idiom.name)

/-- The diagnostic text of a registry. -/
def debug (registry : Registry Extra) : String :=
  Text.record "ConverterRegistry"
    [("explicit", quotedList registry.registeredTypes),
     ("idioms", toString registry.idioms.size),
     ("implicit_cached", toString registry.derived.size)] .complete

end Registry

end LayeredConfig.Conversion
