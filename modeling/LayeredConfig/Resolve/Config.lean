/-
**Asking a configuration for values.**

A configuration holds sources, the chain in front of them, converters and the active profiles. A
value is looked up through the chain and then converted. A required value has to be there. An
optional one may be absent, and a text that cannot be converted is refused in both cases unless it
is empty.

* `Config.configValue`: a raw value with its origin;
* `Config.valueWith` and `Config.optionalValueWith`: a value by a given converter;
* `Config.value`, `Config.values` and their optional forms: by the registered converter;
* `Config.convert`: a conversion without a property;
* `Config.addSource`: one more source.
-/

import LayeredConfig.Conversion.Collection
import LayeredConfig.Conversion.Registry
import LayeredConfig.Lookup.Chain

namespace LayeredConfig.Resolve

open LayeredConfig.Conversion LayeredConfig.Log LayeredConfig.Lookup LayeredConfig.Source

/-! ## Part 1 — configurations -/

/-- Everything that answers questions for properties. -/
structure Config (m : Type → Type) (Extra : Type) [Extension Extra] where
  sources : SourceSet
  chain : Chain m
  converters : Registry Extra
  /-- The active profiles in the order in which they were named. -/
  profiles : List String

namespace Config

variable {m : Type → Type} [Monad m] {Extra : Type} [DecidableEq Extra] [Extension Extra]
variable {Value : Type}

/-! ## Part 2 — raw values -/

/-- The raw value of a property with its origin. A failed reference counts as a missing property. -/
def configValue (config : Config m Extra) (scope : Scope) (name : String) :
    m (Except ResolveError (Option ConfigValue)) := do
  match ← (config.chain.lookup scope config.sources name).run with
  | .ok found => return .ok found
  | .error error => return .error (.notFound name (some error.reference))

/-- The raw value of a property; absent also if a reference fails. -/
def rawValue (config : Config m Extra) (scope : Scope) (name : String) : m (Option String) := do
  match ← config.configValue scope name with
  | .ok found => return found.map ConfigValue.value
  | .error _ => return none

/-- Whether the raw value of a property is the expected one, absence included. -/
def rawValueEquals (config : Config m Extra) (scope : Scope) (name : String)
    (expected : Option String) : m Bool := do
  return (← config.rawValue scope name) == expected

/-! ## Part 3 — converted values -/

/-- What a converter makes of a raw value that is there. -/
def settlePresent (name raw : String) :
    Except ConversionError (Option Value) → Except ResolveError Value
  | .ok (some value) => .ok value
  | .ok none => .error (.notFound name none)
  | .error error => .error (.conversion name raw error)

/-- What a converter makes of an absent value, from its outcome for the empty text. -/
def settleAbsent (name : String) :
    Except ConversionError (Option Value) → Except ResolveError Value
  | .ok (some value) => .ok value
  | _ => .error (.notFound name none)

/-- What a converter makes of the outcome of a lookup. -/
def settle (name : String) (converter : Converter Value) :
    Except ResolveError (Option ConfigValue) → Except ResolveError Value
  | .ok (some found) => settlePresent name found.value (converter.convert found.value)
  | .ok none => settleAbsent name (converter.convert "")
  | .error error => .error error

/-- The required value of a property by a given converter. -/
def valueWith (config : Config m Extra) (scope : Scope) (converter : Converter Value)
    (name : String) : m (Except ResolveError Value) := do
  return settle name converter (← config.configValue scope name)

/-- A missing property is an absent value. -/
def absentIfMissing : Except ResolveError (Option Value) → Except ResolveError (Option Value)
  | .error (.notFound _ _) => .ok none
  | outcome => outcome

/-- The optional value of a property by a given converter. -/
def optionalValueWith (config : Config m Extra) (scope : Scope) (converter : Converter Value)
    (name : String) : m (Except ResolveError (Option Value)) := do
  return absentIfMissing (← config.valueWith scope converter.optional name)

/-- The required list of a property by a given converter of elements. -/
def valuesWith (config : Config m Extra) (scope : Scope) (element : Converter Value)
    (name : String) : m (Except ResolveError (List Value)) :=
  config.valueWith scope (element.collection .skip) name

/-- The optional list of a property by a given converter of elements. -/
def optionalValuesWith (config : Config m Extra) (scope : Scope) (element : Converter Value)
    (name : String) : m (Except ResolveError (Option (List Value))) :=
  config.optionalValueWith scope (element.collection .skip) name

/-! ## Part 4 — by the converter of a type -/

/-- Goes on with the converter of a type. The answer holds the configuration too, which may have
learnt a derived converter. -/
def withConverter (config : Config m Extra) (target : Target Extra)
    (next : Converter target.Value → m (Except ResolveError Value)) :
    m (Logged (Except ResolveError Value × Config m Extra)) := do
  let asked := config.converters.converter target
  let (converter, converters) := asked.result
  let outcome ← match converter with
    | .ok converter => next converter
    | .error error => pure (.error error)
  return ⟨asked.events, (outcome, { config with converters })⟩

/-- The required value of a property. -/
def value (config : Config m Extra) (scope : Scope) (target : Target Extra) (name : String) :
    m (Logged (Except ResolveError target.Value × Config m Extra)) :=
  config.withConverter target fun converter => config.valueWith scope converter name

/-- The optional value of a property. -/
def optionalValue (config : Config m Extra) (scope : Scope) (target : Target Extra)
    (name : String) : m (Logged (Except ResolveError (Option target.Value) × Config m Extra)) :=
  config.withConverter target fun converter => config.optionalValueWith scope converter name

/-- The required list of a property. -/
def values (config : Config m Extra) (scope : Scope) (target : Target Extra) (name : String) :
    m (Logged (Except ResolveError (List target.Value) × Config m Extra)) :=
  config.withConverter target fun element => config.valuesWith scope element name

/-- The optional list of a property. -/
def optionalValues (config : Config m Extra) (scope : Scope) (target : Target Extra)
    (name : String) :
    m (Logged (Except ResolveError (Option (List target.Value)) × Config m Extra)) :=
  config.withConverter target fun element => config.optionalValuesWith scope element name

/-- What a converter makes of a text that belongs to no property. -/
def convertWith (converter : Converter Value) (raw : String) :
    Except ResolveError (Option Value) :=
  (converter.convert raw).mapError (.conversion "" raw)

/-- The conversion of a text that belongs to no property; nothing is made of nothing. -/
def convert (config : Config m Extra) (target : Target Extra) :
    Option String → m (Logged (Except ResolveError (Option target.Value) × Config m Extra))
  | none => return ⟨[], (.ok none, config)⟩
  | some raw => config.withConverter target fun converter => return convertWith converter raw

/-! ## Part 5 — the configuration itself -/

/-- The configuration with one more source, and whether that is new. -/
def addSource (config : Config m Extra) (handle : Handle) : Logged (Bool × Config m Extra) := do
  let (inserted, sources) ← config.sources.add handle
  return (inserted, { config with sources })

/-- The diagnostic text of a configuration. -/
def debug (config : Config m Extra) : String :=
  Text.record "SparkConfig"
    [("sources", config.sources.debug), ("chain", config.chain.debug),
     ("converters", config.converters.debug), ("profiles", quotedList config.profiles)] .complete

end Config

end LayeredConfig.Resolve
