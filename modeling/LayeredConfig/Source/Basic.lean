/-
**Where properties come from.**

A source has a name, a rank and values. Sources are told apart by their instance and not by their
name, so two of them may bear the same name.

* `ConfigValue`: a value with the source that gave it;
* `Source`: anything that gives values; `Handle`: an instance of a source;
* `MapSource`: a source that holds finitely many properties;
* `Wrapper`: what puts a source around another one.
-/

import LayeredConfig.Text.Ascending
import LayeredConfig.Text.Quoted
import LayeredConfig.Text.Record

namespace LayeredConfig.Source

open LayeredConfig.Text

/-! ## Part 1 — values -/

/-- A raw value with the property and the source that gave it. -/
structure ConfigValue where
  /-- The property that was found, which need not be the one that was asked for. -/
  name : String
  value : String
  sourceName : String
  sourceOrdinal : Int
deriving DecidableEq, Repr

namespace ConfigValue

/-- The same value under another name. -/
def withName (found : ConfigValue) (name : String) : ConfigValue :=
  { found with name }

/-- Another value from the same source. -/
def withValue (found : ConfigValue) (value : String) : ConfigValue :=
  { found with value }

/-- The text of a value with its origin. -/
def display (found : ConfigValue) : String :=
  found.name ++ "=" ++ found.value ++ " (source `" ++ found.sourceName ++ "`, ordinal "
    ++ toString found.sourceOrdinal ++ ")"

end ConfigValue

/-! ## Part 2 — sources -/

/-- The rank of a source that names none. -/
def defaultOrdinal : Int := 100

/-- Something that gives values for names. -/
structure Source where
  name : String
  /-- The rank among sources; the highest wins. -/
  ordinal : Int
  value : String → Option String
  /-- The names that are known to have values; there may be others. -/
  propertyNames : List String

/-- What tells instances of sources apart. -/
inductive Identity where
  /-- An instance that its owner shares. -/
  | shared (number : Nat)
  /-- An instance that was handed over when so many sources had been declared. -/
  | owned (number : Nat)
  /-- What a wrapper made of the candidate at a position. -/
  | wrapped (candidate wrapper : Nat)
deriving DecidableEq, Repr

/-- An instance of a source. -/
structure Handle where
  identity : Identity
  source : Source

/-- What a wrapper answers for an instance. -/
inductive Wrapping where
  /-- A new source, which becomes an instance of its own. -/
  | fresh (source : Source)
  /-- An instance that exists already, be it the given one or another. -/
  | existing (handle : Handle)

/-- Makes a new source around a given instance, or answers with an instance that exists. -/
abbrev Wrapper := Handle → Wrapping

/-- The instance that a wrapper makes of a candidate. -/
def Wrapper.apply (wrapper : Wrapper) (candidate position : Nat) (handle : Handle) : Handle :=
  match wrapper handle with
  | .fresh source => ⟨.wrapped candidate position, source⟩
  | .existing other => other

/-- The instance that several wrappers make of a candidate, the first one innermost. -/
def Wrapper.applyAll (candidate : Nat) : (position : Nat) → List Wrapper → Handle → Handle
  | _, [], handle => handle
  | position, wrapper :: rest, handle =>
    applyAll candidate (position + 1) rest (wrapper.apply candidate position handle)

/-! ## Part 3 — sources that hold their properties -/

/-- A source with finitely many properties in ascending order of their names. -/
structure MapSource where
  name : String
  ordinal : Int
  properties : List (String × String)
deriving Repr

namespace MapSource

/-- The source with the given properties; of several values of a name the last one counts. -/
def ofPairs (name : String) (pairs : List (String × String)) : MapSource :=
  ⟨name, defaultOrdinal, entriesOf pairs⟩

/-- The source with one property, named after it. -/
def single (key value : String) : MapSource :=
  ofPairs ("single:" ++ key) [(key, value)]

/-- The same source with another rank. -/
def withOrdinal (source : MapSource) (ordinal : Int) : MapSource :=
  { source with ordinal }

/-- What the source gives. -/
def toSource (source : MapSource) : Source where
  name := source.name
  ordinal := source.ordinal
  value name := source.properties.lookup name
  propertyNames := source.properties.map Prod.fst

/-- The diagnostic text of the source. -/
def debug (source : MapSource) : String :=
  record "MapSource"
    [("name", quote source.name), ("ordinal", toString source.ordinal),
     ("properties", toString source.properties.length)] .complete

end MapSource

end LayeredConfig.Source
