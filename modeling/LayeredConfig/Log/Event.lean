/-
**What is logged while a configuration is put together.**

Operations that log something give their result together with the events, in order.

* `Event`: the events, with `level`, `target` and `fields`;
* `Logged`: a result with the events on the way to it.
-/

import LayeredConfig.Text.Quoted
import LayeredConfig.Text.Record

namespace LayeredConfig.Log

open LayeredConfig.Text

/-! ## Part 1 — events -/

/-- Something that is logged. -/
inductive Event where
  /-- The sources of a configuration are in order. -/
  | sourcesSorted (names : List String)
  /-- A source was offered to a configuration that exists already. -/
  | sourceAdded (name : String) (ordinal : Int) (inserted : Bool)
  /-- The stages of a chain are in order. -/
  | chainBuilt (stages : List (String × Int))
  /-- A converter was derived from an idiom. -/
  | converterDerived (typeName idiom : String)
  /-- A configuration is complete. -/
  | configurationBuilt (sources : Nat) (profiles : List String) (secretKeys : Nat)
deriving DecidableEq, Repr

/-- A name with the rank of what bears it. -/
def ranked (name : String) (rank : Int) : String :=
  name ++ "@" ++ toString rank

/-- A list of quoted texts. -/
def quotedList (items : List String) : String :=
  bracketed (items.map quote)

namespace Event

/-- How important an event is. -/
def level : Event → String
  | sourceAdded _ _ _ => "TRACE"
  | _ => "DEBUG"

/-- The part of the library that an event comes from. -/
def target : Event → String
  | sourcesSorted _ | sourceAdded _ _ _ => "spark_config::source"
  | chainBuilt _ => "spark_config::interceptor"
  | converterDerived _ _ => "spark_config::converter"
  | configurationBuilt _ _ _ => "spark_config::builder"

/-- The named parts of an event as texts. -/
def fields : Event → List (String × String)
  | sourcesSorted names =>
    [("message", "property sources sorted"), ("count", toString names.length),
     ("order", quotedList names)]
  | sourceAdded name ordinal inserted =>
    [("message", "property source added"), ("source", name), ("ordinal", toString ordinal),
     ("inserted", toString inserted)]
  | chainBuilt stages =>
    [("message", "interceptor chain built"),
     ("order", quotedList (stages.map fun stage => ranked stage.1 stage.2))]
  | converterDerived typeName idiom =>
    [("message", "implicit converter discovered"), ("target_type", typeName), ("idiom", idiom)]
  | configurationBuilt sources profiles secretKeys =>
    [("message", "configuration built"), ("sources", toString sources),
     ("profiles", quotedList profiles), ("secret_keys", toString secretKeys)]

end Event

/-! ## Part 2 — results with events -/

/-- A result and the events on the way to it, the oldest first. -/
structure Logged (Result : Type) where
  events : List Event
  result : Result

instance : Monad Logged where
  pure result := ⟨[], result⟩
  bind first next :=
    let second := next first.result
    ⟨first.events ++ second.events, second.result⟩

/-- Logs one event. -/
def emit (event : Event) : Logged Unit := ⟨[event], ()⟩

end LayeredConfig.Log
