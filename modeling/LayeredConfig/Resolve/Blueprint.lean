/-
**Putting a configuration together.**

A blueprint gathers what a configuration is made of. Sources and stages that were discovered are
kept apart from declared ones and take part only if they are asked for. Building wraps the sources,
finds the active profiles, orders the stages and hands over the converters.

* `Blueprint`: everything that is gathered;
* `Blueprint.candidates` and `Blueprint.activeProfiles`: the sources and profiles that take part;
* `Blueprint.declaredStages`: the declared stages with those of the library behind them;
* `Blueprint.build`: the configuration, with what is logged.
-/

import LayeredConfig.Expression.Expansion
import LayeredConfig.Lookup.Profile
import LayeredConfig.Lookup.Secret
import LayeredConfig.Resolve.Config

namespace LayeredConfig.Resolve

open LayeredConfig.Conversion LayeredConfig.Expression LayeredConfig.Log LayeredConfig.Lookup
open LayeredConfig.Source LayeredConfig.Text

/-! ## Part 1 — gathering -/

/-- What a configuration is made of. -/
structure Blueprint (m : Type → Type) (Extra : Type) [Extension Extra] where
  sources : List Handle
  discoveredSources : List Handle
  usesDiscoveredSources : Bool
  stages : List (Stage m)
  discoveredStages : List (Stage m)
  usesDiscoveredStages : Bool
  /-- Whether the stages for profiles and references are used. -/
  usesDefaultStages : Bool
  /-- What is put around every source, the first one innermost. -/
  wrappers : List Wrapper
  /-- The active profiles, unless the sources name them. -/
  profiles : Option (List String)
  /-- The patterns of secret names. -/
  secretKeys : List String
  converters : Registry Extra

namespace Blueprint

variable {m : Type → Type} {Extra : Type} [DecidableEq Extra] [Extension Extra]

/-- The blueprint of a configuration without sources and stages, with the converters of the built-in
types. -/
def empty : Blueprint m Extra where
  sources := []
  discoveredSources := []
  usesDiscoveredSources := false
  stages := []
  discoveredStages := []
  usesDiscoveredStages := false
  usesDefaultStages := false
  wrappers := []
  profiles := none
  secretKeys := []
  converters := .standard

/-- Declares instances of sources that are shared. -/
def withHandles (blueprint : Blueprint m Extra) (handles : List Handle) : Blueprint m Extra :=
  { blueprint with sources := blueprint.sources ++ handles }

/-- Declares a source that is handed over, a new instance. -/
def withSource (blueprint : Blueprint m Extra) (source : Source) : Blueprint m Extra :=
  blueprint.withHandles [⟨.owned blueprint.sources.length, source⟩]

/-- Adds discovered sources. -/
def withDiscoveredHandles (blueprint : Blueprint m Extra) (handles : List Handle) :
    Blueprint m Extra :=
  { blueprint with discoveredSources := blueprint.discoveredSources ++ handles }

/-- Lets discovered sources take part. -/
def useDiscoveredSources (blueprint : Blueprint m Extra) : Blueprint m Extra :=
  { blueprint with usesDiscoveredSources := true }

/-- Declares stages. -/
def withStages (blueprint : Blueprint m Extra) (stages : List (Stage m)) : Blueprint m Extra :=
  { blueprint with stages := blueprint.stages ++ stages }

/-- Adds discovered stages. -/
def withDiscoveredStages (blueprint : Blueprint m Extra) (stages : List (Stage m)) :
    Blueprint m Extra :=
  { blueprint with discoveredStages := blueprint.discoveredStages ++ stages }

/-- Lets discovered stages take part. -/
def useDiscoveredStages (blueprint : Blueprint m Extra) : Blueprint m Extra :=
  { blueprint with usesDiscoveredStages := true }

/-- Lets the stages for profiles and references take part. -/
def useDefaultStages (blueprint : Blueprint m Extra) : Blueprint m Extra :=
  { blueprint with usesDefaultStages := true }

/-- Registers a converter. -/
def withConverter (blueprint : Blueprint m Extra) (target : Target Extra)
    (converter : Converter target.Value) (priority : Int) : Blueprint m Extra :=
  { blueprint with converters := blueprint.converters.register target converter priority }

/-- Says what a type offers. -/
def withIdioms (blueprint : Blueprint m Extra) (target : Target Extra)
    (idioms : Idioms target.Value) : Blueprint m Extra :=
  { blueprint with converters := blueprint.converters.offer target idioms }

/-- Puts one more wrapper around every source. -/
def withWrapper (blueprint : Blueprint m Extra) (wrapper : Wrapper) : Blueprint m Extra :=
  { blueprint with wrappers := blueprint.wrappers ++ [wrapper] }

/-- Activates profiles, behind those that are active already. -/
def withProfiles (blueprint : Blueprint m Extra) (profiles : List String) : Blueprint m Extra :=
  { blueprint with profiles := some (blueprint.profiles.getD [] ++ profiles) }

/-- Adds patterns of secret names. -/
def withSecretKeys (blueprint : Blueprint m Extra) (patterns : List String) : Blueprint m Extra :=
  { blueprint with secretKeys := blueprint.secretKeys ++ patterns }

/-! ## Part 2 — what takes part -/

/-- The sources that take part, before they are wrapped. -/
def candidates (blueprint : Blueprint m Extra) : List Handle :=
  if blueprint.usesDiscoveredSources then blueprint.sources ++ blueprint.discoveredSources
  else blueprint.sources

/-- Sources that stand behind `position` others, inside all wrappers. -/
def wrapFrom (wrappers : List Wrapper) : (position : Nat) → List Handle → List Handle
  | _, [] => []
  | position, handle :: rest =>
    Wrapper.applyAll position 0 wrappers handle :: wrapFrom wrappers (position + 1) rest

/-- The sources that take part, inside all wrappers. -/
def wrapped (blueprint : Blueprint m Extra) : List Handle :=
  wrapFrom blueprint.wrappers 0 blueprint.candidates

/-- The profiles that the sources name, empty ones left out. -/
def configuredProfiles (sources : SourceSet) : List String :=
  match sources.value profileProperty with
  | some found => (Profiles.pieces found.value).filter fun profile => !profile.isEmpty
  | none => []

/-- The active profiles: those of the blueprint, else those that the sources name. -/
def activeProfiles (blueprint : Blueprint m Extra) (sources : SourceSet) : List String :=
  blueprint.profiles.getD (configuredProfiles sources)

/-- The declared stages, and behind them those of the library that take part. -/
def declaredStages [Monad m] (blueprint : Blueprint m Extra) (profiles : List String) :
    List (Stage m) :=
  let profile : List (Stage m) :=
    if blueprint.usesDefaultStages || blueprint.profiles.isSome then
      [(Profiles.ofList profiles).stage]
    else []
  let expression : List (Stage m) :=
    if blueprint.usesDefaultStages then [Limits.standard.stage] else []
  let secret : List (Stage m) :=
    if blueprint.secretKeys.isEmpty then []
    else [(SecretKeys.ofPatterns blueprint.secretKeys).stage]
  blueprint.stages ++ profile ++ expression ++ secret

/-- The discovered stages that take part. -/
def enabledStages (blueprint : Blueprint m Extra) : List (Stage m) :=
  if blueprint.usesDiscoveredStages then blueprint.discoveredStages else []

/-! ## Part 3 — building -/

/-- The configuration of a blueprint. -/
def build [Monad m] (blueprint : Blueprint m Extra) : Logged (Config m Extra) := do
  let sources ← SourceSet.new blueprint.wrapped
  let profiles := blueprint.activeProfiles sources
  let chain ← Chain.build (blueprint.declaredStages profiles) blueprint.enabledStages
  emit (.configurationBuilt sources.size profiles blueprint.secretKeys.length)
  return ⟨sources, chain, blueprint.converters, profiles⟩

/-- The diagnostic text of a blueprint. -/
def debug (blueprint : Blueprint m Extra) : String :=
  record "SparkConfigBuilder"
    [("sources", toString blueprint.sources.length),
     ("discovered_sources", toString blueprint.discoveredSources.length),
     ("interceptors", toString blueprint.stages.length),
     ("discovered_interceptors", toString blueprint.discoveredStages.length),
     ("add_default_interceptors", toString blueprint.usesDefaultStages),
     ("wrappers", toString blueprint.wrappers.length),
     ("profiles", optional (blueprint.profiles.map quotedList)),
     ("secret_keys", quotedList blueprint.secretKeys)] .partly

end Blueprint

end LayeredConfig.Resolve
