/-
**Ready-made stages.**

A stage is made from a name and what it does with a question. The rest of this module is what a
stage may do: ask for another name, answer by itself, change the answer, or keep a record of it.

* `Stage.from`: a stage of the default priority;
* `Action.redirect`, `Action.extend`, `Action.fallback`: other questions;
* `Action.synthesize`, `Action.suppress`, `Action.fail`: answers without asking;
* `Action.append`, `Action.rename`, `Action.swallow`: other answers;
* `Action.record`: notes of question and answer;
* `Action.only`: an action for one name.
-/

import LayeredConfig.Lookup.Chain

namespace LayeredConfig.Lookup

open LayeredConfig.Resolve LayeredConfig.Source

/-! ## Part 1 — stages from actions -/

/-- What a stage does with a question. -/
abbrev Action (m : Type → Type) := Context m → String → Outcome m

/-- A stage of the default priority. -/
def Stage.from {m : Type → Type} (name : String) (action : Action m) : Stage m :=
  ⟨name, defaultPriority, action⟩

namespace Action

variable {m : Type → Type}

/-- Hands every question on. -/
def pass : Action m := fun context name => context.proceed name

/-- Acts on one name and hands all other questions on. -/
def only (name : String) (action : Action m) : Action m := fun context asked =>
  if asked = name then action context asked else context.proceed asked

/-! ## Part 2 — other questions -/

/-- Asks for another name. -/
def redirect (target : String) : Action m := fun context _ => context.proceed target

/-- Asks for the name behind a text. -/
def extend (start : String) : Action m := fun context name => context.proceed (start ++ name)

variable [Monad m]

/-- Asks for another name where there is no value. -/
def fallback (target : String) : Action m := fun context name => do
  match ← context.proceed name with
  | some found => return some found
  | none => context.proceed target

/-! ## Part 3 — answers without asking -/

/-- Gives a value of its own. -/
def synthesize (value origin : String) (ordinal : Int) : Action m := fun _ name =>
  return some ⟨name, value, origin, ordinal⟩

/-- Hides every value. -/
def suppress : Action m := fun _ _ => return none

/-- Fails. -/
def fail (error : ExpansionError) : Action m := fun _ _ => throw error

/-! ## Part 4 — other answers -/

/-- Changes a value that is found. -/
def change (next : ConfigValue → ConfigValue) : Action m := fun context name => do
  return (← context.proceed name).map next

/-- Puts a text behind a value. -/
def append (ending : String) : Action m :=
  change fun found => found.withValue (found.value ++ ending)

/-- Gives a value another name. -/
def rename (name : String) : Action m := change fun found => found.withName name

/-- Takes a failed reference for absence. -/
def swallow : Action m := fun context name =>
  tryCatch (context.proceed name) fun _ => return none

/-- Notes the question, with the context if that is wanted, and then the answer. -/
def record (note : String → m Unit) (label : String) (withContext : Bool) : Action m :=
  fun context name => do
    let question := label ++ " > " ++ name
    note (if withContext then question ++ " " ++ context.debug else question)
    try
      let found ← context.proceed name
      note (label ++ " < " ++ (found.map ConfigValue.value).getD "(none)")
      return found
    catch error =>
      note (label ++ " ! " ++ error.reference)
      throw error

end Action

end LayeredConfig.Lookup
