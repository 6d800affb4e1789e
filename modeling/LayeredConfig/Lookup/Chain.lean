/-
**Chains of stages between a question and the sources.**

A stage sees a name and the rest of the chain. It may ask the rest for this name, for another one,
several times or not at all, and it may change what comes back. The stage with the highest priority
is asked first, and the sources answer behind the last one. Stages act in any monad, so one that
keeps a record is a stage like any other.

* `Scope`: what the surrounding code permits;
* `Context` and `Stage`: the rest of the chain as a stage sees it, and a stage;
* `Chain.ofStages`: stages in the order of their priorities;
* `Chain.lookup`: the answer of a chain.
-/

import LayeredConfig.Resolve.Error
import LayeredConfig.Source.SourceSet

namespace LayeredConfig.Lookup

open LayeredConfig.Log LayeredConfig.Resolve LayeredConfig.Source LayeredConfig.Text

/-! ## Part 1 — scopes -/

/-- How many scopes of each kind surround a lookup. -/
structure Scope where
  /-- Scopes in which secrets may be read. -/
  unlocked : Nat
  /-- Scopes in which references are left as they are. -/
  suspended : Nat
deriving DecidableEq, Repr

namespace Scope

/-- Outside all scopes, where every thread begins. -/
def outermost : Scope := ⟨0, 0⟩

/-- Inside one more scope in which secrets may be read. -/
def unlock (scope : Scope) : Scope := { scope with unlocked := scope.unlocked + 1 }

/-- Inside one more scope in which references are left as they are. -/
def suspend (scope : Scope) : Scope := { scope with suspended := scope.suspended + 1 }

/-- Whether secrets are kept. -/
def isLocked (scope : Scope) : Bool := scope.unlocked == 0

/-- Whether references are left as they are. -/
def isSuspended (scope : Scope) : Bool := 0 < scope.suspended

end Scope

/-! ## Part 2 — stages -/

/-- What becomes of a lookup: a value, absence, or a failed reference. -/
abbrev Outcome (m : Type → Type) := ExceptT ExpansionError m (Option ConfigValue)

/-- The rest of the chain as a stage sees it. -/
structure Context (m : Type → Type) where
  /-- The position of the next stage. -/
  next : Nat
  scope : Scope
  /-- Asks the rest of the chain. -/
  proceed : String → Outcome m

/-- The diagnostic text of a context. -/
def Context.debug {m : Type → Type} (context : Context m) : String :=
  record "InterceptorContext" [("next", toString context.next)] .partly

/-- A stage of a chain. -/
structure Stage (m : Type → Type) where
  name : String
  /-- The rank among stages; the highest is asked first. -/
  priority : Int
  intercept : Context m → String → Outcome m

/-- The priority of a stage that names none. -/
def defaultPriority : Int := 100

/-- The base of the priorities of the stages of this library. -/
def libraryPriority : Int := 3000

/-- The same stage with another priority. -/
def Stage.withPriority {m : Type → Type} (stage : Stage m) (priority : Int) : Stage m :=
  { stage with priority }

/-! ## Part 3 — chains -/

/-- Stages in the order in which they are asked. -/
structure Chain (m : Type → Type) where
  stages : List (Stage m)

namespace Chain

variable {m : Type → Type}

/-- The chain of declared and of discovered stages, the highest priority first; stages of the same
priority stay in their order. -/
def ofStages (declared discovered : List (Stage m)) : Chain m :=
  ⟨(declared ++ discovered).mergeSort fun first second => second.priority ≤ first.priority⟩

/-- Asks the stages that stand behind `position` others, and in the end `final`. -/
def invoke [Monad m] (scope : Scope) (final : String → Option ConfigValue) :
    (position : Nat) → List (Stage m) → String → Outcome m
  | _, [], name => pure (final name)
  | position, stage :: rest, name =>
    stage.intercept ⟨position + 1, scope, invoke scope final (position + 1) rest⟩ name

/-- The answer of a chain over some sources. -/
def lookup [Monad m] (chain : Chain m) (scope : Scope) (sources : SourceSet) (name : String) :
    Outcome m :=
  invoke scope sources.value 0 chain.stages name

/-- The names and priorities of the stages in their order. -/
def ranks (chain : Chain m) : List (String × Int) :=
  chain.stages.map fun stage => (stage.name, stage.priority)

/-- The diagnostic text of a chain. -/
def debug (chain : Chain m) : String :=
  let stages := chain.ranks.map fun rank => "(" ++ quote rank.1 ++ ", " ++ toString rank.2 ++ ")"
  record "InterceptorChain" [("stages", bracketed stages)] .partly

/-- The chain of declared and of discovered stages, with what is logged. -/
def build (declared discovered : List (Stage m)) : Logged (Chain m) := do
  let chain := ofStages declared discovered
  emit (.chainBuilt chain.ranks)
  return chain

end Chain

end LayeredConfig.Lookup
