/-
**The code of threads, and the scopes it opens.**

Every thread counts the scopes around its code, and a lookup sees the counts of its own thread. A
scope ends with its code, also with code that is unwound, and a new thread begins outside all scopes.

* `OnThread`: code on a thread;
* `unlocked` and `withoutExpansion`: code in a scope of its own;
* `isLocked` and `Chain.ask`: what the scopes around the code decide;
* `Threads`: how threads are started and joined.
-/

import LayeredConfig.Lookup.Chain

namespace LayeredConfig.Lookup

open LayeredConfig.Resolve LayeredConfig.Source

/-! ## Part 1 — scopes around code -/

namespace Scope

/-- After a scope in which secrets may be read. -/
def lock (scope : Scope) : Scope := { scope with unlocked := scope.unlocked - 1 }

/-- After a scope in which references are left as they are. -/
def resume (scope : Scope) : Scope := { scope with suspended := scope.suspended - 1 }

end Scope

/-- Code on a thread, with the scopes around it as its state; it has no result if it is unwound. -/
abbrev OnThread (m : Type → Type) := OptionT (StateT Scope m)

namespace OnThread

variable {m : Type → Type} [Monad m] {Result : Type}

/-- Code in a scope of its own; the scope ends however the code does. -/
def guarded (enter leave : Scope → Scope) (code : OnThread m Result) : OnThread m Result :=
  OptionT.mk do
    modify enter
    let result ← code.run
    modify leave
    return result

/-- Code that may read secrets. -/
def unlocked (code : OnThread m Result) : OnThread m Result := guarded .unlock .lock code

/-- Code that sees references as they are. -/
def withoutExpansion (code : OnThread m Result) : OnThread m Result := guarded .suspend .resume code

/-- Whether secrets are kept from the code. -/
def isLocked : OnThread m Bool := return (← get).isLocked

/-- The result of code, and nothing if it is unwound. -/
def attempt (code : OnThread m Result) : OnThread m (Option Result) := OptionT.mk do
  return some (← code.run)

end OnThread

/-- The answer of a chain to code on a thread. -/
def Chain.ask {m : Type → Type} [Monad m] (chain : Chain m) (sources : SourceSet) (name : String) :
    OnThread m (Except ExpansionError (Option ConfigValue)) := do
  let scope ← get
  liftM (chain.lookup scope sources name).run

/-! ## Part 2 — threads -/

/-- How threads are run: all that is fixed is that one is started and that its result can be had. -/
structure Threads (m : Type → Type) where
  /-- A thread whose code has such a result. -/
  Handle : Type → Type
  start {Value : Type} (code : m (Option Value)) : m (Handle Value)
  join {Value : Type} (handle : Handle Value) : m (Option Value)

namespace Threads

variable {m : Type → Type} [Monad m] {Value : Type}

/-- Starts code on a new thread, which stands in no scope. -/
def spawn (threads : Threads m) (code : OnThread m Value) : OnThread m (threads.Handle Value) :=
  liftM (threads.start (code.run.run' .outermost))

/-- Waits for a thread, and has its result if it was not unwound. -/
def await (threads : Threads m) (handle : threads.Handle Value) : OnThread m (Option Value) :=
  liftM (threads.join handle)

end Threads

end LayeredConfig.Lookup
