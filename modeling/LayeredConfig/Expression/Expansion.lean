/-
**Replacing references by values.**

The key of a reference may hold references, and so may its value and its default; all of them are
replaced. Two limits keep this finite: how deep references lead into each other, and how many of
them one text may need in all.

* `Limits`: the two limits;
* `expandText` and `resolve`: a text and a reference, with the steps that are left as state;
* `Limits.stage`: the stage that replaces the references in a value.
-/

import LayeredConfig.Expression.Template
import LayeredConfig.Lookup.Chain

namespace LayeredConfig.Expression

open LayeredConfig.Lookup LayeredConfig.Resolve LayeredConfig.Source

/-! ## Part 1 — expansion -/

/-- How far references are followed. -/
structure Limits where
  /-- How deep references may lead into each other. -/
  depth : Nat
  /-- How many references one text may need. -/
  steps : Nat
deriving DecidableEq, Repr

/-- The limits that hold where none are given. -/
def Limits.standard : Limits := ⟨32, 1024⟩

variable {m : Type → Type} [Monad m]

/-- Expansion counts the steps that are left and may fail. -/
abbrev Expanding (m : Type → Type) := StateT Nat (ExceptT ExpansionError m)

/-- The pieces of a text one after the other, references replaced as `follow` says. -/
def expandPieces (follow : List Char → Expanding m (List Char)) :
    List Piece → Expanding m (List Char)
  | [] => return []
  | .literal text :: rest => do return text ++ (← expandPieces follow rest)
  | .reference inner :: rest => do
    let value ← follow inner
    return value ++ (← expandPieces follow rest)

/-- A text with its references replaced as `follow` says. -/
def expandText (follow : List Char → Expanding m (List Char)) (text : List Char) :
    Expanding m (List Char) :=
  expandPieces follow (scan text)

/-- Takes one of the steps that are left, for a reference. -/
def takeStep (inner : List Char) : Expanding m Unit := do
  match ← get with
  | 0 => throw (.tooDeep (String.ofList inner))
  | left + 1 => set left

/-- What a reference stands for: the value of its key, else its default. References may lead into
each other so many levels deep. -/
def resolve (ask : String → Outcome m) : Nat → List Char → Expanding m (List Char)
  | 0, inner => throw (.tooDeep (String.ofList inner))
  | levels + 1, inner => do
    takeStep inner
    let (keyText, default) := splitDefault 0 inner
    let key ← expandText (resolve ask levels) keyText
    match ← (ask (String.ofList key) : ExceptT ExpansionError m _) with
    | some found => expandText (resolve ask levels) found.value.toList
    | none =>
      match default with
      | some default => expandText (resolve ask levels) default
      | none => throw (.unresolved (String.ofList key))

/-! ## Part 2 — the stage -/

/-- A value with its references replaced. -/
def expandValue (limits : Limits) (ask : String → Outcome m) (found : ConfigValue) :
    ExceptT ExpansionError m ConfigValue := do
  let (expanded, _) ← (expandText (resolve ask limits.depth) found.value.toList).run limits.steps
  return found.withValue (String.ofList expanded)

/-- The stage that replaces the references in a value, unless that is suspended. -/
def Limits.stage (limits : Limits) : Stage m where
  name := "expression"
  priority := libraryPriority + 800
  intercept context name := do
    match ← context.proceed name with
    | none => return none
    | some found =>
      if context.scope.isSuspended || !hasOpening found.value.toList then return some found
      else return some (← expandValue limits context.proceed found)

end LayeredConfig.Expression
