/-
**Values that depend on the active profiles.**

A property may have variants, one for each profile. While some profiles are active, the variant of
the last one that has any is taken, and the plain property if none has. A name that already asks for
a variant is left alone.

* `Profiles.ofList` and `Profiles.parse`: the active profiles, in the order of lookup;
* `Profiles.candidates`: the names that are tried for a name;
* `Profiles.stage`: the stage that tries them.
-/

import LayeredConfig.Lookup.Chain
import LayeredConfig.Text.Blank
import LayeredConfig.Text.Separated

namespace LayeredConfig.Lookup

/-! ## Part 1 — profiles -/

/-- The property that names the active profiles if nothing else does. -/
def profileProperty : String := "spark.profile"

/-- Active profiles, the one to be tried first in front. -/
structure Profiles where
  lookupOrder : List String
deriving DecidableEq, Repr

namespace Profiles

/-- The profiles of a list; the last one has the most weight, and empty ones have none. -/
def ofList (profiles : List String) : Profiles :=
  ⟨(profiles.filter fun profile => !profile.isEmpty).reverse⟩

/-- The trimmed pieces of a text between its commas. -/
def pieces (text : String) : List String :=
  (Text.cutAt ',' text.toList).map fun piece => String.ofList (Text.trimmed piece)

/-- The profiles that a text names. -/
def parse (text : String) : Profiles := ofList (pieces text)

/-- The variant of a property for a profile. -/
def qualified (profile name : String) : String := "%" ++ profile ++ "." ++ name

/-- Whether a name asks for a variant. -/
def isQualified (name : String) : Bool := name.toList.head? == some '%'

/-- The names that are tried for a name, in order. -/
def candidates (profiles : Profiles) (name : String) : List String :=
  if isQualified name then [name]
  else profiles.lookupOrder.map (qualified · name) ++ [name]

end Profiles

/-! ## Part 2 — the stage -/

/-- The first value that is found under some names. -/
def firstFound {m : Type → Type} [Monad m] (ask : String → Outcome m) : List String → Outcome m
  | [] => return none
  | name :: rest => do
    match ← ask name with
    | some found => return some found
    | none => firstFound ask rest

/-- The stage that tries the variants of a name before the name. -/
def Profiles.stage {m : Type → Type} [Monad m] (profiles : Profiles) : Stage m where
  name := "profile"
  priority := libraryPriority + 600
  intercept context name := firstFound context.proceed (profiles.candidates name)

end LayeredConfig.Lookup
