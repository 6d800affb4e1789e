/-
**Sources in the order of precedence.**

Of two sources the one with the higher rank comes first, and of two with the same rank the one with
the greater name. Every instance occurs once. A name has the value of the first source that gives
one.

* `SourceSet.ofList` and `SourceSet.insert`: the two ways to a set;
* `SourceSet.value`: the value of a name;
* `SourceSet.propertyNames`: all known names;
* `SourceSet.new` and `SourceSet.add`: the same two ways with what they log.
-/

import LayeredConfig.Log.Event
import LayeredConfig.Source.Basic

namespace LayeredConfig.Source

open LayeredConfig.Log LayeredConfig.Text

/-! ## Part 1 — precedence -/

/-- The order of precedence. -/
def precedes (first second : Handle) : Bool :=
  second.source.ordinal < first.source.ordinal
    || (first.source.ordinal == second.source.ordinal
      && second.source.name ≤ first.source.name)

/-- The first occurrence of every instance, behind the instances that were seen before. -/
def distinctFrom (seen : List Identity) : List Handle → List Handle
  | [] => []
  | handle :: rest =>
    if handle.identity ∈ seen then distinctFrom seen rest
    else handle :: distinctFrom (handle.identity :: seen) rest

/-- The first occurrence of every instance. -/
def distinct (handles : List Handle) : List Handle := distinctFrom [] handles

/-! ## Part 2 — sets -/

/-- Instances of sources in the order of precedence. -/
structure SourceSet where
  handles : List Handle

namespace SourceSet

/-- The set of some instances. -/
def ofList (handles : List Handle) : SourceSet :=
  ⟨(distinct handles).mergeSort precedes⟩

/-- Whether an instance is in a set. -/
def contains (set : SourceSet) (handle : Handle) : Bool :=
  set.handles.any fun other => other.identity == handle.identity

/-- The set with one more instance, or the same set if it is there. -/
def insert (set : SourceSet) (handle : Handle) : SourceSet :=
  if set.contains handle then set else ⟨(set.handles ++ [handle]).mergeSort precedes⟩

/-- The number of instances. -/
def size (set : SourceSet) : Nat := set.handles.length

/-- The value that a source gives, with its origin. -/
def valueFrom (name : String) (handle : Handle) : Option ConfigValue :=
  (handle.source.value name).map fun value =>
    ⟨name, value, handle.source.name, handle.source.ordinal⟩

/-- The value of the first source that gives one. -/
def value (set : SourceSet) (name : String) : Option ConfigValue :=
  set.handles.findSome? (valueFrom name)

/-- The names that some source knows, in ascending order. -/
def propertyNames (set : SourceSet) : List String :=
  ascending (set.handles.flatMap fun handle => handle.source.propertyNames)

/-- The names and ranks of the sources in their order. -/
def ranks (set : SourceSet) : List (String × Int) :=
  set.handles.map fun handle => (handle.source.name, handle.source.ordinal)

/-- The diagnostic text of a set. -/
def debug (set : SourceSet) : String :=
  quotedList (set.ranks.map fun rank => ranked rank.1 rank.2)

/-! ## Part 3 — what is logged -/

/-- The set of some instances. -/
def new (handles : List Handle) : Logged SourceSet := do
  let set := ofList handles
  emit (.sourcesSorted (set.ranks.map Prod.fst))
  return set

/-- The set with one more instance, and whether it is new. -/
def add (set : SourceSet) (handle : Handle) : Logged (Bool × SourceSet) := do
  let inserted := !set.contains handle
  emit (.sourceAdded handle.source.name handle.source.ordinal inserted)
  return (inserted, set.insert handle)

end SourceSet

end LayeredConfig.Source
