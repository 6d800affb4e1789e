/-
**The last profile with a variant decides, whatever the ranks of the sources.**

The stage of the profiles in front of some sources gives the variant of the last listed profile that
has one in any source, and the plain property if there is none (`LastVariant`, `valueIn`). Empty
profiles have no variants, and of a profile that is listed twice only the last place counts, so both
may be left out (`Thinned`):

* `variantIn_append`: profiles that are listed later are asked first;
* `valueIn_of_last`, `valueIn_of_none`: what the profiles make of a name;
* `valueIn_thinned`: thinned lists make the same of every name;
* `intercept_profiles`: the stage of the profiles does so.
-/

import LayeredConfig.Lookup.Profile
import LayeredConfig.Proofs.Lookup.Composition
import Mathlib.Data.List.Dedup

/-! ## Part 1 — sources that define a name -/

namespace LayeredConfig.Source.SourceSet

/-- Some source gives a value for a name, whatever its rank. -/
def Defines (sources : SourceSet) (name : String) : Prop :=
  ∃ handle ∈ sources.handles, handle.source.value name ≠ none

theorem value_eq_none_iff (sources : SourceSet) (name : String) :
    sources.value name = none ↔ ¬ sources.Defines name := by
  unfold value Defines valueFrom
  rw [List.findSome?_eq_none_iff]
  simp only [Option.map_eq_none_iff, not_exists, not_and, not_not]

theorem exists_value_iff (sources : SourceSet) (name : String) :
    (∃ found, sources.value name = some found) ↔ sources.Defines name := by
  rw [← Option.ne_none_iff_exists', Ne, value_eq_none_iff, not_not]

instance (sources : SourceSet) (name : String) : Decidable (sources.Defines name) :=
  decidable_of_iff (sources.value name ≠ none) (by rw [Ne, value_eq_none_iff, not_not])

/-- The value of a name bears that name. -/
theorem name_of_value {sources : SourceSet} {name : String} {found : ConfigValue}
    (given : sources.value name = some found) : found.name = name := by
  obtain ⟨handle, _, here⟩ := List.exists_of_findSome?_eq_some given
  obtain ⟨value, _, rfl⟩ := Option.map_eq_some_iff.mp here
  rfl

end LayeredConfig.Source.SourceSet

namespace LayeredConfig.Lookup

open LayeredConfig.Resolve LayeredConfig.Source

variable {sources : SourceSet} {listed : List String} {name profile : String}

/-! ## Part 2 — variants in some sources -/

/-- The listed profiles have no variant of a name in any source. -/
def NoVariant (sources : SourceSet) (listed : List String) (name : String) : Prop :=
  ∀ profile ∈ listed, profile ≠ "" → ¬ sources.Defines (Profiles.qualified profile name)

/-- Of the listed profiles that are not empty, the last one of which some source has the variant. -/
structure LastVariant (sources : SourceSet) (listed : List String) (name profile : String) :
    Prop where
  named : profile ≠ ""
  defined : sources.Defines (Profiles.qualified profile name)
  last : ∃ before after, listed = before ++ profile :: after ∧ NoVariant sources after name

instance (sources : SourceSet) (listed : List String) (name : String) :
    Decidable (NoVariant sources listed name) :=
  inferInstanceAs (Decidable (∀ profile ∈ listed, profile ≠ "" →
    ¬ sources.Defines (Profiles.qualified profile name)))

theorem noVariant_or_exists_lastVariant (sources : SourceSet) (listed : List String)
    (name : String) :
    NoVariant sources listed name ∨ ∃ profile, LastVariant sources listed name profile := by
  induction listed with
  | nil => exact .inl fun _ member => absurd member List.not_mem_nil
  | cons profile rest hypothesis =>
    rcases hypothesis with none | ⟨later, named, defined, before, after, split, behind⟩
    · by_cases here : profile ≠ "" ∧ sources.Defines (Profiles.qualified profile name)
      · exact .inr ⟨profile, here.1, here.2, [], rest, rfl, none⟩
      · refine .inl fun other member named defined => ?_
        rcases List.mem_cons.mp member with rfl | member
        · exact here ⟨named, defined⟩
        · exact none other member named defined
    · rw [split]
      exact .inr ⟨later, named, defined, profile :: before, after, rfl, behind⟩

/-- A list without some empty profiles and without some that are listed again further on. -/
inductive Thinned : (listed thin : List String) → Prop
  | nil : Thinned [] []
  | keep (profile : String) {rest thin : List String} (thinned : Thinned rest thin) :
      Thinned (profile :: rest) (profile :: thin)
  | empty {rest thin : List String} (thinned : Thinned rest thin) : Thinned ("" :: rest) thin
  | repeated {profile : String} {rest thin : List String} (again : profile ∈ rest)
      (thinned : Thinned rest thin) : Thinned (profile :: rest) thin

theorem thinned_filter (listed : List String) : Thinned listed (listed.filter (· ≠ "")) := by
  induction listed with
  | nil => exact .nil
  | cons profile rest hypothesis =>
    by_cases blank : profile = ""
    · subst blank
      exact .empty hypothesis
    · rw [List.filter_cons_of_pos (by simpa using blank)]
      exact .keep profile hypothesis

/-- Leaving out repetitions leaves the last occurrence of every profile. -/
theorem thinned_dedup (listed : List String) : Thinned listed listed.dedup := by
  induction listed with
  | nil => exact .nil
  | cons profile rest hypothesis =>
    by_cases again : profile ∈ rest
    · rw [List.dedup_cons_of_mem again]
      exact .repeated again hypothesis
    · rw [List.dedup_cons_of_notMem again]
      exact .keep profile hypothesis

namespace Profiles

/-- The first variant of a name in the order of lookup. -/
def variantIn (profiles : Profiles) (sources : SourceSet) (name : String) : Option ConfigValue :=
  profiles.lookupOrder.findSome? fun profile => sources.value (qualified profile name)

/-- What profiles make of a name over some sources. -/
def valueIn (profiles : Profiles) (sources : SourceSet) (name : String) : Option ConfigValue :=
  if isQualified name then sources.value name
  else (profiles.variantIn sources name).or (sources.value name)

theorem variantIn_append (first second : List String) :
    (ofList (first ++ second)).variantIn sources name
      = ((ofList second).variantIn sources name).or ((ofList first).variantIn sources name) := by
  unfold variantIn ofList
  rw [List.filter_append, List.reverse_append, List.findSome?_append]

theorem variantIn_singleton (named : profile ≠ "") :
    (ofList [profile]).variantIn sources name = sources.value (qualified profile name) := by
  have kept : [profile].filter (fun profile => !profile.isEmpty) = [profile] := by
    simp [named]
  unfold variantIn ofList
  rw [kept, List.reverse_singleton, List.findSome?_singleton]

theorem variantIn_eq_none_iff :
    (ofList listed).variantIn sources name = none ↔ NoVariant sources listed name := by
  unfold variantIn ofList NoVariant
  simp only [List.findSome?_eq_none_iff, List.mem_reverse, List.mem_filter,
    SourceSet.value_eq_none_iff, Bool.not_eq_true', String.isEmpty_eq_false_iff, and_imp]

theorem variantIn_of_last (last : LastVariant sources listed name profile) :
    (ofList listed).variantIn sources name = sources.value (qualified profile name) := by
  obtain ⟨named, defined, before, after, rfl, behind⟩ := last
  obtain ⟨found, given⟩ := (sources.exists_value_iff _).mpr defined
  have none : (ofList after).variantIn sources name = none := variantIn_eq_none_iff.mpr behind
  rw [← List.singleton_append, variantIn_append, variantIn_append, none, Option.none_or,
    variantIn_singleton named, given, Option.some_or]

theorem variantIn_cons_of_mem (again : profile ∈ listed) :
    (ofList (profile :: listed)).variantIn sources name
      = (ofList listed).variantIn sources name := by
  rw [← List.singleton_append, variantIn_append]
  cases later : (ofList listed).variantIn sources name with
  | some found => rfl
  | none =>
    -- No listed profile has a variant, so this one has none either.
    rw [Option.none_or, variantIn_eq_none_iff]
    intro other member
    rw [List.mem_singleton.mp member]
    exact variantIn_eq_none_iff.mp later profile again

theorem variantIn_thinned {thin : List String} (thinned : Thinned listed thin) :
    (ofList thin).variantIn sources name = (ofList listed).variantIn sources name := by
  induction thinned with
  | nil => rfl
  | @keep profile rest thin thinned hypothesis =>
    rw [← List.singleton_append, ← List.singleton_append (x := profile) (l := rest),
      variantIn_append, variantIn_append, hypothesis]
  | empty thinned hypothesis => exact hypothesis
  | repeated again thinned hypothesis => rw [variantIn_cons_of_mem again, hypothesis]

theorem valueIn_of_last (plain : isQualified name = false)
    (last : LastVariant sources listed name profile) :
    (ofList listed).valueIn sources name = sources.value (qualified profile name) := by
  obtain ⟨found, given⟩ := (sources.exists_value_iff _).mpr last.defined
  rw [valueIn, if_neg (Bool.eq_false_iff.mp plain), variantIn_of_last last, given, Option.some_or]

theorem valueIn_of_none (none : NoVariant sources listed name) :
    (ofList listed).valueIn sources name = sources.value name := by
  rw [valueIn, variantIn_eq_none_iff.mpr none, Option.none_or, ite_self]

theorem valueIn_of_qualified (profiles : Profiles) (variant : isQualified name = true) :
    profiles.valueIn sources name = sources.value name :=
  if_pos variant

theorem valueIn_thinned {thin : List String} (thinned : Thinned listed thin) :
    (ofList thin).valueIn sources name = (ofList listed).valueIn sources name := by
  rw [valueIn, valueIn, variantIn_thinned thinned]

/-! ## Part 3 — the stage of the profiles -/

variable {m : Type → Type} [Monad m] [LawfulMonad m]

theorem firstFound_answers (names : List String) :
    firstFound (answers sources : String → Outcome m) names
      = pure (names.findSome? sources.value) := by
  induction names with
  | nil => rfl
  | cons name rest hypothesis =>
    rw [firstFound, answers, pure_bind, List.findSome?_cons]
    cases sources.value name with
    | some found => rfl
    | none => exact hypothesis

theorem intercept_profiles (profiles : Profiles) (position : Nat) (scope : Scope) :
    profiles.stage.intercept ⟨position, scope, (answers sources : String → Outcome m)⟩
      = fun name => pure (profiles.valueIn sources name) := by
  funext name
  show firstFound (answers sources : String → Outcome m) (profiles.candidates name) = _
  rw [firstFound_answers, candidates, valueIn]
  split
  · rw [List.findSome?_singleton]
  · rw [List.findSome?_append, List.findSome?_map, List.findSome?_singleton]
    rfl

end Profiles

end LayeredConfig.Lookup
