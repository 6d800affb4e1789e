/-
**Secrets that are asked for by profile.**

A configuration without stages of its users does not give a secret while secrets are locked, whatever
its sources hold (`configValue_of_secret`). That covers every variant of a property that a pattern
meets if the profile has no dots (`configValue_of_undotted`). With a dot in the profile it does not:
the variant is found like any other value if no pattern meets what stands behind the first dot
(`configValue_of_dotted`, `dotted_variant_shown`).
-/

import LayeredConfig.Proofs.Lookup.SecretNames
import LayeredConfig.Proofs.Resolve.ActiveProfiles

set_option linter.unusedSectionVars false

namespace LayeredConfig.Resolve

open LayeredConfig.Conversion LayeredConfig.Expression LayeredConfig.Lookup LayeredConfig.Pattern
open LayeredConfig.Source

variable {m : Type → Type} [Monad m] {Extra : Type} [DecidableEq Extra] [Extension Extra]
variable {blueprint : Blueprint m Extra} {scope : Scope} {position : Nat} {name : String}

/-! ## Part 1 — the inner stages -/

theorem secretStages_of_secret (secret : blueprint.secrets.isSecret name = true) :
    blueprint.secretStages = [blueprint.secrets.stage] := by
  obtain ⟨pattern, registered, _⟩ := (isSecret_iff _ _).mp secret
  unfold Blueprint.secretStages
  rw [if_neg]
  intro empty
  rw [List.isEmpty_iff.mp empty] at registered
  exact List.not_mem_nil registered

/-- What stands behind the stage of the secrets is not asked for a secret. -/
theorem nested_secrets_of_secret (locked : scope.isLocked = true)
    (secret : blueprint.secrets.isSecret name = true) (rest : String → Outcome m) :
    nested scope position blueprint.secretStages rest name = pure none := by
  rw [secretStages_of_secret secret, nested_cons]
  show (if scope.isLocked && blueprint.secrets.isSecret name then pure none else _) = pure none
  rw [locked, secret]
  rfl

theorem nested_secrets_of_plain (plain : blueprint.secrets.isSecret name = false)
    (rest : String → Outcome m) :
    nested scope position blueprint.secretStages rest name = rest name := by
  unfold Blueprint.secretStages
  split
  · rfl
  · show (if scope.isLocked && blueprint.secrets.isSecret name then pure none else rest name) = _
    rw [plain, Bool.and_false]
    rfl

variable [LawfulMonad m]

theorem nested_profiles_of_qualified (variant : Profiles.isQualified name = true)
    (profiles : List String) (sources : SourceSet) :
    nested scope position (blueprint.profileStages profiles) (answers sources) name
      = pure (sources.value name) := by
  unfold Blueprint.profileStages
  split
  · rw [nested_cons, nested_nil, Profiles.intercept_profiles]
    show pure ((Profiles.ofList profiles).valueIn sources name) = _
    rw [Profiles.valueIn_of_qualified _ variant]
  · rfl

/-! ## Part 2 — what a configuration answers -/

/-- Whatever sources stand behind the stages, nothing is found for a secret. -/
theorem lookup_of_secret (without : blueprint.WithoutStages) (locked : scope.isLocked = true)
    (secret : blueprint.secrets.isSecret name = true) (sources : SourceSet) :
    blueprint.build.result.chain.lookup scope sources name = pure none := by
  rw [lookup_build without, Blueprint.ownStages, nested_append]
  refine nested_references ?_ (fun value given => absurd given (Option.some_ne_none value).symm) scope 0
  rw [nested_append]
  exact nested_secrets_of_secret locked secret _

theorem configValue_of_secret (without : blueprint.WithoutStages) (locked : scope.isLocked = true)
    (secret : blueprint.secrets.isSecret name = true) :
    blueprint.build.result.configValue scope name = pure (.ok none) :=
  configValue_of_lookup (lookup_of_secret without locked secret _)

/-- **A variant of a secret for a profile without dots is absent while secrets are locked**, whatever
the sources hold and whichever profiles are active. -/
theorem configValue_of_undotted (without : blueprint.WithoutStages) (locked : scope.isLocked = true)
    {profile : String} (undotted : '.' ∉ profile.toList) {pattern : String}
    (registered : pattern ∈ blueprint.secretKeys)
    (meets : (Path.parse name).Meets (Path.parse pattern)) :
    blueprint.build.result.configValue scope (Profiles.qualified profile name) = pure (.ok none) :=
  configValue_of_secret without locked
    ((isSecret_undotted_iff _ undotted name).mpr ⟨pattern, registered, meets⟩)

/-- A password for two profiles, of which one has a dot in its name. -/
def sampleRegions : MapSource :=
  ⟨"app", 100, [("%eu.west.db.password", "s3cr3t"), ("%prod.db.password", "hunter2")]⟩

/-- A configuration for these profiles that keeps passwords. -/
def sampleRegional : Blueprint Id Empty :=
  ((Blueprint.empty.withHandles [⟨.owned 0, sampleRegions.toSource⟩]).withProfiles
    ["eu.west", "prod"]).withSecretKeys ["db.password"]

/-- The source has the variant, and it is not given. -/
theorem configValue_of_undotted_sample :
    let variant := Profiles.qualified "prod" "db.password"
    sampleRegional.WithoutStages ∧ Scope.outermost.isLocked = true ∧ '.' ∉ "prod".toList
    ∧ "db.password" ∈ sampleRegional.secretKeys
    ∧ (Path.parse "db.password").Meets (Path.parse "db.password")
    ∧ sampleRegions.toSource.value variant = some "hunter2"
    ∧ sampleRegional.build.result.configValue .outermost variant = pure (.ok none) := by
  intro variant
  have without : sampleRegional.WithoutStages := ⟨rfl, rfl⟩
  have undotted : '.' ∉ "prod".toList := by decide
  have registered : "db.password" ∈ sampleRegional.secretKeys := List.mem_singleton_self _
  have meets : (Path.parse "db.password").Meets (Path.parse "db.password") :=
    List.forall₂_same.mpr fun segment _ => .same segment
  exact ⟨without, rfl, undotted, registered, meets, by decide +kernel,
    configValue_of_undotted without rfl undotted registered meets⟩

/-- A variant that is not secret has the value of the sources, locked or not. -/
theorem configValue_of_shown (without : blueprint.WithoutStages) (plain : blueprint.PlainValues)
    (scope : Scope) (variant : Profiles.isQualified name = true)
    (shown : blueprint.secrets.isSecret name = false) :
    blueprint.build.result.configValue scope name
      = pure (.ok (blueprint.build.result.sources.value name)) := by
  apply configValue_of_lookup
  rw [lookup_build without, Blueprint.ownStages, nested_append]
  refine nested_references ?_ (fun _ given => plain.hasOpening given) scope 0
  rw [nested_append, nested_secrets_of_plain shown, nested_profiles_of_qualified variant]

/-- A variant for a profile with a dot is shown, locked or not, if no pattern meets what stands behind
the first dot; that some pattern meets the property does not help. -/
theorem configValue_of_dotted (without : blueprint.WithoutStages) (plain : blueprint.PlainValues)
    (scope : Scope) {first second : String} (undotted : '.' ∉ first.toList)
    (unmet : ¬ Described blueprint.secretKeys (second ++ "." ++ name)) :
    blueprint.build.result.configValue scope (Profiles.qualified (first ++ "." ++ second) name)
      = pure (.ok (blueprint.build.result.sources.value
          (Profiles.qualified (first ++ "." ++ second) name))) := by
  have shown : blueprint.secrets.isSecret (Profiles.qualified (first ++ "." ++ second) name)
      = false := by
    rw [Bool.eq_false_iff, Ne, Blueprint.secrets, isSecret_dotted_iff _ undotted]
    exact unmet
  have variant : Profiles.isQualified (Profiles.qualified (first ++ "." ++ second) name) = true := by
    simp [Profiles.isQualified, Profiles.qualified]
  exact configValue_of_shown without plain scope variant shown

theorem sources_sampleRegional :
    sampleRegional.build.result.sources = ⟨[⟨.owned 0, sampleRegions.toSource⟩]⟩ :=
  ofList_singleton _

theorem plainValues_sampleRegional : sampleRegional.PlainValues :=
  Blueprint.plainValues_of_properties rfl (by decide)

/-- The password for the profile with a dot is given while secrets are locked, although its property
is met by a pattern. -/
theorem dotted_variant_shown :
    let variant := Profiles.qualified "eu.west" "db.password"
    sampleRegional.WithoutStages ∧ Scope.outermost.isLocked = true
    ∧ "eu.west" ∈ sampleRegional.build.result.profiles ∧ Profiles.isQualified "db.password" = false
    ∧ Described sampleRegional.secretKeys "db.password"
    ∧ sampleRegional.build.result.configValue .outermost variant
      = pure (.ok (some ⟨"%eu.west.db.password", "s3cr3t", "app", 100⟩)) := by
  intro variant
  have without : sampleRegional.WithoutStages := ⟨rfl, rfl⟩
  have undotted : '.' ∉ "eu".toList := by decide
  have unmet : ¬ Described sampleRegional.secretKeys ("west" ++ "." ++ "db.password") := by
    decide +kernel
  have shown := configValue_of_dotted without plainValues_sampleRegional .outermost undotted unmet
  have profile : "eu" ++ "." ++ "west" = "eu.west" := by decide
  have value : SourceSet.value ⟨[⟨.owned 0, sampleRegions.toSource⟩]⟩ variant
      = some ⟨"%eu.west.db.password", "s3cr3t", "app", 100⟩ := by decide +kernel
  rw [profile, sources_sampleRegional, value] at shown
  exact ⟨without, rfl, List.mem_cons_self, by decide, by decide +kernel, shown⟩

end LayeredConfig.Resolve
