/-
**Keeping secrets is the same as not having them.**

A configuration of library stages that keeps secrets answers every locked lookup as one that has no
secret keys and whose sources lack the secret properties (`Blueprint.redacted`):

* `value_ofList_without`: taking properties from the sources takes their values and no others;
* `lookup_redacted`: the two chains answer alike, for what hides the secrets from the profiles hides
  them from all references too;
* `configValue_redacted`: the two configurations answer alike. So two configurations that differ in
  nothing but secret properties cannot be told apart while secrets are locked.
-/

import LayeredConfig.Proofs.Lookup.Hiding
import LayeredConfig.Resolve.Blueprint

set_option linter.unusedSectionVars false

/-! ## Part 1 — sources without some of their properties -/

namespace LayeredConfig.Source

/-- The same instance of a source without the properties of some names. -/
def Handle.without (removed : String → Bool) (handle : Handle) : Handle :=
  { handle with source := { handle.source with
      value := fun name => if removed name then none else handle.source.value name
      propertyNames := handle.source.propertyNames.filter fun name => !removed name } }

variable (removed : String → Bool)

theorem distinctFrom_without (handles : List Handle) (seen : List Identity) :
    distinctFrom seen (handles.map (Handle.without removed))
      = (distinctFrom seen handles).map (Handle.without removed) := by
  induction handles generalizing seen with
  | nil => rfl
  | cons handle rest hypothesis =>
    simp only [List.map_cons, distinctFrom, hypothesis]
    by_cases known : handle.identity ∈ seen
    · rw [if_pos known, if_pos (show (handle.without removed).identity ∈ seen from known)]
    · rw [if_neg known, if_neg (show (handle.without removed).identity ∉ seen from known)]
      rfl

theorem ofList_without (handles : List Handle) :
    SourceSet.ofList (handles.map (Handle.without removed))
      = ⟨(SourceSet.ofList handles).handles.map (Handle.without removed)⟩ := by
  unfold SourceSet.ofList distinct
  rw [distinctFrom_without, List.map_mergeSort]
  intro first _ second _
  rfl

/-- **Sources without some properties give nothing for these and what they gave for all others.** -/
theorem value_ofList_without (handles : List Handle) (name : String) :
    (SourceSet.ofList (handles.map (Handle.without removed))).value name
      = if removed name then none else (SourceSet.ofList handles).value name := by
  have each : SourceSet.valueFrom name ∘ Handle.without removed
      = fun handle => if removed name then none else SourceSet.valueFrom name handle := by
    funext handle
    show ((if removed name then none else handle.source.value name).map _ : Option ConfigValue) = _
    split <;> rfl
  rw [ofList_without, SourceSet.value, List.findSome?_map, each]
  split
  · exact List.findSome?_eq_none_iff.mpr fun _ _ => rfl
  · rfl

end LayeredConfig.Source

namespace LayeredConfig.Resolve

open LayeredConfig.Conversion LayeredConfig.Expression LayeredConfig.Lookup LayeredConfig.Pattern
open LayeredConfig.Source

variable {m : Type → Type} [Monad m] {Extra : Type} [DecidableEq Extra] [Extension Extra]

/-! ## Part 2 — the blueprint without secrets -/

/-- The secrets of a blueprint. -/
def Blueprint.secrets (blueprint : Blueprint m Extra) : SecretKeys :=
  .ofPatterns blueprint.secretKeys

/-- The blueprint without secret keys, over sources that lack the secret properties. Properties are
secret under the names that they have inside all wrappers. -/
def Blueprint.redacted (blueprint : Blueprint m Extra) : Blueprint m Extra :=
  { blueprint with
    sources := blueprint.wrapped.map (Handle.without blueprint.secrets.isSecret)
    discoveredSources := []
    usesDiscoveredSources := false
    wrappers := []
    secretKeys := [] }

/-- The blueprint has no stages but those of the library, and profiles, if they take part, are
listed and have no dots. -/
structure Blueprint.OfLibrary (blueprint : Blueprint m Extra) : Prop where
  declared : ∀ stage ∈ blueprint.stages, IsLibraryStage stage
  discovered : ∀ stage ∈ blueprint.enabledStages, IsLibraryStage stage
  listed : blueprint.usesDefaultStages = true → blueprint.profiles ≠ none
  undotted : ∀ profiles, blueprint.profiles = some profiles →
    ∀ profile ∈ profiles, '.' ∉ profile.toList

theorem wrapFrom_nil (position : Nat) (handles : List Handle) :
    Blueprint.wrapFrom [] position handles = handles := by
  induction handles generalizing position with
  | nil => rfl
  | cons handle rest hypothesis =>
    rw [Blueprint.wrapFrom, hypothesis]
    rfl

theorem wrapped_redacted (blueprint : Blueprint m Extra) :
    blueprint.redacted.wrapped = blueprint.wrapped.map (Handle.without blueprint.secrets.isSecret) :=
  wrapFrom_nil 0 _

/-- The declared stages but for the one of the secrets, where profiles that take part are listed. -/
def Blueprint.openStages (blueprint : Blueprint m Extra) : List (Stage m) :=
  blueprint.stages
    ++ (match blueprint.profiles with
      | some profiles => [(Profiles.ofList profiles).stage]
      | none => [])
    ++ if blueprint.usesDefaultStages then [Limits.standard.stage] else []

namespace Blueprint.OfLibrary

variable {blueprint : Blueprint m Extra}

theorem redacted (ofLibrary : blueprint.OfLibrary) : blueprint.redacted.OfLibrary :=
  ⟨ofLibrary.declared, ofLibrary.discovered, ofLibrary.listed, ofLibrary.undotted⟩

theorem of_redacted (ofLibrary : blueprint.redacted.OfLibrary) : blueprint.OfLibrary :=
  ⟨ofLibrary.declared, ofLibrary.discovered, ofLibrary.listed, ofLibrary.undotted⟩

/-- The declared stages do not depend on the sources. -/
theorem declaredStages_eq (ofLibrary : blueprint.OfLibrary) (sources : SourceSet) :
    blueprint.declaredStages (blueprint.activeProfiles sources)
      = blueprint.openStages
        ++ if blueprint.secretKeys.isEmpty then [] else [blueprint.secrets.stage] := by
  unfold Blueprint.declaredStages Blueprint.openStages
  cases profiles : blueprint.profiles with
  | some listed => simp [activeProfiles, profiles, secrets]
  | none =>
    have plain : blueprint.usesDefaultStages = false :=
      Bool.eq_false_iff.mpr fun used => ofLibrary.listed used profiles
    simp [plain, secrets]

theorem library_openStages (ofLibrary : blueprint.OfLibrary) :
    ∀ stage ∈ blueprint.openStages, IsLibraryStage stage := by
  intro stage member
  unfold Blueprint.openStages at member
  rcases List.mem_append.mp member with member | expression
  · rcases List.mem_append.mp member with declared | profile
    · exact ofLibrary.declared stage declared
    · split at profile
      next listed found =>
        rw [List.mem_singleton.mp profile]
        refine .profile _ fun name active => ofLibrary.undotted listed found name ?_
        exact (List.mem_filter.mp (List.mem_reverse.mp active)).1
      next => cases profile
  · split at expression
    · rw [List.mem_singleton.mp expression]
      exact .expression _
    · cases expression

end Blueprint.OfLibrary

/-! ## Part 3 — lookups that cannot tell -/

theorem isSecret_ofPatterns_nil (name : String) :
    (SecretKeys.ofPatterns []).isSecret name = false := by
  unfold SecretKeys.isSecret
  cases Path.parse (SecretKeys.unqualified name) with
  | nil => rfl
  | cons segment rest => cases segment <;> rfl

variable [LawfulMonad m] {blueprint : Blueprint m Extra}

/-- The sources that lack the secrets hide them. -/
theorem hides_redacted (blueprint : Blueprint m Extra) :
    Hides blueprint.secrets
      (fun name => pure ((SourceSet.ofList blueprint.redacted.wrapped).value name) :
        String → Outcome m)
      (fun name => pure ((SourceSet.ofList blueprint.wrapped).value name)) := by
  intro name
  simp only [wrapped_redacted, value_ofList_without]
  split <;> rfl

/-- **The chain without the stage of the secrets, over the sources without them, answers alike.** -/
theorem lookup_redacted (ofLibrary : blueprint.OfLibrary) {scope : Scope}
    (locked : scope.isLocked = true) :
    blueprint.build.result.chain.lookup scope blueprint.build.result.sources
      = blueprint.redacted.build.result.chain.lookup scope
        blueprint.redacted.build.result.sources := by
  let sources := SourceSet.ofList blueprint.wrapped
  let others := SourceSet.ofList blueprint.redacted.wrapped
  have hides := hides_redacted blueprint
  have library : ∀ stage ∈ blueprint.openStages ++ blueprint.enabledStages, IsLibraryStage stage :=
    fun stage member => (List.mem_append.mp member).elim (ofLibrary.library_openStages stage)
      (ofLibrary.discovered stage)
  show (Chain.ofStages (blueprint.declaredStages (blueprint.activeProfiles sources))
      blueprint.enabledStages).lookup scope sources
    = (Chain.ofStages (blueprint.redacted.declaredStages (blueprint.redacted.activeProfiles others))
      blueprint.enabledStages).lookup scope others
  have plain : blueprint.redacted.declaredStages (blueprint.redacted.activeProfiles others)
      = blueprint.openStages := by
    rw [ofLibrary.redacted.declaredStages_eq]
    exact List.append_nil _
  rw [plain, lookup_ofStages library, ofLibrary.declaredStages_eq]
  by_cases keys : blueprint.secretKeys.isEmpty
  · -- Without secret keys nothing is a secret, and there is no stage to hide it.
    have same : (fun name => pure (others.value name) : String → Outcome m)
        = fun name => pure (sources.value name) := by
      funext name
      refine (hides name).trans ?_
      rw [Blueprint.secrets, List.isEmpty_iff.mp keys, isSecret_ofPatterns_nil]
      rfl
    rw [if_pos keys, List.append_nil, lookup_ofStages library, same]
  · have secret : ∀ stage ∈ blueprint.openStages ++ [blueprint.secrets.stage]
        ++ blueprint.enabledStages, IsLibraryStage stage := by
      intro stage member
      rcases List.mem_append.mp member with declared | enabled
      · rcases List.mem_append.mp declared with plain | secret
        · exact ofLibrary.library_openStages stage plain
        · rw [List.mem_singleton.mp secret]
          exact .secret _
      · exact ofLibrary.discovered stage enabled
    obtain ⟨outer, inner, masked, unmasked, behind⟩ :=
      libraryOrder_insert blueprint.secrets blueprint.openStages blueprint.enabledStages
    rw [if_neg keys, lookup_ofStages secret, List.append_assoc, List.singleton_append, masked,
      unmasked, through_append, through_append]
    refine congrArg (through scope outer) ?_
    exact (hides.through (fun stage member => library stage (behind stage member).1)
      (fun stage member => (behind stage member).2) scope).masked locked 0

/-- **Locked secrets are as if they were not there.** -/
theorem configValue_redacted (ofLibrary : blueprint.OfLibrary) {scope : Scope}
    (locked : scope.isLocked = true) (name : String) :
    blueprint.build.result.configValue scope name
        = blueprint.redacted.build.result.configValue scope name
    ∧ ∀ other : Blueprint m Extra, other.redacted = blueprint.redacted →
      other.build.result.configValue scope name
        = blueprint.build.result.configValue scope name := by
  have alike : ∀ blueprint : Blueprint m Extra, blueprint.OfLibrary →
      blueprint.build.result.configValue scope name
        = blueprint.redacted.build.result.configValue scope name := by
    intro blueprint ofLibrary
    unfold Config.configValue
    rw [lookup_redacted ofLibrary locked]
  refine ⟨alike blueprint ofLibrary, fun other same => ?_⟩
  have otherOfLibrary : other.OfLibrary := .of_redacted (same ▸ ofLibrary.redacted)
  rw [alike other otherOfLibrary, same, ← alike blueprint ofLibrary]

/-- No types but the built-in ones. -/
instance : Extension Empty := ⟨Empty.elim, Empty.elim⟩

/-- A source with a password for one profile and an address that needs it or has a default. -/
def sampleHandle (password : String) : Handle where
  identity := .owned 0
  source := MapSource.toSource ⟨"base", 100,
    [("%dev.db.password", password), ("host", "localhost"), ("url", "${db.password:none}@${host}")]⟩

/-- A configuration for that profile that keeps passwords. -/
def sampleBlueprint (password : String) : Blueprint Id Empty :=
  ((Blueprint.empty.withHandles [sampleHandle password]).useDefaultStages.withProfiles
    ["dev"]).withSecretKeys ["db.*"]

theorem ofLibrary_sampleBlueprint (password : String) : (sampleBlueprint password).OfLibrary where
  declared _ member := absurd member List.not_mem_nil
  discovered _ member := absurd member List.not_mem_nil
  listed _ := Option.some_ne_none _
  undotted profiles found profile member := by
    cases found
    rw [List.mem_singleton.mp member]
    decide

theorem redacted_sampleBlueprint (first second : String) :
    (sampleBlueprint first).redacted = (sampleBlueprint second).redacted := by
  let secrets : SecretKeys := .ofPatterns ["db.*"]
  have isSecret : secrets.isSecret "%dev.db.password" = true := by decide +kernel
  have hidden : (sampleHandle first).without secrets.isSecret
      = (sampleHandle second).without secrets.isSecret := by
    have value : ∀ name, (if secrets.isSecret name then none
          else (sampleHandle first).source.value name)
        = if secrets.isSecret name then none else (sampleHandle second).source.value name := by
      intro name
      by_cases password : name = "%dev.db.password"
      · rw [password, if_pos isSecret, if_pos isSecret]
      · have other : (name == "%dev.db.password") = false := beq_false_of_ne password
        simp [sampleHandle, MapSource.toSource, List.lookup_cons, other]
    unfold Handle.without
    rw [funext value]
    rfl
  show { sampleBlueprint first with
      sources := [(sampleHandle first).without secrets.isSecret], secretKeys := [] }
    = { sampleBlueprint second with
      sources := [(sampleHandle second).without secrets.isSecret], secretKeys := [] }
  rw [hidden]
  rfl

/-- The address of the sample does not depend on the password, nor on there being one. -/
theorem configValue_redacted_sample :
    (sampleBlueprint "first").OfLibrary ∧ Scope.outermost.isLocked = true
    ∧ (sampleBlueprint "second").redacted = (sampleBlueprint "first").redacted
    ∧ ((sampleBlueprint "first").redacted.build.result.configValue .outermost "url").run
        = .ok (some ⟨"url", "none@localhost", "base", 100⟩)
    ∧ ((sampleBlueprint "first").build.result.configValue .outermost "url").run
        = .ok (some ⟨"url", "none@localhost", "base", 100⟩)
    ∧ ((sampleBlueprint "second").build.result.configValue .outermost "url").run
        = .ok (some ⟨"url", "none@localhost", "base", 100⟩) := by
  have ofLibrary := ofLibrary_sampleBlueprint "first"
  have same := redacted_sampleBlueprint "second" "first"
  have locked : Scope.outermost.isLocked = true := rfl
  -- Sorting does not compute here, so the two stages are put in their order by hand.
  have order : ∀ sources,
      (sampleBlueprint "first").redacted.build.result.chain.lookup .outermost sources
        = through .outermost [Limits.standard.stage, (Profiles.ofList ["dev"]).stage] fun name =>
          pure (sources.value name) :=
    lookup_ofStages ofLibrary.redacted.library_openStages .outermost
  have value : ((sampleBlueprint "first").redacted.build.result.configValue .outermost "url").run
      = .ok (some ⟨"url", "none@localhost", "base", 100⟩) := by
    unfold Config.configValue
    rw [order]
    decide +kernel
  obtain ⟨alike, others⟩ := configValue_redacted ofLibrary locked "url"
  exact ⟨ofLibrary, locked, same, value, alike.trans value,
    (others _ same).trans (alike.trans value)⟩

end LayeredConfig.Resolve
