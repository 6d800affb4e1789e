/-
**Which names a configuration enumerates.**

It enumerates what its sources list, whatever stages stand in front of them:

* `mem_propertyNames_ofList`: a set lists the names of the instances in it;
* `propertyNames_of_pairs`: where the sources hold pairs and there are no stages, the names are those
  that have a raw value;
* `propertyNames_of_secrets`: secret names are enumerated like all others, locked or not, so they are
  kept back exactly if no source lists one;
* `password_enumerated`: a password that no lookup gives is enumerated.
-/

import LayeredConfig.Proofs.Resolve.Instances
import LayeredConfig.Proofs.Resolve.QualifiedSecrets
import LayeredConfig.Proofs.Source.Winner
import LayeredConfig.Proofs.Text.Ascending

set_option linter.unusedSectionVars false

namespace LayeredConfig.Source

open LayeredConfig.Sorting LayeredConfig.Text

/-! ## Part 1 — names of sources -/

/-- The instance is a source made of some pairs, under any name and rank. -/
def Handle.Holds (handle : Handle) (pairs : List (String × String)) : Prop :=
  ∃ name ordinal, handle.source = ((MapSource.ofPairs name pairs).withOrdinal ordinal).toSource

/-- The source of an instance lists the names that it defines and no others. -/
def Handle.ListsDefined (handle : Handle) : Prop :=
  ∀ name, name ∈ handle.source.propertyNames ↔ handle.Defines name

theorem mem_keys_iff_lookup {Value : Type} (entries : List (String × Value)) (name : String) :
    name ∈ entries.map Prod.fst ↔ entries.lookup name ≠ none := by
  induction entries with
  | nil => exact iff_of_false List.not_mem_nil fun found => found rfl
  | cons entry rest hypothesis =>
    rw [List.map_cons, List.mem_cons, hypothesis, lookup_cons_eq_ite]
    split
    next same => exact iff_of_true (.inl same) (Option.some_ne_none _)
    next different => exact or_iff_right different

theorem Handle.Holds.listsDefined {handle : Handle} {pairs : List (String × String)}
    (holds : handle.Holds pairs) : handle.ListsDefined := by
  obtain ⟨name, ordinal, source⟩ := holds
  intro asked
  rw [Handle.Defines, source]
  exact mem_keys_iff_lookup _ asked

/-- A source made of pairs gives the last value of a name. -/
theorem Handle.Holds.value {handle : Handle} {pairs : List (String × String)}
    (holds : handle.Holds pairs) (asked : String) :
    handle.source.value asked = pairs.reverse.lookup asked := by
  obtain ⟨name, ordinal, source⟩ := holds
  rw [source]
  exact lookup_entriesOf pairs asked

/-! ## Part 2 — names of sets -/

theorem mem_handles_ofList (handles : List Handle) (handle : Handle) :
    handle ∈ (SourceSet.ofList handles).handles ↔ handle ∈ firstOccurrences handles := by
  rw [SourceSet.ofList, List.mem_mergeSort, distinct_eq_firstOccurrences]

/-- **A set lists the names of the instances in it.** -/
theorem mem_propertyNames_ofList (handles : List Handle) (name : String) :
    name ∈ (SourceSet.ofList handles).propertyNames
      ↔ ∃ handle ∈ firstOccurrences handles, name ∈ handle.source.propertyNames := by
  rw [SourceSet.propertyNames, mem_ascending, List.mem_flatMap]
  simp only [mem_handles_ofList]

theorem mem_of_mem_firstOccurrences {handles : List Handle} {handle : Handle}
    (member : handle ∈ firstOccurrences handles) : handle ∈ handles :=
  mem_of_mem_ofList ((mem_handles_ofList handles handle).mpr member)

/-- **Where every source lists what it defines, the names of a set are those with a value.** -/
theorem mem_propertyNames_iff_value {handles : List Handle}
    (lists : ∀ handle ∈ handles, handle.ListsDefined) (name : String) :
    name ∈ (SourceSet.ofList handles).propertyNames
      ↔ (SourceSet.ofList handles).value name ≠ none := by
  rw [mem_propertyNames_ofList, value_ne_none_iff]
  refine exists_congr fun handle => and_congr_right fun member => ?_
  exact lists handle (mem_of_mem_firstOccurrences member) name

end LayeredConfig.Source

namespace LayeredConfig.Resolve

open LayeredConfig.Conversion LayeredConfig.Lookup LayeredConfig.Source

variable {m : Type → Type} [Monad m] {Extra : Type} [DecidableEq Extra] [Extension Extra]

/-! ## Part 3 — configurations without stages -/

/-- No stage takes part, be it declared, discovered or one of the library. -/
structure Blueprint.Bare (blueprint : Blueprint m Extra) : Prop extends blueprint.WithoutStages where
  plain : blueprint.usesDefaultStages = false
  unlisted : blueprint.profiles = none
  keyless : blueprint.secretKeys = []

theorem chain_addSources (config : Config m Extra) (added : List Handle) :
    (config.addSources added).chain = config.chain := by
  induction added using List.reverseRecOn with
  | nil => rfl
  | append_singleton added handle hypothesis =>
    rw [Config.addSources, List.foldl_append, ← Config.addSources, ← hypothesis]
    rfl

theorem chain_of_bare {blueprint : Blueprint m Extra} (bare : blueprint.Bare) :
    blueprint.build.result.chain = ⟨[]⟩ := by
  have undeclared : ∀ profiles, blueprint.declaredStages profiles = [] := by
    intro profiles
    rw [Blueprint.declaredStages_eq, bare.declared, Blueprint.profileStages,
      Blueprint.referenceStages, Blueprint.secretStages, bare.plain, bare.unlisted, bare.keyless]
    rfl
  show Chain.ofStages (blueprint.declaredStages _) blueprint.enabledStages = ⟨[]⟩
  rw [undeclared, bare.discovered, Chain.ofStages, List.append_nil, List.mergeSort_nil]

variable [LawfulMonad m]

/-- Without stages the sources answer. -/
theorem rawValue_of_bare {blueprint : Blueprint m Extra} (bare : blueprint.Bare) (added : List Handle)
    (scope : Scope) (name : String) :
    (blueprint.build.result.addSources added).rawValue scope name
      = pure (((SourceSet.ofList (blueprint.wrapped ++ added)).value name).map ConfigValue.value) := by
  have asked : (blueprint.build.result.addSources added).chain.lookup scope
      (blueprint.build.result.addSources added).sources name
        = pure ((SourceSet.ofList (blueprint.wrapped ++ added)).value name) := by
    rw [chain_addSources, chain_of_bare bare, Config.sources_addSources rfl]
    rfl
  unfold Config.rawValue
  rw [configValue_of_lookup asked, pure_bind]

/-- **Without stages the names are exactly those with a raw value**, if every source was made of pairs,
and they ascend strictly. The raw value is the last one in the pairs of the winner. -/
theorem propertyNames_of_pairs {blueprint : Blueprint m Extra} (bare : blueprint.Bare)
    {added : List Handle} (pairs : ∀ handle ∈ blueprint.wrapped ++ added, ∃ pairs, handle.Holds pairs) :
    let config := blueprint.build.result.addSources added
    config.sources.propertyNames.Pairwise (· < ·)
    ∧ ∀ scope name, ∃ raw, config.rawValue scope name = pure raw
      ∧ (name ∈ config.sources.propertyNames ↔ raw ≠ none)
      ∧ ∀ value, raw = some value
        ↔ ∃ winner pairs, Winner (firstOccurrences (blueprint.wrapped ++ added)) name winner
          ∧ winner.Holds pairs ∧ pairs.reverse.lookup name = some value := by
  intro config
  have sources : config.sources = SourceSet.ofList (blueprint.wrapped ++ added) :=
    Config.sources_addSources rfl added
  refine ⟨Text.pairwise_ascending _, fun scope name => ?_⟩
  refine ⟨_, rawValue_of_bare bare added scope name, ?_, ?_⟩
  · rw [sources, Ne, Option.map_eq_none_iff]
    refine mem_propertyNames_iff_value (fun handle member => ?_) name
    obtain ⟨_, holds⟩ := pairs handle member
    exact holds.listsDefined
  · intro value
    rw [Option.map_eq_some_iff]
    simp only [value_eq_some_iff]
    constructor
    · rintro ⟨found, ⟨winner, raw, wins, given, rfl⟩, rfl⟩
      obtain ⟨held, holds⟩ := pairs winner (mem_of_mem_firstOccurrences wins.mem)
      exact ⟨winner, held, wins, holds, (holds.value name).symm.trans given⟩
    · rintro ⟨winner, held, wins, holds, last⟩
      exact ⟨_, ⟨winner, value, wins, (holds.value name).trans last, rfl⟩, rfl⟩

/-- A source with pairs of which two are of one name, and one is of the empty name. -/
def sampleDefaults : Handle :=
  ⟨.shared 0, (MapSource.ofPairs "base" [("port", "80"), ("", "x"), ("port", "8080")]).toSource⟩

/-- A source above it that gives some of the same names. -/
def sampleOverrides : Handle :=
  ⟨.shared 1, ((MapSource.ofPairs "env" [("host", "eu"), ("port", "1"), ("host", "us")]).withOrdinal
    300).toSource⟩

/-- The second source is added later, the first one once more, and the last value of the second one
counts. -/
theorem propertyNames_of_pairs_sample :
    let blueprint : Blueprint Id Empty := Blueprint.empty.withHandles [sampleDefaults]
    let added := [sampleOverrides, sampleDefaults]
    let config := blueprint.build.result.addSources added
    blueprint.Bare ∧ (∀ handle ∈ blueprint.wrapped ++ added, ∃ pairs, handle.Holds pairs)
    ∧ config.rawValue .outermost "host" = pure (some "us") ∧ "host" ∈ config.sources.propertyNames
    ∧ config.sources.propertyNames.Nodup := by
  intro blueprint added config
  have bare : blueprint.Bare := ⟨⟨rfl, rfl⟩, rfl, rfl, rfl⟩
  have defaults : sampleDefaults.Holds [("port", "80"), ("", "x"), ("port", "8080")] :=
    ⟨"base", 100, rfl⟩
  have overrides : sampleOverrides.Holds [("host", "eu"), ("port", "1"), ("host", "us")] :=
    ⟨"env", 300, rfl⟩
  have pairs : ∀ handle ∈ blueprint.wrapped ++ added, ∃ pairs, handle.Holds pairs := by
    have listed : blueprint.wrapped ++ added = [sampleDefaults, sampleOverrides, sampleDefaults] := rfl
    rw [listed]
    simp only [List.forall_mem_cons]
    exact ⟨⟨_, defaults⟩, ⟨_, overrides⟩, ⟨_, defaults⟩, nofun⟩
  have wins : Winner (firstOccurrences (blueprint.wrapped ++ added)) "host" sampleOverrides := by
    have defines : sampleOverrides.Defines "host" := by
      rw [Handle.Defines, overrides.value]
      decide
    refine ⟨defines, [sampleDefaults], [], rfl, fun other member _ => ?_, nofun⟩
    rw [List.mem_singleton.mp member]
    decide
  obtain ⟨ordered, values⟩ := propertyNames_of_pairs bare pairs
  obtain ⟨raw, asked, enumerated, given⟩ := values .outermost "host"
  have last : raw = some "us" := (given "us").mpr ⟨_, _, wins, overrides, by decide⟩
  refine ⟨bare, pairs, last ▸ asked, enumerated.mpr ?_, ordered.imp fun less => ne_of_lt less⟩
  rw [last]
  exact Option.some_ne_none _

/-! ## Part 4 — configurations with secrets -/

theorem mem_propertyNames_addSources (blueprint : Blueprint m Extra) (added : List Handle)
    (name : String) :
    name ∈ (blueprint.build.result.addSources added).sources.propertyNames
      ↔ ∃ handle ∈ firstOccurrences (blueprint.wrapped ++ added),
        name ∈ handle.source.propertyNames := by
  rw [Config.sources_addSources rfl]
  exact mem_propertyNames_ofList _ name

/-- Sources that are added do not show a secret either. -/
theorem configValue_addSources_of_secret {blueprint : Blueprint m Extra}
    (without : blueprint.WithoutStages) {scope : Scope} (locked : scope.isLocked = true)
    {name : String} (secret : blueprint.secrets.isSecret name = true) (added : List Handle) :
    (blueprint.build.result.addSources added).configValue scope name = pure (.ok none) := by
  apply configValue_of_lookup
  rw [chain_addSources]
  exact lookup_of_secret without locked secret _

/-- **Secret names are enumerated as far as the sources list them**, locked or not, and whatever
patterns, profiles and stages there are besides. So a configuration enumerates none exactly if no
source lists one, while locked lookups find none in any case, unless a user's stage stands in between. -/
theorem propertyNames_of_secrets (blueprint : Blueprint m Extra) (added : List Handle) :
    let config := blueprint.build.result.addSources added
    let registered := firstOccurrences (blueprint.wrapped ++ added)
    (∀ name, name ∈ config.sources.propertyNames
      ↔ ∃ handle ∈ registered, name ∈ handle.source.propertyNames)
    ∧ ((∀ name ∈ config.sources.propertyNames, blueprint.secrets.isSecret name = false)
      ↔ ∀ handle ∈ registered, ∀ name ∈ handle.source.propertyNames,
        blueprint.secrets.isSecret name = false)
    ∧ (∀ other : Blueprint m Extra, other.wrapped = blueprint.wrapped →
      (other.build.result.addSources added).sources.propertyNames = config.sources.propertyNames)
    ∧ (blueprint.WithoutStages → ∀ scope name, scope.isLocked = true →
      blueprint.secrets.isSecret name = true → config.configValue scope name = pure (.ok none)) := by
  intro config registered
  have listed := mem_propertyNames_addSources blueprint added
  refine ⟨listed, ⟨?_, ?_⟩, fun other same => ?_, fun without scope name locked secret => ?_⟩
  · intro kept handle member name lists
    exact kept name ((listed name).mpr ⟨handle, member, lists⟩)
  · intro unlisted name enumerated
    obtain ⟨handle, member, lists⟩ := (listed name).mp enumerated
    exact unlisted handle member name lists
  · have one : config.sources = SourceSet.ofList (blueprint.wrapped ++ added) :=
      Config.sources_addSources rfl added
    have two : (other.build.result.addSources added).sources
        = SourceSet.ofList (other.wrapped ++ added) := Config.sources_addSources rfl added
    rw [one, two, same]
  · exact configValue_addSources_of_secret without locked secret added

/-- A source that has a password and lists only its host. -/
def sampleReticent : Handle where
  identity := .owned 0
  source :=
    { name := "vault", ordinal := 100, propertyNames := ["host"]
      value := fun name => if name = "db.password" then some "s3cr3t" else none }

/-- Where the only source does not list its password, the password is neither enumerated nor found. -/
theorem propertyNames_of_secrets_sample :
    let blueprint : Blueprint Id Empty :=
      (Blueprint.empty.withHandles [sampleReticent]).withSecretKeys ["db.*"]
    let config := blueprint.build.result
    blueprint.WithoutStages ∧ Scope.outermost.isLocked = true
    ∧ blueprint.secrets.isSecret "db.password" = true ∧ sampleReticent.Defines "db.password"
    ∧ (∀ name ∈ config.sources.propertyNames, blueprint.secrets.isSecret name = false)
    ∧ config.configValue .outermost "db.password" = pure (.ok none) := by
  intro blueprint config
  have without : blueprint.WithoutStages := ⟨rfl, rfl⟩
  have secret : blueprint.secrets.isSecret "db.password" = true := by decide +kernel
  obtain ⟨_, kept, _, hidden⟩ := propertyNames_of_secrets blueprint []
  have lists : ∀ handle ∈ firstOccurrences (blueprint.wrapped ++ []),
      ∀ name ∈ handle.source.propertyNames, blueprint.secrets.isSecret name = false := by
    have alone : firstOccurrences (blueprint.wrapped ++ []) = [sampleReticent] := rfl
    rw [alone]
    intro handle member name lists
    rw [List.mem_singleton.mp member] at lists
    rw [List.mem_singleton.mp lists]
    decide +kernel
  exact ⟨without, rfl, secret, by decide, kept.mpr lists, hidden without _ _ rfl secret⟩

/-- A source with a password and its variant for a profile. -/
def samplePasswords : Handle :=
  ⟨.owned 0, MapSource.toSource ⟨"app", 100,
    [("%dev.db.password", "hunter2"), ("db.password", "s3cr3t"), ("host", "localhost")]⟩⟩

/-- **A password is enumerated, and so are its variant and a token of a source that is added later**,
while secrets are locked and lookups find none of them. -/
theorem password_enumerated :
    let blueprint : Blueprint Id Empty :=
      (Blueprint.empty.withHandles [samplePasswords]).withSecretKeys ["db.*"]
    let config := blueprint.build.result.addSources
      [⟨.shared 0, MapSource.toSource ⟨"late", 300, [("db.token", "t0k3n")]⟩⟩]
    Scope.outermost.isLocked = true
    ∧ ∀ name ∈ ["db.password", "%dev.db.password", "db.token"],
      blueprint.secrets.isSecret name = true ∧ name ∈ config.sources.propertyNames
      ∧ config.configValue .outermost name = pure (.ok none) := by
  intro blueprint config
  have without : blueprint.WithoutStages := ⟨rfl, rfl⟩
  have secrets : ∀ name ∈ ["db.password", "%dev.db.password", "db.token"],
      blueprint.secrets.isSecret name = true := by decide +kernel
  refine ⟨rfl, fun name member => ⟨secrets name member, ?_, ?_⟩⟩
  · rw [mem_propertyNames_addSources]
    revert name
    decide
  · exact configValue_addSources_of_secret without rfl (secrets name member) _

end LayeredConfig.Resolve
