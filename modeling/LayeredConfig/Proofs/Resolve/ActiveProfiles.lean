/-
**Which profiles a configuration goes by.**

Over any sources, the stage of some profiles gives the variant of the last of them that has one in
any source (`lookup_variants`). A blueprint with the default stages installs the stage of the
profiles that its sources name, and reports these profiles:

* `chain_of_named`: the stage is the one of the text that the sources give;
* `configValue_of_installed`, `configValue_of_missing`: what a configuration without stages of its
  users answers, with the stage and without it;
* `configValue_of_profiles`: the reported profiles decide wherever the stage is installed. It is not
  if the blueprint neither lists profiles nor asks for the default stages, and an empty profile that
  is listed is reported but has no variants (`reported_without_effect`).
-/

import LayeredConfig.Proofs.Expression.Printing
import LayeredConfig.Proofs.Resolve.OwnStages
import LayeredConfig.Proofs.Source.Snapshot

set_option linter.unusedSectionVars false

namespace LayeredConfig.Resolve

open LayeredConfig.Conversion LayeredConfig.Expression LayeredConfig.Lookup LayeredConfig.Source

variable {m : Type → Type} [Monad m] {Extra : Type} [DecidableEq Extra] [Extension Extra]
variable {blueprint : Blueprint m Extra}

/-! ## Part 1 — the stage of the profiles that the sources name -/

/-- The declared stages of a blueprint with the default stages, with a given one for the profiles. -/
def Blueprint.stagesWith (blueprint : Blueprint m Extra) (profile : Stage m) : List (Stage m) :=
  blueprint.stages ++ profile :: Limits.standard.stage :: blueprint.secretStages

theorem ofList_filter (listed : List String) :
    Profiles.ofList (listed.filter fun profile => !profile.isEmpty) = Profiles.ofList listed := by
  unfold Profiles.ofList
  rw [List.filter_filter]
  simp only [Bool.and_self]

theorem ofList_configuredProfiles {sources : SourceSet} {found : ConfigValue}
    (given : sources.value profileProperty = some found) :
    Profiles.ofList (Blueprint.configuredProfiles sources) = Profiles.parse found.value := by
  unfold Blueprint.configuredProfiles Profiles.parse
  rw [given]
  exact ofList_filter _

/-- Both ways of reading the list of profiles in a text agree. -/
theorem chain_of_named (used : blueprint.usesDefaultStages = true)
    (unlisted : blueprint.profiles = none) {found : ConfigValue}
    (given : blueprint.build.result.sources.value profileProperty = some found) :
    blueprint.build.result.chain
      = Chain.ofStages (blueprint.stagesWith (Profiles.parse found.value).stage)
        blueprint.enabledStages := by
  have active : blueprint.activeProfiles blueprint.build.result.sources
      = Blueprint.configuredProfiles blueprint.build.result.sources := by
    unfold Blueprint.activeProfiles
    rw [unlisted]
    rfl
  have stages : blueprint.declaredStages (blueprint.activeProfiles blueprint.build.result.sources)
      = blueprint.stagesWith (Profiles.parse found.value).stage := by
    rw [active, Blueprint.declaredStages_eq, Blueprint.profileStages, Blueprint.referenceStages, used,
      ofList_configuredProfiles given]
    rfl
  rw [← stages]
  rfl

/-! ## Part 2 — the stage by itself -/

/-- The chain that has no stage but the one of the listed profiles. -/
def profileChain (listed : List String) : Chain m :=
  Chain.ofStages [(Profiles.ofList listed).stage] []

section Lawful

variable [LawfulMonad m]

theorem lookup_profileChain (sources : SourceSet) (scope : Scope) (listed : List String)
    (name : String) :
    (profileChain listed : Chain m).lookup scope sources name
      = pure ((Profiles.ofList listed).valueIn sources name) := by
  have arranges : Arranges ([(Profiles.ofList listed).stage] ++ [] : List (Stage m))
      [(Profiles.ofList listed).stage] :=
    ⟨List.pairwise_singleton _ _, fun _ => rfl⟩
  unfold profileChain
  rw [lookup_eq_nested arranges, nested_cons, nested_nil, Profiles.intercept_profiles]

/-- **The rank of a profile counts before the rank of a source.** In front of any sources, the stage
of the listed profiles gives the variant of the last one of which some source has it, be its rank
ever so low, and the plain property if there is no variant. Names of variants are taken as they are.
Empty profiles and profiles that are listed again may be left out, and a text in the sources lists
profiles as it does anywhere else. -/
theorem lookup_variants (sources : SourceSet) (scope : Scope) (listed : List String) :
    (∀ name, Profiles.isQualified name = false →
      (∀ profile, LastVariant sources listed name profile →
        ∃ found, sources.value (Profiles.qualified profile name) = some found
          ∧ found.name = Profiles.qualified profile name
          ∧ (profileChain listed : Chain m).lookup scope sources name = pure (some found))
      ∧ (NoVariant sources listed name →
        (profileChain listed : Chain m).lookup scope sources name = pure (sources.value name)
          ∧ ∀ found, sources.value name = some found → found.name = name)
      ∧ (NoVariant sources listed name ∨ ∃ profile, LastVariant sources listed name profile))
    ∧ (∀ name, Profiles.isQualified name = true →
      (profileChain listed : Chain m).lookup scope sources name = pure (sources.value name))
    ∧ (∀ thin, Thinned listed thin →
      (profileChain thin : Chain m).lookup scope sources
        = (profileChain listed).lookup scope sources)
    ∧ Thinned listed (listed.filter (· ≠ ""))
    ∧ Thinned listed listed.dedup
    ∧ ∀ (blueprint : Blueprint m Extra) (found : ConfigValue),
      blueprint.usesDefaultStages = true → blueprint.profiles = none →
      blueprint.build.result.sources.value profileProperty = some found →
      blueprint.build.result.chain
        = Chain.ofStages (blueprint.stagesWith (Profiles.parse found.value).stage)
          blueprint.enabledStages := by
  refine ⟨fun name plain => ⟨?_, ?_, noVariant_or_exists_lastVariant sources listed name⟩, ?_, ?_,
    thinned_filter listed, thinned_dedup listed, ?_⟩
  · intro profile last
    obtain ⟨found, given⟩ := (sources.exists_value_iff _).mpr last.defined
    refine ⟨found, given, SourceSet.name_of_value given, ?_⟩
    rw [lookup_profileChain, Profiles.valueIn_of_last plain last, given]
  · intro none
    rw [lookup_profileChain, Profiles.valueIn_of_none none]
    exact ⟨rfl, fun found given => SourceSet.name_of_value given⟩
  · intro name variant
    rw [lookup_profileChain, Profiles.valueIn_of_qualified _ variant]
  · intro thin thinned
    funext name
    rw [lookup_profileChain, lookup_profileChain, Profiles.valueIn_thinned thinned]
  · intro blueprint found used unlisted given
    exact chain_of_named used unlisted given

end Lawful

/-- A source with a port, and one of lower rank with a variant of it for two profiles. -/
def sampleRanked : SourceSet :=
  ⟨[⟨.shared 0, MapSource.toSource ⟨"env", 300, [("port", "80")]⟩⟩,
    ⟨.shared 1, MapSource.toSource ⟨"base", 100, [("%dev.port", "9090"), ("%test.port", "7070")]⟩⟩]⟩

/-- A source that names two profiles. -/
def sampleNaming : Handle :=
  ⟨.owned 0, MapSource.toSource ⟨"app", 100, [("spark.profile", " common , dev ")]⟩⟩

/-- A variant in a source of low rank counts, and of the profiles that are listed the last one that
has any, here behind an empty one, a repeated one and one without variants. -/
theorem lookup_variants_sample :
    let listed := ["dev", "test", "", "dev", "prod"]
    let blueprint : Blueprint Id Empty := (Blueprint.empty.withHandles [sampleNaming]).useDefaultStages
    Profiles.isQualified "port" = false ∧ LastVariant sampleRanked listed "port" "dev"
    ∧ (profileChain listed : Chain Id).lookup .outermost sampleRanked "port"
      = pure (some ⟨"%dev.port", "9090", "base", 100⟩)
    ∧ NoVariant sampleRanked ["prod", ""] "port"
    ∧ (profileChain ["prod", ""] : Chain Id).lookup .outermost sampleRanked "port"
      = pure (some ⟨"port", "80", "env", 300⟩)
    ∧ Profiles.isQualified "%test.port" = true
    ∧ (profileChain listed : Chain Id).lookup .outermost sampleRanked "%test.port"
      = pure (some ⟨"%test.port", "7070", "base", 100⟩)
    ∧ Thinned listed ["test", "dev", "prod"]
    ∧ (profileChain ["test", "dev", "prod"] : Chain Id).lookup .outermost sampleRanked
      = (profileChain listed).lookup .outermost sampleRanked
    ∧ blueprint.usesDefaultStages = true ∧ blueprint.profiles = none
    ∧ blueprint.build.result.sources.value profileProperty
      = some ⟨"spark.profile", " common , dev ", "app", 100⟩
    ∧ blueprint.build.result.chain
      = Chain.ofStages [(Profiles.parse " common , dev ").stage, Limits.standard.stage] [] := by
  intro listed blueprint
  have last : LastVariant sampleRanked listed "port" "dev" :=
    ⟨by decide, by decide +kernel, ["dev", "test", ""], ["prod"], rfl, by decide +kernel⟩
  have none : NoVariant sampleRanked ["prod", ""] "port" := by decide +kernel
  have thinned : Thinned listed ["test", "dev", "prod"] :=
    .repeated (by decide) (.keep "test" (.empty (.keep "dev" (.keep "prod" .nil))))
  have given : blueprint.build.result.sources.value profileProperty
      = some ⟨"spark.profile", " common , dev ", "app", 100⟩ := by
    have sources : blueprint.build.result.sources = SourceSet.ofList [sampleNaming] := rfl
    rw [sources, ofList_singleton]
    decide +kernel
  obtain ⟨ranked, qualified, same, _, _, named⟩ :=
    @lookup_variants Id _ Empty _ _ _ sampleRanked .outermost listed
  obtain ⟨unranked, _⟩ :=
    @lookup_variants Id _ Empty _ _ _ sampleRanked .outermost ["prod", ""]
  obtain ⟨found, value, _, variant⟩ := (ranked "port" rfl).1 "dev" last
  obtain ⟨plain, _⟩ := (unranked "port" rfl).2.1 none
  have dev : sampleRanked.value (Profiles.qualified "dev" "port")
      = some ⟨"%dev.port", "9090", "base", 100⟩ := by decide +kernel
  have port : sampleRanked.value "port" = some ⟨"port", "80", "env", 300⟩ := by decide +kernel
  have test : sampleRanked.value "%test.port" = some ⟨"%test.port", "7070", "base", 100⟩ := by
    decide +kernel
  have explicit := qualified "%test.port" rfl
  rw [dev] at value
  rw [← Option.some.inj value] at variant
  rw [port] at plain
  rw [test] at explicit
  have chain := named blueprint _ rfl rfl given
  have stages : blueprint.stagesWith (Profiles.parse " common , dev ").stage
      = [(Profiles.parse " common , dev ").stage, Limits.standard.stage] := rfl
  have enabled : blueprint.enabledStages = [] := rfl
  simp only [stages, enabled] at chain
  exact ⟨by decide, last, variant, none, plain, by decide, explicit, thinned, same _ thinned, rfl, rfl,
    given, chain⟩

/-! ## Part 3 — what a configuration answers -/

namespace Blueprint

/-- The stage of the profiles takes part: it is one of the default stages, and it is needed for
profiles that are listed. -/
def InstallsProfiles (blueprint : Blueprint m Extra) : Prop :=
  blueprint.usesDefaultStages = true ∨ blueprint.profiles ≠ none

/-- No value of a source has a reference in it. -/
def PlainValues (blueprint : Blueprint m Extra) : Prop :=
  ∀ handle ∈ blueprint.wrapped, ∀ name value, handle.source.value name = some value →
    ¬ ['$', '{'] <:+: value.toList

theorem profileStages_of_installed (installed : blueprint.InstallsProfiles)
    (profiles : List String) :
    blueprint.profileStages profiles = [(Profiles.ofList profiles).stage] := by
  unfold profileStages
  rw [if_pos]
  rcases installed with used | listed
  · rw [used, Bool.true_or]
  · rw [Option.isSome_iff_ne_none.mpr listed, Bool.or_true]

theorem not_installsProfiles_iff :
    ¬ blueprint.InstallsProfiles ↔ blueprint.usesDefaultStages = false ∧ blueprint.profiles = none := by
  unfold InstallsProfiles
  rw [not_or, Bool.not_eq_true, not_not]

theorem ownStages_of_missing (missing : ¬ blueprint.InstallsProfiles)
    (noSecrets : blueprint.secretKeys = []) (profiles : List String) :
    blueprint.ownStages profiles = [] := by
  obtain ⟨unused, unlisted⟩ := not_installsProfiles_iff.mp missing
  unfold ownStages referenceStages secretStages profileStages
  rw [unused, unlisted, noSecrets]
  rfl

theorem plainValues_of_properties {identity : Identity} {source : MapSource}
    (alone : blueprint.wrapped = [⟨identity, source.toSource⟩])
    (plain : ∀ property ∈ source.properties, Expression.hasOpening property.2.toList = false) :
    blueprint.PlainValues := by
  intro handle member name value held
  rw [alone] at member
  rw [List.mem_singleton.mp member] at held
  obtain ⟨before, after, listed, _⟩ := List.lookup_eq_some_iff.mp held
  have inside : (name, value) ∈ source.properties := by
    rw [listed]
    simp
  rw [← hasOpening_iff, plain _ inside]
  exact Bool.false_ne_true

theorem PlainValues.hasOpening (plain : blueprint.PlainValues) {name : String} {found : ConfigValue}
    (given : blueprint.build.result.sources.value name = some found) :
    Expression.hasOpening found.value.toList = false := by
  obtain ⟨handle, member, here⟩ := List.exists_of_findSome?_eq_some given
  obtain ⟨value, held, rfl⟩ := Option.map_eq_some_iff.mp here
  rw [Bool.eq_false_iff, Ne, hasOpening_iff]
  exact plain handle (mem_of_mem_ofList member) name value held

end Blueprint

variable [LawfulMonad m]

theorem exists_value_of_valueIn {profiles : Profiles} {sources : SourceSet} {name : String}
    {found : ConfigValue} (given : profiles.valueIn sources name = some found) :
    ∃ asked, sources.value asked = some found := by
  unfold Profiles.valueIn at given
  split at given
  · exact ⟨name, given⟩
  · rcases Option.or_eq_some_iff.mp given with variant | ⟨_, plain⟩
    · obtain ⟨profile, _, here⟩ := List.exists_of_findSome?_eq_some variant
      exact ⟨_, here⟩
    · exact ⟨name, plain⟩

theorem configValue_of_installed (without : blueprint.WithoutStages)
    (noSecrets : blueprint.secretKeys = []) (plain : blueprint.PlainValues)
    (installed : blueprint.InstallsProfiles) (scope : Scope) (name : String) :
    blueprint.build.result.configValue scope name
      = pure (.ok ((Profiles.ofList blueprint.build.result.profiles).valueIn
        blueprint.build.result.sources name)) := by
  have secrets : blueprint.secretStages = [] := by
    unfold Blueprint.secretStages
    rw [noSecrets]
    rfl
  apply configValue_of_lookup
  rw [lookup_build without, Blueprint.ownStages, secrets, List.nil_append,
    Blueprint.profileStages_of_installed installed, nested_append, nested_cons, nested_nil,
    Profiles.intercept_profiles]
  apply nested_references rfl
  intro found given
  obtain ⟨asked, value⟩ := exists_value_of_valueIn given
  exact plain.hasOpening value

theorem configValue_of_missing (without : blueprint.WithoutStages)
    (noSecrets : blueprint.secretKeys = []) (missing : ¬ blueprint.InstallsProfiles) (scope : Scope)
    (name : String) :
    blueprint.build.result.configValue scope name
      = pure (.ok (blueprint.build.result.sources.value name)) := by
  apply configValue_of_lookup
  rw [lookup_build without, Blueprint.ownStages_of_missing missing noSecrets, nested_nil]
  rfl

/-- **The reported profiles are those that decide, where their stage is installed.** A property has
the value of its variant for the last reported profile that has one, and its own value only if no
reported profile has a variant; empty profiles have none. Without the stage every property has its
own value. -/
theorem configValue_of_profiles (without : blueprint.WithoutStages)
    (noSecrets : blueprint.secretKeys = []) (plain : blueprint.PlainValues) (scope : Scope)
    {name : String} (unqualified : Profiles.isQualified name = false) :
    (blueprint.InstallsProfiles →
      (∀ profile,
        LastVariant blueprint.build.result.sources blueprint.build.result.profiles name profile →
        ∃ found, blueprint.build.result.sources.value (Profiles.qualified profile name) = some found
          ∧ blueprint.build.result.configValue scope name = pure (.ok (some found)))
      ∧ (NoVariant blueprint.build.result.sources blueprint.build.result.profiles name →
        blueprint.build.result.configValue scope name
          = pure (.ok (blueprint.build.result.sources.value name)))
      ∧ (NoVariant blueprint.build.result.sources blueprint.build.result.profiles name
        ∨ ∃ profile,
          LastVariant blueprint.build.result.sources blueprint.build.result.profiles name profile))
    ∧ (¬ blueprint.InstallsProfiles →
      blueprint.build.result.configValue scope name
        = pure (.ok (blueprint.build.result.sources.value name))) := by
  refine ⟨fun installed => ⟨?_, ?_, noVariant_or_exists_lastVariant _ _ name⟩, fun missing => ?_⟩
  · intro profile last
    obtain ⟨found, given⟩ := (SourceSet.exists_value_iff _ _).mpr last.defined
    refine ⟨found, given, ?_⟩
    rw [configValue_of_installed without noSecrets plain installed,
      Profiles.valueIn_of_last unqualified last, given]
  · intro none
    rw [configValue_of_installed without noSecrets plain installed, Profiles.valueIn_of_none none]
  · exact configValue_of_missing without noSecrets missing scope name

/-- A port that has a variant for one profile and one for the empty profile. -/
def sampleProfiled : MapSource :=
  ⟨"app", 100,
    [("%.port", "7070"), ("%dev.port", "9090"), ("host", "localhost"), ("port", "8080"),
      ("spark.profile", "dev")]⟩

/-- A source with these properties. -/
def sampleHeld : SourceSet := ⟨[⟨.owned 0, sampleProfiled.toSource⟩]⟩

/-- The same source and nothing else. -/
def sampleBare : Blueprint Id Empty := Blueprint.empty.withHandles sampleHeld.handles

theorem sources_sampleBare : sampleBare.build.result.sources = sampleHeld :=
  ofList_singleton _

theorem profiles_sampleBare : sampleBare.build.result.profiles = ["dev"] := by
  have configured : sampleBare.build.result.profiles
      = Blueprint.configuredProfiles sampleBare.build.result.sources := rfl
  rw [configured, sources_sampleBare]
  decide

theorem port_sampleHeld : sampleHeld.value "port" = some ⟨"port", "8080", "app", 100⟩ := by
  decide

theorem dev_port_sampleHeld :
    sampleHeld.value (Profiles.qualified "dev" "port") = some ⟨"%dev.port", "9090", "app", 100⟩ := by
  decide

theorem plainValues_sampleBare : sampleBare.PlainValues :=
  Blueprint.plainValues_of_properties rfl (by decide)

/-- The source names a profile. It decides with the default stages, where it has a variant, and
without them it does not. -/
theorem configValue_of_profiles_sample :
    let named := sampleBare.useDefaultStages
    let answer : String → Id (Except ResolveError (Option ConfigValue)) :=
      named.build.result.configValue .outermost
    Profiles.isQualified "port" = false ∧ Profiles.isQualified "host" = false
    ∧ named.WithoutStages ∧ named.secretKeys = [] ∧ named.PlainValues ∧ named.InstallsProfiles
    ∧ LastVariant named.build.result.sources named.build.result.profiles "port" "dev"
    ∧ answer "port" = pure (.ok (some ⟨"%dev.port", "9090", "app", 100⟩))
    ∧ NoVariant named.build.result.sources named.build.result.profiles "host"
    ∧ answer "host" = pure (.ok (some ⟨"host", "localhost", "app", 100⟩))
    ∧ sampleBare.WithoutStages ∧ sampleBare.secretKeys = [] ∧ sampleBare.PlainValues
    ∧ ¬ sampleBare.InstallsProfiles
    ∧ sampleBare.build.result.configValue .outermost "port"
      = pure (.ok (some ⟨"port", "8080", "app", 100⟩)) := by
  intro named answer
  have sources : named.build.result.sources = sampleHeld := sources_sampleBare
  have profiles : named.build.result.profiles = ["dev"] := profiles_sampleBare
  have plain : named.PlainValues := plainValues_sampleBare
  have last : LastVariant named.build.result.sources named.build.result.profiles "port" "dev" := by
    rw [sources, profiles]
    exact ⟨by decide, by decide +kernel, [], [], rfl, by decide +kernel⟩
  have none : NoVariant named.build.result.sources named.build.result.profiles "host" := by
    rw [sources, profiles]
    decide +kernel
  have missing : ¬ sampleBare.InstallsProfiles :=
    Blueprint.not_installsProfiles_iff.mpr ⟨rfl, rfl⟩
  have portPlain : Profiles.isQualified "port" = false := by decide
  have hostPlain : Profiles.isQualified "host" = false := by decide
  have withoutStages : named.WithoutStages := ⟨rfl, rfl⟩
  have noSecrets : named.secretKeys = [] := rfl
  obtain ⟨ports, _⟩ :=
    configValue_of_profiles withoutStages noSecrets plain .outermost portPlain
  obtain ⟨hosts, _⟩ :=
    configValue_of_profiles withoutStages noSecrets plain .outermost hostPlain
  obtain ⟨_, bare⟩ :=
    configValue_of_profiles ⟨rfl, rfl⟩ rfl plainValues_sampleBare .outermost portPlain
  obtain ⟨found, value, variant⟩ := (ports (.inl rfl)).1 "dev" last
  have own := (hosts (.inl rfl)).2.1 none
  have unaffected := bare missing
  have host : sampleHeld.value "host" = some ⟨"host", "localhost", "app", 100⟩ := by decide +kernel
  rw [sources, dev_port_sampleHeld] at value
  rw [← Option.some.inj value] at variant
  rw [sources, host] at own
  rw [sources_sampleBare, port_sampleHeld] at unaffected
  exact ⟨portPlain, hostPlain, withoutStages, noSecrets, plain, .inl rfl, last, variant, none, own,
    ⟨rfl, rfl⟩, rfl, plainValues_sampleBare, missing, unaffected⟩

/-- The last reported profile with a variant of a name decides, whether or not it is empty and
whether or not a stage was asked for. -/
def Blueprint.ReportedDecide (blueprint : Blueprint m Extra) (name : String) : Prop :=
  ∀ before profile after, blueprint.build.result.profiles = before ++ profile :: after →
    blueprint.build.result.sources.Defines (Profiles.qualified profile name) →
    (∀ later ∈ after, ¬ blueprint.build.result.sources.Defines (Profiles.qualified later name)) →
    blueprint.build.result.configValue .outermost name
      = pure (.ok (blueprint.build.result.sources.value (Profiles.qualified profile name)))

theorem not_reportedDecide_sampleBare : ¬ sampleBare.ReportedDecide "port" := by
  intro decides
  have missing : ¬ sampleBare.InstallsProfiles :=
    Blueprint.not_installsProfiles_iff.mpr ⟨rfl, rfl⟩
  have defined : sampleBare.build.result.sources.Defines (Profiles.qualified "dev" "port") := by
    rw [sources_sampleBare]
    decide
  have told := decides [] "dev" [] profiles_sampleBare defined fun _ member =>
    absurd member List.not_mem_nil
  rw [configValue_of_missing ⟨rfl, rfl⟩ rfl missing, sources_sampleBare, port_sampleHeld,
    dev_port_sampleHeld] at told
  have name := congrArg ConfigValue.name (Option.some.inj (Except.ok.inj told))
  exact absurd name (by decide)

/-- The same source with the empty profile. -/
def sampleBlank : Blueprint Id Empty := sampleBare.withProfiles [""]

theorem not_reportedDecide_sampleBlank : ¬ sampleBlank.ReportedDecide "port" := by
  intro decides
  have sources : sampleBlank.build.result.sources = sampleHeld := sources_sampleBare
  have profiles : sampleBlank.build.result.profiles = [""] := rfl
  have plain : sampleBlank.PlainValues := plainValues_sampleBare
  have installed : sampleBlank.InstallsProfiles := .inr (Option.some_ne_none _)
  have none : NoVariant sampleHeld [""] "port" := by decide
  have empty : sampleHeld.value (Profiles.qualified "" "port")
      = some ⟨"%.port", "7070", "app", 100⟩ := by decide
  have defined : sampleBlank.build.result.sources.Defines (Profiles.qualified "" "port") := by
    rw [sources]
    decide
  have told := decides [] "" [] profiles defined fun _ member => absurd member List.not_mem_nil
  rw [configValue_of_installed ⟨rfl, rfl⟩ rfl plain installed, profiles, sources,
    Profiles.valueIn_of_none none, port_sampleHeld, empty] at told
  have name := congrArg ConfigValue.name (Option.some.inj (Except.ok.inj told))
  exact absurd name (by decide)

/-- Profiles that only the sources name are reported, but without the default stages none of them
decides; and an empty profile that is listed is reported, but never decides. -/
theorem reported_without_effect :
    Profiles.isQualified "port" = false
    ∧ (sampleBare.WithoutStages ∧ sampleBare.secretKeys = [] ∧ sampleBare.PlainValues
      ∧ sampleBare.build.result.profiles = ["dev"] ∧ ¬ sampleBare.ReportedDecide "port")
    ∧ sampleBlank.WithoutStages ∧ sampleBlank.secretKeys = [] ∧ sampleBlank.PlainValues
      ∧ sampleBlank.build.result.profiles = [""] ∧ ¬ sampleBlank.ReportedDecide "port" :=
  ⟨by decide,
    ⟨⟨rfl, rfl⟩, rfl, plainValues_sampleBare, profiles_sampleBare, not_reportedDecide_sampleBare⟩,
    ⟨rfl, rfl⟩, rfl, plainValues_sampleBare, rfl, not_reportedDecide_sampleBlank⟩

end LayeredConfig.Resolve
