/-
**Configurations for which nobody wrote a stage.**

Where no stage was declared or discovered, a chain has at most three stages: references outermost,
then secrets, then profiles (`Blueprint.ownStages`). A configuration answers as these do, one inside
the other (`lookup_build`), and the stage of the references hands on what holds none
(`nested_references`).
-/

import LayeredConfig.Proofs.Lookup.Variants
import LayeredConfig.Proofs.Resolve.Masking

set_option linter.unusedSectionVars false

namespace LayeredConfig.Resolve

open LayeredConfig.Conversion LayeredConfig.Expression LayeredConfig.Lookup LayeredConfig.Sorting
open LayeredConfig.Source

variable {m : Type → Type} [Monad m] {Extra : Type} [DecidableEq Extra] [Extension Extra]
variable {blueprint : Blueprint m Extra}

/-! ## Part 1 — the order of the library's own stages -/

namespace Blueprint

/-- No stage was declared, and none that was discovered takes part. -/
structure WithoutStages (blueprint : Blueprint m Extra) : Prop where
  declared : blueprint.stages = []
  discovered : blueprint.enabledStages = []

/-- The stage of the references, if it takes part. -/
def referenceStages (blueprint : Blueprint m Extra) : List (Stage m) :=
  if blueprint.usesDefaultStages then [Limits.standard.stage] else []

/-- The stage of the secrets, if it takes part. -/
def secretStages (blueprint : Blueprint m Extra) : List (Stage m) :=
  if blueprint.secretKeys.isEmpty then [] else [blueprint.secrets.stage]

/-- The stage of some profiles, if it takes part. -/
def profileStages (blueprint : Blueprint m Extra) (profiles : List String) : List (Stage m) :=
  if blueprint.usesDefaultStages || blueprint.profiles.isSome then [(Profiles.ofList profiles).stage]
  else []

/-- The stages of the library that take part, in their order. -/
def ownStages (blueprint : Blueprint m Extra) (profiles : List String) : List (Stage m) :=
  blueprint.referenceStages ++ (blueprint.secretStages ++ blueprint.profileStages profiles)

theorem priority_referenceStages {stage : Stage m} (member : stage ∈ blueprint.referenceStages) :
    stage.priority = libraryPriority + 800 := by
  unfold referenceStages at member
  split at member
  · rw [List.mem_singleton.mp member]
    rfl
  · cases member

theorem priority_secretStages {stage : Stage m} (member : stage ∈ blueprint.secretStages) :
    stage.priority = libraryPriority + 700 := by
  unfold secretStages at member
  split at member
  · cases member
  · rw [List.mem_singleton.mp member]
    rfl

theorem priority_profileStages {profiles : List String} {stage : Stage m}
    (member : stage ∈ blueprint.profileStages profiles) :
    stage.priority = libraryPriority + 600 := by
  unfold profileStages at member
  split at member
  · rw [List.mem_singleton.mp member]
    rfl
  · cases member

theorem declaredStages_eq (blueprint : Blueprint m Extra) (profiles : List String) :
    blueprint.declaredStages profiles
      = blueprint.stages
        ++ (blueprint.profileStages profiles
          ++ (blueprint.referenceStages ++ blueprint.secretStages)) := by
  show blueprint.stages ++ blueprint.profileStages profiles ++ blueprint.referenceStages
    ++ blueprint.secretStages = _
  rw [List.append_assoc, List.append_assoc]

theorem descending_ownStages (blueprint : Blueprint m Extra) (profiles : List String) :
    Descending Stage.priority (blueprint.ownStages profiles) := by
  have references : Descending Stage.priority blueprint.referenceStages :=
    descending_of_level _ fun _ => priority_referenceStages
  have secrets : Descending Stage.priority blueprint.secretStages :=
    descending_of_level _ fun _ => priority_secretStages
  have profile : Descending Stage.priority (blueprint.profileStages profiles) :=
    descending_of_level _ fun _ => priority_profileStages
  refine List.pairwise_append.mpr ⟨references, List.pairwise_append.mpr ⟨secrets, profile, ?_⟩, ?_⟩
  · intro first inFirst second inSecond
    rw [priority_secretStages inFirst, priority_profileStages inSecond]
    decide
  · intro first inFirst second inSecond
    rw [priority_referenceStages inFirst]
    rcases List.mem_append.mp inSecond with secret | profile
    · rw [priority_secretStages secret]
      decide
    · rw [priority_profileStages profile]
      decide

/-- Profiles are registered in front of the others and come to stand behind them. -/
theorem arranges_ownStages (without : blueprint.WithoutStages) (profiles : List String) :
    Arranges (blueprint.declaredStages profiles ++ blueprint.enabledStages)
      (blueprint.ownStages profiles) := by
  refine ⟨descending_ownStages blueprint profiles, ?_⟩
  rw [declaredStages_eq, without.declared, without.discovered, List.nil_append, List.append_nil,
    ownStages, ← List.append_assoc]
  refine agreeByPriority_comm fun one inOne two inTwo => ?_
  rw [priority_profileStages inTwo]
  rcases List.mem_append.mp inOne with reference | secret
  · rw [priority_referenceStages reference]
    decide
  · rw [priority_secretStages secret]
    decide

end Blueprint

/-- The stages stand before any sources, be they those of the blueprint or others. -/
theorem lookup_build (without : blueprint.WithoutStages) (scope : Scope) (sources : SourceSet) :
    blueprint.build.result.chain.lookup scope sources
      = nested scope 0 (blueprint.ownStages blueprint.build.result.profiles) (answers sources) :=
  lookup_eq_nested (Blueprint.arranges_ownStages without _) scope sources

/-! ## Part 2 — what the outer stages hand on -/

variable [LawfulMonad m]

theorem configValue_of_lookup {config : Config m Extra} {scope : Scope} {name : String}
    {found : Option ConfigValue} (asked : config.chain.lookup scope config.sources name = pure found) :
    config.configValue scope name = pure (.ok found) := by
  unfold Config.configValue
  rw [asked, ExceptT.run_pure, pure_bind]

/-- Absence and a value without references pass the stage of the references. -/
theorem nested_references {rest : String → Outcome m} {name : String} {found : Option ConfigValue}
    (asked : rest name = pure found)
    (plain : ∀ value, found = some value → hasOpening value.value.toList = false)
    (scope : Scope) (position : Nat) :
    nested scope position blueprint.referenceStages rest name = pure found := by
  unfold Blueprint.referenceStages
  split
  · rw [nested_cons, nested_nil]
    unfold Limits.stage
    simp only [asked, pure_bind]
    cases found with
    | none => rfl
    | some value => simp only [plain value rfl, Bool.not_false, Bool.or_true, if_true]
  · exact asked

end LayeredConfig.Resolve
