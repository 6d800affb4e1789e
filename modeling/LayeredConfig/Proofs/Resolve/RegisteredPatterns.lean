/-
**Which registered patterns hide the property of their own name.**

A pattern is kept as it was registered, and a name is compared without its profile. So a pattern
that names the variant of a property for a profile does not meet its own name, since its path is
longer than the one of the property; that name is secret only if another pattern meets the property:

* `Path.length_parse_lt`: a variant has a longer path than its property;
* `isSecret_registered_iff`: which patterns are secret by their own name;
* `registered_masked`: what becomes of a lookup for the name of a pattern.
-/

import LayeredConfig.Proofs.Pattern.Canonical
import LayeredConfig.Proofs.Resolve.QualifiedSecrets
import Mathlib.Data.List.TakeWhile

set_option linter.unusedSectionVars false

/-! ## Part 1 — paths of variants -/

namespace LayeredConfig.Pattern

open LayeredConfig.Lookup LayeredConfig.Text

theorem Path.parse_qualified {profile : String} (undotted : '.' ∉ profile.toList) (name : String) :
    Path.parse (Profiles.qualified profile name)
      = Segment.ofPiece ('%' :: profile.toList)
        ++ (Text.cutAt '.' name.toList).flatMap Segment.ofPiece := by
  have letters : (Profiles.qualified profile name).toList
      = ('%' :: profile.toList) ++ '.' :: name.toList := by
    simp [Profiles.qualified]
  have filled : (Profiles.qualified profile name).isEmpty = false := by
    simp [Profiles.qualified]
  have whole : '.' ∉ '%' :: profile.toList := by simp [undotted]
  rw [Path.parse, filled, letters, cutAt_append whole]
  rfl

/-- **A variant has a longer path than its property.** -/
theorem Path.length_parse_lt {profile : String} (undotted : '.' ∉ profile.toList) (name : String) :
    (Path.parse name).length < (Path.parse (Profiles.qualified profile name)).length := by
  have front := List.length_pos_iff.mpr (Segment.ofPiece_ne_nil ('%' :: profile.toList))
  rw [Path.parse_qualified undotted, List.length_append, Path.parse]
  split
  · rw [List.length_nil]
    omega
  · omega

end LayeredConfig.Pattern

namespace LayeredConfig.Lookup

open LayeredConfig.Pattern

/-! ## Part 2 — patterns by their own names -/

/-- A name is its own property, or a variant for a profile without dots. -/
theorem unqualified_cases (name : String) :
    SecretKeys.unqualified name = name
      ∨ ∃ profile plain, '.' ∉ profile.toList ∧ name = Profiles.qualified profile plain := by
  cases variant : Profiles.isQualified name with
  | false => exact .inl (unqualified_of_not_qualified variant)
  | true =>
    obtain ⟨rest, letters⟩ : ∃ rest, name.toList = '%' :: rest := by
      rw [Profiles.isQualified, beq_iff_eq] at variant
      exact List.head?_eq_some_iff.mp variant
    by_cases dotted : '.' ∈ rest
    · obtain ⟨before, after, split, undotted⟩ := List.eq_append_cons_of_mem dotted
      refine .inr ⟨String.ofList before, String.ofList after, ?_, ?_⟩
      · rwa [String.toList_ofList]
      · rw [← String.toList_inj, letters, split]
        simp [Profiles.qualified]
    · have nothing : rest.dropWhile (· ≠ '.') = [] := by
        rw [List.dropWhile_eq_nil_iff]
        intro character member
        rw [decide_eq_true_eq]
        rintro rfl
        exact dotted member
      refine .inl ?_
      rw [SecretKeys.unqualified, letters]
      simp only [nothing]

/-- The property of a variant does not meet the pattern that is written like the variant. -/
theorem unqualified_of_meets_self {pattern : String}
    (meets : (Path.parse (SecretKeys.unqualified pattern)).Meets (Path.parse pattern)) :
    SecretKeys.unqualified pattern = pattern := by
  rcases unqualified_cases pattern with same | ⟨profile, plain, undotted, rfl⟩
  · exact same
  · rw [unqualified_qualified undotted] at meets
    have level := List.Forall₂.length_eq meets
    have longer := Path.length_parse_lt undotted plain
    omega

/-- **A registered pattern is secret by its own name if that names no variant**, or if another pattern
meets the property. -/
theorem isSecret_registered_iff {patterns : List String} {pattern : String}
    (registered : pattern ∈ patterns) :
    (SecretKeys.ofPatterns patterns).isSecret pattern = true
      ↔ SecretKeys.unqualified pattern = pattern
        ∨ Described (patterns.filter (· ≠ pattern)) (SecretKeys.unqualified pattern) := by
  rw [isSecret_iff]
  constructor
  · rintro ⟨other, listed, meets⟩
    by_cases same : other = pattern
    · subst same
      exact .inl (unqualified_of_meets_self meets)
    · exact .inr ⟨other, List.mem_filter.mpr ⟨listed, decide_eq_true same⟩, meets⟩
  · rintro (plain | ⟨other, listed, meets⟩)
    · rw [plain]
      exact ⟨pattern, registered, List.forall₂_same.mpr fun segment _ => .same segment⟩
    · exact ⟨other, (List.mem_filter.mp listed).1, meets⟩

end LayeredConfig.Lookup

namespace LayeredConfig.Resolve

open LayeredConfig.Conversion LayeredConfig.Lookup LayeredConfig.Pattern LayeredConfig.Source

variable {m : Type → Type} [Monad m] [LawfulMonad m] {Extra : Type} [DecidableEq Extra]
variable [Extension Extra] {blueprint : Blueprint m Extra}

/-! ## Part 3 — lookups for the names of patterns -/

/-- **A pattern hides the property of its own name if that names no variant or if another pattern meets
its property**; else the sources answer for that name, locked or not. -/
theorem registered_masked (without : blueprint.WithoutStages) {scope : Scope}
    (locked : scope.isLocked = true) {pattern : String} (registered : pattern ∈ blueprint.secretKeys) :
    (blueprint.secrets.isSecret pattern = true
      ↔ SecretKeys.unqualified pattern = pattern
        ∨ Described (blueprint.secretKeys.filter (· ≠ pattern)) (SecretKeys.unqualified pattern))
    ∧ (blueprint.secrets.isSecret pattern = true →
      blueprint.build.result.configValue scope pattern = pure (.ok none))
    ∧ (blueprint.PlainValues → blueprint.secrets.isSecret pattern = false →
      blueprint.build.result.configValue scope pattern
        = pure (.ok (blueprint.build.result.sources.value pattern))) := by
  refine ⟨isSecret_registered_iff registered, configValue_of_secret without locked, ?_⟩
  intro plain shown
  refine configValue_of_shown without plain scope ?_ shown
  -- A name that is no variant is secret by its own pattern.
  by_contra notVariant
  have same := unqualified_of_not_qualified (Bool.eq_false_iff.mpr notVariant)
  have secret := (isSecret_registered_iff registered).mpr (.inl same)
  rw [Blueprint.secrets, secret] at shown
  cases shown

/-- A password, its variant for a profile, and a token with a variant. -/
def sampleVault : MapSource :=
  ⟨"app", 100, [("db.password", "s3cr3t"), ("%dev.db.password", "hunter2"), ("token", "t0k3n"),
    ("%dev.token", "d3v")]⟩

/-- A configuration in which the variant of the password is registered alone, and that of the token
together with the token. -/
def sampleRegistered : Blueprint Id Empty :=
  (Blueprint.empty.withHandles [⟨.owned 0, sampleVault.toSource⟩]).withSecretKeys
    ["%dev.db.password", "token", "%dev.token"]

theorem sources_sampleRegistered :
    sampleRegistered.build.result.sources = ⟨[⟨.owned 0, sampleVault.toSource⟩]⟩ :=
  ofList_singleton _

theorem plainValues_sampleRegistered : sampleRegistered.PlainValues :=
  Blueprint.plainValues_of_properties rfl (by decide)

theorem password_sampleRegistered :
    SourceSet.value ⟨[⟨.owned 0, sampleVault.toSource⟩]⟩ "%dev.db.password"
      = some ⟨"%dev.db.password", "hunter2", "app", 100⟩ := by decide

theorem not_isSecret_sampleRegistered :
    sampleRegistered.secrets.isSecret "%dev.db.password" = false := by decide +kernel

/-- Of three registered patterns all but the lone variant hide the property of their name. -/
theorem registered_masked_sample :
    sampleRegistered.WithoutStages ∧ Scope.outermost.isLocked = true
    ∧ "token" ∈ sampleRegistered.secretKeys ∧ "%dev.token" ∈ sampleRegistered.secretKeys
    ∧ "%dev.db.password" ∈ sampleRegistered.secretKeys
    ∧ sampleRegistered.build.result.configValue .outermost "token" = pure (.ok none)
    ∧ sampleRegistered.build.result.configValue .outermost "%dev.token" = pure (.ok none)
    ∧ sampleRegistered.build.result.configValue .outermost "%dev.db.password"
      = pure (.ok (some ⟨"%dev.db.password", "hunter2", "app", 100⟩)) := by
  have without : sampleRegistered.WithoutStages := ⟨rfl, rfl⟩
  have locked : Scope.outermost.isLocked = true := rfl
  have token : "token" ∈ sampleRegistered.secretKeys := by decide
  have variant : "%dev.token" ∈ sampleRegistered.secretKeys := by decide
  have alone : "%dev.db.password" ∈ sampleRegistered.secretKeys := by decide
  obtain ⟨plain, hidden, -⟩ := registered_masked without locked token
  obtain ⟨covered, hiddenToo, -⟩ := registered_masked without locked variant
  obtain ⟨-, -, shown⟩ := registered_masked without locked alone
  have property : SecretKeys.unqualified "%dev.token" = "token" := by decide
  have described : Described (sampleRegistered.secretKeys.filter (· ≠ "%dev.token")) "token" :=
    ⟨"token", by decide, List.forall₂_same.mpr fun segment _ => .same segment⟩
  refine ⟨without, locked, token, variant, alone, hidden (plain.mpr (.inl (by decide))),
    hiddenToo (covered.mpr (.inr (by rwa [property]))), ?_⟩
  rw [shown plainValues_sampleRegistered not_isSecret_sampleRegistered, sources_sampleRegistered,
    password_sampleRegistered]

/-- The lone variant is a registered pattern, is not secret by its own name, and its value is given
while secrets are locked. -/
theorem registered_variant_shown :
    "%dev.db.password" ∈ sampleRegistered.secretKeys ∧ Scope.outermost.isLocked = true
    ∧ (SecretKeys.ofPatterns sampleRegistered.secretKeys).isSecret "%dev.db.password" = false
    ∧ sampleRegistered.build.result.configValue .outermost "%dev.db.password"
      = pure (.ok (some ⟨"%dev.db.password", "hunter2", "app", 100⟩)) := by
  refine ⟨by decide, rfl, not_isSecret_sampleRegistered, ?_⟩
  rw [configValue_of_shown ⟨rfl, rfl⟩ plainValues_sampleRegistered .outermost rfl
    not_isSecret_sampleRegistered, sources_sampleRegistered, password_sampleRegistered]

end LayeredConfig.Resolve
