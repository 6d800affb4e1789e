/-
**Hiding secrets in front of the profiles is hiding them in the sources.**

A variant of a property for a profile without dots is as secret as the property
(`isSecret_qualified`), so all names that the profiles try for one name are secret or none is. Where
one chain gives what another one gives, secrets apart (`Hides`), both may be put behind the same
profiles and behind the same other secrets (`Hides.through`); and the stage of the secrets itself
makes the one of the other (`Hides.masked`).
-/

import LayeredConfig.Proofs.Lookup.LibraryStages

namespace LayeredConfig.Lookup

open LayeredConfig.Resolve LayeredConfig.Source

/-! ## Part 1 — variants are as secret as their property -/

/-- The property of a variant, for a profile without dots. -/
theorem unqualified_qualified {profile : String} (undotted : '.' ∉ profile.toList)
    (name : String) : SecretKeys.unqualified (Profiles.qualified profile name) = name := by
  have letters : (Profiles.qualified profile name).toList
      = '%' :: (profile.toList ++ '.' :: name.toList) := by
    simp [Profiles.qualified]
  have behind : (profile.toList ++ '.' :: name.toList).dropWhile (· ≠ '.') = '.' :: name.toList := by
    rw [List.dropWhile_append_of_pos]
    · simp
    · intro character member
      rw [decide_eq_true_eq]
      rintro rfl
      exact undotted member
  rw [SecretKeys.unqualified, letters]
  simp only [behind]
  exact String.ofList_toList

/-- A name that asks for no variant is its own property. -/
theorem unqualified_of_not_qualified {name : String} (plain : Profiles.isQualified name = false) :
    SecretKeys.unqualified name = name := by
  unfold SecretKeys.unqualified
  split
  next rest letters => simp [Profiles.isQualified, letters] at plain
  next => rfl

theorem isSecret_qualified (secrets : SecretKeys) {profile name : String}
    (undotted : '.' ∉ profile.toList) (plain : Profiles.isQualified name = false) :
    secrets.isSecret (Profiles.qualified profile name) = secrets.isSecret name := by
  rw [SecretKeys.isSecret, SecretKeys.isSecret, unqualified_qualified undotted,
    unqualified_of_not_qualified plain]

/-- The names that the profiles try for a name are as secret as the name. -/
theorem isSecret_candidates (secrets : SecretKeys) {profiles : Profiles}
    (undotted : profiles.Undotted) {name candidate : String}
    (tried : candidate ∈ profiles.candidates name) :
    secrets.isSecret candidate = secrets.isSecret name := by
  unfold Profiles.candidates at tried
  split at tried
  · rw [List.mem_singleton.mp tried]
  next plain =>
    rcases List.mem_append.mp tried with variant | same
    · obtain ⟨profile, active, rfl⟩ := List.mem_map.mp variant
      exact isSecret_qualified secrets (undotted profile active) (Bool.eq_false_iff.mpr plain)
    · rw [List.mem_singleton.mp same]

/-! ## Part 2 — chains that differ by the secrets -/

variable {m : Type → Type} [Monad m]

/-- The one chain gives what the other one gives, and nothing for secrets. -/
def Hides (secrets : SecretKeys) (hidden shown : String → Outcome m) : Prop :=
  ∀ name, hidden name = if secrets.isSecret name then pure none else shown name

namespace Hides

variable {secrets : SecretKeys} {hidden shown : String → Outcome m}

/-- The stage of the secrets makes the one chain of the other. -/
theorem masked (hides : Hides secrets hidden shown) {scope : Scope}
    (locked : scope.isLocked = true) (position : Nat) :
    secrets.stage.intercept ⟨position, scope, shown⟩ = hidden := by
  funext name
  rw [hides name]
  simp only [SecretKeys.stage, locked, Bool.true_and]

variable [LawfulMonad m]

/-- Among names that are secret together, the first value that is found differs by the secrets. -/
theorem firstFound (hides : Hides secrets hidden shown) {secret : Bool} {names : List String}
    (alike : ∀ name ∈ names, secrets.isSecret name = secret) :
    Lookup.firstFound hidden names
      = if secret then pure none else Lookup.firstFound shown names := by
  induction names with
  | nil => simp [Lookup.firstFound]
  | cons name rest hypothesis =>
    have later := hypothesis fun name member => alike name (List.mem_cons_of_mem _ member)
    simp only [Lookup.firstFound, hides name, alike name List.mem_cons_self, later]
    cases secret <;> simp

/-- Both chains may be put behind the same profiles or behind the same other secrets. -/
theorem behind (hides : Hides secrets hidden shown) {stage : Stage m}
    (library : IsLibraryStage stage) (inner : stage.priority ≤ libraryPriority + 700)
    (position : Nat) (scope : Scope) :
    Hides secrets (stage.intercept ⟨position, scope, hidden⟩)
      (stage.intercept ⟨position, scope, shown⟩) := by
  intro name
  cases library with
  | expression limits =>
    exact absurd (show libraryPriority + 800 ≤ libraryPriority + 700 from inner) (by decide)
  | secret others =>
    simp only [SecretKeys.stage, hides name]
    split <;> simp
  | profile profiles undotted =>
    exact hides.firstFound fun candidate => isSecret_candidates secrets undotted

theorem through (hides : Hides secrets hidden shown) {stages : List (Stage m)}
    (library : ∀ stage ∈ stages, IsLibraryStage stage)
    (inner : ∀ stage ∈ stages, stage.priority ≤ libraryPriority + 700) (scope : Scope) :
    Hides secrets (Lookup.through scope stages hidden) (Lookup.through scope stages shown) := by
  induction stages with
  | nil => exact hides
  | cons stage rest hypothesis =>
    have within := hypothesis (fun stage member => library stage (List.mem_cons_of_mem _ member))
      fun stage member => inner stage (List.mem_cons_of_mem _ member)
    exact within.behind (library stage List.mem_cons_self) (inner stage List.mem_cons_self) 0 scope

end Hides

end LayeredConfig.Lookup
