/-
**Chains of the library's own stages.**

The library has stages for references, for secrets and for profiles, and each has a priority of its
own. None of them looks at its position in the chain, so a chain of them is its stages one inside
the other (`through`), and sorting puts all references in front of all secrets and these in front of
all profiles:

* `invoke_eq_through`: asking a chain of library stages;
* `stages_ofStages`: the order of library stages, those of one kind as they were given;
* `lookup_ofStages`: both together;
* `libraryOrder_insert`: one stage of secrets more has only secrets and profiles behind it.
-/

import LayeredConfig.Expression.Expansion
import LayeredConfig.Lookup.Profile
import LayeredConfig.Lookup.Secret
import LayeredConfig.Proofs.Sorting.Stable

namespace LayeredConfig.Lookup

open LayeredConfig.Expression LayeredConfig.Resolve LayeredConfig.Source LayeredConfig.Sorting

variable {m : Type → Type}

/-! ## Part 1 — the stages of the library -/

/-- No profile has a dot in its name. -/
def Profiles.Undotted (profiles : Profiles) : Prop :=
  ∀ profile ∈ profiles.lookupOrder, '.' ∉ profile.toList

/-- A stage of the library at its own priority; profiles have no dots. -/
inductive IsLibraryStage [Monad m] : Stage m → Prop
  | expression (limits : Limits) : IsLibraryStage limits.stage
  | secret (secrets : SecretKeys) : IsLibraryStage secrets.stage
  | profile (profiles : Profiles) (undotted : profiles.Undotted) : IsLibraryStage profiles.stage

/-- A library stage does not look at its position. -/
theorem IsLibraryStage.intercept_position [Monad m] {stage : Stage m} (library : IsLibraryStage stage)
    (first second : Nat) (scope : Scope) (proceed : String → Outcome m) :
    stage.intercept ⟨first, scope, proceed⟩ = stage.intercept ⟨second, scope, proceed⟩ := by
  cases library <;> rfl

/-! ## Part 2 — one stage inside the other -/

/-- The answers of some stages in front of the rest of a chain, each stage around the next one. -/
def through (scope : Scope) (stages : List (Stage m)) (rest : String → Outcome m) :
    String → Outcome m :=
  stages.foldr (fun stage proceed => stage.intercept ⟨0, scope, proceed⟩) rest

theorem through_append (scope : Scope) (first second : List (Stage m))
    (rest : String → Outcome m) :
    through scope (first ++ second) rest = through scope first (through scope second rest) :=
  List.foldr_append ..

/-- A chain of library stages is asked from the outside in. -/
theorem invoke_eq_through [Monad m] {stages : List (Stage m)}
    (library : ∀ stage ∈ stages, IsLibraryStage stage) (scope : Scope)
    (final : String → Option ConfigValue) (position : Nat) :
    Chain.invoke scope final position stages
      = through scope stages fun name => pure (final name) := by
  induction stages generalizing position with
  | nil => rfl
  | cons stage rest hypothesis =>
    funext name
    show stage.intercept ⟨position + 1, scope, Chain.invoke scope final (position + 1) rest⟩ name = _
    rw [hypothesis (fun stage member => library stage (List.mem_cons_of_mem _ member)),
      (library stage List.mem_cons_self).intercept_position (position + 1) 0]
    rfl

/-! ## Part 3 — the order of library stages -/

/-- The stages of one priority. -/
def atPriority (priority : Int) (stages : List (Stage m)) : List (Stage m) :=
  stages.filter (·.priority = priority)

/-- Library stages in their order: references, secrets, profiles. -/
def libraryOrder (stages : List (Stage m)) : List (Stage m) :=
  atPriority (libraryPriority + 800) stages
    ++ (atPriority (libraryPriority + 700) stages ++ atPriority (libraryPriority + 600) stages)

theorem IsLibraryStage.priority_cases [Monad m] {stage : Stage m} (library : IsLibraryStage stage) :
    stage.priority = libraryPriority + 800 ∨ stage.priority = libraryPriority + 700
      ∨ stage.priority = libraryPriority + 600 := by
  cases library with
  | expression limits => exact .inl rfl
  | secret secrets => exact .inr (.inl rfl)
  | profile profiles undotted => exact .inr (.inr rfl)

theorem descending_libraryOrder (stages : List (Stage m)) :
    Descending Stage.priority (libraryOrder stages) := by
  have level : ∀ priority, ∀ stage ∈ atPriority priority stages, stage.priority = priority :=
    fun priority stage member => of_decide_eq_true (List.mem_filter.mp member).2
  have even : ∀ priority, Descending Stage.priority (atPriority priority stages) :=
    fun priority => descending_of_level _ (level priority)
  have above : ∀ high low : Int, low ≤ high → ∀ first ∈ atPriority high stages,
      ∀ second ∈ atPriority low stages, second.priority ≤ first.priority := by
    intro high low ordered first inFirst second inSecond
    rwa [level high first inFirst, level low second inSecond]
  refine List.pairwise_append.mpr ⟨even _, List.pairwise_append.mpr ⟨even _, even _,
    above _ _ (by omega)⟩, fun first inFirst second inSecond => ?_⟩
  rcases List.mem_append.mp inSecond with member | member
  · exact above _ _ (by omega) first inFirst second member
  · exact above _ _ (by omega) first inFirst second member

theorem atPriority_atPriority (first second : Int) (stages : List (Stage m)) :
    atPriority first (atPriority second stages)
      = if first = second then atPriority first stages else [] := by
  unfold atPriority
  rw [List.filter_filter]
  split
  next same =>
    subst same
    simp
  next different =>
    refine List.filter_eq_nil_iff.mpr fun stage _ => ?_
    simp only [Bool.and_eq_true, decide_eq_true_eq]
    rintro ⟨one, two⟩
    exact different (one.symm.trans two)

theorem atPriority_libraryOrder [Monad m] {stages : List (Stage m)}
    (library : ∀ stage ∈ stages, IsLibraryStage stage) (priority : Int) :
    atPriority priority (libraryOrder stages) = atPriority priority stages := by
  have parts : atPriority priority (libraryOrder stages)
      = atPriority priority (atPriority (libraryPriority + 800) stages)
        ++ (atPriority priority (atPriority (libraryPriority + 700) stages)
          ++ atPriority priority (atPriority (libraryPriority + 600) stages)) := by
    simp only [libraryOrder, atPriority, List.filter_append]
  simp only [parts, atPriority_atPriority]
  by_cases references : priority = libraryPriority + 800
  · simp [references]
  · by_cases secrets : priority = libraryPriority + 700
    · simp [secrets]
    · by_cases profiles : priority = libraryPriority + 600
      · simp [profiles]
      · have none : atPriority priority stages = [] := by
          refine List.filter_eq_nil_iff.mpr fun stage member => ?_
          rw [decide_eq_true_eq]
          rintro rfl
          rcases (library stage member).priority_cases with one | two | three
          · exact references one
          · exact secrets two
          · exact profiles three
        simp [references, secrets, profiles, none]

/-- **The stages of a chain of the library, in order.** -/
theorem stages_ofStages [Monad m] {declared discovered : List (Stage m)}
    (library : ∀ stage ∈ declared ++ discovered, IsLibraryStage stage) :
    (Chain.ofStages declared discovered).stages = libraryOrder (declared ++ discovered) :=
  byRank_eq Stage.priority (descending_libraryOrder _) (atPriority_libraryOrder library)

/-- **A chain of library stages answers as these stages do, one inside the other in their order.** -/
theorem lookup_ofStages [Monad m] {declared discovered : List (Stage m)}
    (library : ∀ stage ∈ declared ++ discovered, IsLibraryStage stage) (scope : Scope)
    (sources : SourceSet) :
    (Chain.ofStages declared discovered).lookup scope sources
      = through scope (libraryOrder (declared ++ discovered)) fun name =>
        pure (sources.value name) := by
  have inside : ∀ stage ∈ (Chain.ofStages declared discovered).stages, IsLibraryStage stage :=
    fun stage member => library stage (List.mem_mergeSort.mp member)
  show Chain.invoke scope sources.value 0 (Chain.ofStages declared discovered).stages = _
  rw [invoke_eq_through inside, stages_ofStages library]

/-- A stage of secrets that is added somewhere comes to stand behind all references, and the others
stay as they are. -/
theorem libraryOrder_insert [Monad m] (secrets : SecretKeys) (before after : List (Stage m)) :
    ∃ outer inner, libraryOrder (before ++ secrets.stage :: after) = outer ++ secrets.stage :: inner
      ∧ libraryOrder (before ++ after) = outer ++ inner
      ∧ ∀ stage ∈ inner, stage ∈ before ++ after ∧ stage.priority ≤ libraryPriority + 700 := by
  refine ⟨atPriority (libraryPriority + 800) (before ++ after)
      ++ atPriority (libraryPriority + 700) before,
    atPriority (libraryPriority + 700) after ++ atPriority (libraryPriority + 600) (before ++ after),
    ?_, ?_, fun stage member => ?_⟩
  · simp [libraryOrder, atPriority, SecretKeys.stage]
  · simp [libraryOrder, atPriority]
  · rcases List.mem_append.mp member with secret | profile
    · obtain ⟨member, level⟩ := List.mem_filter.mp secret
      exact ⟨List.mem_append_right _ member, (of_decide_eq_true level).le⟩
    · obtain ⟨member, level⟩ := List.mem_filter.mp profile
      exact ⟨member, (of_decide_eq_true level).le.trans (by decide)⟩

end LayeredConfig.Lookup
