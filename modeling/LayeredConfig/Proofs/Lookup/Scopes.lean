/-
**Being inside a scope is having stages removed.**

Whether secrets are kept and references replaced hangs on counters, and the stages of the library
read them whenever they are asked. So may any other stage, and any stage may look at its place in the
chain. Where the others do neither, a lookup inside scopes gives what it gives outside on the chain
from which the stages that some scope around it switches off are removed, and no others.

* `Scope.inside`: the counters inside some scopes;
* `Stage.IgnoresPlace` and `Stage.IgnoresScopes`: what a stage does not look at;
* `Link` and `chainInside`: the stages of a chain, and the chain without those that are switched off;
* `lookup_removed`: both chains give the same inside the scopes, if no stage looks at its place;
* `lookup_outside`: the second one gives the same outside, if no other stage looks at the scopes.
-/

import LayeredConfig.Expression.Expansion
import LayeredConfig.Lookup.Profile
import LayeredConfig.Lookup.Secret
import LayeredConfig.Lookup.Thread
import LayeredConfig.Proofs.Sorting.Stable

namespace LayeredConfig.Lookup

open LayeredConfig.Expression LayeredConfig.Resolve LayeredConfig.Sorting LayeredConfig.Source

variable {m : Type → Type}

/-! ## Part 1 — scopes as a list -/

/-- What a scope is for. -/
inductive ScopeKind
  /-- Secrets may be read. -/
  | unlocked
  /-- References are left as they are. -/
  | unexpanded
deriving DecidableEq, Repr

/-- The counters of a thread inside some scopes. -/
def Scope.inside (enclosing : List ScopeKind) : Scope :=
  ⟨enclosing.count .unlocked, enclosing.count .unexpanded⟩

theorem inside_nil : Scope.inside [] = .outermost := rfl

@[simp]
theorem isLocked_inside (enclosing : List ScopeKind) :
    (Scope.inside enclosing).isLocked = decide (.unlocked ∉ enclosing) := by
  rw [Scope.isLocked, Bool.eq_iff_iff, beq_iff_eq, decide_eq_true_eq]
  exact List.count_eq_zero

@[simp]
theorem isSuspended_inside (enclosing : List ScopeKind) :
    (Scope.inside enclosing).isSuspended = decide (.unexpanded ∈ enclosing) := by
  rw [Scope.isSuspended, Bool.eq_iff_iff, decide_eq_true_eq, decide_eq_true_eq]
  exact List.count_pos_iff

namespace ScopeKind

/-- What the counters become in a further scope. -/
def enter : ScopeKind → Scope → Scope
  | unlocked => .unlock
  | unexpanded => .suspend

/-- What they become when it ends. -/
def leave : ScopeKind → Scope → Scope
  | unlocked => .lock
  | unexpanded => .resume

theorem enter_inside (kind : ScopeKind) (enclosing : List ScopeKind) :
    kind.enter (.inside enclosing) = .inside (kind :: enclosing) := by
  cases kind <;> simp [enter, Scope.unlock, Scope.suspend, Scope.inside]

theorem leave_inside (kind : ScopeKind) (enclosing : List ScopeKind) :
    kind.leave (.inside (kind :: enclosing)) = .inside enclosing := by
  cases kind <;> simp [leave, Scope.lock, Scope.resume, Scope.inside]

end ScopeKind

/-! ## Part 2 — what a stage looks at -/

/-- It does not matter to a stage where in the chain it stands. -/
def Stage.IgnoresPlace (stage : Stage m) : Prop :=
  ∀ (first second : Nat) (scope : Scope) (proceed : String → Outcome m),
    stage.intercept ⟨first, scope, proceed⟩ = stage.intercept ⟨second, scope, proceed⟩

/-- It does not matter to a stage which scopes surround the lookup, but for what the stages behind it
do. -/
def Stage.IgnoresScopes (stage : Stage m) : Prop :=
  ∀ (position : Nat) (first second : Scope) (proceed : String → Outcome m),
    stage.intercept ⟨position, first, proceed⟩ = stage.intercept ⟨position, second, proceed⟩

/-- The stage of the profiles looks at neither. -/
example [Monad m] (profiles : Profiles) :
    (profiles.stage : Stage m).IgnoresPlace ∧ (profiles.stage : Stage m).IgnoresScopes :=
  ⟨fun _ _ _ _ => rfl, fun _ _ _ _ => rfl⟩

/-! ## Part 3 — chains with stages removed -/

/-- A stage of a chain: one for references or one for secrets at any priority, or any other one,
which may do what it likes with its context. -/
inductive Link (m : Type → Type)
  | other (stage : Stage m)
  | expression (limits : Limits) (priority : Int)
  | secret (secrets : SecretKeys) (priority : Int)

namespace Link

/-- Whether no scope switches the stage off. -/
def isKept (enclosing : List ScopeKind) : Link m → Bool
  | other _ => true
  | expression .. => .unexpanded ∉ enclosing
  | secret .. => .unlocked ∉ enclosing

variable [Monad m]

def stage : Link m → Stage m
  | other stage => stage
  | expression limits priority => limits.stage.withPriority priority
  | secret secrets priority => secrets.stage.withPriority priority

/-- The chain of declared and of discovered stages, without those that are switched off. -/
def chainInside (enclosing : List ScopeKind) (declared discovered : List (Link m)) : Chain m :=
  .ofStages ((declared.filter (isKept enclosing)).map stage)
    ((discovered.filter (isKept enclosing)).map stage)

/-- Neither references nor secrets make a stage look at its place. -/
theorem ignoresPlace_stage {link : Link m}
    (others : ∀ stage, link = .other stage → stage.IgnoresPlace) : link.stage.IgnoresPlace := by
  cases link with
  | other stage => exact others stage rfl
  | expression | secret => exact fun _ _ _ _ => rfl

/-- A stage that is kept does what it does outside all scopes. -/
theorem intercept_of_kept {enclosing : List ScopeKind} {link : Link m}
    (others : ∀ stage, link = .other stage → stage.IgnoresScopes)
    (kept : link.isKept enclosing = true) (position : Nat) (proceed : String → Outcome m) :
    link.stage.intercept ⟨position, .inside enclosing, proceed⟩
      = link.stage.intercept ⟨position, .outermost, proceed⟩ := by
  cases link with
  | other stage => exact others stage rfl position (.inside enclosing) .outermost proceed
  | expression limits priority =>
    have active : ScopeKind.unexpanded ∉ enclosing := of_decide_eq_true kept
    funext name
    rw [← inside_nil]
    simp [stage, Stage.withPriority, Limits.stage, active]
  | secret secrets priority =>
    have locked : ScopeKind.unlocked ∉ enclosing := of_decide_eq_true kept
    funext name
    rw [← inside_nil]
    simp [stage, Stage.withPriority, SecretKeys.stage, locked]

/-- Stages that are kept, in a given order: they may as well be asked outside all scopes. -/
theorem invoke_of_kept {enclosing : List ScopeKind} (final : String → Option ConfigValue)
    (position : Nat) {links : List (Link m)} (kept : ∀ link ∈ links, link.isKept enclosing = true)
    (others : ∀ stage, other stage ∈ links → stage.IgnoresScopes) :
    Chain.invoke (.inside enclosing) final position (links.map stage)
      = Chain.invoke .outermost final position (links.map stage) := by
  induction links generalizing position with
  | nil => rfl
  | cons link rest hypothesis =>
    have behind := hypothesis (position + 1)
      (fun link member => kept link (List.mem_cons_of_mem _ member))
      fun stage member => others stage (List.mem_cons_of_mem _ member)
    have outside := intercept_of_kept
      (fun stage same => others stage (same ▸ List.mem_cons_self)) (kept link List.mem_cons_self)
    funext name
    show link.stage.intercept ⟨position + 1, .inside enclosing, _⟩ name
      = link.stage.intercept ⟨position + 1, .outermost, _⟩ name
    rw [behind, outside]

variable {declared discovered : List (Link m)}

/-- Declared and discovered stages in the order in which they are asked. -/
def arranged (declared discovered : List (Link m)) : List (Link m) :=
  byRank (Stage.priority ∘ stage) (declared ++ discovered)

theorem stages_ofStages (declared discovered : List (Link m)) :
    (Chain.ofStages (declared.map stage) (discovered.map stage)).stages
      = (arranged declared discovered).map stage := by
  show byRank Stage.priority (declared.map stage ++ discovered.map stage) = _
  rw [← List.map_append, byRank_map]
  rfl

theorem stages_chainInside (enclosing : List ScopeKind) (declared discovered : List (Link m)) :
    (chainInside enclosing declared discovered).stages
      = ((arranged declared discovered).filter (isKept enclosing)).map stage := by
  rw [chainInside, stages_ofStages, arranged, ← List.filter_append, byRank_filter]
  rfl

theorem mem_of_arranged {link : Link m} (member : link ∈ arranged declared discovered) :
    link ∈ declared ++ discovered :=
  List.mem_mergeSort.mp member

/-- **Without the stages that scopes switch off a chain gives inside of them what it gives outside**,
if it does not matter to the others which scopes there are. -/
theorem lookup_outside (others : ∀ stage, other stage ∈ declared ++ discovered → stage.IgnoresScopes)
    (enclosing : List ScopeKind) (sources : SourceSet) :
    (chainInside enclosing declared discovered).lookup (.inside enclosing) sources
      = (chainInside enclosing declared discovered).lookup .outermost sources := by
  show Chain.invoke _ sources.value 0 (chainInside enclosing declared discovered).stages
    = Chain.invoke _ sources.value 0 (chainInside enclosing declared discovered).stages
  rw [stages_chainInside]
  exact invoke_of_kept sources.value 0 (fun link member => (List.mem_filter.mp member).2)
    fun stage member => others stage (mem_of_arranged (List.mem_filter.mp member).1)

variable [LawfulMonad m]

/-- A stage that is switched off hands every question on. -/
theorem intercept_of_not_kept {enclosing : List ScopeKind} {link : Link m}
    (removed : ¬link.isKept enclosing = true) (position : Nat) (proceed : String → Outcome m) :
    link.stage.intercept ⟨position, .inside enclosing, proceed⟩ = proceed := by
  cases link with
  | other stage => exact absurd rfl removed
  | expression limits priority =>
    have suspended : ScopeKind.unexpanded ∈ enclosing := by simpa [isKept] using removed
    funext name
    calc (expression limits priority).stage.intercept ⟨position, .inside enclosing, proceed⟩ name
      _ = proceed name >>= pure := by
          refine bind_congr fun found => ?_
          cases found with
          | none => rfl
          | some found => simp [suspended]
      _ = proceed name := bind_pure _
  | secret secrets priority =>
    have unlocked : ScopeKind.unlocked ∈ enclosing := by simpa [isKept] using removed
    funext name
    simp [stage, Stage.withPriority, SecretKeys.stage, unlocked]

/-- Stages in a given order, inside scopes: those that are switched off may as well be missing. -/
theorem invoke_filter (enclosing : List ScopeKind) (final : String → Option ConfigValue)
    (first second : Nat) {links : List (Link m)}
    (others : ∀ stage, other stage ∈ links → stage.IgnoresPlace) :
    Chain.invoke (.inside enclosing) final first (links.map stage)
      = Chain.invoke (.inside enclosing) final second
        ((links.filter (isKept enclosing)).map stage) := by
  induction links generalizing first second with
  | nil => rfl
  | cons link rest hypothesis =>
    have behind := fun first second => hypothesis first second
      fun stage member => others stage (List.mem_cons_of_mem _ member)
    funext name
    by_cases kept : link.isKept enclosing = true
    · have ignores : link.stage.IgnoresPlace :=
        ignoresPlace_stage fun stage same => others stage (same ▸ List.mem_cons_self)
      rw [List.filter_cons_of_pos kept]
      show link.stage.intercept ⟨first + 1, .inside enclosing, _⟩ name
        = link.stage.intercept ⟨second + 1, .inside enclosing, _⟩ name
      rw [behind (first + 1) (second + 1), ignores (first + 1) (second + 1)]
    · rw [List.filter_cons_of_neg kept]
      show link.stage.intercept ⟨first + 1, .inside enclosing, _⟩ name = _
      rw [intercept_of_not_kept kept, behind (first + 1) second]

/-- **Inside scopes a chain gives what it gives there without the stages they switch off**, if it does
not matter to the others where they stand. -/
theorem lookup_removed (others : ∀ stage, other stage ∈ declared ++ discovered → stage.IgnoresPlace)
    (enclosing : List ScopeKind) (sources : SourceSet) :
    (Chain.ofStages (declared.map stage) (discovered.map stage)).lookup (.inside enclosing) sources
      = (chainInside enclosing declared discovered).lookup (.inside enclosing) sources := by
  show Chain.invoke _ sources.value 0 (Chain.ofStages _ _).stages
    = Chain.invoke _ sources.value 0 (chainInside enclosing declared discovered).stages
  rw [stages_ofStages, stages_chainInside]
  exact invoke_filter enclosing sources.value 0 0
    fun stage member => others stage (mem_of_arranged member)

end Link

end LayeredConfig.Lookup
