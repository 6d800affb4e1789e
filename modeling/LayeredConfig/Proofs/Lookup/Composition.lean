/-
**A chain is its stages one inside the other, in the order of their priorities.**

The order of a chain is fixed by two things: no stage stands before one of higher priority, and the
stages of every priority are those that were registered, in the order of their registration
(`Arranges`). Asking the chain is asking the outermost stage, and the rest of the chain as it sees it
is made of exactly the stages behind it (`nested`):

* `Arranges.eq`: there is one such order;
* `agreeByPriority_comm`: stages of different priorities may be registered in either order;
* `lookup_eq_nested`: the answers of a chain whose order is known;
* `lookup_composed`: all of it for any stages whatsoever, and that a chain does not depend on how its
  stages were registered, as long as those of one priority keep their order.
-/

import LayeredConfig.Lookup.Stages
import LayeredConfig.Proofs.Sorting.Stable

namespace LayeredConfig.Lookup

open LayeredConfig.Sorting LayeredConfig.Source

variable {m : Type → Type}

/-! ## Part 1 — the order of a chain -/

/-- Of every priority both lists have the same stages in the same order. -/
def AgreeByPriority (first second : List (Stage m)) : Prop :=
  ∀ priority, first.filter (·.priority = priority) = second.filter (·.priority = priority)

/-- The registered stages in descending order of their priorities, and in the order of their
registration where these are equal. -/
structure Arranges (registered arranged : List (Stage m)) : Prop where
  descending : Descending Stage.priority arranged
  kept : AgreeByPriority arranged registered

theorem arranges_ofStages (declared discovered : List (Stage m)) :
    Arranges (declared ++ discovered) (Chain.ofStages declared discovered).stages :=
  ⟨descending_byRank Stage.priority _, filter_byRank Stage.priority _⟩

theorem Arranges.eq {declared discovered arranged : List (Stage m)}
    (arranges : Arranges (declared ++ discovered) arranged) :
    (Chain.ofStages declared discovered).stages = arranged :=
  byRank_eq Stage.priority arranges.descending arranges.kept

theorem ofStages_congr {declared discovered otherDeclared otherDiscovered : List (Stage m)}
    (agree : AgreeByPriority (otherDeclared ++ otherDiscovered) (declared ++ discovered)) :
    Chain.ofStages otherDeclared otherDiscovered = Chain.ofStages declared discovered := by
  have arranged := arranges_ofStages declared discovered
  have same : Arranges (otherDeclared ++ otherDiscovered)
      (Chain.ofStages declared discovered).stages := by
    refine ⟨arranged.descending, ?_⟩
    intro priority
    rw [arranged.kept, agree]
  exact congrArg Chain.mk same.eq

/-- Stages that share no priority may be registered in either order. -/
theorem agreeByPriority_comm {first second : List (Stage m)}
    (apart : ∀ one ∈ first, ∀ two ∈ second, one.priority ≠ two.priority) :
    AgreeByPriority (first ++ second) (second ++ first) := by
  intro priority
  rw [List.filter_append, List.filter_append]
  by_cases here : ∃ one ∈ first, one.priority = priority
  · obtain ⟨one, member, rfl⟩ := here
    have none : second.filter (·.priority = one.priority) = [] := by
      rw [List.filter_eq_nil_iff]
      intro two inSecond same
      exact apart one member two inSecond (of_decide_eq_true same).symm
    rw [none, List.append_nil, List.nil_append]
  · have none : first.filter (·.priority = priority) = [] := by
      rw [List.filter_eq_nil_iff]
      intro one member same
      exact here ⟨one, member, of_decide_eq_true same⟩
    rw [none, List.append_nil, List.nil_append]

/-! ## Part 2 — one stage inside the other -/

/-- Stages in front of the rest of a chain, each around the next one; each sees at which position
the rest begins, and `position` other stages stand before the first one. -/
def nested (scope : Scope) (position : Nat) (stages : List (Stage m))
    (rest : String → Outcome m) : String → Outcome m :=
  (stages.zipIdx (position + 1)).foldr
    (fun placed proceed => placed.1.intercept ⟨placed.2, scope, proceed⟩) rest

@[simp]
theorem nested_nil (scope : Scope) (position : Nat) (rest : String → Outcome m) :
    nested scope position [] rest = rest := rfl

@[simp]
theorem nested_cons (scope : Scope) (position : Nat) (stage : Stage m) (stages : List (Stage m))
    (rest : String → Outcome m) :
    nested scope position (stage :: stages) rest
      = stage.intercept ⟨position + 1, scope, nested scope (position + 1) stages rest⟩ := rfl

theorem nested_append (scope : Scope) (position : Nat) (first second : List (Stage m))
    (rest : String → Outcome m) :
    nested scope position (first ++ second) rest
      = nested scope position first (nested scope (position + first.length) second rest) := by
  unfold nested
  rw [List.zipIdx_append, List.foldr_append, Nat.add_right_comm]

variable [Monad m]

/-- What the sources answer behind the last stage. -/
def answers (sources : SourceSet) : String → Outcome m := fun name => pure (sources.value name)

theorem invoke_eq_nested (scope : Scope) (sources : SourceSet) (position : Nat)
    (stages : List (Stage m)) :
    Chain.invoke scope sources.value position stages
      = nested scope position stages (answers sources) := by
  induction stages generalizing position with
  | nil => rfl
  | cons stage rest hypothesis =>
    funext name
    show stage.intercept ⟨position + 1, scope, Chain.invoke scope sources.value (position + 1) rest⟩
      name = _
    rw [hypothesis, nested_cons]

theorem lookup_eq_nested {declared discovered arranged : List (Stage m)}
    (arranges : Arranges (declared ++ discovered) arranged) (scope : Scope) (sources : SourceSet) :
    (Chain.ofStages declared discovered).lookup scope sources
      = nested scope 0 arranged (answers sources) := by
  show Chain.invoke scope sources.value 0 (Chain.ofStages declared discovered).stages = _
  rw [invoke_eq_nested, arranges.eq]

/-! ## Part 3 — what a chain answers -/

/-- **A chain composes its stages.** They stand in the order of priority and registration, each
answers with what the stages behind it make of the sources, and nothing else about their
registration shows. -/
theorem lookup_composed (declared discovered : List (Stage m)) (scope : Scope)
    (sources : SourceSet) :
    Arranges (declared ++ discovered) (Chain.ofStages declared discovered).stages
    ∧ (∀ arranged, Arranges (declared ++ discovered) arranged →
      (Chain.ofStages declared discovered).lookup scope sources
        = nested scope 0 arranged fun name => pure (sources.value name))
    ∧ (∀ before stage after, (Chain.ofStages declared discovered).stages = before ++ stage :: after →
      (Chain.ofStages declared discovered).lookup scope sources
        = nested scope 0 before (stage.intercept ⟨before.length + 1, scope,
            nested scope (before.length + 1) after fun name => pure (sources.value name)⟩))
    ∧ ∀ otherDeclared otherDiscovered,
      AgreeByPriority (otherDeclared ++ otherDiscovered) (declared ++ discovered) →
      (Chain.ofStages otherDeclared otherDiscovered).lookup scope sources
        = (Chain.ofStages declared discovered).lookup scope sources := by
  have arranged := arranges_ofStages declared discovered
  refine ⟨arranged, ?_, ?_, ?_⟩
  · intro arranged arranges
    exact lookup_eq_nested arranges scope sources
  · intro before stage after split
    rw [split] at arranged
    rw [lookup_eq_nested arranged, nested_append, Nat.zero_add, nested_cons]
    rfl
  · intro otherDeclared otherDiscovered agree
    rw [ofStages_congr agree]

/-- A stage that puts a text behind every value. -/
def sampleEnding (text : String) : Stage Id := .from text (Action.append text)

/-- A stage in front of these that asks for another name. -/
def sampleAlias : Stage Id :=
  (Stage.from "alias" (Action.only "alias" (Action.redirect "b"))).withPriority 300

/-- Two properties of one source. -/
def sampleProperties : SourceSet :=
  ⟨[⟨.shared 0, MapSource.toSource ⟨"base", 100, [("a", "1"), ("b", "2")]⟩⟩]⟩

/-- Of two stages of one priority the one that was registered first stays outside, whichever list the
third stage is in. -/
theorem lookup_composed_sample :
    let first := sampleEnding "x"
    let second := sampleEnding "y"
    let chain := Chain.ofStages [first, second] [sampleAlias]
    let answer : Outcome Id := pure (some ⟨"b", "2yx", "base", 100⟩)
    Arranges ([first, second] ++ [sampleAlias]) [sampleAlias, first, second]
    ∧ AgreeByPriority ([sampleAlias] ++ [first, second]) ([first, second] ++ [sampleAlias])
    ∧ chain.stages = [sampleAlias] ++ first :: [second]
    ∧ chain.lookup .outermost sampleProperties
      = nested .outermost 0 [sampleAlias] (first.intercept ⟨2, .outermost,
        nested .outermost 2 [second] fun name => pure (sampleProperties.value name)⟩)
    ∧ chain.lookup .outermost sampleProperties "alias" = answer
    ∧ (Chain.ofStages [sampleAlias] [first, second]).lookup .outermost sampleProperties "alias"
      = answer := by
  intro first second chain answer
  have agree : AgreeByPriority ([sampleAlias] ++ [first, second]) ([first, second] ++ [sampleAlias]) :=
    agreeByPriority_comm (by decide)
  have arranges : Arranges ([first, second] ++ [sampleAlias]) [sampleAlias, first, second] := by
    refine ⟨?_, agree⟩
    unfold Descending
    decide
  obtain ⟨_, composed, behind, registered⟩ :=
    lookup_composed [first, second] [sampleAlias] .outermost sampleProperties
  have found : chain.lookup .outermost sampleProperties "alias" = answer := by
    rw [composed _ arranges]
    rfl
  refine ⟨arranges, agree, arranges.eq, behind _ _ _ arranges.eq, found, ?_⟩
  rw [registered _ _ agree]
  exact found

end LayeredConfig.Lookup
