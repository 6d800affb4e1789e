/-
**Limits cut an expansion off and change nothing else.**

Questions go down a chain that may remember them, so an expansion runs from some steps left and some
memory (`outcomeFrom`). An expansion *outlasts* another one if from more steps it ends as the other
one does, with as many more steps left, unless the other one reached a limit:

* `Outlasts.bind`, `Outlasts.ask`, `Outlasts.step`, `Outlasts.cutOff`: the parts of an expansion;
* `outlasts_resolve`: a reference followed through more levels outlasts itself;
* `answer_of_not_cutOff`: what a stage answers without reaching a limit, it answers under all larger
  limits, and under all others that it does not reach. So no default stands in for a value that a
  limit kept from being found.
-/

import LayeredConfig.Expression.Expansion
import Mathlib.Tactic.Common

namespace LayeredConfig.Expression

open LayeredConfig.Lookup LayeredConfig.Resolve LayeredConfig.Source

variable {Memory Value Next : Type}

/-! ## Part 1 — outcomes -/

/-- Goes on from an outcome unless it is a failure. -/
def goOn (next : Value → ExceptT ExpansionError (StateM Memory) Next) :
    Except ExpansionError Value × Memory → Except ExpansionError Next × Memory
  | (.ok value, memory) => (next value).run.run memory
  | (.error error, memory) => (.error error, memory)

theorem run_bind (action : ExceptT ExpansionError (StateM Memory) Value)
    (next : Value → ExceptT ExpansionError (StateM Memory) Next) (memory : Memory) :
    (action >>= next).run.run memory = goOn next (action.run.run memory) := by
  rw [ExceptT.run_bind, StateT.run_bind]
  rcases action.run.run memory with ⟨error | value, after⟩
  · rfl
  · rfl

/-- What becomes of an expansion that starts with some steps left. -/
def outcomeFrom (expansion : Expanding (StateM Memory) Value) (left : Nat) (memory : Memory) :
    Except ExpansionError (Value × Nat) × Memory :=
  (expansion.run left).run.run memory

theorem outcomeFrom_bind (expansion : Expanding (StateM Memory) Value)
    (next : Value → Expanding (StateM Memory) Next) (left : Nat) (memory : Memory) :
    outcomeFrom (expansion >>= next) left memory
      = goOn (fun pair => (next pair.1).run pair.2) (outcomeFrom expansion left memory) :=
  run_bind (expansion.run left) (fun pair => (next pair.1).run pair.2) memory

/-- A question takes no step. -/
theorem outcomeFrom_ask (question : ExceptT ExpansionError (StateM Memory) Value) (left : Nat)
    (memory : Memory) :
    outcomeFrom (liftM question) left memory
      = goOn (fun value => pure (value, left)) (question.run.run memory) :=
  run_bind question (fun value => pure (value, left)) memory

/-! ## Part 2 — expansions that outlast others -/

/-- An outcome is kept by a run that had some more steps. Nothing is said about an outcome that a
limit cut off. -/
inductive Kept (more : Nat) :
    (shorter longer : Except ExpansionError (Value × Nat) × Memory) → Prop
  | value (value : Value) (left : Nat) (memory : Memory) :
      Kept more (.ok (value, left), memory) (.ok (value, left + more), memory)
  | failure (error : ExpansionError) (memory : Memory) :
      Kept more (.error error, memory) (.error error, memory)
  | cutOff (reference : String) (memory : Memory)
      (longer : Except ExpansionError (Value × Nat) × Memory) :
      Kept more (.error (.tooDeep reference), memory) longer

/-- From more steps the one expansion keeps every outcome of the other. -/
def Outlasts (longer shorter : Expanding (StateM Memory) Value) : Prop :=
  ∀ left more memory,
    Kept more (outcomeFrom shorter left memory) (outcomeFrom longer (left + more) memory)

namespace Outlasts

theorem pure (value : Value) :
    Outlasts (Pure.pure value : Expanding (StateM Memory) Value) (Pure.pure value) :=
  fun left _ memory => .value value left memory

theorem fail (error : ExpansionError) :
    Outlasts (throw error : Expanding (StateM Memory) Value) (throw error) :=
  fun _ _ memory => .failure error memory

/-- Everything outlasts an expansion that a limit has cut off. -/
theorem cutOff (longer : Expanding (StateM Memory) Value) (reference : String) :
    Outlasts longer (throw (ExpansionError.tooDeep reference)) :=
  fun _ _ memory => .cutOff reference memory _

theorem bind {longer shorter : Expanding (StateM Memory) Value}
    {longerNext shorterNext : Value → Expanding (StateM Memory) Next}
    (first : Outlasts longer shorter)
    (second : ∀ value, Outlasts (longerNext value) (shorterNext value)) :
    Outlasts (longer >>= longerNext) (shorter >>= shorterNext) := by
  intro left more memory
  rw [outcomeFrom_bind, outcomeFrom_bind]
  have here := first left more memory
  generalize outcomeFrom shorter left memory = ended at here ⊢
  generalize outcomeFrom longer (left + more) memory = kept at here ⊢
  cases here with
  | value value rest after => exact second value rest more after
  | failure error after => exact .failure error after
  | cutOff reference after longer => exact .cutOff reference after _

/-- The rest of the chain does not see the steps that are left. -/
theorem ask (question : ExceptT ExpansionError (StateM Memory) Value) :
    Outlasts (liftM question : Expanding (StateM Memory) Value) (liftM question) := by
  intro left more memory
  rw [outcomeFrom_ask, outcomeFrom_ask]
  rcases question.run.run memory with ⟨error | value, after⟩
  · exact .failure error after
  · exact .value value left after

theorem step (inner : List Char) :
    Outlasts (takeStep inner : Expanding (StateM Memory) Unit) (takeStep inner) := by
  intro left more memory
  cases left with
  | zero => exact .cutOff _ memory _
  | succ left =>
    rw [Nat.succ_add]
    exact .value () left memory

end Outlasts

/-! ## Part 3 — texts, references and values -/

theorem outlasts_expandPieces {longer shorter : List Char → Expanding (StateM Memory) (List Char)}
    (follow : ∀ inner, Outlasts (longer inner) (shorter inner)) (pieces : List Piece) :
    Outlasts (expandPieces longer pieces) (expandPieces shorter pieces) := by
  induction pieces with
  | nil => exact .pure []
  | cons piece rest hypothesis =>
    cases piece with
    | literal text => exact .bind hypothesis fun expanded => .pure _
    | reference inner =>
      exact .bind (follow inner) fun value => .bind hypothesis fun expanded => .pure _

/-- **More levels outlast fewer**: by induction on the fewer levels, part by part of a reference. -/
theorem outlasts_resolve (ask : String → Outcome (StateM Memory)) {fewer levels : Nat}
    (deeper : fewer ≤ levels) (inner : List Char) :
    Outlasts (resolve ask levels inner) (resolve ask fewer inner) := by
  induction fewer generalizing levels inner with
  | zero => exact .cutOff _ _
  | succ fewer hypothesis =>
    obtain ⟨more, rfl⟩ := Nat.exists_eq_add_of_le' deeper
    have text : ∀ text, Outlasts (expandText (resolve ask (more + fewer)) text)
        (expandText (resolve ask fewer) text) := fun text =>
      outlasts_expandPieces (fun inner => hypothesis (Nat.le_add_left fewer more) inner) (scan text)
    refine .bind (.step inner) fun _ => ?_
    refine .bind (text _) fun key => ?_
    refine .bind (.ask _) fun found => ?_
    cases found with
    | some found => exact text found.value.toList
    | none =>
      -- The default is taken where the longer run takes it too, for the key is the same.
      dsimp only
      cases (splitDefault 0 inner).2 with
      | some default => exact text default
      | none => exact .fail _

/-! ## Part 4 — the stage -/

/-- The outcome is a failure which tells that a limit was reached. -/
def CutOff : Except ExpansionError Value → Prop
  | .ok _ => False
  | .error error => error.depthExceeded = true

instance (outcome : Except ExpansionError Value) : Decidable (CutOff outcome) :=
  match outcome with
  | .ok _ => .isFalse id
  | .error error => inferInstanceAs (Decidable (error.depthExceeded = true))

/-- The one action ends as the other one does, unless that reached a limit. -/
def Keeps (longer shorter : ExceptT ExpansionError (StateM Memory) Value) : Prop :=
  ∀ memory, ¬ CutOff (shorter.run.run memory).1 → longer.run.run memory = shorter.run.run memory

namespace Keeps

theorem refl (action : ExceptT ExpansionError (StateM Memory) Value) : Keeps action action :=
  fun _ _ => rfl

theorem bind {longer shorter : ExceptT ExpansionError (StateM Memory) Value}
    {longerNext shorterNext : Value → ExceptT ExpansionError (StateM Memory) Next}
    (first : Keeps longer shorter) (second : ∀ value, Keeps (longerNext value) (shorterNext value)) :
    Keeps (longer >>= longerNext) (shorter >>= shorterNext) := by
  intro memory finished
  rw [run_bind] at finished ⊢
  rw [run_bind]
  have here := first memory
  generalize shorter.run.run memory = outcome at here finished ⊢
  rcases outcome with ⟨error | value, after⟩
  · rw [here finished]
    rfl
  · rw [here id]
    exact second value after finished

end Keeps

/-- An expansion that outlasts another one keeps what becomes of its value, the steps that are left
apart. -/
theorem Outlasts.keeps {longer shorter : Expanding (StateM Memory) Value}
    (outlasts : Outlasts longer shorter) {steps more : Nat} (enough : steps ≤ more)
    (next : Value → ExceptT ExpansionError (StateM Memory) Next) :
    Keeps (longer.run more >>= fun pair => next pair.1)
      (shorter.run steps >>= fun pair => next pair.1) := by
  obtain ⟨extra, rfl⟩ := Nat.exists_eq_add_of_le enough
  intro memory finished
  rw [run_bind] at finished ⊢
  rw [run_bind]
  have kept := outlasts steps extra memory
  unfold outcomeFrom at kept
  generalize (shorter.run steps).run.run memory = ended at kept finished ⊢
  generalize (longer.run (steps + extra)).run.run memory = other at kept ⊢
  cases kept with
  | value value left after => rfl
  | failure error after => rfl
  | cutOff reference after other => exact absurd rfl finished

/-- The stage with larger limits keeps what the stage answers. -/
theorem keeps_intercept {limits larger : Limits} (deeper : limits.depth ≤ larger.depth)
    (longer : limits.steps ≤ larger.steps) (context : Context (StateM Memory)) (name : String) :
    Keeps (larger.stage.intercept context name) (limits.stage.intercept context name) := by
  refine .bind (.refl _) fun found => ?_
  cases found with
  | none => exact .refl _
  | some found =>
    dsimp only
    split
    · exact .refl _
    · have text := outlasts_expandPieces (outlasts_resolve context.proceed deeper)
        (scan found.value.toList)
      exact .bind (text.keeps longer fun expanded => pure (found.withValue (String.ofList expanded)))
        fun value => .refl _

/-- What the stage with some limits answers in a context, and the memory afterwards. -/
def Limits.answer (limits : Limits) (context : Context (StateM Memory)) (name : String)
    (memory : Memory) : Except ExpansionError (Option ConfigValue) × Memory :=
  (limits.stage.intercept context name).run.run memory

/-- **Limits only ever cut off.** An answer that reached no limit stays the same under all larger
limits; and whatever other limits are set, they give this answer or are reached themselves. -/
theorem answer_of_not_cutOff (limits : Limits) (context : Context (StateM Memory)) (name : String)
    (memory : Memory) (finished : ¬ CutOff (limits.answer context name memory).1) :
    (∀ larger : Limits, limits.depth ≤ larger.depth → limits.steps ≤ larger.steps →
      larger.answer context name memory = limits.answer context name memory)
    ∧ ∀ other : Limits, CutOff (other.answer context name memory).1
      ∨ other.answer context name memory = limits.answer context name memory := by
  refine ⟨fun larger deeper longer => keeps_intercept deeper longer context name memory finished,
    fun other => ?_⟩
  by_cases cut : CutOff (other.answer context name memory).1
  · exact .inl cut
  · -- Both agree with limits that are larger than either.
    let both : Limits := ⟨limits.depth + other.depth, limits.steps + other.steps⟩
    have one : both.answer context name memory = limits.answer context name memory :=
      keeps_intercept (Nat.le_add_right _ _) (Nat.le_add_right _ _) context name memory finished
    have two : both.answer context name memory = other.answer context name memory :=
      keeps_intercept (Nat.le_add_left _ _) (Nat.le_add_left _ _) context name memory cut
    exact .inr (two.symm.trans one)

/-- A chain that counts its questions, with a default that is needed and a nested key. -/
def sampleContext : Context (StateM Nat) where
  next := 1
  scope := .outermost
  proceed name := do
    modify (· + 1)
    return match name with
      | "url" => some ⟨"url", "${scheme:http}://${${env}.host}", "base", 100⟩
      | "env" => some ⟨"env", "test", "base", 100⟩
      | "test.host" => some ⟨"test.host", "localhost", "base", 100⟩
      | _ => none

/-- Two levels and three steps are enough for the sample, and nothing else ever comes of it. -/
theorem answer_of_not_cutOff_sample :
    ¬ CutOff (Limits.answer ⟨2, 3⟩ sampleContext "url" 0).1
    ∧ (∀ larger : Limits, 2 ≤ larger.depth → 3 ≤ larger.steps →
      larger.answer sampleContext "url" 0
        = (.ok (some ⟨"url", "http://localhost", "base", 100⟩), 4))
    ∧ ∀ other : Limits, CutOff (other.answer sampleContext "url" 0).1
      ∨ other.answer sampleContext "url" 0
        = (.ok (some ⟨"url", "http://localhost", "base", 100⟩), 4) := by
  have answered : Limits.answer ⟨2, 3⟩ sampleContext "url" 0
      = (.ok (some ⟨"url", "http://localhost", "base", 100⟩), 4) := by decide +kernel
  have finished : ¬ CutOff (Limits.answer ⟨2, 3⟩ sampleContext "url" 0).1 := by
    rw [answered]
    exact id
  have kept := answer_of_not_cutOff ⟨2, 3⟩ sampleContext "url" 0 finished
  rw [answered] at kept
  exact ⟨finished, kept⟩

end LayeredConfig.Expression
