/-
**References that run in a circle are followed until a limit is reached.**

Where the first reference in the value of each name is one to the next name (`Refers`), following it
takes one level and one step, and whatever that fails with is what the name fails with
(`gives_resolve_of_refers`). So the walk around the circle goes on while both limits last:

* `gives_resolve_of_circle`: how far it comes, by induction on the levels;
* `gives_intercept_of_circle`: the stage fails with the reference at which the smaller limit is
  reached, whatever the length of the circle and the text around its references.
-/

import LayeredConfig.Proofs.Expression.Substitution

set_option linter.unusedSectionVars false

namespace LayeredConfig.Expression

open LayeredConfig.Lookup LayeredConfig.Resolve LayeredConfig.Source

variable {m : Type → Type} [Monad m]

/-! ## Part 1 — one reference after the other -/

/-- The key of a reference that is this name and has no default. -/
structure IsPlainKey (name : String) : Prop where
  unopened : hasOpening name.toList = false
  unclosed : '}' ∉ name.toList
  undivided : ':' ∉ name.toList

/-- The first reference in the value of a name is one to the next name. -/
def Refers (ask : String → Outcome m) (name next : String) : Prop :=
  ∃ (found : ConfigValue) (before behind : List Char), Gives (ask name) (.ok (some found))
    ∧ hasOpening before = false ∧ Leads before
    ∧ found.value.toList = before ++ enclosed next.toList behind

namespace IsPlainKey

variable {name : String}

theorem balanced (plain : IsPlainKey name) : Balanced True name.toList :=
  .of_plain plain.unopened plain.unclosed fun _ => plain.undivided

theorem splitDefault_eq (plain : IsPlainKey name) :
    splitDefault 0 name.toList = (name.toList, none) :=
  splitDefault_write (.literal ⟨name.toList, fun _ => ⟨plain.unopened, plain.unclosed⟩,
    fun _ => plain.undivided⟩)

end IsPlainKey

variable [LawfulMonad m] {ask : String → Outcome m}

/-- A text fails with its first reference. -/
theorem gives_expandText_of_error {follow : List Char → Expanding m (List Char)}
    {before inner : List Char} {undivided : Prop} {left : Nat} {error : ExpansionError}
    (plain : hasOpening before = false) (leads : Leads before) (balanced : Balanced undivided inner)
    (fails : Gives ((follow inner).run left) (.error error)) (behind : List Char) :
    Gives ((expandText follow (before ++ enclosed inner behind)).run left) (.error error) := by
  rw [expandText_printedLiteral follow (printedLiteral_self plain) leads.precedes,
    expandText_enclosed follow balanced, StateT.run_bind, StateT.run_bind]
  exact fails.bind_error.bind_error

theorem gives_resolve_zero (ask : String → Outcome m) (left : Nat) (inner : List Char) :
    Gives ((resolve ask 0 inner).run left) (.error (.tooDeep (String.ofList inner))) :=
  Gives.bind_error (.of_outcome _)

theorem gives_resolve_without_steps (ask : String → Outcome m) (levels : Nat) (inner : List Char) :
    Gives ((resolve ask levels inner).run 0) (.error (.tooDeep (String.ofList inner))) := by
  cases levels with
  | zero => exact gives_resolve_zero ask 0 inner
  | succ levels =>
    have stopped : Gives ((takeStep inner : Expanding m Unit).run 0)
        (.error (.tooDeep (String.ofList inner))) :=
      Gives.bind (.of_outcome (.ok (0, 0))) (Gives.bind_error (.of_outcome _))
    rw [resolve, StateT.run_bind]
    exact stopped.bind_error

/-- **One step around the circle.** A name fails with what the next one fails with, one level deeper
and with one step less. -/
theorem gives_resolve_of_refers {name next : String} {levels left : Nat} {error : ExpansionError}
    (plain : IsPlainKey name) (nextPlain : IsPlainKey next) (refers : Refers ask name next)
    (fails : Gives ((resolve ask levels next.toList).run left) (.error error)) :
    Gives ((resolve ask (levels + 1) name.toList).run (left + 1)) (.error error) := by
  obtain ⟨found, before, behind, answer, unopened, leads, value⟩ := refers
  have step : Gives ((takeStep name.toList : Expanding m Unit).run (left + 1)) (.ok ((), left)) :=
    Gives.bind (.of_outcome (.ok (left + 1, left + 1))) (.of_outcome _)
  have key : expandText (resolve ask levels) name.toList = pure name.toList :=
    expandText_printedLiteral_end _ (printedLiteral_self plain.unopened)
  have question : Gives ((liftM (ask (String.ofList name.toList)) : Expanding m _).run left)
      (.ok (some found, left)) := by
    rw [String.ofList_toList]
    exact answer.bind (.of_outcome _)
  have text : Gives ((expandText (resolve ask levels) found.value.toList).run left)
      (.error error) := by
    rw [value]
    exact gives_expandText_of_error unopened leads nextPlain.balanced fails behind
  rw [resolve, plain.splitDefault_eq, StateT.run_bind]
  refine step.bind ?_
  dsimp only
  rw [key, pure_bind, StateT.run_bind]
  exact question.bind text

/-! ## Part 2 — around the circle -/

/-- The place in a circle that is so many references away. -/
def placeAfter {length : Nat} (start : Fin length) (references : Nat) : Fin length :=
  ⟨(start.val + references) % length, Nat.mod_lt _ start.pos⟩

/-- Names of which each one's value refers to the next one, and that of the last one to the first. -/
structure Circle (ask : String → Outcome m) {length : Nat} (names : Fin length → String) : Prop where
  plain : ∀ place, IsPlainKey (names place)
  refers : ∀ place, Refers ask (names place) (names (placeAfter place 1))

variable {length : Nat} {names : Fin length → String}

theorem placeAfter_zero (start : Fin length) : placeAfter start 0 = start := by
  apply Fin.ext
  exact Nat.mod_eq_of_lt start.isLt

theorem placeAfter_next (start : Fin length) (references : Nat) :
    placeAfter (placeAfter start 1) references = placeAfter start (references + 1) := by
  apply Fin.ext
  show ((start.val + 1) % length + references) % length = (start.val + (references + 1)) % length
  rw [Nat.mod_add_mod, Nat.add_right_comm, Nat.add_assoc]

/-- **The walk around a circle goes on until the levels or the steps are used up.** -/
theorem gives_resolve_of_circle (circle : Circle ask names) (levels left : Nat)
    (start : Fin length) :
    Gives ((resolve ask levels (names start).toList).run left)
      (.error (.tooDeep (names (placeAfter start (min levels left))))) := by
  induction levels generalizing left start with
  | zero =>
    rw [Nat.zero_min, placeAfter_zero]
    have fails := gives_resolve_zero ask left (names start).toList
    rwa [String.ofList_toList] at fails
  | succ levels hypothesis =>
    cases left with
    | zero =>
      rw [Nat.min_zero, placeAfter_zero]
      have fails := gives_resolve_without_steps ask (levels + 1) (names start).toList
      rwa [String.ofList_toList] at fails
    | succ left =>
      rw [Nat.add_min_add_right, ← placeAfter_next]
      exact gives_resolve_of_refers (circle.plain start) (circle.plain (placeAfter start 1))
        (circle.refers start) (hypothesis left (placeAfter start 1))

/-! ## Part 3 — the stage -/

/-- **A circle of references always reaches a limit.** Under any limits, of any length, and whatever
stands around its references, the stage fails with one of its names: the one that so many references
away the smaller limit no longer allows for. -/
theorem gives_intercept_of_circle (limits : Limits) (context : Context m)
    (active : context.scope.isSuspended = false) (circle : Circle context.proceed names)
    (start : Fin length) :
    Gives (limits.stage.intercept context (names start))
      (.error ⟨names (placeAfter start (min limits.depth limits.steps + 1)), true⟩) := by
  obtain ⟨found, before, behind, answer, unopened, leads, value⟩ := circle.refers start
  have follows := gives_resolve_of_circle circle limits.depth limits.steps (placeAfter start 1)
  rw [placeAfter_next] at follows
  have balanced := (circle.plain (placeAfter start 1)).balanced
  have text := gives_expandText_of_error unopened leads balanced follows behind
  refine answer.bind ?_
  dsimp only
  rw [active, value, hasOpening_append_enclosed, if_neg (by decide), expandValue, value]
  exact text.bind_error.bind_error

/-- Three names in a circle. -/
def sampleCircle : Fin 3 → String
  | 0 => "a"
  | 1 => "b"
  | 2 => "c"

/-- A chain that counts its questions. Besides the circle there are references behind it, one of them
to a name without a value. -/
def circleContext : Context (StateM Nat) where
  next := 1
  scope := .outermost
  proceed name := do
    modify (· + 1)
    return match name with
      | "a" => some ⟨"a", "http:\x7b${b}:${missing}", "base", 100⟩
      | "b" => some ⟨"b", "${c}\x7d", "base", 100⟩
      | "c" => some ⟨"c", "$ ${a}$\x7bb", "base", 100⟩
      | _ => none

theorem circle_circleContext : Circle circleContext.proceed sampleCircle where
  plain place := match place with
    | 0 | 1 | 2 => ⟨by decide +kernel, by decide +kernel, by decide +kernel⟩
  refers place := match place with
    | 0 => ⟨⟨"a", "http:\x7b${b}:${missing}", "base", 100⟩, "http:\x7b".toList, ":${missing}".toList,
      ⟨modify (· + 1), rfl⟩, by decide +kernel, by decide +kernel, by decide +kernel⟩
    | 1 => ⟨⟨"b", "${c}\x7d", "base", 100⟩, [], ['}'],
      ⟨modify (· + 1), rfl⟩, by decide +kernel, by decide +kernel, by decide +kernel⟩
    | 2 => ⟨⟨"c", "$ ${a}$\x7bb", "base", 100⟩, "$ ".toList, "$\x7bb".toList,
      ⟨modify (· + 1), rfl⟩, by decide +kernel, by decide +kernel, by decide +kernel⟩

/-- The standard limits allow for thirty-two levels, which is ten times around the circle and then two
references; the one behind these is not followed. -/
theorem gives_intercept_of_circle_sample :
    circleContext.scope.isSuspended = false ∧ Circle circleContext.proceed sampleCircle
    ∧ Gives (Limits.standard.stage.intercept circleContext "a") (.error ⟨"a", true⟩)
    ∧ Gives ((Limits.stage ⟨0, 0⟩).intercept circleContext "a") (.error ⟨"b", true⟩) :=
  ⟨rfl, circle_circleContext,
    gives_intercept_of_circle .standard circleContext rfl circle_circleContext 0,
    gives_intercept_of_circle ⟨0, 0⟩ circleContext rfl circle_circleContext 0⟩

end LayeredConfig.Expression
