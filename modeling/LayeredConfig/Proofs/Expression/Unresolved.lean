/-
**A reference that is reported as unresolved is absent.**

The stage that replaces references stands in front of a chain that never fails (`NeverFails`) and may
remember what it was asked, so what is absent is absent at a moment that earlier questions led to
(`Missed`). An expansion over such a chain is cut off by a limit or fails at a name that was missed
(`Ends`), however deep in keys, values and defaults that name came up:

* `Blames.bind`, `Blames.question`, `Blames.step`: the parts of an expansion;
* `blames_resolve`: a reference, by induction on the levels;
* `expandValue_of_plain`: a value without references is its own expansion;
* `faithful_answer`: the stage is absent where the chain is, its values are those of the chain with
  another text, and what it reports as unresolved was missed.
-/

import LayeredConfig.Proofs.Expression.Cost
import LayeredConfig.Proofs.Expression.Printing

namespace LayeredConfig.Expression

open LayeredConfig.Lookup LayeredConfig.Resolve LayeredConfig.Source

variable {Memory Value Next : Type} {ask : String → Outcome (StateM Memory)}
variable {memory after : Memory}

/-! ## Part 1 — chains that never fail -/

/-- Every question to a chain is answered, whatever it remembers. -/
def NeverFails (ask : String → Outcome (StateM Memory)) : Prop :=
  ∀ name memory, ∃ found, ((ask name).run.run memory).1 = .ok found

/-- Answers that depend on nothing but the name. -/
def Steady (ask : String → Outcome (StateM Memory)) (find : String → Option ConfigValue) : Prop :=
  ∀ name memory, ((ask name).run.run memory).1 = .ok (find name)

theorem Steady.neverFails {find : String → Option ConfigValue} (steady : Steady ask find) :
    NeverFails ask :=
  fun name memory => ⟨find name, steady name memory⟩

/-- The memory that questions to a chain leave, one after the other. -/
inductive Reaches (ask : String → Outcome (StateM Memory)) (memory : Memory) : Memory → Prop
  | now : Reaches ask memory memory
  | later {earlier : Memory} (reached : Reaches ask memory earlier) (name : String) :
      Reaches ask memory ((ask name).run.run earlier).2

theorem Reaches.trans {last : Memory} (first : Reaches ask memory after)
    (second : Reaches ask after last) : Reaches ask memory last := by
  induction second with
  | now => exact first
  | later _ name hypothesis => exact hypothesis.later name

/-- A chain had nothing for a name when it was asked after some other questions. -/
def Missed (ask : String → Outcome (StateM Memory)) (memory : Memory) (name : String) : Prop :=
  ∃ earlier, Reaches ask memory earlier ∧ ((ask name).run.run earlier).1 = .ok none

theorem Missed.before {name : String} (reached : Reaches ask memory after)
    (missed : Missed ask after name) : Missed ask memory name := by
  obtain ⟨earlier, later, absent⟩ := missed
  exact ⟨earlier, reached.trans later, absent⟩

/-- What a steady chain has missed, it does not have. -/
theorem Missed.absent {find : String → Option ConfigValue} {name : String}
    (steady : Steady ask find) (missed : Missed ask memory name) : find name = none := by
  obtain ⟨earlier, -, absent⟩ := missed
  exact Except.ok.inj ((steady name earlier).symm.trans absent)

/-! ## Part 2 — how an expansion ends -/

/-- An outcome that questions led to: a value, a limit, or a name for which there was nothing. -/
inductive Ends (ask : String → Outcome (StateM Memory)) (memory : Memory) :
    Except ExpansionError Value × Memory → Prop
  | value {value : Value} {after : Memory} (reached : Reaches ask memory after) :
      Ends ask memory (.ok value, after)
  | limit {reference : String} {after : Memory} :
      Ends ask memory (.error (.tooDeep reference), after)
  | absent {reference : String} {after : Memory} (missed : Missed ask memory reference) :
      Ends ask memory (.error (.unresolved reference), after)

/-- What begins after some questions ends after these and its own. -/
theorem Ends.before {ended : Except ExpansionError Value × Memory}
    (reached : Reaches ask memory after) (ends : Ends ask after ended) : Ends ask memory ended := by
  cases ends with
  | value later => exact .value (reached.trans later)
  | limit => exact .limit
  | absent missed => exact .absent (missed.before reached)

/-- From wherever it begins, an expansion ends with a value, at a limit or at an absent name. -/
def Blames (ask : String → Outcome (StateM Memory)) (expansion : Expanding (StateM Memory) Value) :
    Prop :=
  ∀ left memory, Ends ask memory (outcomeFrom expansion left memory)

namespace Blames

theorem pure (value : Value) : Blames ask (Pure.pure value : Expanding (StateM Memory) Value) :=
  fun _ _ => .value .now

theorem tooDeep (reference : String) :
    Blames ask (throw (.tooDeep reference) : Expanding (StateM Memory) Value) :=
  fun _ _ => .limit

theorem bind {expansion : Expanding (StateM Memory) Value}
    {next : Value → Expanding (StateM Memory) Next} (first : Blames ask expansion)
    (second : ∀ value, Blames ask (next value)) : Blames ask (expansion >>= next) := by
  intro left memory
  rw [outcomeFrom_bind]
  have here := first left memory
  generalize outcomeFrom expansion left memory = ended at here ⊢
  cases here with
  | @value pair after reached => exact (second pair.1 pair.2 after).before reached
  | limit => exact .limit
  | absent missed => exact .absent missed

theorem step (inner : List Char) : Blames ask (takeStep inner : Expanding (StateM Memory) Unit) := by
  intro left memory
  cases left with
  | zero => exact .limit
  | succ left => exact .value .now

/-- A question does not fail. What follows it may fail at its name if there is nothing for that. -/
theorem question {name : String} (answered : NeverFails ask)
    {next : Option ConfigValue → Expanding (StateM Memory) Next}
    (present : ∀ found, Blames ask (next (some found)))
    (absent : ∀ left memory after, Reaches ask memory after → Missed ask memory name →
      Ends ask memory (outcomeFrom (next none) left after)) :
    Blames ask ((liftM (ask name) : Expanding (StateM Memory) _) >>= next) := by
  intro left memory
  rw [outcomeFrom_bind, outcomeFrom_ask]
  obtain ⟨found, given⟩ := answered name memory
  have reached : Reaches ask memory ((ask name).run.run memory).2 := .later .now name
  have missed : found = none → Missed ask memory name := by
    rintro rfl
    exact ⟨memory, .now, given⟩
  generalize (ask name).run.run memory = ended at given reached ⊢
  obtain ⟨outcome, after⟩ := ended
  subst given
  cases found with
  | none => exact absent left memory after reached (missed rfl)
  | some found => exact (present found left after).before reached

end Blames

theorem blames_expandPieces {follow : List Char → Expanding (StateM Memory) (List Char)}
    (blames : ∀ inner, Blames ask (follow inner)) (pieces : List Piece) :
    Blames ask (expandPieces follow pieces) := by
  induction pieces with
  | nil => exact .pure []
  | cons piece rest hypothesis =>
    cases piece with
    | literal text => exact .bind hypothesis fun expanded => .pure _
    | reference inner =>
      exact .bind (blames inner) fun value => .bind hypothesis fun expanded => .pure _

/-- **A reference fails at a limit or at an absent name**, its own key or one that came up on the way:
by induction on the levels, part by part of a reference. -/
theorem blames_resolve (answered : NeverFails ask) (levels : Nat) (inner : List Char) :
    Blames ask (resolve ask levels inner) := by
  induction levels generalizing inner with
  | zero => exact .tooDeep _
  | succ levels hypothesis =>
    have text : ∀ text, Blames ask (expandText (resolve ask levels) text) := fun text =>
      blames_expandPieces hypothesis (scan text)
    refine .bind (.step inner) fun _ => ?_
    refine .bind (text _) fun key => ?_
    refine .question answered (fun found => text found.value.toList) ?_
    intro left memory after reached missed
    dsimp only
    cases (splitDefault 0 inner).2 with
    | some default => exact (text default left after).before reached
    | none => exact .absent missed

/-! ## Part 3 — values -/

/-- A value without references is its own expansion. -/
theorem expandValue_of_plain {m : Type → Type} [Monad m] [LawfulMonad m] (limits : Limits)
    (ask : String → Outcome m) {found : ConfigValue} (plain : hasOpening found.value.toList = false) :
    expandValue limits ask found = pure found := by
  have read := expandText_printedLiteral_end (resolve ask limits.depth) (printedLiteral_self plain)
  rw [expandValue, read, StateT.run_pure, pure_bind]
  dsimp only
  rw [String.ofList_toList]
  rfl

theorem ends_expandValue (answered : NeverFails ask) (limits : Limits) (found : ConfigValue)
    (memory : Memory) : Ends ask memory ((expandValue limits ask found).run.run memory) := by
  have ends := blames_expandPieces (blames_resolve answered limits.depth) (scan found.value.toList)
    limits.steps memory
  unfold outcomeFrom at ends
  unfold expandValue expandText
  rw [run_bind]
  generalize ((expandPieces (resolve ask limits.depth) (scan found.value.toList)).run
    limits.steps).run.run memory = ended at ends ⊢
  cases ends with
  | value reached => exact .value reached
  | limit => exact .limit
  | absent missed => exact .absent missed

/-- An expansion changes nothing but the text of a value. -/
theorem withValue_of_expandValue {limits : Limits} {found given : ConfigValue}
    (expanded : ((expandValue limits ask found).run.run memory).1 = .ok given) :
    ∃ text, given = found.withValue text := by
  unfold expandValue at expanded
  rw [run_bind] at expanded
  generalize ((expandText (resolve ask limits.depth) found.value.toList).run
    limits.steps).run.run memory = ended at expanded
  rcases ended with ⟨error | pair, after⟩
  · cases expanded
  · exact ⟨String.ofList pair.1, (Except.ok.inj expanded).symm⟩

/-! ## Part 4 — the stage -/

/-- What the stage makes of what its chain has for a name. -/
structure Faithful (ask : String → Outcome (StateM Memory)) (memory : Memory)
    (found : Option ConfigValue) (answer : Except ExpansionError (Option ConfigValue)) : Prop where
  /-- It is absent exactly if there is nothing. -/
  absent_iff : answer = .ok none ↔ found = none
  /-- A value has its origin, and its text if that holds no opening. -/
  origin : ∀ given, answer = .ok (some given) → ∃ original, found = some original
    ∧ given.name = original.name ∧ given.sourceName = original.sourceName
    ∧ given.sourceOrdinal = original.sourceOrdinal
    ∧ (hasOpening original.value.toList = false → given.value = original.value)
  /-- Unless a limit was reached, the chain had nothing for the reference that failed. -/
  unresolved : ∀ error, answer = .error error → error.depthExceeded = false →
    Missed ask memory error.reference

theorem faithful_self (found : Option ConfigValue) : Faithful ask memory found (.ok found) where
  absent_iff := by rw [Except.ok.injEq]
  origin given same := ⟨given, Except.ok.inj same, rfl, rfl, rfl, fun _ => rfl⟩
  unresolved _ := nofun

theorem faithful_finish (answered : NeverFails ask) (limits : Limits) (scope : Scope)
    (found : Option ConfigValue) (memory : Memory) :
    Faithful ask memory found ((limits.finish scope ask found).run.run memory).1 := by
  cases found with
  | none => exact faithful_self none
  | some found =>
    unfold Limits.finish
    dsimp only
    by_cases asFound : (scope.isSuspended || !hasOpening found.value.toList) = true
    · rw [if_pos asFound]
      exact faithful_self (some found)
    · have opening : hasOpening found.value.toList ≠ false := by
        intro plain
        rw [plain] at asFound
        exact asFound (Bool.or_true _)
      rw [if_neg asFound, run_bind]
      have ends := ends_expandValue answered limits found memory
      have same : ∀ given, ((expandValue limits ask found).run.run memory).1 = .ok given →
        ∃ text, given = found.withValue text := fun given => withValue_of_expandValue
      generalize (expandValue limits ask found).run.run memory = ended at ends same ⊢
      cases ends with
      | @value given after reached =>
        obtain ⟨text, rfl⟩ := same given rfl
        refine ⟨iff_of_false nofun nofun, fun other equal => ?_, fun _ => nofun⟩
        cases equal
        exact ⟨found, rfl, rfl, rfl, rfl, fun plain => (opening plain).elim⟩
      | limit =>
        refine ⟨iff_of_false nofun nofun, fun _ => nofun, fun error equal within => ?_⟩
        cases equal
        cases within
      | absent missed =>
        refine ⟨iff_of_false nofun nofun, fun _ => nofun, fun error equal within => ?_⟩
        cases equal
        exact missed

/-- **The stage is faithful to the rest of its chain**, from the question for the name on. -/
theorem faithful_answer (limits : Limits) (context : Context (StateM Memory))
    (answered : NeverFails context.proceed) (name : String) (memory : Memory) :
    ∃ found, ((context.proceed name).run.run memory).1 = .ok found
      ∧ Faithful context.proceed memory found (limits.answer context name memory).1 := by
  obtain ⟨found, given⟩ := answered name memory
  have reached : Reaches context.proceed memory ((context.proceed name).run.run memory).2 :=
    .later .now name
  refine ⟨found, given, ?_⟩
  show Faithful _ _ _
    ((context.proceed name >>= limits.finish context.scope context.proceed).run.run memory).1
  rw [run_bind]
  generalize (context.proceed name).run.run memory = ended at given reached ⊢
  obtain ⟨outcome, after⟩ := ended
  subst given
  have faithful := faithful_finish answered limits context.scope found after
  exact ⟨faithful.absent_iff, faithful.origin, fun error failed within =>
    (faithful.unresolved error failed within).before reached⟩

end LayeredConfig.Expression
