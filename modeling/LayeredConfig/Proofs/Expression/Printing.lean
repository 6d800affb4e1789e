/-
**Templates and how they are written.**

A template is what a text with references stands for: literals and references in turn, where the key
and the default of a reference are templates again (`Template`). Its printed forms escape the
openings outside all references (`Template.Printed`). What a literal may hold depends on where it
stands, and each literal carries the reasons why it may stand there.

The three scanners agree on these forms:

* `Template.balanced_write`: the searches for a closing brace and for a colon go on behind a template
  inside a reference, so they end where the reference was printed to end (`closing_enclosed`,
  `splitDefault_write`);
* `expandText_printedLiteral` and `expandText_enclosed`: a text is read as what was printed.
-/

import LayeredConfig.Expression.Expansion

set_option linter.unusedSectionVars false

namespace LayeredConfig.Expression

open LayeredConfig.Lookup LayeredConfig.Resolve

/-! ## Part 1 — templates -/

/-- Where a template stands. -/
inductive Place where
  /-- Outside all references. -/
  | outside
  /-- Directly in the key of a reference. -/
  | key
  /-- Directly in the default of a reference. -/
  | default
deriving DecidableEq, Repr

/-- A text that stands for itself at a place. -/
structure Literal (place : Place) where
  text : List Char
  /-- Inside a reference nothing opens or closes one. -/
  closed : place ≠ .outside → hasOpening text = false ∧ '}' ∉ text
  /-- A key has no colon of its own. -/
  undivided : place = .key → ':' ∉ text

/-- A text may stand directly before a reference, as it does not end like an escape. -/
def Leads (text : List Char) : Prop := ∀ last ∈ text.getLast?, last ≠ '$' ∧ last ≠ '\\'

instance (text : List Char) : Decidable (Leads text) :=
  match found : text.getLast? with
  | none => .isTrue (by simp [Leads, found])
  | some last => decidable_of_iff (last ≠ '$' ∧ last ≠ '\\') (by simp [Leads, found])

/-- Literals and references in turn. Where no literal stands between two references, it is empty. -/
inductive Template : Place → Type where
  | literal {place : Place} (alone : Literal place) : Template place
  | reference {place : Place} (before : Literal place) (leads : Leads before.text)
      (key : Template .key) (rest : Template place) : Template place
  | withDefault {place : Place} (before : Literal place) (leads : Leads before.text)
      (key : Template .key) (default : Template .default) (rest : Template place) : Template place

namespace Template

/-- How deep references stand in each other. -/
def nesting {place : Place} : Template place → Nat
  | .literal _ => 0
  | .reference _ _ key rest => max (key.nesting + 1) rest.nesting
  | .withDefault _ _ key default rest => max (max key.nesting default.nesting + 1) rest.nesting

/-- The number of references. -/
def references {place : Place} : Template place → Nat
  | .literal _ => 0
  | .reference _ _ key rest => key.references + 1 + rest.references
  | .withDefault _ _ key default rest =>
    key.references + default.references + 1 + rest.references

end Template

/-! ## Part 2 — printing -/

/-- A reference and what follows it. -/
def enclosed (inner behind : List Char) : List Char := '$' :: '{' :: (inner ++ '}' :: behind)

/-- Whether a text begins with an opening. -/
def opens : List Char → Bool
  | '$' :: '{' :: _ => true
  | _ => false

/-- A text with each of its openings escaped in one of the two ways. -/
inductive PrintedLiteral : List Char → List Char → Prop
  | nil : PrintedLiteral [] []
  | opening {text printed : List Char} (escape : Char) (escapes : escape = '$' ∨ escape = '\\')
      (rest : PrintedLiteral text printed) :
      PrintedLiteral ('$' :: '{' :: text) (escape :: '$' :: '{' :: printed)
  | character {text printed : List Char} (character : Char)
      (plain : opens (character :: text) = false) (rest : PrintedLiteral text printed) :
      PrintedLiteral (character :: text) (character :: printed)

namespace Template

/-- The text of a template inside a reference, where nothing needs an escape. -/
def write {place : Place} : Template place → List Char
  | .literal alone => alone.text
  | .reference before _ key rest => before.text ++ enclosed key.write rest.write
  | .withDefault before _ key default rest =>
    before.text ++ enclosed (key.write ++ ':' :: default.write) rest.write

/-- The printed forms of a template. -/
inductive Printed : {place : Place} → Template place → List Char → Prop
  | literal {place : Place} {alone : Literal place} {text : List Char}
      (printed : PrintedLiteral alone.text text) : Printed (.literal alone) text
  | reference {place : Place} {before : Literal place} {leads : Leads before.text}
      {key : Template .key} {rest : Template place} {text behind : List Char}
      (first : PrintedLiteral before.text text) (last : Printed rest behind) :
      Printed (.reference before leads key rest) (text ++ enclosed key.write behind)
  | withDefault {place : Place} {before : Literal place} {leads : Leads before.text}
      {key : Template .key} {default : Template .default} {rest : Template place}
      {text behind : List Char}
      (first : PrintedLiteral before.text text) (last : Printed rest behind) :
      Printed (.withDefault before leads key default rest)
        (text ++ enclosed (key.write ++ ':' :: default.write) behind)

end Template

theorem opens_eq_false_iff {character : Char} {rest : List Char} :
    opens (character :: rest) = false ↔ ∀ tail, character = '$' → rest = '{' :: tail → False := by
  refine ⟨fun plain tail => ?_, fun plain => ?_⟩
  · rintro rfl rfl
    cases plain
  · unfold opens
    split
    next matched =>
      cases matched
      exact (plain _ rfl rfl).elim
    next => rfl

/-- An opening is at the beginning or later. -/
theorem hasOpening_cons (character : Char) (rest : List Char) :
    hasOpening (character :: rest) = (opens (character :: rest) || hasOpening rest) := by
  cases opening : opens (character :: rest) with
  | true =>
    unfold opens at opening
    split at opening
    next matched =>
      rw [matched]
      rfl
    next => cases opening
  | false => rw [hasOpening.eq_3 _ _ (opens_eq_false_iff.mp opening), Bool.false_or]

theorem opens_iff (text : List Char) : opens text = true ↔ ['$', '{'] <+: text := by
  unfold opens
  split
  next rest => exact iff_of_true rfl ⟨rest, rfl⟩
  next other =>
    refine iff_of_false Bool.false_ne_true ?_
    rintro ⟨rest, rfl⟩
    exact other rest rfl

theorem hasOpening_iff (text : List Char) : hasOpening text = true ↔ ['$', '{'] <:+: text := by
  induction text with
  | nil => simp [hasOpening]
  | cons character rest hypothesis =>
    rw [hasOpening_cons, Bool.or_eq_true, opens_iff, hypothesis, List.infix_cons_iff]

theorem hasOpening_append_enclosed (text inner behind : List Char) :
    hasOpening (text ++ enclosed inner behind) = true := by
  induction text with
  | nil => rfl
  | cons character rest hypothesis =>
    rw [List.cons_append, hasOpening_cons, hypothesis, Bool.or_true]

/-- A text that is printed without an opening is this text. -/
theorem PrintedLiteral.eq_of_plain {text printed : List Char} (literal : PrintedLiteral text printed)
    (plain : hasOpening printed = false) : text = printed := by
  induction literal with
  | nil => rfl
  | @opening text printed escape escapes rest _ =>
    have opening : hasOpening (escape :: '$' :: '{' :: printed) = true := by
      rw [hasOpening_cons]
      exact Bool.or_true _
    rw [opening] at plain
    cases plain
  | character character _ rest hypothesis =>
    rw [hasOpening_cons, Bool.or_eq_false_iff] at plain
    rw [hypothesis plain.2]

/-- A text without openings is printed as it is. -/
theorem printedLiteral_self {text : List Char} (plain : hasOpening text = false) :
    PrintedLiteral text text := by
  induction text with
  | nil => exact .nil
  | cons character rest hypothesis =>
    rw [hasOpening_cons, Bool.or_eq_false_iff] at plain
    exact .character character plain.1 (hypothesis plain.2)

/-- What is written inside a reference is a printed form. -/
theorem Template.printed_write {place : Place} (inside : place ≠ .outside)
    (template : Template place) : template.Printed template.write := by
  induction template with
  | literal alone => exact .literal (printedLiteral_self (alone.closed inside).1)
  | reference before leads key rest _ hypothesis =>
    exact .reference (printedLiteral_self (before.closed inside).1) (hypothesis inside)
  | withDefault before leads key default rest _ _ hypothesis =>
    exact .withDefault (printedLiteral_self (before.closed inside).1) (hypothesis inside)

/-! ## Part 3 — searches inside a reference -/

/-- More text in front of the first part of what a search found. -/
def prepend {Found : Type} (text : List Char) (found : List Char × Found) : List Char × Found :=
  (text ++ found.1, found.2)

theorem prepend_prepend {Found : Type} (first second : List Char) :
    (prepend first ∘ prepend second : List Char × Found → _) = prepend (first ++ second) := by
  funext found
  exact congrArg (·, found.2) (List.append_assoc ..).symm

theorem head?_ne_brace {character : Char} (different : character ≠ '{') (rest : List Char) :
    (character :: rest).head? ≠ some '{' :=
  fun same => different (Option.some.inj same)

/-- Searches go on behind the text: those for a closing brace, and those for a colon unless they are
outside of all references and the text is divided. -/
structure Balanced (undivided : Prop) (text : List Char) : Prop where
  closing_append : ∀ nesting tail, tail.head? ≠ some '{' →
    closing nesting (text ++ tail) = (closing nesting tail).map (prepend text)
  splitDefault_append : ∀ nesting tail, (nesting = 0 → undivided) → tail.head? ≠ some '{' →
    splitDefault nesting (text ++ tail) = prepend text (splitDefault nesting tail)

namespace Balanced

variable {undivided other : Prop} {text first second : List Char}

theorem nil : Balanced undivided [] where
  closing_append _ _ _ := Option.map_id'.symm
  splitDefault_append _ _ _ _ := rfl

theorem character {character : Char} {rest : List Char} (balanced : Balanced undivided rest)
    (plain : opens (character :: rest) = false) (unclosed : character ≠ '}')
    (whole : undivided → character ≠ ':') : Balanced undivided (character :: rest) := by
  have apart : ∀ tail, tail.head? ≠ some '{' →
      ∀ behind, character = '$' → rest ++ tail = '{' :: behind → False := by
    intro tail head behind dollar brace
    cases rest with
    | nil =>
      rw [show tail = '{' :: behind from brace] at head
      exact head rfl
    | cons next rest =>
      rw [List.cons_append, List.cons.injEq] at brace
      exact opens_eq_false_iff.mp plain rest dollar (by rw [brace.1])
  refine ⟨fun nesting tail head => ?_, fun nesting tail level head => ?_⟩
  · rw [List.cons_append, closing.eq_5 _ _ _ (apart tail head) (fun _ => unclosed)
      (fun _ _ => unclosed), balanced.closing_append nesting tail head, Option.map_map]
    rfl
  · rw [List.cons_append, splitDefault.eq_5 _ _ _ (apart tail head) unclosed
      (fun outermost => whole (level outermost)), balanced.splitDefault_append nesting tail level head]
    rfl

/-- A literal that may stand inside of a reference. -/
theorem of_plain {text : List Char} (plain : hasOpening text = false) (unclosed : '}' ∉ text)
    (whole : undivided → ':' ∉ text) : Balanced undivided text := by
  induction text with
  | nil => exact nil
  | cons first rest hypothesis =>
    rw [hasOpening_cons, Bool.or_eq_false_iff] at plain
    rw [List.mem_cons, not_or] at unclosed
    have inner := hypothesis plain.2 unclosed.2 fun holds member =>
      whole holds (List.mem_cons_of_mem _ member)
    refine inner.character plain.1 (Ne.symm unclosed.1) fun holds colon => ?_
    exact whole holds (colon ▸ List.mem_cons_self)

/-- Less is asked of a text that may be divided. -/
theorem divided (balanced : Balanced undivided text) : Balanced False text :=
  ⟨balanced.closing_append, fun nesting tail level =>
    balanced.splitDefault_append nesting tail fun outermost => (level outermost).elim⟩

theorem append (start : Balanced undivided first) (behind : Balanced undivided second)
    (apart : second.head? ≠ some '{') : Balanced undivided (first ++ second) := by
  have head : ∀ tail : List Char, tail.head? ≠ some '{' → (second ++ tail).head? ≠ some '{' := by
    intro tail free
    cases second with
    | nil => exact free
    | cons character rest => exact apart
  refine ⟨fun nesting tail free => ?_, fun nesting tail level free => ?_⟩
  · rw [List.append_assoc, start.closing_append nesting _ (head tail free),
      behind.closing_append nesting tail free, Option.map_map, prepend_prepend]
  · rw [List.append_assoc, start.splitDefault_append nesting _ level (head tail free),
      behind.splitDefault_append nesting tail level free, ← prepend_prepend]
    rfl

/-- Inside of a reference, searches go on behind a colon. -/
theorem colon (key : Balanced undivided first) (default : Balanced other second) :
    Balanced False (first ++ ':' :: second) := by
  have plain : opens (':' :: second) = false := rfl
  exact key.divided.append (default.divided.character plain (by decide) False.elim)
    (head?_ne_brace (by decide) _)

/-- Searches go on behind a reference. -/
theorem enclosed (inner : Balanced other first) (behind : Balanced undivided second) :
    Balanced undivided (enclosed first second) := by
  have brace := head?_ne_brace (show '}' ≠ '{' by decide)
  have shape : ∀ tail, Expression.enclosed first second ++ tail
      = '$' :: '{' :: (first ++ '}' :: (second ++ tail)) := fun tail => by
    simp [Expression.enclosed]
  refine ⟨fun nesting tail free => ?_, fun nesting tail level free => ?_⟩
  · rw [shape, closing.eq_2, inner.closing_append (nesting + 1) _ (brace _), closing.eq_4,
      behind.closing_append nesting tail free]
    simp only [Option.map_map]
    refine congrArg (Option.map · _) ?_
    funext found
    simp [prepend, Expression.enclosed]
  · rw [shape, splitDefault.eq_2, inner.splitDefault_append (nesting + 1) _ nofun (brace _),
      splitDefault.eq_3, Nat.add_sub_cancel, behind.splitDefault_append nesting tail level free]
    simp [prepend, Expression.enclosed]

end Balanced

/-- **Searches inside of a reference go on behind a template**, and those for the colon of the
reference behind its key. -/
theorem Template.balanced_write {place : Place} (inside : place ≠ .outside)
    (template : Template place) : Balanced (place = .key) template.write := by
  have plain : ∀ {place : Place}, place ≠ .outside → ∀ literal : Literal place,
      Balanced (place = .key) literal.text := fun inside literal =>
    .of_plain (literal.closed inside).1 (literal.closed inside).2 literal.undivided
  have dollar := head?_ne_brace (show '$' ≠ '{' by decide)
  induction template with
  | literal alone => exact plain inside alone
  | reference before leads key rest key_hypothesis rest_hypothesis =>
    have inner := key_hypothesis (by decide)
    exact (plain inside before).append (inner.enclosed (rest_hypothesis inside)) (dollar _)
  | withDefault before leads key default rest key_hypothesis default_hypothesis rest_hypothesis =>
    have inner := (key_hypothesis (by decide)).colon (default_hypothesis (by decide))
    exact (plain inside before).append (inner.enclosed (rest_hypothesis inside)) (dollar _)

/-- The closing brace of a reference is where it was printed. -/
theorem closing_enclosed {undivided : Prop} {inner : List Char} (balanced : Balanced undivided inner)
    (behind : List Char) : closing 0 (inner ++ '}' :: behind) = some (inner, behind) := by
  rw [balanced.closing_append 0 _ (head?_ne_brace (by decide) _), closing.eq_3]
  exact congrArg (fun text => some (text, behind)) (List.append_nil inner)

/-- A reference without a default is all key. -/
theorem splitDefault_write (key : Template .key) : splitDefault 0 key.write = (key.write, none) := by
  have searched := (key.balanced_write (by decide)).splitDefault_append 0 [] (fun _ => rfl) nofun
  rw [List.append_nil] at searched
  rw [searched, splitDefault.eq_1, prepend, List.append_nil]

/-- The colon of a reference is where it was printed. -/
theorem splitDefault_write_colon (key : Template .key) (default : List Char) :
    splitDefault 0 (key.write ++ ':' :: default) = (key.write, some default) := by
  rw [(key.balanced_write (by decide)).splitDefault_append 0 _ (fun _ => rfl)
    (head?_ne_brace (by decide) _), splitDefault.eq_4, prepend, List.append_nil]

/-! ## Part 4 — whole texts -/

variable {m : Type → Type} [Monad m] [LawfulMonad m]
variable (follow : List Char → Expanding m (List Char))

theorem expandText_enclosed {undivided : Prop} {inner : List Char}
    (balanced : Balanced undivided inner) (behind : List Char) :
    expandText follow (enclosed inner behind) = do
      let value ← follow inner
      return value ++ (← expandText follow behind) := by
  have pieces : scan (enclosed inner behind) = .reference inner :: scan behind := by
    rw [enclosed, scan.eq_4]
    split
    next found behind' same =>
      rw [closing_enclosed balanced behind] at same
      cases same
      rfl
    next same =>
      rw [closing_enclosed balanced behind] at same
      cases same
  rw [expandText, pieces]
  rfl

theorem expandText_escape {escape : Char} (escapes : escape = '$' ∨ escape = '\\')
    (rest : List Char) :
    expandText follow (escape :: '$' :: '{' :: rest) = do
      return '$' :: '{' :: (← expandText follow rest) := by
  have pieces : scan (escape :: '$' :: '{' :: rest) = .literal ['$', '{'] :: scan rest := by
    rcases escapes with rfl | rfl
    · exact scan.eq_2 rest
    · exact scan.eq_3 rest
  rw [expandText, pieces]
  rfl

theorem expandText_character {character : Char} {rest : List Char}
    (plain : opens (character :: rest) = false)
    (unescaped : opens rest = true → character ≠ '$' ∧ character ≠ '\\') :
    expandText follow (character :: rest) = do
      return character :: (← expandText follow rest) := by
  have pieces : scan (character :: rest) = .literal [character] :: scan rest := by
    refine scan.eq_5 _ _ (fun tail dollar opening => ?_) (fun tail backslash opening => ?_)
      (opens_eq_false_iff.mp plain)
    · exact (unescaped (by rw [opening]; rfl)).1 dollar
    · exact (unescaped (by rw [opening]; rfl)).2 backslash
  rw [expandText, pieces]
  rfl

namespace PrintedLiteral

variable {text printed : List Char}

/-- Printing makes no opening, also together with what follows. -/
theorem opens_append (literal : PrintedLiteral text printed) {character : Char} {tail : List Char}
    (plain : opens (character :: text) = false) (apart : tail.head? ≠ some '{') :
    opens (character :: (printed ++ tail)) = false := by
  refine opens_eq_false_iff.mpr ?_
  rintro behind rfl brace
  cases literal with
  | nil =>
    rw [show tail = '{' :: behind from brace] at apart
    exact apart rfl
  | opening escape escapes rest =>
    rcases escapes with rfl | rfl <;> cases brace
  | character character _ rest =>
    cases brace
    exact opens_eq_false_iff.mp plain _ rfl rfl

end PrintedLiteral

theorem Leads.tail {character : Char} {text : List Char} (leads : Leads (character :: text)) :
    Leads text := by
  cases text with
  | nil => exact nofun
  | cons next rest =>
    intro last member
    exact leads last (by rwa [List.getLast?_cons_cons])

/-- What follows a literal: nothing, or a reference before which it may stand. -/
def Precedes (text tail : List Char) : Prop :=
  tail = [] ∨ (∃ behind, tail = '$' :: '{' :: behind) ∧ Leads text

theorem Leads.precedes {text inner behind : List Char} (leads : Leads text) :
    Precedes text (enclosed inner behind) :=
  .inr ⟨⟨_, rfl⟩, leads⟩

namespace Precedes

variable {character : Char} {text tail : List Char}

theorem rest (precedes : Precedes (character :: text) tail) : Precedes text tail :=
  precedes.imp_right fun both => ⟨both.1, both.2.tail⟩

theorem apart (precedes : Precedes text tail) : tail.head? ≠ some '{' := by
  rcases precedes with rfl | ⟨⟨behind, rfl⟩, -⟩
  · exact nofun
  · exact head?_ne_brace (by decide) _

/-- No character of a printed literal escapes an opening behind it. -/
theorem unescaped {printed : List Char} (precedes : Precedes (character :: text) tail)
    (literal : PrintedLiteral text printed) (opening : opens (printed ++ tail) = true) :
    character ≠ '$' ∧ character ≠ '\\' := by
  cases literal with
  | nil =>
    rcases precedes with rfl | ⟨-, leads⟩
    · cases opening
    · exact leads character rfl
  | opening escape escapes rest =>
    rcases escapes with rfl | rfl <;> cases opening
  | character next plain rest =>
    rw [List.cons_append, rest.opens_append plain precedes.apart] at opening
    cases opening

end Precedes

/-- **A printed literal is read as its text**, at the end of a text or before a reference. -/
theorem expandText_printedLiteral {text printed tail : List Char}
    (literal : PrintedLiteral text printed) (precedes : Precedes text tail) :
    expandText follow (printed ++ tail) = do return text ++ (← expandText follow tail) := by
  induction literal with
  | nil => simp
  | opening escape escapes rest hypothesis =>
    rw [List.cons_append, List.cons_append, List.cons_append, expandText_escape follow escapes,
      hypothesis precedes.rest.rest]
    simp
  | character character plain rest hypothesis =>
    rw [List.cons_append, expandText_character follow (rest.opens_append plain precedes.apart)
      (precedes.unescaped rest), hypothesis precedes.rest]
    simp

theorem expandText_printedLiteral_end {text printed : List Char}
    (literal : PrintedLiteral text printed) : expandText follow printed = pure text := by
  have read := expandText_printedLiteral follow literal (.inl rfl)
  have nothing : expandText follow [] = pure [] := by
    rw [expandText, scan.eq_1]
    rfl
  rw [List.append_nil, nothing, pure_bind, List.append_nil] at read
  exact read

end LayeredConfig.Expression
