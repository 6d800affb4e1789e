/-
**Escaped openings inside of defaults.**

An escaped opening in a default counts like any other one when the closing brace of the reference is
looked for. So a default that has to be escaped keeps its reference open, and the text stays as it is;
a default that has no opening is what the reference comes to:

* `closing_eq_none`: one brace is needed for each opening and one for the reference;
* `closing_eq_none_of_opening`: a single brace does not close what stands around an opening;
* `gives_intercept_default`: what the stage makes of a default that is written with escapes.
-/

import LayeredConfig.Proofs.Expression.Cycles
import LayeredConfig.Proofs.Expression.Limits

namespace LayeredConfig.Expression

open LayeredConfig.Lookup LayeredConfig.Resolve LayeredConfig.Source

variable {text printed key behind : List Char}

/-! ## Part 1 — references that stay open -/

/-- Some references stay open if there are no more braces than inner ones. -/
theorem closing_eq_none {nesting : Nat} (few : text.count '}' ≤ nesting) :
    closing nesting text = none := by
  fun_induction closing nesting text with
  | case1 => rfl
  | case2 nesting rest hypothesis =>
    have rest_few : rest.count '}' ≤ nesting + 1 := by
      rw [List.count_cons_of_ne (by decide), List.count_cons_of_ne (by decide)] at few
      omega
    rw [hypothesis rest_few]
    rfl
  | case3 rest =>
    rw [List.count_cons_self] at few
    omega
  | case4 rest nesting hypothesis =>
    rw [List.count_cons_self] at few
    rw [hypothesis (by omega)]
    rfl
  | case5 nesting character rest _ outermost inner hypothesis =>
    have brace : character ≠ '}' := by
      cases nesting with
      | zero => exact outermost rfl
      | succ nesting => exact inner nesting rfl
    rw [List.count_cons_of_ne brace] at few
    rw [hypothesis few]
    rfl

/-- **One brace does not close the reference around an opening.** -/
theorem closing_eq_none_of_opening (opening : hasOpening text = true) (unclosed : '}' ∉ text)
    (few : behind.count '}' ≤ 1) : closing 0 (text ++ behind) = none := by
  fun_induction hasOpening text with
  | case1 => cases opening
  | case2 rest =>
    have free : '}' ∉ rest := fun member => unclosed (.tail _ (.tail _ member))
    have inner : (rest ++ behind).count '}' ≤ 1 := by
      rwa [List.count_append, List.count_eq_zero_of_not_mem free, Nat.zero_add]
    show closing 0 ('$' :: '{' :: (rest ++ behind)) = none
    rw [closing.eq_2, closing_eq_none inner]
    rfl
  | case3 character rest plain hypothesis =>
    rw [List.mem_cons, not_or] at unclosed
    have apart : ∀ tail, character = '$' → rest ++ behind = '{' :: tail → False := by
      intro tail dollar brace
      cases rest with
      | nil => cases opening
      | cons next rest =>
        cases brace
        exact plain rest dollar rfl
    rw [List.cons_append, closing.eq_5 _ _ _ apart (fun _ => Ne.symm unclosed.1)
      (fun _ _ => Ne.symm unclosed.1), hypothesis opening unclosed.2]
    rfl

theorem expandText_of_open {m : Type → Type} [Monad m] [LawfulMonad m]
    (follow : List Char → Expanding m (List Char)) {rest : List Char}
    (unended : closing 0 rest = none) :
    expandText follow ('$' :: '{' :: rest) = pure ('$' :: '{' :: rest) := by
  have pieces : scan ('$' :: '{' :: rest) = [.literal ('$' :: '{' :: rest)] := by
    rw [scan.eq_4]
    split
    next found behind same =>
      rw [unended] at same
      cases same
    next => rfl
  rw [expandText, pieces]
  simp [expandPieces]

/-! ## Part 2 — printed literals -/

namespace PrintedLiteral

theorem not_mem (literal : PrintedLiteral text printed) (unclosed : '}' ∉ text) : '}' ∉ printed := by
  induction literal with
  | nil => exact unclosed
  | opening escape escapes rest hypothesis =>
    simp only [List.mem_cons, not_or] at unclosed ⊢
    have plain : '}' ≠ escape := by rcases escapes with rfl | rfl <;> decide
    exact ⟨plain, unclosed.1, unclosed.2.1, hypothesis unclosed.2.2⟩
  | character character plain rest hypothesis =>
    rw [List.mem_cons, not_or] at unclosed ⊢
    exact ⟨unclosed.1, hypothesis unclosed.2⟩

/-- Escaping an opening leaves an opening. -/
theorem hasOpening_eq (literal : PrintedLiteral text printed) :
    hasOpening printed = hasOpening text := by
  induction literal with
  | nil => rfl
  | @opening text printed escape escapes rest _ =>
    rw [hasOpening_cons]
    exact Bool.or_true _
  | @character text printed character plain rest hypothesis =>
    have printed_plain := rest.opens_append plain (show [].head? ≠ some '{' from nofun)
    rw [List.append_nil] at printed_plain
    rw [hasOpening_cons, hasOpening_cons, plain, printed_plain, hypothesis]

theorem length_le (literal : PrintedLiteral text printed) : text.length ≤ printed.length := by
  induction literal with
  | nil => exact Nat.le_refl _
  | opening escape escapes rest hypothesis =>
    simp only [List.length_cons]
    omega
  | character character plain rest hypothesis => exact Nat.succ_le_succ hypothesis

end PrintedLiteral

/-! ## Part 3 — the stage -/

variable {m : Type → Type} [Monad m] [LawfulMonad m] {found : ConfigValue}

/-- A default with an opening leaves its reference open, and the value stays as it is. -/
theorem gives_intercept_open_default (limits : Limits) (context : Context m) (name : String)
    (present : Gives (context.proceed name) (.ok (some found)))
    (written : found.value.toList = enclosed (key ++ ':' :: printed) [])
    (opening : hasOpening printed = true) (unclosed : '}' ∉ key ++ ':' :: printed) :
    Gives (limits.stage.intercept context name) (.ok (some found)) := by
  have inner : hasOpening (key ++ ':' :: printed) = true := by
    rw [hasOpening_iff] at opening ⊢
    exact opening.trans ⟨key ++ [':'], [], by simp⟩
  have unended : closing 0 ((key ++ ':' :: printed) ++ ['}']) = none :=
    closing_eq_none_of_opening inner unclosed (Nat.le_refl 1)
  have kept : expandValue limits context.proceed found = pure found := by
    have read := expandText_of_open (resolve context.proceed limits.depth) unended
    rw [expandValue, written, enclosed, read, StateT.run_pure, pure_bind]
    dsimp only
    rw [← enclosed, ← written, String.ofList_toList]
    rfl
  refine present.bind ?_
  dsimp only
  split
  · exact .of_outcome _
  · rw [kept, pure_bind]
    exact .of_outcome _

theorem leads_nil : Leads [] := nofun

/-- Outside all references every text may stand. -/
def Literal.outside (text : List Char) : Literal .outside where
  text := text
  closed inside := absurd rfl inside
  undivided key := Place.noConfusion key

/-- The template of a reference with a default. -/
def defaultTemplate (key : Literal .key) (default : Literal .default) : Template .outside :=
  .withDefault (.outside []) leads_nil (.literal key) (.literal default) (.literal (.outside []))

/-- A default without openings is what the reference comes to. -/
theorem gives_intercept_plain_default {limits : Limits} {context : Context m} (name : String)
    (active : context.scope.isSuspended = false)
    (present : Gives (context.proceed name) (.ok (some found)))
    (key : Literal .key) (default : Literal .default)
    (written : found.value.toList = enclosed (key.text ++ ':' :: default.text) [])
    (absent : Gives (context.proceed (String.ofList key.text)) (.ok none))
    (deep : 1 ≤ limits.depth) (long : 1 ≤ limits.steps) :
    Gives (limits.stage.intercept context name)
      (.ok (some (found.withValue (String.ofList default.text)))) := by
  let texts : Texts := fun _ => .ok none
  have printed : (defaultTemplate key default).Printed found.value.toList := by
    rw [written]
    show (defaultTemplate key default).Printed ([] ++ enclosed (key.text ++ ':' :: default.text) [])
    refine .withDefault .nil ?_
    exact .literal .nil
  have keys : (defaultTemplate key default).keys texts = [String.ofList key.text] := rfl
  have answers : ∀ asked ∈ (defaultTemplate key default).keys texts,
      Answers context.proceed texts asked := by
    intro asked member
    rw [keys] at member
    rw [List.mem_singleton.mp member]
    exact absent
  have outcome : (defaultTemplate key default).substitute texts = .ok default.text :=
    congrArg Except.ok (List.append_nil default.text)
  have gives := gives_intercept_printed limits context name (defaultTemplate key default) texts active
    present printed answers deep long
  rw [outcome] at gives
  exact gives

/-- **A default that is written with escapes is what its reference comes to, unless it has an opening.**
With an opening the value stays as it is, and that is not the default. -/
theorem gives_intercept_default (limits : Limits) (context : Context m) (name : String)
    {key : String} (active : context.scope.isSuspended = false)
    (present : Gives (context.proceed name) (.ok (some found))) (plain : IsPlainKey key)
    (literal : PrintedLiteral text printed) (unclosed : '}' ∉ text)
    (written : found.value.toList = enclosed (key.toList ++ ':' :: printed) [])
    (absent : Gives (context.proceed key) (.ok none))
    (deep : 1 ≤ limits.depth) (long : 1 ≤ limits.steps) :
    Gives (limits.stage.intercept context name)
        (.ok (some (if hasOpening text then found else found.withValue (String.ofList text))))
      ∧ (hasOpening text = true → found.value.toList ≠ text) := by
  refine ⟨?_, fun _ same => ?_⟩
  · cases opening : hasOpening text with
    | true =>
      have free : '}' ∉ key.toList ++ ':' :: printed := by
        simp [plain.unclosed, literal.not_mem unclosed]
      exact gives_intercept_open_default limits context name present written
        (literal.hasOpening_eq.trans opening) free
    | false =>
      have same : text = printed := literal.eq_of_plain (literal.hasOpening_eq.trans opening)
      subst same
      exact gives_intercept_plain_default name active present
        ⟨key.toList, fun _ => ⟨plain.unopened, plain.unclosed⟩, fun _ => plain.undivided⟩
        ⟨text, fun _ => ⟨opening, unclosed⟩, nofun⟩ written
        (by rwa [String.ofList_toList]) deep long
  · have shorter := literal.length_le
    have longer := congrArg List.length (same.symm.trans written)
    simp only [enclosed, List.length_cons, List.length_append, List.length_nil] at longer
    omega

/-- A value with a default that needs no escape. -/
def priceValue : ConfigValue := ⟨"price", "${k:$5}", "base", 100⟩

/-- A value with a default that is written with an escape. -/
def hintValue : ConfigValue := ⟨"hint", "$\x7bk:$${x}", "base", 100⟩

/-- A chain that counts its questions and has these two values. -/
def defaultContext : Context (StateM Nat) where
  next := 1
  scope := .outermost
  proceed name := do
    modify (· + 1)
    return match name with
      | "price" => some priceValue
      | "hint" => some hintValue
      | _ => none

/-- One reference comes to its default, and the other one stays. -/
theorem gives_intercept_default_sample :
    defaultContext.scope.isSuspended = false ∧ IsPlainKey "k"
    ∧ Gives (defaultContext.proceed "price") (.ok (some priceValue))
    ∧ Gives (defaultContext.proceed "hint") (.ok (some hintValue))
    ∧ Gives (defaultContext.proceed "k") (.ok none)
    ∧ PrintedLiteral ['$', '5'] ['$', '5'] ∧ PrintedLiteral ['$', '{', 'x'] ['$', '$', '{', 'x']
    ∧ Gives ((Limits.stage ⟨1, 1⟩).intercept defaultContext "price")
        (.ok (some ⟨"price", "$5", "base", 100⟩))
    ∧ Gives ((Limits.stage ⟨1, 1⟩).intercept defaultContext "hint") (.ok (some hintValue)) := by
  have plain : IsPlainKey "k" := ⟨by decide, by decide, by decide⟩
  have price : Gives (defaultContext.proceed "price") (.ok (some priceValue)) :=
    ⟨modify (· + 1), rfl⟩
  have hint : Gives (defaultContext.proceed "hint") (.ok (some hintValue)) :=
    ⟨modify (· + 1), rfl⟩
  have absent : Gives (defaultContext.proceed "k") (.ok none) := ⟨modify (· + 1), rfl⟩
  have unescaped : PrintedLiteral ['$', '5'] ['$', '5'] := printedLiteral_self (by decide)
  have escaped : PrintedLiteral ['$', '{', 'x'] ['$', '$', '{', 'x'] :=
    .opening '$' (.inl rfl) (printedLiteral_self (by decide))
  have given := gives_intercept_default ⟨1, 1⟩ defaultContext "price" rfl price plain unescaped
    (by decide) (by decide) absent (by decide) (by decide)
  have kept := gives_intercept_default ⟨1, 1⟩ defaultContext "hint" rfl hint plain escaped
    (by decide) (by decide) absent (by decide) (by decide)
  exact ⟨rfl, plain, price, hint, absent, unescaped, escaped, given.1, kept.1⟩

/-- The default is written in one of its printed forms and is not what the value comes to. -/
theorem escaped_default_kept :
    IsPlainKey "k" ∧ '}' ∉ ['$', '{', 'x'] ∧ PrintedLiteral ['$', '{', 'x'] ['$', '$', '{', 'x']
    ∧ hintValue.value.toList = enclosed ("k".toList ++ ':' :: ['$', '$', '{', 'x']) []
    ∧ ((defaultContext.proceed "hint").run.run 0).1 = .ok (some hintValue)
    ∧ ((defaultContext.proceed "k").run.run 0).1 = .ok none
    ∧ (Limits.standard.answer defaultContext "hint" 0).1 = .ok (some hintValue)
    ∧ hintValue.value.toList ≠ ['$', '{', 'x'] := by
  have plain : IsPlainKey "k" := ⟨by decide, by decide, by decide⟩
  have escaped : PrintedLiteral ['$', '{', 'x'] ['$', '$', '{', 'x'] :=
    .opening '$' (.inl rfl) (printedLiteral_self (by decide))
  exact ⟨plain, by decide, escaped, by decide, rfl, rfl, by decide +kernel, by decide⟩

end LayeredConfig.Expression
