/-
**Expanding a text is substituting in its template.**

Substitution is defined on templates, without a text or a limit (`Template.substitute`). The stage
that replaces references makes the same of every printed form, where the limits allow for all
references of the template:

* `Gives`: what a lookup gives, whatever else it does;
* `Settles`: what an expansion comes to with enough steps, and that it takes no more of them;
* `Template.settles_expandText`: expanding a printed template, by induction on the template;
* `gives_intercept_printed`: what the stage gives.
-/

import LayeredConfig.Proofs.Expression.Printing

set_option linter.unusedSectionVars false

namespace LayeredConfig.Expression

open LayeredConfig.Lookup LayeredConfig.Resolve LayeredConfig.Source

/-! ## Part 1 — substitution -/

/-- The text that is found under each name, if there is one, or how looking for it fails. -/
abbrev Texts := String → Except ExpansionError (Option (List Char))

/-- What a reference stands for: the text that is found for its key, else its default. -/
def Texts.follow (texts : Texts) (key : List Char) (default : Except ExpansionError (List Char)) :
    Except ExpansionError (List Char) := do
  match ← texts (String.ofList key) with
  | some text => return text
  | none => default

namespace Template

/-- The template with its references replaced, from left to right. -/
def substitute (texts : Texts) {place : Place} : Template place → Except ExpansionError (List Char)
  | .literal alone => return alone.text
  | .reference before _ key rest => do
    let key ← key.substitute texts
    let value ← texts.follow key (throw (.unresolved (String.ofList key)))
    return before.text ++ value ++ (← rest.substitute texts)
  | .withDefault before _ key default rest => do
    let key ← key.substitute texts
    let value ← texts.follow key (default.substitute texts)
    return before.text ++ value ++ (← rest.substitute texts)

/-- The name that a key comes to, if it comes to one. -/
def names : Except ExpansionError (List Char) → List String
  | .ok key => [String.ofList key]
  | .error _ => []

/-- The names that substitution may look for. -/
def keys (texts : Texts) {place : Place} : Template place → List String
  | .literal _ => []
  | .reference _ _ key rest =>
    key.keys texts ++ names (key.substitute texts) ++ rest.keys texts
  | .withDefault _ _ key default rest =>
    key.keys texts ++ names (key.substitute texts) ++ default.keys texts ++ rest.keys texts

end Template

/-! ## Part 2 — what lookups give -/

variable {m : Type → Type} [Monad m] {Value Next : Type}

/-- A lookup gives an outcome, whatever else it does. -/
def Gives (lookup : ExceptT ExpansionError m Value) (outcome : Except ExpansionError Value) : Prop :=
  ∃ effects : m Unit, lookup.run = do
    effects
    return outcome

/-- A lookup finds the text of a name, as a printed form of a literal. -/
def Answers (ask : String → Outcome m) (texts : Texts) (name : String) : Prop :=
  match texts name with
  | .ok (some text) => ∃ found : ConfigValue, Gives (ask name) (.ok (some found))
    ∧ PrintedLiteral text found.value.toList
  | .ok none => Gives (ask name) (.ok none)
  | .error error => Gives (ask name) (.error error)

variable [LawfulMonad m]

namespace Gives

variable {lookup : ExceptT ExpansionError m Value} {value : Value} {error : ExpansionError}
variable {next : Value → ExceptT ExpansionError m Next} {outcome : Except ExpansionError Next}

theorem of_outcome (outcome : Except ExpansionError Value) :
    Gives (ExceptT.mk (pure outcome) : ExceptT ExpansionError m Value) outcome :=
  ⟨pure (), by simp [ExceptT.run, ExceptT.mk]⟩

theorem bind (first : Gives lookup (.ok value)) (second : Gives (next value) outcome) :
    Gives (lookup >>= next) outcome := by
  obtain ⟨before, first⟩ := first
  obtain ⟨after, second⟩ := second
  refine ⟨before >>= fun _ => after, ?_⟩
  rw [ExceptT.run_bind, first]
  simp [second]

theorem bind_error (first : Gives lookup (.error error)) :
    Gives (lookup >>= next) (.error error) := by
  obtain ⟨effects, first⟩ := first
  refine ⟨effects, ?_⟩
  rw [ExceptT.run_bind, first]
  simp

theorem map {outcome : Except ExpansionError Value} (gives : Gives lookup outcome)
    (change : Value → Next) : Gives (do return change (← lookup)) (outcome.map change) := by
  cases outcome with
  | error error => exact gives.bind_error
  | ok value => exact gives.bind (.of_outcome _)

end Gives

/-! ## Part 3 — what expansions come to -/

/-- With so many steps the expansion comes to the outcome, and it takes no more of them. -/
def Settles (steps : Nat) (expansion : Expanding m Value) (outcome : Except ExpansionError Value) :
    Prop :=
  ∀ left, steps ≤ left → ∃ after, left ≤ after + steps
    ∧ Gives (expansion.run left) (outcome.map (·, after))

namespace Settles

theorem pure (value : Value) : Settles 0 (pure value : Expanding m Value) (.ok value) :=
  fun left _ => ⟨left, Nat.le_refl _, .of_outcome _⟩

theorem throw (error : ExpansionError) :
    Settles 0 (throw error : Expanding m Value) (.error error) := by
  intro left _
  have failed : Gives (throwThe ExpansionError error : ExceptT ExpansionError m Value)
      (.error error) := .of_outcome _
  exact ⟨left, Nat.le_refl _, failed.bind_error⟩

theorem mono {fewer steps : Nat} {expansion : Expanding m Value}
    {outcome : Except ExpansionError Value} (settles : Settles fewer expansion outcome)
    (more : fewer ≤ steps) : Settles steps expansion outcome := by
  intro left enough
  obtain ⟨after, taken, gives⟩ := settles left (by omega)
  exact ⟨after, by omega, gives⟩

theorem bind {steps later : Nat} {expansion : Expanding m Value}
    {outcome : Except ExpansionError Value} {next : Value → Expanding m Next}
    {rest : Value → Except ExpansionError Next} (first : Settles steps expansion outcome)
    (second : ∀ value, outcome = .ok value → Settles later (next value) (rest value)) :
    Settles (steps + later) (expansion >>= next) (outcome >>= rest) := by
  intro left enough
  obtain ⟨between, taken, gives⟩ := first left (by omega)
  cases outcome with
  | error error => exact ⟨left, by omega, gives.bind_error⟩
  | ok value =>
    obtain ⟨after, takenLater, givesLater⟩ := second value rfl between (by omega)
    exact ⟨after, by omega, gives.bind givesLater⟩

/-- Looking something up takes no steps. -/
theorem ask {later : Nat} {question : ExceptT ExpansionError m Value}
    {outcome : Except ExpansionError Value} {next : Value → Expanding m Next}
    {rest : Value → Except ExpansionError Next} (gives : Gives question outcome)
    (second : ∀ value, outcome = .ok value → Settles later (next value) (rest value)) :
    Settles later (liftM question >>= next) (outcome >>= rest) := by
  have first : Settles 0 (liftM question : Expanding m Value) outcome := by
    intro left _
    refine ⟨left, Nat.le_refl _, ?_⟩
    cases outcome with
    | error error => exact gives.bind_error
    | ok value => exact gives.bind (.of_outcome _)
  have both := first.bind second
  rwa [Nat.zero_add] at both

theorem step (inner : List Char) : Settles 1 (takeStep inner : Expanding m Unit) (.ok ()) := by
  intro left enough
  cases left with
  | zero => cases enough
  | succ left =>
    have taken : (takeStep inner : Expanding m Unit).run (left + 1) = Pure.pure ((), left) := by
      simp [takeStep]
    refine ⟨left, Nat.le_refl _, ?_⟩
    rw [taken]
    exact .of_outcome _

end Settles

/-! ## Part 4 — expansion substitutes -/

variable {ask : String → Outcome m} {texts : Texts}

/-- A reference behind a literal. -/
theorem settles_reference {place : Place} (before : Literal place) (leads : Leads before.text)
    {follow : List Char → Expanding m (List Char)} {undivided : Prop}
    {printed inner behind : List Char} {first later : Nat} {value rest : Except ExpansionError (List Char)}
    (literal : PrintedLiteral before.text printed) (balanced : Balanced undivided inner)
    (follows : Settles first (follow inner) value)
    (expands : Settles later (expandText follow behind) rest) :
    Settles (first + later) (expandText follow (printed ++ enclosed inner behind)) do
      let value ← value
      return before.text ++ value ++ (← rest) := by
  have text : expandText follow (printed ++ enclosed inner behind) = do
      let value ← follow inner
      return before.text ++ value ++ (← expandText follow behind) := by
    rw [expandText_printedLiteral follow literal leads.precedes,
      expandText_enclosed follow balanced]
    simp
  rw [text]
  exact follows.bind fun value _ => expands.bind fun rest _ => .pure _

/-- What is looked up for a key comes to its text, else to what is made of absence. -/
theorem settles_follow {levels later : Nat} {key : List Char} {absent : Expanding m (List Char)}
    {default : Except ExpansionError (List Char)}
    (answer : Answers ask texts (String.ofList key)) (otherwise : Settles later absent default) :
    Settles later
      (liftM (ask (String.ofList key)) >>= fun found =>
        match found with
        | some found => expandText (resolve ask levels) found.value.toList
        | none => absent)
      (texts.follow key default) := by
  unfold Answers at answer
  unfold Texts.follow
  split at answer
  next text same =>
    obtain ⟨found, gives, literal⟩ := answer
    rw [same]
    show Settles later _ (Except.ok (some found) >>= fun _ => Except.ok text)
    refine Settles.ask gives fun value equal => ?_
    cases equal
    show Settles later (expandText (resolve ask levels) found.value.toList) _
    rw [expandText_printedLiteral_end _ literal]
    exact (Settles.pure text).mono (Nat.zero_le later)
  next same =>
    rw [same]
    show Settles later _ (Except.ok none >>= fun _ : Option ConfigValue => default)
    refine Settles.ask answer fun value equal => ?_
    cases equal
    exact otherwise
  next error same =>
    rw [same]
    show Settles later _ (Except.error error >>= fun _ : Option ConfigValue => default)
    exact Settles.ask answer nofun

/-- What a reference with a settled key and a settled default comes to. -/
theorem settles_resolve {levels steps later : Nat} {inner keyText : List Char}
    {default : Option (List Char)} {key : Except ExpansionError (List Char)}
    {otherwise : List Char → Except ExpansionError (List Char)}
    (split : splitDefault 0 inner = (keyText, default))
    (expands : Settles steps (expandText (resolve ask levels) keyText) key)
    (answers : ∀ name ∈ Template.names key, Answers ask texts name)
    (absent : ∀ key : List Char, Settles later
      (match default with
        | some default => expandText (resolve ask levels) default
        | none => throw (.unresolved (String.ofList key)))
      (otherwise key)) :
    Settles (1 + (steps + later)) (resolve ask (levels + 1) inner)
      (key >>= fun key => texts.follow key (otherwise key)) := by
  rw [resolve, split]
  show Settles _ _ (Except.ok () >>= fun _ => key >>= fun key => texts.follow key (otherwise key))
  refine (Settles.step inner).bind fun _ _ => ?_
  refine expands.bind fun name same => ?_
  have answer : Answers ask texts (String.ofList name) := by
    refine answers _ ?_
    rw [same]
    exact List.mem_singleton_self _
  exact settles_follow answer (absent name)

/-- **Expanding a printed template is substituting in it.** -/
theorem Template.settles_expandText {place : Place} (template : Template place) {levels : Nat}
    {text : List Char} (printed : template.Printed text) (deep : template.nesting ≤ levels)
    (answers : ∀ name ∈ template.keys texts, Answers ask texts name) :
    Settles template.references (expandText (resolve ask levels) text)
      (template.substitute texts) := by
  induction template generalizing levels text with
  | literal alone =>
    cases printed with
    | literal literal =>
      rw [expandText_printedLiteral_end _ literal]
      exact .pure _
  | reference before leads key rest key_hypothesis rest_hypothesis =>
    cases printed with
    | reference first last =>
      have inside : Place.key ≠ .outside := by decide
      simp only [Template.nesting, Nat.max_le] at deep
      simp only [Template.keys, List.forall_mem_append] at answers
      obtain ⟨⟨inKey, named⟩, later⟩ := answers
      cases levels with
      | zero => omega
      | succ levels =>
        -- The key is a printed template itself, and is expanded one level deeper.
        have bound := Nat.le_of_succ_le_succ deep.1
        have expands := key_hypothesis (key.printed_write inside) bound inKey
        have value := settles_resolve (splitDefault_write key) expands named fun name =>
          Settles.throw (.unresolved (String.ofList name))
        have all := settles_reference before leads first (key.balanced_write inside) value
          (rest_hypothesis last deep.2 later)
        rw [bind_assoc] at all
        refine all.mono ?_
        simp only [Template.references]
        omega
  | withDefault before leads key default rest key_hypothesis default_hypothesis rest_hypothesis =>
    cases printed with
    | withDefault first last =>
      have inside : Place.key ≠ .outside := by decide
      have within : Place.default ≠ .outside := by decide
      simp only [Template.nesting, Nat.max_le] at deep
      simp only [Template.keys, List.forall_mem_append] at answers
      obtain ⟨⟨⟨inKey, named⟩, inDefault⟩, later⟩ := answers
      cases levels with
      | zero => omega
      | succ levels =>
        have bounds := Nat.max_le.mp (Nat.le_of_succ_le_succ deep.1)
        have expands := key_hypothesis (key.printed_write inside) bounds.1 inKey
        have otherwise := default_hypothesis (default.printed_write within) bounds.2 inDefault
        have value := settles_resolve (splitDefault_write_colon key default.write) expands named
          fun _ => otherwise
        have all := settles_reference before leads first
          ((key.balanced_write inside).colon (default.balanced_write within)) value
          (rest_hypothesis last deep.2 later)
        rw [bind_assoc] at all
        refine all.mono ?_
        simp only [Template.references]
        omega

/-! ## Part 5 — the stage -/

/-- A template that is printed without an opening is this text. -/
theorem Template.substitute_of_plain {place : Place} {template : Template place} {text : List Char}
    (printed : template.Printed text) (plain : hasOpening text = false) (texts : Texts) :
    template.substitute texts = .ok text := by
  cases printed with
  | literal literal => exact congrArg Except.ok (literal.eq_of_plain plain)
  | reference first last =>
    rw [hasOpening_append_enclosed] at plain
    cases plain
  | withDefault first last =>
    rw [hasOpening_append_enclosed] at plain
    cases plain

theorem gives_expandValue {limits : Limits} {template : Template .outside} {found : ConfigValue}
    (printed : template.Printed found.value.toList)
    (answers : ∀ key ∈ template.keys texts, Answers ask texts key)
    (deep : template.nesting ≤ limits.depth) (long : template.references ≤ limits.steps) :
    Gives (expandValue limits ask found)
      ((template.substitute texts).map fun text => found.withValue (String.ofList text)) := by
  obtain ⟨after, -, gives⟩ := template.settles_expandText printed deep answers limits.steps long
  have changed := gives.map fun expanded => found.withValue (String.ofList expanded.1)
  cases outcome : template.substitute texts with
  | error error => rwa [outcome] at changed
  | ok text => rwa [outcome] at changed

/-- **The stage substitutes in the template that a value prints**, if its limits allow for the
references that stand in the template and all values that it finds for them print literals. -/
theorem gives_intercept_printed (limits : Limits) (context : Context m) (name : String)
    (template : Template .outside) (texts : Texts) {found : ConfigValue}
    (active : context.scope.isSuspended = false)
    (present : Gives (context.proceed name) (.ok (some found)))
    (printed : template.Printed found.value.toList)
    (answers : ∀ key ∈ template.keys texts, Answers context.proceed texts key)
    (deep : template.nesting ≤ limits.depth) (long : template.references ≤ limits.steps) :
    Gives (limits.stage.intercept context name)
      ((template.substitute texts).map fun text => some (found.withValue (String.ofList text))) := by
  refine present.bind ?_
  dsimp only
  rw [active, Bool.false_or]
  cases opening : hasOpening found.value.toList with
  | false =>
    have same : found.withValue (String.ofList found.value.toList) = found := by
      rw [String.ofList_toList]
      rfl
    rw [Template.substitute_of_plain printed opening]
    show Gives (pure (some found)) (.ok (some (found.withValue _)))
    rw [same]
    exact .of_outcome _
  | true =>
    have changed := (gives_expandValue printed answers deep long).map some
    cases outcome : template.substitute texts with
    | error error => rwa [outcome] at changed
    | ok text => rwa [outcome] at changed

/-- The template of an address with a default, a nested key and an escaped opening. -/
def sampleTemplate : Template .outside :=
  .withDefault ⟨[], by decide, by decide⟩ nofun
    (.literal ⟨"scheme".toList, by decide +kernel, by decide +kernel⟩)
    (.literal ⟨"http".toList, by decide +kernel, by decide +kernel⟩)
    (.reference ⟨"://".toList, by decide +kernel, by decide +kernel⟩ (by decide +kernel)
      (.reference ⟨[], by decide, by decide⟩ nofun
        (.literal ⟨"env".toList, by decide +kernel, by decide +kernel⟩)
        (.literal ⟨".host".toList, by decide +kernel, by decide +kernel⟩))
      (.literal ⟨"/${id}".toList, by decide +kernel, by decide +kernel⟩))

/-- The texts of a stage of testing. -/
def sampleTexts : Texts
  | "env" => .ok (some "test".toList)
  | "test.host" => .ok (some "${h}".toList)
  | _ => .ok none

/-- A chain that counts its questions and finds these texts. -/
def countingContext : Context (StateM Nat) where
  next := 1
  scope := .outermost
  proceed name := do
    modify (· + 1)
    return match name with
      | "url" => some ⟨"url", "${scheme:http}://${${env}.host}/$${id}", "base", 100⟩
      | "env" => some ⟨"env", "test", "base", 100⟩
      | "test.host" => some ⟨"test.host", "\\${h}", "base", 100⟩
      | _ => none

theorem printed_sampleTemplate :
    sampleTemplate.Printed "${scheme:http}://${${env}.host}/$${id}".toList := by
  have ending : PrintedLiteral "/${id}".toList "/$${id}".toList := by
    have opening : PrintedLiteral "${id}".toList "$${id}".toList :=
      .opening '$' (.inl rfl) (printedLiteral_self (by decide +kernel))
    exact .character '/' rfl opening
  have middle : PrintedLiteral "://".toList "://".toList := printedLiteral_self (by decide +kernel)
  have pieces : "${scheme:http}://${${env}.host}/$${id}".toList
      = [] ++ enclosed ("scheme".toList ++ ':' :: "http".toList)
        ("://".toList ++ enclosed ([] ++ enclosed "env".toList ".host".toList) "/$${id}".toList) := by
    decide +kernel
  rw [pieces]
  exact .withDefault .nil (.reference middle (.literal ending))

/-- Two levels and three steps are enough for the sample. Neither what is found for a reference nor
what was escaped is expanded again. -/
theorem gives_intercept_printed_sample :
    countingContext.scope.isSuspended = false
    ∧ Gives (countingContext.proceed "url")
        (.ok (some ⟨"url", "${scheme:http}://${${env}.host}/$${id}", "base", 100⟩))
    ∧ sampleTemplate.Printed "${scheme:http}://${${env}.host}/$${id}".toList
    ∧ (∀ key ∈ sampleTemplate.keys sampleTexts, Answers countingContext.proceed sampleTexts key)
    ∧ sampleTemplate.nesting = 2 ∧ sampleTemplate.references = 3
    ∧ Gives ((Limits.stage ⟨2, 3⟩).intercept countingContext "url")
        (.ok (some ⟨"url", "http://${h}/${id}", "base", 100⟩)) := by
  have present : Gives (countingContext.proceed "url")
      (.ok (some ⟨"url", "${scheme:http}://${${env}.host}/$${id}", "base", 100⟩)) :=
    ⟨modify (· + 1), rfl⟩
  have keys : sampleTemplate.keys sampleTexts = ["scheme", "env", "test.host"] := by decide +kernel
  have answers : ∀ key ∈ sampleTemplate.keys sampleTexts,
      Answers countingContext.proceed sampleTexts key := by
    rw [keys]
    simp only [List.forall_mem_cons]
    refine ⟨⟨modify (· + 1), rfl⟩, ⟨⟨"env", "test", "base", 100⟩, ⟨modify (· + 1), rfl⟩, ?_⟩,
      ⟨⟨"test.host", "\\${h}", "base", 100⟩, ⟨modify (· + 1), rfl⟩, ?_⟩, nofun⟩
    · exact printedLiteral_self (by decide +kernel)
    · exact .opening '\\' (.inr rfl) (printedLiteral_self (by decide +kernel))
  have outcome : sampleTemplate.substitute sampleTexts = .ok "http://${h}/${id}".toList := rfl
  have gives := gives_intercept_printed ⟨2, 3⟩ countingContext "url" sampleTemplate sampleTexts rfl
    present printed_sampleTemplate answers (by decide) (by decide)
  rw [outcome] at gives
  exact ⟨rfl, present, printed_sampleTemplate, answers, rfl, rfl, gives⟩

end LayeredConfig.Expression
