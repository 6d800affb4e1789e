/-
**A descriptor is answered from what its type offers now.**

A descriptor names a type and an idiom and holds no function. It gives the converter back from which it
was taken, unless the type has offered anew; then the new offer decides, and it may lack the idiom:

* `restore_after`: the answer to a descriptor follows from the last offer of the type (`restored`);
* `offers_of_implicit`: a derived converter has the function of its idiom in that offer, whenever it was
  derived;
* `calls_construct`: what a converter with a function does with every text;
* `after_filter_restores`: restoring leaves no trace;
* `restoring_after`: all of this together.
-/

import LayeredConfig.Proofs.Conversion.Padding
import LayeredConfig.Proofs.Conversion.Remembering

namespace LayeredConfig.Conversion

open LayeredConfig.Log LayeredConfig.Resolve LayeredConfig.Text

variable {Extra : Type} [Extension Extra] {Value : Type}

/-! ## Part 1 — an offer, a descriptor and a converter -/

/-- The idiom that is chosen is set, with the function that is chosen. -/
theorem lastSet_of_choice {settings : List (Idiom × Construct Value)} {idiom : Idiom}
    {construct : Construct Value} (chosen : choice settings = some (idiom, construct)) :
    lastSet settings idiom = some construct := by
  obtain ⟨probed, _, found⟩ := List.exists_of_findSome?_eq_some chosen
  obtain ⟨function, here, same⟩ := Option.map_eq_some_iff.mp found
  obtain ⟨rfl, rfl⟩ := Prod.mk.inj same
  exact here

section Restored

variable {target : Target Extra} {descriptor : Descriptor}
variable {function? : Option (Construct target.Value)}

/-- What a type answers to a descriptor, by the function that it offers for the idiom. -/
def restored (target : Target Extra) (descriptor : Descriptor)
    (function? : Option (Construct target.Value)) :
    Except RestoreError (ImplicitConverter target.Value) :=
  if descriptor.typeName = target.typeName then
    function?.elim (.error (.missingIdiom target.typeName descriptor.idiom.name))
      fun construct => .ok ⟨target.typeName, descriptor.idiom, construct⟩
  else .error (.typeMismatch descriptor.typeName target.typeName)

theorem restored_eq_typeMismatch_iff :
    restored target descriptor function?
        = .error (.typeMismatch descriptor.typeName target.typeName)
      ↔ descriptor.typeName ≠ target.typeName := by
  by_cases same : descriptor.typeName = target.typeName
  · cases function? <;> simp [restored, same]
  · simp [restored, same]

theorem restored_eq_missingIdiom_iff :
    restored target descriptor function?
        = .error (.missingIdiom target.typeName descriptor.idiom.name)
      ↔ descriptor.typeName = target.typeName ∧ function? = none := by
  by_cases same : descriptor.typeName = target.typeName
  · cases function? <;> simp [restored, same]
  · simp [restored, same]

theorem restored_eq_ok_iff {converter : ImplicitConverter target.Value} :
    restored target descriptor function? = .ok converter
      ↔ descriptor.typeName = target.typeName
        ∧ ∃ construct, function? = some construct
          ∧ converter = ⟨target.typeName, descriptor.idiom, construct⟩ := by
  by_cases same : descriptor.typeName = target.typeName
  · cases function? <;> simp [restored, same, eq_comm]
  · simp [restored, same]

end Restored

/-- On every text a converter calls this function, and it does nothing else. -/
structure ImplicitConverter.Calls (implicit : ImplicitConverter Value) (construct : Construct Value) :
    Prop where
  /-- A blank text is absent. -/
  blank : ∀ text, Blanks text.toList → implicit.converter.convert text = .ok none
  /-- A value is what the function makes of the trimmed text. -/
  value : ∀ text made, ¬ Blanks text.toList → construct (trim text) = .ok made →
    implicit.converter.convert text = .ok (some made)
  /-- A refusal shows the trimmed text and has the error of the function as its cause. -/
  refusal : ∀ text error, ¬ Blanks text.toList → construct (trim text) = .error error →
    implicit.converter.convert text = .error (.causedBy implicit.name (trim text) error)

/-- **A converter with a function calls it**, with the trimmed form of any text that is not blank. -/
theorem calls_construct (implicit : ImplicitConverter Value) : implicit.Calls implicit.construct := by
  constructor
  case blank => exact fun text => ((ignoresBlanks_parsing implicit.name _).absent_iff text).mpr
  case value =>
    intro text made filled makes
    rw [((asksTrimmed implicit).answered text filled).2, makes]
    rfl
  case refusal =>
    intro text error filled refuses
    rw [((asksTrimmed implicit).answered text filled).2, refuses]
    rfl

/-! ## Part 2 — functions that were offered last -/

variable [DecidableEq Extra] {target : Target Extra}

/-- The function that a type offered last for an idiom. -/
def lastFunction (target : Target Extra) (history : List (Operation Extra)) (idiom : Idiom) :
    Option (Construct target.Value) :=
  (lastOffer target history).bind fun settings => lastSet settings idiom

theorem lastOffer_append (history later : List (Operation Extra)) :
    lastOffer target (history ++ later) = (lastOffer target later).or (lastOffer target history) := by
  rw [lastOffer, List.filterMap_append, List.getLast?_append]
  rfl

theorem lastFunction_append_of_quiet {later : List (Operation Extra)}
    (quiet : lastOffer target later = none) (history : List (Operation Extra)) (idiom : Idiom) :
    lastFunction target (history ++ later) idiom = lastFunction target history idiom := by
  rw [lastFunction, lastOffer_append, quiet, Option.none_or]
  rfl

theorem lastFunction_append_of_offer {later : List (Operation Extra)}
    {settings : List (Idiom × Construct target.Value)}
    (offers : lastOffer target later = some settings) (history : List (Operation Extra))
    (idiom : Idiom) : lastFunction target (history ++ later) idiom = lastSet settings idiom := by
  rw [lastFunction, lastOffer_append, offers]
  rfl

/-- Whether an operation asks for the converter of a descriptor. -/
def Operation.restores : Operation Extra → Bool
  | restore _ _ => true
  | _ => false

namespace Registry

/-! ## Part 3 — answers after some operations -/

/-- **The answer to a descriptor follows from the last offer.** -/
theorem restore_after (history : List (Operation Extra)) (target : Target Extra)
    (descriptor : Descriptor) :
    (after history).restore target descriptor
      = restored target descriptor (lastFunction target history descriptor.idiom) := by
  have function : ((after history).idioms.get? target).bind (fun idioms => idioms.slot descriptor.idiom)
      = lastFunction target history descriptor.idiom := by
    rw [get?_idioms_after, lastFunction]
    cases lastOffer target history with
    | none => rfl
    | some settings => exact slot_ofSettings settings descriptor.idiom
  unfold restore restored
  rw [function]
  by_cases same : descriptor.typeName = target.typeName
  · rw [if_neg (not_not_intro same), if_pos same]
    cases lastFunction target history descriptor.idiom with
    | none | some => rfl
  · rw [if_pos same, if_neg same]

/-- **A derived converter has the function that its type offers for its idiom**, whenever it was
derived. -/
theorem offers_of_implicit {history : List (Operation Extra)} {given : Derivation target.Value}
    (gives : ((after history).implicit target).result.1 = some given) :
    given.implicit.typeName = target.typeName
      ∧ lastFunction target history given.implicit.idiom = some given.implicit.construct := by
  have derives := implicit_of_coherent (coherent_after history) target
  rw [gives, derive?_after, Option.map_some] at derives
  obtain ⟨⟨idiom, construct⟩, chosen, same⟩ := Option.map_eq_some_iff.mp derives.symm
  obtain ⟨settings, offered, chosen⟩ := Option.bind_eq_some_iff.mp chosen
  rw [← same]
  refine ⟨rfl, ?_⟩
  rw [lastFunction, offered]
  exact lastSet_of_choice chosen

/-- What a type answers to the descriptor of a converter that was derived for it. -/
theorem restore_descriptor {history : List (Operation Extra)} {given : Derivation target.Value}
    (gives : ((after history).implicit target).result.1 = some given)
    (later : List (Operation Extra)) :
    (after (history ++ later)).restore target given.implicit.descriptor
      = (lastFunction target (history ++ later) given.implicit.idiom).elim
          (.error (.missingIdiom target.typeName given.implicit.idiom.name))
          fun construct => .ok ⟨target.typeName, given.implicit.idiom, construct⟩ := by
  rw [restore_after, restored]
  exact if_pos (offers_of_implicit gives).1

/-- **The descriptor of a derived converter gives it back** as long as the type offers nothing. -/
theorem restore_descriptor_of_quiet {history later : List (Operation Extra)}
    {given : Derivation target.Value}
    (gives : ((after history).implicit target).result.1 = some given)
    (quiet : lastOffer target later = none) :
    (after (history ++ later)).restore target given.implicit.descriptor = .ok given.implicit := by
  obtain ⟨typeName, function⟩ := offers_of_implicit gives
  rw [restore_descriptor gives, lastFunction_append_of_quiet quiet, function, ← typeName]
  rfl

theorem perform_of_restores {operation : Operation Extra} (restores : operation.restores = true)
    (registry : Registry Extra) : registry.perform operation = ⟨[], registry⟩ := by
  cases operation with
  | restore target descriptor => rfl
  | _ => cases restores

/-- **Restoring leaves no trace.** -/
theorem after_filter_restores (history : List (Operation Extra)) :
    after (history.filter fun operation => !operation.restores) = after history := by
  induction history using List.reverseRecOn with
  | nil => rfl
  | append_singleton history operation hypothesis =>
    rw [List.filter_append, after_append_singleton]
    cases restores : operation.restores with
    | true => simp [restores, hypothesis, perform_of_restores]
    | false =>
      have kept : [operation].filter (fun operation => !operation.restores) = [operation] := by
        simp [restores]
      rw [kept, after_append_singleton, hypothesis]

/-! ## Part 4 — any operations in a row -/

/-- How a type answers descriptors after some operations. -/
structure Restoring (history : List (Operation Extra)) (target : Target Extra) : Prop where
  /-- The descriptor of a derived converter gives a converter of the same idiom that converts every text
  alike, whatever is done in between but for an offer of the type. -/
  equivalent : ∀ given later, ((after history).implicit target).result.1 = some given →
    lastOffer target later = none →
    ∃ converter, (after (history ++ later)).restore target given.implicit.descriptor = .ok converter
      ∧ converter.idiom = given.implicit.idiom
      ∧ ∀ text, converter.converter.convert text = given.implicit.converter.convert text
  /-- Once the type has offered anew, that offer answers it. -/
  renewed : ∀ given later settings, ((after history).implicit target).result.1 = some given →
    lastOffer target later = some settings →
    (after (history ++ later)).restore target given.implicit.descriptor
      = (lastSet settings given.implicit.idiom).elim
          (.error (.missingIdiom target.typeName given.implicit.idiom.name))
          fun construct => .ok ⟨target.typeName, given.implicit.idiom, construct⟩
  /-- Any descriptor is refused for its type exactly if it names another one. -/
  typeMismatch_iff : ∀ descriptor, (after history).restore target descriptor
      = .error (.typeMismatch descriptor.typeName target.typeName)
    ↔ descriptor.typeName ≠ target.typeName
  /-- It is refused for its idiom exactly if it names the type and the last offer lacks the idiom. -/
  missingIdiom_iff : ∀ descriptor, (after history).restore target descriptor
      = .error (.missingIdiom target.typeName descriptor.idiom.name)
    ↔ descriptor.typeName = target.typeName ∧ lastFunction target history descriptor.idiom = none
  /-- Else it gives the converter of that idiom with the function of the last offer. -/
  converter_iff : ∀ descriptor converter, (after history).restore target descriptor = .ok converter
    ↔ descriptor.typeName = target.typeName
      ∧ ∃ construct, lastFunction target history descriptor.idiom = some construct
        ∧ converter = ⟨target.typeName, descriptor.idiom, construct⟩
  /-- On every text that converter calls the function of the last offer. -/
  calls : ∀ descriptor converter, (after history).restore target descriptor = .ok converter →
    ∃ construct, lastFunction target history descriptor.idiom = some construct
      ∧ converter.Calls construct
  /-- To restore changes nothing and logs nothing. -/
  unchanged : ∀ descriptor, (after history).perform (.restore target descriptor) = ⟨[], after history⟩
  /-- Nothing that is known would be different if no descriptor had been restored. -/
  untraced : after (history.filter fun operation => !operation.restores) = after history

/-- **After any operations a descriptor is answered from the last offer of its type.** -/
theorem restoring_after (history : List (Operation Extra)) (target : Target Extra) :
    Restoring history target := by
  constructor
  case equivalent =>
    intro given later gives quiet
    exact ⟨given.implicit, restore_descriptor_of_quiet gives quiet, rfl, fun _ => rfl⟩
  case renewed =>
    intro given later settings gives offers
    rw [restore_descriptor gives, lastFunction_append_of_offer offers]
  case typeMismatch_iff =>
    intro descriptor
    rw [restore_after]
    exact restored_eq_typeMismatch_iff
  case missingIdiom_iff =>
    intro descriptor
    rw [restore_after]
    exact restored_eq_missingIdiom_iff
  case converter_iff =>
    intro descriptor converter
    rw [restore_after]
    exact restored_eq_ok_iff
  case calls =>
    intro descriptor converter given
    rw [restore_after] at given
    obtain ⟨-, construct, offered, rfl⟩ := restored_eq_ok_iff.mp given
    exact ⟨construct, offered, calls_construct _⟩
  case unchanged => exact fun descriptor => rfl
  case untraced => exact after_filter_restores history

/-- A descriptor that outlives the offer from which it was taken. -/
example (first second : Construct Bool) :
    let target : Target Extra := .builtin .boolean
    let offer : Operation Extra := .offer target [(.parse, first)]
    let descriptor : Descriptor := ⟨"bool", .parse⟩
    (after [offer, .implicit target]).restore target descriptor = .ok ⟨"bool", .parse, first⟩
      ∧ (after [offer, .implicit target, .offer target [(.parse, second)]]).restore target descriptor
        = .ok ⟨"bool", .parse, second⟩
      ∧ (after [offer, .implicit target, .offer target [(.of, second)]]).restore target descriptor
        = .error (.missingIdiom "bool" "parse") :=
  ⟨rfl, rfl, rfl⟩

end Registry

end LayeredConfig.Conversion
