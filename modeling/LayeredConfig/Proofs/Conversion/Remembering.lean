/-
**Derived converters are remembered, and no answer shows it.**

* `converter_eq_answer`: the converter of a type follows from what is registered and offered;
* `remembered_iff`: what is remembered for a type is what was derived since its last offer;
* `converter_after`: after any operations a type is answered as if nothing were remembered. The
  derived converter is one and the same until the next offer, and only its first use is logged.
-/

import LayeredConfig.Proofs.Conversion.History

namespace LayeredConfig.Conversion

open LayeredConfig.Log LayeredConfig.Resolve

variable {Extra : Type} [Extension Extra] [DecidableEq Extra] {target : Target Extra}

namespace Registry

variable {registry : Registry Extra} {operation : Operation Extra}

/-! ## Part 1 — answers -/

/-- The same registry with nothing remembered. -/
def forgetful (registry : Registry Extra) : Registry Extra := { registry with derived := .empty }

/-- The converter of a type by what is registered and offered. -/
def answer (registry : Registry Extra) (target : Target Extra) :
    Except ResolveError (Converter target.Value) :=
  let derived := (registry.derive? target).map ImplicitConverter.converter
  ((registry.explicit? target).or derived).elim (.error (.noConverter target.typeName)) .ok

/-- A derived converter is the one that the type offers now, whenever it was derived. -/
theorem implicit_of_coherent (coherent : registry.Coherent) (target : Target Extra) :
    (registry.implicit target).result.1.map Derivation.implicit = registry.derive? target := by
  cases remembered : registry.derived.get? target with
  | some derivation =>
    rw [implicit_of_remembered remembered]
    exact (coherent.derivable target derivation remembered).symm
  | none =>
    cases derivable : registry.derive? target with
    | none =>
      rw [implicit_of_underivable remembered derivable]
      rfl
    | some implicit =>
      rw [implicit_of_derivable remembered derivable]
      rfl

theorem converter_eq_answer (coherent : registry.Coherent) (target : Target Extra) :
    (registry.converter target).result.1 = registry.answer target := by
  rw [converter_eq, answer]
  cases found : registry.explicit? target with
  | some converter =>
    rw [supply?_of_explicit? found]
    rfl
  | none =>
    rw [supply?_of_implicit found, ← implicit_of_coherent coherent]
    cases (registry.implicit target).result.1 with
    | none => rfl
    | some derivation => rfl

theorem coherent_forgetful (registry : Registry Extra) : registry.forgetful.Coherent :=
  ⟨fun _ _ => nofun, fun _ _ => nofun⟩

theorem answer_congr {other : Registry Extra}
    (registrations : registry.registrations target = other.registrations target)
    (idioms : registry.idioms.get? target = other.idioms.get? target) :
    registry.answer target = other.answer target := by
  have explicit : registry.explicit? target = other.explicit? target := by
    unfold explicit?
    rw [registrations]
  have derive : registry.derive? target = other.derive? target := by
    unfold derive?
    rw [idioms]
  rw [answer, answer, explicit, derive]

/-- The converter that a registry gives is the derived one that it supplies. -/
theorem converter_of_derivation {derivation : Derivation target.Value}
    (gives : registry.derivation target (.converter target) = some derivation) :
    (registry.converter target).result.1 = .ok derivation.implicit.converter := by
  rw [derivation_converter] at gives
  obtain ⟨supply, supplied, isDerived⟩ := Option.bind_eq_some_iff.mp gives
  rw [converter_eq, supplied]
  cases supply with
  | registered converter => cases isDerived
  | derived other =>
    cases isDerived
    rfl

/-! ## Part 2 — one derivation -/

/-- What is logged when a converter is derived. -/
def discovery (target : Target Extra) (derivation : Derivation target.Value) : Event :=
  .converterDerived target.typeName derivation.implicit.idiom.name

/-- A derived converter is the remembered one, or it is new. -/
theorem derivation_cases {given : Derivation target.Value}
    (gives : registry.derivation target operation = some given) :
    registry.derived.get? target = some given
      ∨ registry.derived.get? target = none ∧ given.serial = registry.derivations := by
  by_cases about : operation.target = target
  · subst about
    have performs := performs_perform registry operation
    generalize registry.perform operation = performed at performs
    cases performs with
    | register asked converter priority => cases gives
    | offer asked settings => cases gives
    | answer _ asked about asks known =>
      subst about
      exact .inl (known given gives)
    | derive _ asked about asks implicit forgotten derivable derives =>
      subst about
      rw [derives] at gives
      cases gives
      exact .inr ⟨forgotten, rfl⟩
  · rw [derivation_of_ne about] at gives
    cases gives

theorem derivation_of_remembered {derivation given : Derivation target.Value}
    (remembered : registry.derived.get? target = some derivation)
    (gives : registry.derivation target operation = some given) : given = derivation := by
  rcases derivation_cases gives with known | ⟨forgotten, -⟩
  · exact Option.some.inj (known.symm.trans remembered)
  · rw [forgotten] at remembered
    cases remembered

theorem offer?_of_derivation {given : Derivation target.Value}
    (gives : registry.derivation target operation = some given) : operation.offer? target = none := by
  cases operation with
  | offer asked settings => cases gives
  | _ => rfl

/-- What is derived is not logged again. -/
theorem events_of_remembered {derivation : Derivation operation.target.Value}
    (remembered : registry.derived.get? operation.target = some derivation) :
    (registry.perform operation).events = [] := by
  have performs := performs_perform registry operation
  generalize registry.perform operation = performed at performs ⊢
  cases performs with
  | derive _ asked about asks implicit forgotten derivable derives =>
    subst about
    exact absurd (forgotten.symm.trans remembered) (Option.some_ne_none derivation).symm
  | _ => rfl

/-- What is derived now is logged, and nothing else is. -/
theorem events_of_forgotten (forgotten : registry.derived.get? operation.target = none) :
    (registry.perform operation).events
      = (registry.derivation operation.target operation).toList.map (discovery operation.target) := by
  have performs := performs_perform registry operation
  generalize registry.perform operation = performed at performs ⊢
  cases performs with
  | register asked converter priority => rfl
  | offer asked settings => rfl
  | answer _ asked about asks known =>
    subst about
    cases given : registry.derivation operation.target operation with
    | none => rfl
    | some derivation =>
      exact absurd (forgotten.symm.trans (known derivation given))
        (Option.some_ne_none derivation).symm
  | derive _ asked about asks implicit _ derivable derives =>
    subst about
    rw [derives]
    rfl

theorem derivations_le_perform (registry : Registry Extra) (operation : Operation Extra) :
    registry.derivations ≤ (registry.perform operation).result.derivations := by
  have performs := performs_perform registry operation
  generalize registry.perform operation = performed at performs ⊢
  cases performs with
  | derive _ asked about asks implicit forgotten derivable derives => exact Nat.le_succ _
  | _ => exact le_rfl

/-! ## Part 3 — periods between offers -/

end Registry

open Registry

/-- Some operation gave this derived converter for a type, and the type has offered nothing since. -/
def GivenSinceOffer (target : Target Extra) (history : List (Operation Extra))
    (given : Derivation target.Value) : Prop :=
  ∃ before operation between, history = before ++ operation :: between
    ∧ (after before).derivation target operation = some given
    ∧ ∀ later ∈ between, later.offer? target = none

theorem givenSinceOffer_append_singleton {history : List (Operation Extra)}
    {operation : Operation Extra} {given : Derivation target.Value} :
    GivenSinceOffer target (history ++ [operation]) given
      ↔ (after history).derivation target operation = some given
        ∨ operation.offer? target = none ∧ GivenSinceOffer target history given := by
  constructor
  · rintro ⟨before, first, between, split, gives, quiet⟩
    cases between using List.reverseRecOn with
    | nil =>
      obtain ⟨rfl, same⟩ := List.append_inj' split rfl
      cases same
      exact .inl gives
    | append_singleton between last =>
      rw [← List.cons_append, ← List.append_assoc] at split
      obtain ⟨rfl, same⟩ := List.append_inj' split rfl
      cases same
      refine .inr ⟨quiet operation (by simp), before, first, between, rfl, gives, fun later member => ?_⟩
      exact quiet later (List.mem_append_left _ member)
  · rintro (gives | ⟨quiet, before, first, between, rfl, gives, others⟩)
    · exact ⟨history, operation, [], rfl, gives, fun _ => nofun⟩
    · refine ⟨before, first, between ++ [operation], by simp, gives, fun later member => ?_⟩
      rcases List.mem_append.mp member with member | member
      · exact others later member
      · rw [List.mem_singleton.mp member]
        exact quiet

namespace Registry

/-- **What is remembered for a type is what was derived since its last offer.** -/
theorem remembered_iff (history : List (Operation Extra)) (given : Derivation target.Value) :
    (after history).derived.get? target = some given ↔ GivenSinceOffer target history given := by
  induction history using List.reverseRecOn with
  | nil =>
    refine ⟨nofun, ?_⟩
    rintro ⟨before, operation, between, split, -⟩
    simp at split
  | append_singleton history operation hypothesis =>
    rw [after_append_singleton, get?_derived_perform, givenSinceOffer_append_singleton, ← hypothesis]
    cases gives : (after history).derivation target operation with
    | some other =>
      rw [offer?_of_derivation gives]
      refine ⟨.inl, ?_⟩
      rintro (same | ⟨-, remembered⟩)
      · exact same
      · rw [derivation_of_remembered remembered gives]
        rfl
    | none =>
      cases offered : operation.offer? target with
      | some settings => simp
      | none => simp

theorem forgotten_iff (history : List (Operation Extra)) :
    (after history).derived.get? target = none
      ↔ ∀ given, ¬ GivenSinceOffer target history given := by
  simp only [← remembered_iff, Option.eq_none_iff_forall_ne_some, ne_eq]

/-- Whatever is derived for a type from now on has at least this serial number. -/
structure DerivesFrom (serial : Nat) (target : Target Extra) (registry : Registry Extra) : Prop where
  counted : serial ≤ registry.derivations
  remembered : ∀ given, registry.derived.get? target = some given → serial ≤ given.serial

theorem DerivesFrom.derivation {serial : Nat} {given : Derivation target.Value}
    (derives : DerivesFrom serial target registry)
    (gives : registry.derivation target operation = some given) : serial ≤ given.serial := by
  rcases derivation_cases gives with known | ⟨-, new⟩
  · exact derives.remembered given known
  · rw [new]
    exact derives.counted

theorem DerivesFrom.perform {serial : Nat} (derives : DerivesFrom serial target registry)
    (operation : Operation Extra) :
    DerivesFrom serial target (registry.perform operation).result := by
  refine ⟨derives.counted.trans (derivations_le_perform registry operation), fun given known => ?_⟩
  rw [get?_derived_perform] at known
  cases offered : operation.offer? target with
  | some settings =>
    rw [offered] at known
    cases known
  | none =>
    rw [offered] at known
    cases gives : registry.derivation target operation with
    | none =>
      rw [gives] at known
      exact derives.remembered given known
    | some other =>
      rw [gives] at known
      cases known
      exact derives.derivation gives

/-- An offer ends the period of a derived converter for good. -/
theorem derivesFrom_of_offered {history between : List (Operation Extra)} {first : Operation Extra}
    {one : Derivation target.Value}
    (gives : (after history).derivation target first = some one)
    (offered : ∃ later ∈ between, later.offer? target ≠ none) :
    DerivesFrom (one.serial + 1) target (after (history ++ first :: between)) := by
  induction between using List.reverseRecOn with
  | nil =>
    obtain ⟨later, member, -⟩ := offered
    cases member
  | append_singleton between last hypothesis =>
    rw [← List.cons_append, ← List.append_assoc, after_append_singleton]
    by_cases earlier : ∃ later ∈ between, later.offer? target ≠ none
    · exact (hypothesis earlier).perform last
    · -- The last operation makes the first offer, so the converter is remembered up to it.
      have quiet : ∀ later ∈ between, later.offer? target = none :=
        fun later member => by_contra fun offers => earlier ⟨later, member, offers⟩
      have offers : last.offer? target ≠ none := by
        obtain ⟨later, member, offers⟩ := offered
        rcases List.mem_append.mp member with member | member
        · exact absurd ⟨later, member, offers⟩ earlier
        · rwa [List.mem_singleton.mp member] at offers
      have remembered := (remembered_iff _ one).mpr ⟨history, first, between, rfl, gives, quiet⟩
      have counted := (coherent_after _).counted target one remembered
      refine ⟨counted.trans_le (derivations_le_perform _ last), fun given known => ?_⟩
      rw [get?_derived_perform, if_pos (Option.isSome_iff_ne_none.mpr offers)] at known
      cases known

end Registry

/-! ## Part 4 — any operations in a row -/

/-- The answer that a type deserves by the registrations and offers among some operations. -/
inductive Answers (target : Target Extra) (history : List (Operation Extra)) :
    Except ResolveError (Converter target.Value) → Prop
  /-- Whatever is registered is tried in its order. -/
  | registered (converter : Converter target.Value) (known : registered target history ≠ [])
      (tries : ∀ text, converter.convert text
        = firstOutcome (byPrecedence (registered target history)) text) :
      Answers target history (.ok converter)
  /-- The last offer is probed where nothing is registered. -/
  | derived (idiom : Idiom) (construct : Construct target.Value)
      (unknown : registered target history = [])
      (chosen : (lastOffer target history).bind choice = some (idiom, construct)) :
      Answers target history (.ok (ImplicitConverter.converter ⟨target.typeName, idiom, construct⟩))
  /-- There is no other way to a converter. -/
  | nothing (unknown : registered target history = [])
      (underivable : (lastOffer target history).bind choice = none) :
      Answers target history (.error (.noConverter target.typeName))

/-- An operation is the first since the last offer of its type that gives a derived converter. -/
structure GivesFirst (history : List (Operation Extra)) (operation : Operation Extra)
    (given : Derivation operation.target.Value) : Prop where
  gives : (after history).derivation operation.target operation = some given
  first : ∀ earlier, ¬ GivenSinceOffer operation.target history earlier

namespace Registry

theorem answers_after (history : List (Operation Extra)) (target : Target Extra) :
    Answers target history ((after history).answer target) := by
  have known := registrations_after history target
  rw [answer, derive?_after]
  by_cases unknown : registered target history = []
  · rw [explicit?_eq_none (known.trans (byPrecedence_eq_nil_iff.mpr unknown))]
    cases chosen : (lastOffer target history).bind choice with
    | none => exact .nothing unknown chosen
    | some pair => exact .derived pair.1 pair.2 unknown chosen
  · obtain ⟨converter, found, tries⟩ := explicit?_of_registrations known unknown
    rw [found]
    exact .registered converter unknown tries

theorem filterMap_about {Part : Type} {part : Operation Extra → Option Part}
    (others : ∀ operation, operation.target ≠ target → part operation = none)
    (history : List (Operation Extra)) :
    (history.filter fun operation => operation.target = target).filterMap part
      = history.filterMap part := by
  rw [List.filterMap_filter]
  congr 1
  funext operation
  by_cases about : operation.target = target
  · rw [if_pos (decide_eq_true about)]
  · rw [if_neg (by simpa using about), others operation about]

/-- What is done with other types has no part in an answer. -/
theorem answer_filter (history : List (Operation Extra)) (target : Target Extra) :
    (after (history.filter fun operation => operation.target = target)).answer target
      = (after history).answer target := by
  have sameRegistered : registered target (history.filter fun operation => operation.target = target)
      = registered target history :=
    filterMap_about (fun _ => Operation.registration?_of_ne) history
  have sameOffer : lastOffer target (history.filter fun operation => operation.target = target)
      = lastOffer target history :=
    congrArg List.getLast? (filterMap_about (fun _ => Operation.offer?_of_ne) history)
  refine answer_congr ?_ ?_
  · rw [registrations_after, registrations_after, sameRegistered]
  · rw [get?_idioms_after, get?_idioms_after, sameOffer]

/-- **Remembering shows in nothing but the log.** After any operations

* a type is answered by its registrations and its last offer, as by a registry that remembers
  nothing, and what was done with other types has no part in it;
* two derived converters that a type is given are one and the same if and only if the type has
  offered nothing in between, and `converter` gives them as they are;
* an operation logs a derivation if it is the first to give one since the last offer, and else
  nothing. -/
theorem converter_after (history : List (Operation Extra)) :
    (∀ target, Answers target history ((after history).converter target).result.1
      ∧ ((after history).forgetful.converter target).result.1
        = ((after history).converter target).result.1
      ∧ ((after (history.filter fun operation => operation.target = target)).converter
          target).result.1 = ((after history).converter target).result.1)
    ∧ (∀ target first one between second two,
        (after history).derivation target first = some one →
        (after (history ++ first :: between)).derivation target second = some two →
        (two = one ↔ ∀ later ∈ between, later.offer? target = none))
    ∧ (∀ target given, (after history).derivation target (.converter target) = some given →
        ((after history).converter target).result.1 = .ok given.implicit.converter)
    ∧ ∀ operation,
      (∀ given, GivesFirst history operation given →
        ((after history).perform operation).events = [discovery operation.target given])
      ∧ ((∀ given, ¬ GivesFirst history operation given) →
        ((after history).perform operation).events = []) := by
  refine ⟨fun target => ?_, fun target first one between second two givesOne givesTwo => ?_,
    fun target given => converter_of_derivation, fun operation => ⟨fun given first => ?_, fun none => ?_⟩⟩
  · rw [converter_eq_answer (coherent_after history), converter_eq_answer (coherent_after _),
      converter_eq_answer (coherent_forgetful _)]
    exact ⟨answers_after history target, rfl, answer_filter history target⟩
  · constructor
    · intro same later member
      by_contra offers
      have new := (derivesFrom_of_offered givesOne ⟨later, member, offers⟩).derivation givesTwo
      rw [same] at new
      exact Nat.not_succ_le_self _ new
    · intro quiet
      have remembered := (remembered_iff _ one).mpr ⟨history, first, between, rfl, givesOne, quiet⟩
      exact derivation_of_remembered remembered givesTwo
  · rw [events_of_forgotten ((forgotten_iff history).mpr first.first), first.gives]
    rfl
  · cases remembered : (after history).derived.get? operation.target with
    | some derivation => exact events_of_remembered remembered
    | none =>
      have first := (forgotten_iff history).mp remembered
      rw [events_of_forgotten remembered]
      cases gives : (after history).derivation operation.target operation with
      | none => rfl
      | some given => exact absurd ⟨gives, first⟩ (none given)

/-- A derived converter is used twice, then its type offers anew. -/
example (parse of : Construct Bool) :
    let offer : Operation Extra := .offer (.builtin .boolean) [(.parse, parse), (.of, of)]
    let ask : Operation Extra := .converter (.builtin .boolean)
    ((after [offer]).perform ask).events = [.converterDerived "bool" "of"]
      ∧ ((after [offer, ask]).perform ask).events = []
      ∧ ((after [offer, ask, offer]).perform ask).events = [.converterDerived "bool" "of"] :=
  ⟨rfl, rfl, rfl⟩

end Registry

end LayeredConfig.Conversion
