/-
**What a registry knows after any use.**

A registry is taught and asked, one operation after the other. Its three tables follow from the
operations so far, type by type:

* `registrations_after`: the registrations of a type, in the order in which they are tried;
* `derive?_after`: what the last offer of a type makes, by the functions set last in it;
* `get?_derived_perform`: what is remembered after one operation, which is what the operation derived
  or found derived, unless the type has offered anew.
-/

import LayeredConfig.Proofs.Conversion.Precedence
import Mathlib.Data.List.Induction

namespace LayeredConfig.Conversion

open LayeredConfig.Log LayeredConfig.Resolve

variable {Extra : Type} [Extension Extra] {Value : Type}

/-! ## Part 1 — operations -/

/-- Something that is done with a registry. -/
inductive Operation (Extra : Type) [Extension Extra] where
  /-- Registers a converter. -/
  | register (target : Target Extra) (converter : Converter target.Value) (priority : Int)
  /-- Offers the functions that are set one after the other. -/
  | offer (target : Target Extra) (settings : List (Idiom × Construct target.Value))
  /-- Asks for the converter of a type. -/
  | converter (target : Target Extra)
  /-- Asks for the derived converter of a type. -/
  | implicit (target : Target Extra)
  /-- Asks for the converter of a descriptor. -/
  | restore (target : Target Extra) (descriptor : Descriptor)

/-- The type that an operation is about. -/
def Operation.target : Operation Extra → Target Extra
  | register target _ _ | offer target _ | converter target | implicit target | restore target _ =>
    target

/-- The offer that several settings make. -/
def Idioms.ofSettings (settings : List (Idiom × Construct Value)) : Idioms Value :=
  settings.foldl (fun idioms setting => idioms.set setting.1 setting.2) .empty

/-- The derived converter that is supplied. -/
def Supply.derivation? : Supply Value → Option (Derivation Value)
  | registered _ => none
  | derived derivation => some derivation

variable [DecidableEq Extra]

namespace Operation

/-- What an operation registers for a type. -/
def registration? (target : Target Extra) : Operation Extra → Option (Registration target.Value)
  | register asked new priority =>
    if same : asked = target then some ⟨priority, same ▸ new⟩ else none
  | _ => none

/-- What an operation offers for a type. -/
def offer? (target : Target Extra) :
    Operation Extra → Option (List (Idiom × Construct target.Value))
  | offer asked settings => if same : asked = target then some (same ▸ settings) else none
  | _ => none

/-- Whether an operation teaches nothing. -/
def Asks (operation : Operation Extra) : Prop :=
  ∀ target, operation.registration? target = none ∧ operation.offer? target = none

theorem registration?_of_ne {target : Target Extra} {operation : Operation Extra}
    (other : operation.target ≠ target) : operation.registration? target = none := by
  cases operation with
  | register asked new priority => exact dif_neg other
  | _ => rfl

theorem offer?_of_ne {target : Target Extra} {operation : Operation Extra}
    (other : operation.target ≠ target) : operation.offer? target = none := by
  cases operation with
  | offer asked settings => exact dif_neg other
  | _ => rfl

end Operation

namespace Registry

variable {registry : Registry Extra} {target : Target Extra}

/-- Carries an operation out. A descriptor is answered from the offers and changes nothing. -/
def perform (registry : Registry Extra) : Operation Extra → Logged (Registry Extra)
  | .register target converter priority => return registry.register target converter priority
  | .offer target settings => return registry.offer target (.ofSettings settings)
  | .converter target => return (← registry.converter target).2
  | .implicit target => return (← registry.implicit target).2
  | .restore _ _ => return registry

/-- The derived converter that an operation gives for a type, if it gives one. -/
def derivation (registry : Registry Extra) (target : Target Extra) :
    Operation Extra → Option (Derivation target.Value)
  | .converter asked =>
    if asked = target then (registry.supply? target).result.1.bind Supply.derivation? else none
  | .implicit asked => if asked = target then (registry.implicit target).result.1 else none
  | _ => none

theorem derivation_of_ne {operation : Operation Extra} (other : operation.target ≠ target) :
    registry.derivation target operation = none := by
  cases operation with
  | converter asked => exact if_neg other
  | implicit asked => exact if_neg other
  | _ => rfl

theorem derivation_implicit (registry : Registry Extra) (target : Target Extra) :
    registry.derivation target (.implicit target) = (registry.implicit target).result.1 :=
  if_pos rfl

theorem derivation_converter (registry : Registry Extra) (target : Target Extra) :
    registry.derivation target (.converter target)
      = (registry.supply? target).result.1.bind Supply.derivation? :=
  if_pos rfl

/-! ### Asking for a converter -/

theorem perform_implicit (registry : Registry Extra) (target : Target Extra) :
    registry.perform (.implicit target)
      = ⟨(registry.implicit target).events, (registry.implicit target).result.2⟩ :=
  congrArg (Logged.mk · _) (List.append_nil _)

theorem perform_converter (registry : Registry Extra) (target : Target Extra) :
    registry.perform (.converter target)
      = ⟨(registry.supply? target).events, (registry.supply? target).result.2⟩ := by
  show (registry.converter target >>= _) = _
  rw [converter_eq]
  exact congrArg (Logged.mk · _) (List.append_nil _)

/-- Asking for a converter is quiet where one is registered. -/
theorem perform_converter_of_registered {converter : Converter target.Value}
    (found : registry.explicit? target = some converter) :
    registry.perform (.converter target) = ⟨[], registry⟩
      ∧ registry.derivation target (.converter target) = none := by
  rw [perform_converter, derivation_converter, supply?_of_explicit? found]
  exact ⟨rfl, rfl⟩

/-- Asking for a converter is asking for the derived one where none is registered. -/
theorem perform_converter_of_unregistered (nothing : registry.explicit? target = none) :
    registry.perform (.converter target)
        = ⟨(registry.implicit target).events, (registry.implicit target).result.2⟩
      ∧ registry.derivation target (.converter target) = (registry.implicit target).result.1 := by
  rw [perform_converter, derivation_converter, supply?_of_implicit nothing]
  refine ⟨rfl, ?_⟩
  cases (registry.implicit target).result.1 <;> rfl

/-! ## Part 2 — what one operation does -/

/-- What an operation does to a registry: it teaches, it leaves everything as it is, or it derives a
converter that is not remembered. -/
inductive Performs (registry : Registry Extra) : Operation Extra → Logged (Registry Extra) → Prop
  | register (target : Target Extra) (converter : Converter target.Value) (priority : Int) :
      Performs registry (.register target converter priority)
        ⟨[], registry.register target converter priority⟩
  | offer (target : Target Extra) (settings : List (Idiom × Construct target.Value)) :
      Performs registry (.offer target settings) ⟨[], registry.offer target (.ofSettings settings)⟩
  | answer (operation : Operation Extra) (target : Target Extra)
      (about : operation.target = target) (asks : operation.Asks)
      (gives : ∀ derivation, registry.derivation target operation = some derivation →
        registry.derived.get? target = some derivation) :
      Performs registry operation ⟨[], registry⟩
  | derive (operation : Operation Extra) (target : Target Extra)
      (about : operation.target = target) (asks : operation.Asks)
      (implicit : ImplicitConverter target.Value)
      (forgotten : registry.derived.get? target = none)
      (derivable : registry.derive? target = some implicit)
      (gives : registry.derivation target operation = some ⟨registry.derivations, implicit⟩) :
      Performs registry operation
        ⟨[.converterDerived target.typeName implicit.idiom.name],
          { registry with
            derived := registry.derived.set target ⟨registry.derivations, implicit⟩
            derivations := registry.derivations + 1 }⟩

/-- An operation that asks for the derived converter. -/
theorem performs_of_asks_implicit {operation : Operation Extra} (about : operation.target = target)
    (asks : operation.Asks)
    (performed : registry.perform operation
      = ⟨(registry.implicit target).events, (registry.implicit target).result.2⟩)
    (gives : registry.derivation target operation = (registry.implicit target).result.1) :
    Performs registry operation (registry.perform operation) := by
  rw [performed]
  cases remembered : registry.derived.get? target with
  | some derivation =>
    rw [implicit_of_remembered remembered] at gives ⊢
    exact .answer operation target about asks fun other given =>
      remembered.trans (gives.symm.trans given)
  | none =>
    cases derivable : registry.derive? target with
    | none =>
      rw [implicit_of_underivable remembered derivable] at gives ⊢
      exact .answer operation target about asks fun other given =>
        absurd (gives.symm.trans given) (Option.some_ne_none other).symm
    | some implicit =>
      rw [implicit_of_derivable remembered derivable] at gives ⊢
      exact .derive operation target about asks implicit remembered derivable gives

/-- **What each operation does.** -/
theorem performs_perform (registry : Registry Extra) (operation : Operation Extra) :
    Performs registry operation (registry.perform operation) := by
  cases operation with
  | register target converter priority => exact .register target converter priority
  | offer target settings => exact .offer target settings
  | restore target descriptor =>
    exact .answer _ target rfl (fun _ => ⟨rfl, rfl⟩) fun derivation => nofun
  | implicit target =>
    exact performs_of_asks_implicit rfl (fun _ => ⟨rfl, rfl⟩) (perform_implicit registry target)
      (derivation_implicit registry target)
  | converter target =>
    have asks : (Operation.converter target).Asks := fun _ => ⟨rfl, rfl⟩
    cases found : registry.explicit? target with
    | none =>
      obtain ⟨performed, gives⟩ := perform_converter_of_unregistered found
      exact performs_of_asks_implicit rfl asks performed gives
    | some converter =>
      obtain ⟨performed, gives⟩ := perform_converter_of_registered found
      rw [performed]
      exact .answer _ target rfl asks fun derivation given =>
        absurd (gives.symm.trans given) (Option.some_ne_none derivation).symm

variable (registry) (operation : Operation Extra) (target)

theorem registrations_perform :
    (registry.perform operation).result.registrations target
      = (operation.registration? target).elim (registry.registrations target)
        (insertRegistration · (registry.registrations target)) := by
  have performs := performs_perform registry operation
  generalize registry.perform operation = performed at performs ⊢
  cases performs with
  | register asked converter priority =>
    by_cases same : asked = target
    · subst same
      simp [Operation.registration?]
    · simp [Operation.registration?, same, registrations_register_of_ne, Ne.symm same]
  | offer asked settings => rfl
  | answer _ asked about asks gives =>
    rw [(asks target).1]
    rfl
  | derive _ asked about asks implicit forgotten derivable gives =>
    rw [(asks target).1]
    rfl

theorem get?_idioms_perform :
    (registry.perform operation).result.idioms.get? target
      = ((operation.offer? target).map .ofSettings).or (registry.idioms.get? target) := by
  have performs := performs_perform registry operation
  generalize registry.perform operation = performed at performs ⊢
  cases performs with
  | register asked converter priority => rfl
  | offer asked settings =>
    by_cases same : asked = target
    · subst same
      simp [Operation.offer?, Registry.offer]
    · simp [Operation.offer?, Registry.offer, same, Ne.symm same]
  | answer _ asked about asks gives =>
    rw [(asks target).2]
    rfl
  | derive _ asked about asks implicit forgotten derivable gives =>
    rw [(asks target).2]
    rfl

/-- **What is remembered after an operation**: what it gave, else what was remembered before, and
nothing if it offers. -/
theorem get?_derived_perform :
    (registry.perform operation).result.derived.get? target
      = if (operation.offer? target).isSome then none
        else (registry.derivation target operation).or (registry.derived.get? target) := by
  have performs := performs_perform registry operation
  generalize registry.perform operation = performed at performs ⊢
  cases performs with
  | register asked converter priority => rfl
  | offer asked settings =>
    by_cases same : asked = target
    · subst same
      simp [Operation.offer?, Registry.offer]
    · simp [Operation.offer?, Registry.offer, same, Ne.symm same, derivation]
  | answer _ asked about asks gives =>
    rw [(asks target).2]
    by_cases same : asked = target
    · subst same
      cases given : registry.derivation asked operation with
      | none => rfl
      | some derivation => exact gives derivation given
    · rw [derivation_of_ne (about ▸ same)]
      rfl
  | derive _ asked about asks implicit forgotten derivable gives =>
    rw [(asks target).2]
    by_cases same : asked = target
    · subst same
      rw [gives]
      exact Table.get?_set_self _ _ _
    · rw [derivation_of_ne (about ▸ same)]
      exact Table.get?_set_of_ne _ _ (Ne.symm same)

end Registry

/-! ## Part 3 — any operations in a row -/

/-- The registrations of a type among some operations. -/
def registered (target : Target Extra) (history : List (Operation Extra)) :
    List (Registration target.Value) :=
  history.filterMap (Operation.registration? target)

/-- What a type offered last. -/
def lastOffer (target : Target Extra) (history : List (Operation Extra)) :
    Option (List (Idiom × Construct target.Value)) :=
  (history.filterMap (Operation.offer? target)).getLast?

/-- The function that is set last for an idiom. -/
def lastSet (settings : List (Idiom × Construct Value)) (idiom : Idiom) :
    Option (Construct Value) :=
  settings.reverse.lookup idiom

/-- The first idiom in the order of probing for which a function is set, with that function. -/
def choice (settings : List (Idiom × Construct Value)) : Option (Idiom × Construct Value) :=
  Idiom.probeOrder.findSome? fun idiom =>
    (lastSet settings idiom).map fun construct => (idiom, construct)

theorem slot_ofSettings (settings : List (Idiom × Construct Value)) (idiom : Idiom) :
    (Idioms.ofSettings settings).slot idiom = lastSet settings idiom := by
  induction settings using List.reverseRecOn with
  | nil => rfl
  | append_singleton settings setting hypothesis =>
    rw [lastSet, List.reverse_append, List.reverse_singleton, List.singleton_append, List.lookup_cons,
      ← lastSet, ← hypothesis, Idioms.ofSettings, List.foldl_append, ← Idioms.ofSettings]
    by_cases same : idiom = setting.1
    · subst same
      simp [Idioms.set]
    · simp [Idioms.set, same, beq_false_of_ne same]

theorem probe_ofSettings (settings : List (Idiom × Construct Value)) :
    (Idioms.ofSettings settings).probe = choice settings := by
  unfold Idioms.probe choice
  simp only [slot_ofSettings]

namespace Registry

/-- The registry that nothing was known to, after some operations. -/
def after (history : List (Operation Extra)) : Registry Extra :=
  history.foldl (fun registry operation => (registry.perform operation).result) empty

theorem after_append_singleton (history : List (Operation Extra)) (operation : Operation Extra) :
    after (history ++ [operation]) = ((after history).perform operation).result :=
  List.foldl_append ..

/-- The registry that knows the built-in types is one of these. -/
theorem after_registerBuiltins :
    after (Builtin.all.map fun type =>
        .register (.builtin type) (Converter.builtin type) builtinPriority)
      = (standard : Registry Extra) :=
  List.foldl_map ..

/-- **The registrations of a type after any operations.** -/
theorem registrations_after (history : List (Operation Extra)) (target : Target Extra) :
    (after history).registrations target = byPrecedence (registered target history) := by
  induction history using List.reverseRecOn with
  | nil => exact registrations_empty target
  | append_singleton history operation hypothesis =>
    rw [after_append_singleton, registrations_perform, hypothesis, registered, registered,
      List.filterMap_append]
    cases made : operation.registration? target with
    | none =>
      rw [List.filterMap_cons_none made, List.filterMap_nil, List.append_nil]
      rfl
    | some new =>
      rw [List.filterMap_cons_some made, List.filterMap_nil]
      exact insertRegistration_byPrecedence new _

theorem get?_idioms_after (history : List (Operation Extra)) (target : Target Extra) :
    (after history).idioms.get? target = (lastOffer target history).map .ofSettings := by
  induction history using List.reverseRecOn with
  | nil => rfl
  | append_singleton history operation hypothesis =>
    rw [after_append_singleton, get?_idioms_perform, hypothesis, lastOffer, lastOffer,
      List.filterMap_append, List.getLast?_append]
    cases made : operation.offer? target with
    | none =>
      rw [List.filterMap_cons_none made]
      rfl
    | some settings =>
      rw [List.filterMap_cons_some made]
      rfl

/-- **What the last offer of a type makes.** -/
theorem derive?_after (history : List (Operation Extra)) (target : Target Extra) :
    (after history).derive? target
      = ((lastOffer target history).bind choice).map fun chosen =>
        ⟨target.typeName, chosen.1, chosen.2⟩ := by
  unfold derive?
  rw [get?_idioms_after]
  cases lastOffer target history with
  | none => rfl
  | some settings =>
    show (Idioms.ofSettings settings).probe >>= _ = _
    rw [probe_ofSettings, Option.bind_some]
    cases choice settings with
    | none => rfl
    | some chosen => rfl

/-! ### What is remembered fits the offers -/

/-- A remembered converter is the one that the type offers now, and has been counted. -/
structure Coherent (registry : Registry Extra) : Prop where
  derivable : ∀ target derivation, registry.derived.get? target = some derivation →
    registry.derive? target = some derivation.implicit
  counted : ∀ target derivation, registry.derived.get? target = some derivation →
    derivation.serial < registry.derivations

theorem coherent_perform {registry : Registry Extra} (coherent : registry.Coherent)
    (operation : Operation Extra) : (registry.perform operation).result.Coherent := by
  have performs := performs_perform registry operation
  generalize registry.perform operation = performed at performs ⊢
  cases performs with
  | register asked converter priority => exact ⟨coherent.derivable, coherent.counted⟩
  | answer _ asked about asks gives => exact coherent
  | offer asked settings =>
    have others : ∀ target derivation,
        (registry.offer asked (.ofSettings settings)).derived.get? target = some derivation →
        target ≠ asked ∧ registry.derived.get? target = some derivation := by
      intro target derivation remembered
      by_cases same : target = asked
      · subst same
        simp [Registry.offer] at remembered
      · refine ⟨same, ?_⟩
        simpa [Registry.offer, same] using remembered
    refine ⟨fun target derivation remembered => ?_, fun target derivation remembered => ?_⟩
    · obtain ⟨other, before⟩ := others target derivation remembered
      have offered : (registry.offer asked (.ofSettings settings)).derive? target
          = registry.derive? target := by
        simp [derive?, Registry.offer, other]
      exact offered.trans (coherent.derivable target derivation before)
    · exact coherent.counted target derivation (others target derivation remembered).2
  | derive _ asked about asks implicit forgotten derivable gives =>
    have cases : ∀ target derivation,
        (registry.derived.set asked ⟨registry.derivations, implicit⟩).get? target = some derivation →
        (registry.derive? target = some derivation.implicit
          ∧ derivation.serial ≤ registry.derivations) := by
      intro target derivation remembered
      by_cases same : target = asked
      · subst same
        rw [Table.get?_set_self] at remembered
        cases remembered
        exact ⟨derivable, le_rfl⟩
      · rw [Table.get?_set_of_ne _ _ same] at remembered
        exact ⟨coherent.derivable target derivation remembered,
          (coherent.counted target derivation remembered).le⟩
    exact ⟨fun target derivation remembered => (cases target derivation remembered).1,
      fun target derivation remembered =>
        Nat.lt_succ_of_le (cases target derivation remembered).2⟩

theorem coherent_after (history : List (Operation Extra)) : (after history).Coherent := by
  induction history using List.reverseRecOn with
  | nil => exact ⟨fun _ _ => nofun, fun _ _ => nofun⟩
  | append_singleton history operation hypothesis =>
    rw [after_append_singleton]
    exact coherent_perform hypothesis operation

end Registry

end LayeredConfig.Conversion
