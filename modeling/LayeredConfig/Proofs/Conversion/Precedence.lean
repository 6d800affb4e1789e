/-
**The order in which registered converters are tried.**

Converters are registered one after the other, each with a priority. They are tried from the highest
priority down, and the latest first among equal ones (`byPrecedence`). The first that gives a value
or refuses the text decides (`firstOutcome`).

* `insertRegistration_byPrecedence`: one registration more goes to its place in this order;
* `firstOf_eq`: trying converters is looking for the first outcome that is not absence;
* `convert_registerAll`: what a type converts a text to after any registrations.
-/

import LayeredConfig.Conversion.Registry
import LayeredConfig.Proofs.Sorting.Stable

namespace LayeredConfig.Conversion

open LayeredConfig.Resolve LayeredConfig.Sorting

variable {Value : Type}

/-! ## Part 1 — the order of registrations -/

/-- Registrations, of which later ones stand behind earlier ones, in the order in which they are
tried. -/
def byPrecedence (registrations : List (Registration Value)) : List (Registration Value) :=
  byRank Registration.priority registrations.reverse

theorem mem_insertRegistration (new other : Registration Value)
    (ordered : List (Registration Value)) :
    other ∈ insertRegistration new ordered ↔ other = new ∨ other ∈ ordered := by
  induction ordered with
  | nil => simp [insertRegistration]
  | cons first rest hypothesis =>
    by_cases here : first.priority ≤ new.priority
    · rw [insertRegistration, if_pos here, List.mem_cons]
    · rw [insertRegistration, if_neg here, List.mem_cons, List.mem_cons, hypothesis]
      exact or_left_comm

theorem descending_insertRegistration (new : Registration Value)
    {ordered : List (Registration Value)}
    (descending : Descending Registration.priority ordered) :
    Descending Registration.priority (insertRegistration new ordered) := by
  induction ordered with
  | nil => exact List.pairwise_singleton _ _
  | cons first rest hypothesis =>
    obtain ⟨below, inside⟩ := List.pairwise_cons.mp descending
    by_cases here : first.priority ≤ new.priority
    · rw [insertRegistration, if_pos here]
      refine List.pairwise_cons.mpr ⟨fun other member => ?_, descending⟩
      rcases List.mem_cons.mp member with rfl | later
      · exact here
      · exact (below other later).trans here
    · rw [insertRegistration, if_neg here]
      refine List.pairwise_cons.mpr ⟨fun other member => ?_, hypothesis inside⟩
      rcases (mem_insertRegistration new other rest).mp member with rfl | later
      · exact (lt_of_not_ge here).le
      · exact below other later

/-- Among those of its priority a registration comes to stand in front. -/
theorem filter_insertRegistration (new : Registration Value) (ordered : List (Registration Value))
    (level : Int) :
    (insertRegistration new ordered).filter (·.priority = level)
      = (new :: ordered).filter (·.priority = level) := by
  induction ordered with
  | nil => rfl
  | cons first rest hypothesis =>
    by_cases here : first.priority ≤ new.priority
    · rw [insertRegistration, if_pos here]
    · rw [insertRegistration, if_neg here]
      by_cases atLevel : first.priority = level
      · have other : ¬ new.priority = level := by omega
        simp only [List.filter_cons, atLevel, other, decide_true, decide_false, Bool.false_eq_true,
          if_true, if_false] at hypothesis ⊢
        rw [hypothesis]
      · simp only [List.filter_cons, atLevel, decide_false, Bool.false_eq_true, if_false]
        rw [hypothesis, List.filter_cons]

/-- **A new registration goes to its place in the order.** -/
theorem insertRegistration_byPrecedence (new : Registration Value)
    (registrations : List (Registration Value)) :
    insertRegistration new (byPrecedence registrations) = byPrecedence (registrations ++ [new]) := by
  refine (byRank_eq Registration.priority ?_ fun level => ?_).symm
  · exact descending_insertRegistration new (descending_byRank _ _)
  · rw [filter_insertRegistration, List.reverse_append, List.reverse_singleton,
      List.singleton_append, List.filter_cons, List.filter_cons, byPrecedence, filter_byRank]

theorem foldl_insertRegistration (known added : List (Registration Value)) :
    added.foldl (fun ordered new => insertRegistration new ordered) (byPrecedence known)
      = byPrecedence (known ++ added) := by
  induction added generalizing known with
  | nil => rw [List.append_nil, List.foldl_nil]
  | cons new rest hypothesis =>
    rw [List.foldl_cons, insertRegistration_byPrecedence, hypothesis, List.append_assoc,
      List.singleton_append]

theorem byPrecedence_singleton (registration : Registration Value) :
    byPrecedence [registration] = [registration] :=
  List.mergeSort_singleton registration

theorem byPrecedence_eq_nil_iff {registrations : List (Registration Value)} :
    byPrecedence registrations = [] ↔ registrations = [] := by
  rw [← List.length_eq_zero_iff, ← List.length_eq_zero_iff, byPrecedence, byRank,
    List.length_mergeSort, List.length_reverse]

/-! ## Part 2 — trying converters in order -/

/-- Whether a text stands for an absent value. -/
def isAbsence : Except ConversionError (Option Value) → Bool
  | .ok none => true
  | _ => false

/-- What some registrations make of a text: the first value or refusal, and absence if there is
neither. -/
def firstOutcome (registrations : List (Registration Value)) (text : String) :
    Except ConversionError (Option Value) :=
  let outcomes := registrations.map fun registration => registration.converter.convert text
  (outcomes.find? fun outcome => !isAbsence outcome).getD (.ok none)

theorem firstOf_eq (registrations : List (Registration Value)) (text : String) :
    Converter.firstOf (registrations.map Registration.converter) text
      = firstOutcome registrations text := by
  induction registrations with
  | nil => rfl
  | cons registration rest hypothesis =>
    rw [List.map_cons, Converter.firstOf, hypothesis, firstOutcome, firstOutcome, List.map_cons,
      List.find?_cons]
    rcases registration.converter.convert text with error | (_ | value)
    · rfl
    · rfl
    · rfl

theorem firstOutcome_singleton (registration : Registration Value) (text : String) :
    firstOutcome [registration] text = registration.converter.convert text := by
  unfold firstOutcome
  rcases outcome : registration.converter.convert text with error | (_ | value)
  · simp [outcome, isAbsence]
  · simp [outcome, isAbsence]
  · simp [outcome, isAbsence]

/-! ## Part 3 — what a registry answers -/

namespace Registry

variable {Extra : Type} [DecidableEq Extra] [Extension Extra] {registry : Registry Extra}
variable {target : Target Extra}

theorem implicit_of_remembered {derivation : Derivation target.Value}
    (remembered : registry.derived.get? target = some derivation) :
    registry.implicit target = ⟨[], some derivation, registry⟩ := by
  unfold implicit
  rw [remembered]
  rfl

theorem implicit_of_underivable (forgotten : registry.derived.get? target = none)
    (underivable : registry.derive? target = none) :
    registry.implicit target = ⟨[], none, registry⟩ := by
  unfold implicit
  rw [forgotten, underivable]
  rfl

theorem implicit_of_derivable {implicit : ImplicitConverter target.Value}
    (forgotten : registry.derived.get? target = none)
    (derivable : registry.derive? target = some implicit) :
    registry.implicit target
      = ⟨[.converterDerived target.typeName implicit.idiom.name],
          some ⟨registry.derivations, implicit⟩,
          { registry with
            derived := registry.derived.set target ⟨registry.derivations, implicit⟩
            derivations := registry.derivations + 1 }⟩ := by
  unfold Registry.implicit
  rw [forgotten, derivable]
  rfl

theorem supply?_of_explicit? {converter : Converter target.Value}
    (found : registry.explicit? target = some converter) :
    registry.supply? target = ⟨[], some (.registered converter), registry⟩ := by
  unfold supply?
  rw [found]
  rfl

theorem supply?_of_implicit (nothing : registry.explicit? target = none) :
    registry.supply? target
      = ⟨(registry.implicit target).events, (registry.implicit target).result.1.map .derived,
          (registry.implicit target).result.2⟩ := by
  unfold supply?
  rw [nothing]
  exact congrArg (Log.Logged.mk · _) (List.append_nil _)

theorem converter_eq (registry : Registry Extra) (target : Target Extra) :
    registry.converter target
      = ⟨(registry.supply? target).events,
          (registry.supply? target).result.1.elim (.error (.noConverter target.typeName))
            fun supply => .ok supply.converter,
          (registry.supply? target).result.2⟩ := by
  show (registry.supply? target >>= _) = _
  rcases registry.supply? target with ⟨events, supply | none, after⟩
  · exact congrArg (Log.Logged.mk · _) (List.append_nil _)
  · exact congrArg (Log.Logged.mk · _) (List.append_nil _)

/-- **What is registered for a type is one converter that tries all of it.** -/
theorem explicit?_of_registrations {registrations : List (Registration target.Value)}
    (known : registry.registrations target = byPrecedence registrations)
    (some : registrations ≠ []) :
    ∃ converter, registry.explicit? target = .some converter
      ∧ ∀ text, converter.convert text = firstOutcome (byPrecedence registrations) text := by
  have nonempty : byPrecedence registrations ≠ [] := fun none => some (byPrecedence_eq_nil_iff.mp none)
  unfold explicit?
  rw [known]
  match ordered : byPrecedence registrations with
  | [] => exact absurd ordered nonempty
  | [single] => exact ⟨single.converter, rfl, fun text => (firstOutcome_singleton single text).symm⟩
  | first :: second :: rest => exact ⟨_, rfl, firstOf_eq (first :: second :: rest)⟩

theorem explicit?_eq_none (nothing : registry.registrations target = []) :
    registry.explicit? target = none := by
  unfold explicit?
  rw [nothing]

/-! ### Registering -/

@[simp]
theorem registrations_register_self (registry : Registry Extra) (target : Target Extra)
    (converter : Converter target.Value) (priority : Int) :
    (registry.register target converter priority).registrations target
      = insertRegistration ⟨priority, converter⟩ (registry.registrations target) := by
  simp [registrations, register]

@[simp]
theorem registrations_register_of_ne (registry : Registry Extra) {target other : Target Extra}
    (converter : Converter target.Value) (priority : Int) (different : other ≠ target) :
    (registry.register target converter priority).registrations other
      = registry.registrations other := by
  simp [registrations, register, different]

/-- Converters registered for a type one after the other. -/
def registerAll (registry : Registry Extra) (target : Target Extra)
    (added : List (Registration target.Value)) : Registry Extra :=
  added.foldl (fun registry new => registry.register target new.converter new.priority) registry

theorem registrations_registerAll {known : List (Registration target.Value)}
    (start : registry.registrations target = byPrecedence known)
    (added : List (Registration target.Value)) :
    (registry.registerAll target added).registrations target = byPrecedence (known ++ added) := by
  rw [← foldl_insertRegistration, ← start]
  clear start
  induction added generalizing registry with
  | nil => rfl
  | cons new rest hypothesis =>
    rw [List.foldl_cons, ← registrations_register_self]
    exact hypothesis

/-- Registering changes nothing but what is registered. -/
theorem registerAll_frame (registry : Registry Extra) (target : Target Extra)
    (added : List (Registration target.Value)) :
    (registry.registerAll target added).idioms = registry.idioms
      ∧ (registry.registerAll target added).derived = registry.derived := by
  induction added generalizing registry with
  | nil => exact ⟨rfl, rfl⟩
  | cons new rest hypothesis => exact hypothesis (registry.register target new.converter new.priority)

/-! ### The registries to begin with -/

/-- What the registry that knows the built-in types has for a type. -/
def builtinRegistrations : (target : Target Extra) → List (Registration target.Value)
  | .builtin type => [⟨builtinPriority, Converter.builtin type⟩]
  | .extra _ => []

theorem registrations_empty (target : Target Extra) :
    (empty : Registry Extra).registrations target = byPrecedence [] :=
  (byPrecedence_eq_nil_iff.mpr rfl).symm

theorem registrations_registerBuiltins_of_ne (types : List Builtin) (registry : Registry Extra)
    (others : ∀ type ∈ types, target ≠ .builtin type) :
    (types.foldl registerBuiltin registry).registrations target = registry.registrations target := by
  induction types generalizing registry with
  | nil => rfl
  | cons type rest hypothesis =>
    rw [List.foldl_cons, hypothesis _ fun other member => others other (List.mem_cons_of_mem _ member)]
    exact registrations_register_of_ne registry _ _ (others type List.mem_cons_self)

theorem registrations_standard (target : Target Extra) :
    (standard : Registry Extra).registrations target = byPrecedence (builtinRegistrations target) := by
  cases target with
  | extra type =>
    have others : ∀ other ∈ Builtin.all, (.extra type : Target Extra) ≠ .builtin other :=
      fun _ _ same => nomatch same
    rw [standard, registrations_registerBuiltins_of_ne Builtin.all empty others]
    exact registrations_empty _
  | builtin type =>
    have listed : type ∈ Builtin.all := by
      cases type with
      | integer kind => cases kind <;> decide
      | _ => decide
    have once : Builtin.all.Nodup := by decide
    obtain ⟨before, after, split⟩ := List.append_of_mem listed
    rw [split] at once
    obtain ⟨-, behind, apart⟩ := List.nodup_append.mp once
    have notBefore : ∀ other ∈ before, (.builtin type : Target Extra) ≠ .builtin other := by
      intro other member same
      exact apart other member type List.mem_cons_self (Target.builtin.inj same).symm
    have notAfter : ∀ other ∈ after, (.builtin type : Target Extra) ≠ .builtin other := by
      intro other member same
      exact (List.nodup_cons.mp behind).1 (Target.builtin.inj same ▸ member)
    rw [standard, split, List.foldl_append, List.foldl_cons,
      registrations_registerBuiltins_of_ne after _ notAfter, registerBuiltin,
      registrations_register_self, registrations_registerBuiltins_of_ne before _ notBefore,
      registrations_empty]
    exact insertRegistration_byPrecedence ⟨builtinPriority, Converter.builtin type⟩ []

/-! ## Part 4 — any sequence of registrations -/

/-- What a type converts a text to if these are its registrations and nothing is derived. -/
def conversion (target : Target Extra) (registrations : List (Registration target.Value))
    (text : String) : Except ResolveError (Except ConversionError (Option target.Value)) :=
  if registrations.isEmpty then .error (.noConverter target.typeName)
  else .ok (firstOutcome (byPrecedence registrations) text)

theorem convert_of_registrations {registrations : List (Registration target.Value)}
    (known : registry.registrations target = byPrecedence registrations)
    (unoffered : registry.idioms.get? target = none)
    (forgotten : registry.derived.get? target = none) (text : String) :
    (registry.converter target).result.1.map (·.convert text)
      = conversion target registrations text := by
  rw [converter_eq]
  cases registrations with
  | nil =>
    have underivable : registry.derive? target = none := by
      unfold derive?
      rw [unoffered]
      rfl
    have nothing := explicit?_eq_none (known.trans (byPrecedence_eq_nil_iff.mpr rfl))
    rw [supply?_of_implicit nothing, implicit_of_underivable forgotten underivable]
    rfl
  | cons first rest =>
    obtain ⟨converter, found, converts⟩ := explicit?_of_registrations known (List.cons_ne_nil _ _)
    rw [supply?_of_explicit? found]
    exact congrArg Except.ok (converts text)

/-- **Registered converters are tried from the highest priority down, the latest first among equal
ones**, until one gives a value or refuses the text, whether the registry knew the built-in types or
not. A single one is given as it is. -/
theorem convert_registerAll (target : Target Extra) :
    (∀ added text, ((empty.registerAll target added).converter target).result.1.map (·.convert text)
      = conversion target added text)
    ∧ (∀ added text, ((standard.registerAll target added).converter target).result.1.map
        (·.convert text)
      = conversion target (builtinRegistrations target ++ added) text)
    ∧ ∀ single, ((empty.registerAll target [single]).converter target).result.1
      = .ok single.converter := by
  refine ⟨fun added text => ?_, fun added text => ?_, fun single => ?_⟩
  · have framed := registerAll_frame (empty : Registry Extra) target added
    refine convert_of_registrations (registrations_registerAll (registrations_empty target) added) ?_
      ?_ text
    · rw [framed.1]
      rfl
    · rw [framed.2]
      rfl
  · have framed := registerAll_frame (standard : Registry Extra) target added
    refine convert_of_registrations (registrations_registerAll (registrations_standard target) added)
      ?_ ?_ text
    · rw [framed.1]
      rfl
    · rw [framed.2]
      rfl
  · have known := registrations_registerAll (registrations_empty target) [single]
    rw [List.nil_append, byPrecedence_singleton] at known
    have found : (empty.registerAll target [single]).explicit? target = some single.converter := by
      unfold explicit?
      rw [known]
    rw [converter_eq, supply?_of_explicit? found]
    rfl

end Registry

end LayeredConfig.Conversion
