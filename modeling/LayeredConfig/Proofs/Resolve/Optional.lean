/-
**An optional value is the required one, relaxed.**

The converter of optional values hides absence and refused empty texts from the required lookup, and
what is missing after that is absent. Together this says the same about every property as the
required lookup does:

* `Required`: what a required value is, by the outcome of the lookup and the converter;
* `relaxed`: the optional value that goes with a required one;
* `absentIfMissing_settle`: the two steps of the optional lookup relax the required value;
* `optionalValueWith_relaxed`: so it is for values and lists, by whatever converter.
-/

import LayeredConfig.Resolve.Config
import Mathlib.Tactic.Common

set_option linter.unusedSectionVars false

namespace LayeredConfig.Resolve

open LayeredConfig.Conversion LayeredConfig.Lookup LayeredConfig.Source

variable {Value Gathered : Type} {name raw : String} {converter : Converter Value}

/-! ## Part 1 — required values -/

/-- What a required value has to be, by the outcome of the lookup and the converter. -/
structure Required (name : String) (converter : Converter Value)
    (looked : Except ResolveError (Option ConfigValue)) (required : Except ResolveError Value) :
    Prop where
  /-- The text that is there gives the value, or the empty text where there is none. -/
  ok_iff : ∀ value, required = .ok value ↔
    (∃ found, looked = .ok (some found) ∧ converter.convert found.value = .ok (some value))
      ∨ looked = .ok none ∧ converter.convert "" = .ok (some value)
  /-- Only a text that is there can be refused. -/
  conversion_iff : ∀ property raw error, required = .error (.conversion property raw error) ↔
    property = name ∧ ∃ found, looked = .ok (some found) ∧ raw = found.value
      ∧ converter.convert found.value = .error error
  /-- All else is missing, because of a reference exactly if the lookup failed. -/
  otherwise : (∃ value, required = .ok value)
    ∨ (∃ property raw error, required = .error (.conversion property raw error))
    ∨ ∃ unresolved, required = .error (.notFound name unresolved)
      ∧ (unresolved.isSome ↔ ∃ error, looked = .error error)
  /-- A failed lookup fails with the reference that it names. -/
  failed : ∀ error, looked = .error error → required = .error error

/-- What a chain answers for a property, with a failed reference as a missing property. -/
def located (name : String) (answered : Except ExpansionError (Option ConfigValue)) :
    Except ResolveError (Option ConfigValue) :=
  answered.mapError fun error => .notFound name (some error.reference)

namespace Config

theorem settlePresent_eq_ok_iff {outcome : Except ConversionError (Option Value)} {value : Value} :
    settlePresent name raw outcome = .ok value ↔ outcome = .ok (some value) := by
  rcases outcome with error | (_ | other) <;> simp [settlePresent]

theorem settleAbsent_eq_ok_iff {outcome : Except ConversionError (Option Value)} {value : Value} :
    settleAbsent name outcome = .ok value ↔ outcome = .ok (some value) := by
  rcases outcome with error | (_ | other) <;> simp [settleAbsent]

theorem settlePresent_eq_conversion_iff {outcome : Except ConversionError (Option Value)}
    {property text : String} {error : ConversionError} :
    settlePresent name raw outcome = .error (.conversion property text error)
      ↔ property = name ∧ text = raw ∧ outcome = .error error := by
  rcases outcome with other | (_ | value)
  · simp only [settlePresent, Except.error.injEq, ResolveError.conversion.injEq, eq_comm]
  · simp [settlePresent]
  · simp [settlePresent]

theorem settlePresent_cases (name raw : String) (outcome : Except ConversionError (Option Value)) :
    (∃ value, settlePresent name raw outcome = .ok value)
      ∨ (∃ error, settlePresent name raw outcome = .error (.conversion name raw error))
      ∨ settlePresent name raw outcome = .error (.notFound name none) := by
  rcases outcome with error | (_ | value)
  · exact .inr (.inl ⟨error, rfl⟩)
  · exact .inr (.inr rfl)
  · exact .inl ⟨value, rfl⟩

theorem settleAbsent_cases (name : String) (outcome : Except ConversionError (Option Value)) :
    (∃ value, settleAbsent name outcome = .ok value)
      ∨ settleAbsent name outcome = .error (.notFound name none) := by
  rcases outcome with error | (_ | value)
  · exact .inr rfl
  · exact .inr rfl
  · exact .inl ⟨value, rfl⟩

/-- **What a converter makes of a lookup is a required value.** -/
theorem required_settle (name : String) (converter : Converter Value)
    (answered : Except ExpansionError (Option ConfigValue)) :
    Required name converter (located name answered)
      (settle name converter (located name answered)) := by
  rcases answered with error | (_ | found)
  · refine ⟨fun value => by simp [located, Except.mapError, settle],
      fun property raw error => by simp [located, Except.mapError, settle], ?_, fun other failed => ?_⟩
    · exact .inr (.inr ⟨some error.reference, rfl, fun _ => ⟨_, rfl⟩, fun _ => rfl⟩)
    · rw [failed]
      rfl
  · show Required name converter (.ok none) (settleAbsent name (converter.convert ""))
    have settled := settleAbsent_cases name (converter.convert "")
    refine ⟨fun value => by simp [settleAbsent_eq_ok_iff], fun property raw error => ?_, ?_,
      fun _ => nofun⟩
    · rcases settled with ⟨value, settled⟩ | settled <;> simp [settled]
    · rcases settled with value | settled
      · exact .inl value
      · exact .inr (.inr ⟨none, settled, by simp⟩)
  · show Required name converter (.ok (some found))
      (settlePresent name found.value (converter.convert found.value))
    refine ⟨fun value => by simp [settlePresent_eq_ok_iff],
      fun property raw error => by simp [settlePresent_eq_conversion_iff], ?_, fun _ => nofun⟩
    rcases settlePresent_cases name found.value (converter.convert found.value) with
      value | ⟨error, settled⟩ | settled
    · exact .inl value
    · exact .inr (.inl ⟨name, found.value, error, settled⟩)
    · exact .inr (.inr ⟨none, settled, by simp⟩)

end Config

/-! ## Part 2 — optional values -/

/-- The optional value that goes with a required one: nothing if that is missing, or if it is an
empty text that was refused. -/
def relaxed : Except ResolveError Value → Except ResolveError (Option Value)
  | .ok value => .ok (some value)
  | .error (.notFound _ _) => .ok none
  | .error (.conversion name raw error) =>
    if raw = "" then .ok none else .error (.conversion name raw error)
  | .error (.noConverter typeName) => .error (.noConverter typeName)

namespace Config

theorem absentIfMissing_settlePresent (name raw : String) (converter : Converter Value) :
    absentIfMissing (settlePresent name raw (converter.optional.convert raw))
      = relaxed (settlePresent name raw (converter.convert raw)) := by
  unfold Converter.optional
  dsimp only
  rcases converter.convert raw with error | (_ | value)
  · by_cases empty : raw = ""
    · subst empty
      rfl
    · have nonempty : raw.isEmpty = false := by simpa using empty
      simp only [nonempty, settlePresent, relaxed, if_neg empty]
      rfl
  · rfl
  · rfl

theorem absentIfMissing_settleAbsent (name : String) (converter : Converter Value) :
    absentIfMissing (settleAbsent name (converter.optional.convert ""))
      = relaxed (settleAbsent name (converter.convert "")) := by
  unfold Converter.optional
  dsimp only
  rcases converter.convert "" with error | (_ | value)
  · rfl
  · rfl
  · rfl

/-- **Both steps of the optional lookup together relax the required value.** -/
theorem absentIfMissing_settle (name : String) (converter : Converter Value)
    (answered : Except ExpansionError (Option ConfigValue)) :
    absentIfMissing (settle name converter.optional (located name answered))
      = relaxed (settle name converter (located name answered)) := by
  rcases answered with error | (_ | found)
  · rfl
  · exact absentIfMissing_settleAbsent name converter
  · exact absentIfMissing_settlePresent name found.value converter

/-! ### Lists gathered in another form -/

theorem settle_map (name : String) (converter : Converter Value) (gather : Value → Gathered)
    (looked : Except ResolveError (Option ConfigValue)) :
    settle name (converter.map gather) looked = (settle name converter looked).map gather := by
  rcases looked with error | (_ | found)
  · rfl
  · unfold settle Converter.map
    dsimp only
    rcases converter.convert "" with error | (_ | value) <;> rfl
  · unfold settle Converter.map
    dsimp only
    rcases converter.convert found.value with error | (_ | value) <;> rfl

theorem relaxed_map (gather : Value → Gathered) (required : Except ResolveError Value) :
    relaxed (required.map gather) = (relaxed required).map (Option.map gather) := by
  rcases required with (⟨name, unresolved⟩ | ⟨name, raw, error⟩ | typeName) | value
  · rfl
  · by_cases empty : raw = ""
    · subst empty
      rfl
    · simp [Except.map, relaxed, empty]
  · rfl
  · rfl

/-! ## Part 3 — configurations -/

variable {Memory Extra : Type} [Extension Extra] [DecidableEq Extra]
variable (config : Config (StateM Memory) Extra) (scope : Scope) (memory : Memory)

/-- What the chain of a configuration answers for a property, and the memory afterwards. -/
def answered (name : String) : Except ExpansionError (Option ConfigValue) × Memory :=
  (config.chain.lookup scope config.sources name).run.run memory

theorem run_configValue (name : String) :
    (config.configValue scope name).run memory
      = (located name (config.answered scope memory name).1,
          (config.answered scope memory name).2) := by
  unfold configValue answered
  rw [StateT.run_bind]
  rcases (config.chain.lookup scope config.sources name).run.run memory with ⟨error | found, after⟩
  · rfl
  · rfl

theorem run_valueWith (converter : Converter Value) (name : String) :
    (config.valueWith scope converter name).run memory
      = (settle name converter (located name (config.answered scope memory name).1),
          (config.answered scope memory name).2) := by
  unfold valueWith
  rw [StateT.run_bind, run_configValue]
  rfl

theorem run_optionalValueWith (converter : Converter Value) (name : String) :
    (config.optionalValueWith scope converter name).run memory
      = (relaxed (settle name converter (located name (config.answered scope memory name).1)),
          (config.answered scope memory name).2) := by
  unfold optionalValueWith
  rw [StateT.run_bind, run_valueWith, ← absentIfMissing_settle]
  rfl

/-- **Required and optional values agree.** A required value is what the lookup and the converter
make it, and the optional one is that, relaxed; so it is for lists by any converter of elements, in
whatever form their elements are gathered. -/
theorem optionalValueWith_relaxed (name : String) :
    (∀ (Value : Type) (converter : Converter Value),
      Required name converter ((config.configValue scope name).run memory).1
          ((config.valueWith scope converter name).run memory).1
        ∧ ((config.optionalValueWith scope converter name).run memory).1
          = relaxed ((config.valueWith scope converter name).run memory).1)
    ∧ ∀ (Value Gathered : Type) (element : Converter Value) (gather : List Value → Gathered),
      Required name ((element.collection .skip).map gather)
          ((config.configValue scope name).run memory).1
          (((config.valuesWith scope element name).run memory).1.map gather)
        ∧ ((config.optionalValuesWith scope element name).run memory).1.map (Option.map gather)
          = relaxed (((config.valuesWith scope element name).run memory).1.map gather) := by
  refine ⟨fun Value converter => ?_, fun Value Gathered element gather => ?_⟩
  · rw [run_configValue, run_valueWith, run_optionalValueWith]
    exact ⟨required_settle name converter _, rfl⟩
  · rw [valuesWith, optionalValuesWith, run_configValue, run_valueWith, run_optionalValueWith,
      relaxed_map, ← settle_map]
    exact ⟨required_settle name _ _, rfl⟩

end Config

end LayeredConfig.Resolve
