/-
**Lists of integers are read back in full or not at all.**

Decimal texts hold neither separators nor blanks, so between separators each of them is an element by
itself, and blanks around it do not show. The one converter that is registered reads what is written
for a number of the range, and refuses a number beyond it together with the list:

* `split_of_padded`: decimal texts are the elements of the text in which they stand between blanks;
* `convertList_of_integers`: numbers of the range become the list of them;
* `run_withConverter_of_single`: a single registration is the converter of its type;
* `integers_of_written`: required and optional lists, and single numbers.
-/

import LayeredConfig.Proofs.Conversion.Builtin
import LayeredConfig.Proofs.Conversion.Precedence
import LayeredConfig.Proofs.Resolve.Masking
import LayeredConfig.Proofs.Resolve.Optional
import LayeredConfig.Proofs.Text.EscapedList

set_option linter.unusedSectionVars false

namespace LayeredConfig.Resolve

open LayeredConfig.Conversion LayeredConfig.Lookup LayeredConfig.Number LayeredConfig.Source
open LayeredConfig.Text

/-! ## Part 1 — elements -/

variable {kind : IntegerKind} {value : Int} {decimal : List Char}

theorem encodeElement_of_decimal (written : DecimalText value decimal) :
    EscapedList.encodeElement decimal = decimal := by
  refine EscapedList.encodeElement_of_plain fun character member => ?_
  rintro (rfl | rfl)
  · rcases written.isDigit_or_sign _ member with digit | same | same <;> contradiction
  · rcases written.isDigit_or_sign _ member with digit | same | same <;> contradiction

/-- **Decimal texts are the elements of the text in which they stand between blanks.** -/
theorem split_of_padded {texts written : List (List Char)} (nonempty : texts ≠ [])
    (decimal : ∀ text ∈ texts, ∃ value, DecimalText value text)
    (padded : List.Forall₂ Padded texts written) :
    EscapedList.split (String.ofList (joinWith ',' written)) = texts.map String.ofList := by
  have writes : List.Forall₂ EscapedList.Writes (texts.map String.ofList) written := by
    rw [List.forall₂_map_left_iff]
    refine List.Forall₂.imp ?_ ((List.forall₂_and_left texts written).mpr ⟨decimal, padded⟩)
    rintro text around ⟨⟨value, written⟩, before, after, blankBefore, blankAfter, same⟩
    refine ⟨before, after, blankBefore, blankAfter, ?_⟩
    rw [String.toList_ofList, encodeElement_of_decimal written, same]
  rw [EscapedList.split_joinWith (mt List.map_eq_nil_iff.mp nonempty) writes, List.map_map]
  refine List.map_congr_left fun text member => ?_
  obtain ⟨value, written⟩ := decimal text member
  rw [Function.comp_apply, trim, String.toList_ofList, trimmed_of_decimal written]

/-- So are the texts that are written for numbers. -/
theorem split_of_write {integers : List (Integer kind)} {written : List (List Char)}
    (nonempty : integers ≠ []) (padded : List.Forall₂ Padded (integers.map Integer.write) written) :
    EscapedList.split (String.ofList (joinWith ',' written))
      = integers.map fun integer => String.ofList integer.write := by
  have decimal : ∀ text ∈ integers.map Integer.write, ∃ value, DecimalText value text := by
    intro text member
    obtain ⟨integer, -, rfl⟩ := List.mem_map.mp member
    exact ⟨_, integer.decimal_write⟩
  rw [split_of_padded (mt List.map_eq_nil_iff.mp nonempty) decimal padded, List.map_map]
  rfl

/-- The blank text has no decimal text as an element. -/
theorem ne_empty_of_split {texts : List (List Char)} {text : String}
    (elements : EscapedList.split text = texts.map String.ofList) (member : decimal ∈ texts)
    (written : DecimalText value decimal) : text ≠ "" := by
  rintro rfl
  have blank : EscapedList.split "" = [""] := rfl
  have inside := List.mem_map_of_mem (f := String.ofList) member
  rw [← elements, blank, List.mem_singleton] at inside
  exact written.nonempty (String.ofList_eq_empty_iff.mp inside)

/-! ## Part 2 — lists -/

theorem convertList_of_integers {integers : List (Integer kind)} {text : String}
    (nonempty : integers ≠ [])
    (elements : EscapedList.split text = integers.map fun integer => String.ofList integer.write) :
    convertList (Converter.builtin (.integer kind)) .skip text = .ok (some integers) := by
  have reads : ∀ integer : Integer kind,
      (Converter.builtin (.integer kind)).convert (String.ofList integer.write)
        = .ok (some integer) := by
    intro integer
    apply convert_integer_of_write
    rw [String.toList_ofList, trimmed_of_decimal integer.decimal_write]
  have usable : Usable (Converter.builtin (.integer kind)) (EscapedList.split text) := by
    rw [elements]
    constructor
    · intro item member
      obtain ⟨integer, -, rfl⟩ := List.mem_map.mp member
      rintro ⟨error, refused⟩
      exact nomatch (reads integer).symm.trans refused
    · obtain ⟨first, rest, rfl⟩ := List.exists_cons_of_ne_nil nonempty
      refine ⟨_, List.mem_cons_self, fun absent => ?_⟩
      exact nomatch (reads first).symm.trans absent
  have values : (EscapedList.split text).filterMap (Converter.builtin (.integer kind)).value?
      = integers := by
    rw [elements, List.filterMap_map]
    refine (List.filterMap_congr fun integer _ => ?_).trans List.filterMap_some
    simp only [Function.comp_apply, Converter.value?, reads]
  have collects := Collects.skipped usable
  rw [values] at collects
  exact convertList_of_collects collects

/-! ## Part 3 — configurations -/

namespace Config

variable {Memory Extra : Type} [Extension Extra] [DecidableEq Extra]
variable {config : Config (StateM Memory) Extra} {scope : Scope} {memory after : Memory}
variable {name : String} {found : ConfigValue}

/-- **A single registration is the converter of its type**, and nothing is learnt from asking for it. -/
theorem run_withConverter_of_single {target : Target Extra} {Value : Type}
    {registration : Registration target.Value}
    (alone : config.converters.registrations target = [registration])
    (next : Converter target.Value → StateM Memory (Except ResolveError Value)) :
    (config.withConverter target next).run memory
      = (⟨[], ((next registration.converter).run memory).1, config⟩,
          ((next registration.converter).run memory).2) := by
  have single : config.converters.explicit? target = some registration.converter := by
    unfold Registry.explicit?
    rw [alone]
  unfold withConverter
  rw [Registry.converter_eq, Registry.supply?_of_explicit? single]
  rfl

theorem run_valueWith_of_found {Value : Type} (converter : Converter Value)
    (looked : (config.configValue scope name).run memory = (.ok (some found), after)) :
    (config.valueWith scope converter name).run memory
      = (settlePresent name found.value (converter.convert found.value), after) := by
  rw [run_configValue] at looked
  obtain ⟨located, memory⟩ := Prod.mk.inj looked
  rw [run_valueWith, located, memory]
  rfl

theorem run_optionalValueWith_of_found {Value : Type} (converter : Converter Value)
    (looked : (config.configValue scope name).run memory = (.ok (some found), after)) :
    (config.optionalValueWith scope converter name).run memory
      = (relaxed (settlePresent name found.value (converter.convert found.value)), after) := by
  rw [run_configValue] at looked
  obtain ⟨located, memory⟩ := Prod.mk.inj looked
  rw [run_optionalValueWith, located, memory]
  rfl

/-- **Integers are read back in full or not at all.** Let a lookup find decimal texts with blanks around
them and separators between them. If the texts are those of numbers of the range, then the required
and the optional list are these numbers, and a single one is the required value. If any of the numbers
is outside the range, then both lists are refused. -/
theorem integers_of_written
    (alone : config.converters.registrations (.builtin (.integer kind))
      = Registry.builtinRegistrations (.builtin (.integer kind)))
    (looked : (config.configValue scope name).run memory = (.ok (some found), after)) :
    (∀ (integers : List (Integer kind)) (written : List (List Char)), integers ≠ [] →
      List.Forall₂ Padded (integers.map Integer.write) written →
      found.value = String.ofList (joinWith ',' written) →
      (config.values scope (.builtin (.integer kind)) name).run memory
          = (⟨[], .ok integers, config⟩, after)
        ∧ (config.optionalValues scope (.builtin (.integer kind)) name).run memory
          = (⟨[], .ok (some integers), config⟩, after)
        ∧ ∀ integer, integers = [integer] →
          (config.value scope (.builtin (.integer kind)) name).run memory
            = (⟨[], .ok integer, config⟩, after))
    ∧ ∀ texts written : List (List Char), (∀ text ∈ texts, ∃ value, DecimalText value text) →
      List.Forall₂ Padded texts written → found.value = String.ofList (joinWith ',' written) →
      (∃ text ∈ texts, ∃ value, DecimalText value text
        ∧ (value < -(kind.depth : Int) ∨ kind.height < value)) →
      ∃ error, (config.values scope (.builtin (.integer kind)) name).run memory
          = (⟨[], .error (.conversion name found.value error), config⟩, after)
        ∧ (config.optionalValues scope (.builtin (.integer kind)) name).run memory
          = (⟨[], .error (.conversion name found.value error), config⟩, after) := by
  let element : Converter (Integer kind) := Converter.builtin (.integer kind)
  have values : (config.values scope (.builtin (.integer kind)) name).run memory
      = (⟨[], settlePresent name found.value (convertList element .skip found.value), config⟩,
          after) := by
    rw [Config.values, run_withConverter_of_single alone, valuesWith, run_valueWith_of_found _ looked]
    rfl
  have optional : (config.optionalValues scope (.builtin (.integer kind)) name).run memory
      = (⟨[], relaxed (settlePresent name found.value (convertList element .skip found.value)),
          config⟩, after) := by
    rw [Config.optionalValues, run_withConverter_of_single alone, optionalValuesWith,
      run_optionalValueWith_of_found _ looked]
    rfl
  have single : (config.value scope (.builtin (.integer kind)) name).run memory
      = (⟨[], settlePresent name found.value (element.convert found.value), config⟩, after) := by
    rw [Config.value, run_withConverter_of_single alone, run_valueWith_of_found _ looked]
  refine ⟨fun integers written nonempty padded whole => ?_,
    fun texts written decimal padded whole => ?_⟩
  · have elements := split_of_write nonempty padded
    rw [← whole] at elements
    rw [values, optional, single, convertList_of_integers nonempty elements]
    refine ⟨rfl, rfl, ?_⟩
    rintro integer rfl
    obtain ⟨around, _, blanks, nothing, rfl⟩ := List.forall₂_cons_left_iff.mp padded
    cases nothing
    have read : trimmed found.value.toList = integer.write := by
      rw [whole, String.toList_ofList]
      exact blanks.trimmed_eq.trans (trimmed_of_decimal integer.decimal_write)
    rw [convert_integer_of_write read]
    rfl
  · rintro ⟨text, member, value, isDecimal, outside⟩
    have elements : EscapedList.split found.value = texts.map String.ofList :=
      whole ▸ split_of_padded (List.ne_nil_of_mem member) decimal padded
    have refuses : element.Refuses (String.ofList text) := by
      refine refuses_integer_of_outside isDecimal outside ?_
      rw [String.toList_ofList, trimmed_of_decimal isDecimal]
    obtain ⟨error, refused⟩ :=
      convertList_of_refused .skip (elements ▸ List.mem_map_of_mem member) refuses
    have present := ne_empty_of_split elements member isDecimal
    refine ⟨error, ?_, ?_⟩
    · rw [values, refused]
      rfl
    · rw [optional, refused, settlePresent, relaxed, if_neg present]

/-- A list of three numbers of eight bits, one of them the lowest there is, and a list with the first
number that is too high. -/
def sampleLists : MapSource :=
  ⟨"base", 100, [("beyond", "0,+128"), ("levels", "\u2003-128, 7\t,127")]⟩

def sampleListed : Config (StateM Unit) Empty where
  sources := ⟨[⟨.owned 0, sampleLists.toSource⟩]⟩
  chain := ⟨[]⟩
  converters := .standard
  profiles := []

theorem registrations_sampleListed :
    sampleListed.converters.registrations (.builtin (.integer .i8))
      = Registry.builtinRegistrations (.builtin (.integer .i8)) :=
  (Registry.registrations_standard _).trans (byPrecedence_singleton _)

theorem integers_of_written_sample :
    let integer : Target Empty := .builtin (.integer .i8)
    let lowest : Integer .i8 := ⟨-128, by decide, by decide⟩
    let seven : Integer .i8 := ⟨7, by decide, by decide⟩
    let highest : Integer .i8 := ⟨127, by decide, by decide⟩
    (sampleListed.configValue .outermost "levels").run ()
        = (.ok (some ⟨"levels", "\u2003-128, 7\t,127", "base", 100⟩), ())
      ∧ (sampleListed.values .outermost integer "levels").run ()
        = (⟨[], .ok [lowest, seven, highest], sampleListed⟩, ())
      ∧ (sampleListed.optionalValues .outermost integer "levels").run ()
        = (⟨[], .ok (some [lowest, seven, highest]), sampleListed⟩, ())
      ∧ ∃ error, (sampleListed.values .outermost integer "beyond").run ()
        = (⟨[], .error (.conversion "beyond" "0,+128" error), sampleListed⟩, ()) := by
  intro integer lowest seven highest
  have levels : (sampleListed.configValue .outermost "levels").run ()
      = (.ok (some ⟨"levels", "\u2003-128, 7\t,127", "base", 100⟩), ()) := rfl
  have beyond : (sampleListed.configValue .outermost "beyond").run ()
      = (.ok (some ⟨"beyond", "0,+128", "base", 100⟩), ()) := rfl
  have padded : List.Forall₂ Padded ([lowest, seven, highest].map Integer.write)
      [['\u2003', '-', '1', '2', '8'], [' ', '7', '\t'], ['1', '2', '7']] :=
    .cons ⟨['\u2003'], [], by decide, by decide, by decide +kernel⟩
      (.cons ⟨[' '], ['\t'], by decide, by decide, by decide +kernel⟩
        (.cons ⟨[], [], by decide, by decide, by decide +kernel⟩ .nil))
  have zero : DecimalText (Nat.ofDigitChars 10 ['0'] 0) ['0'] := .unsigned ⟨by decide, by simp⟩
  have high : DecimalText (Nat.ofDigitChars 10 ['1', '2', '8'] 0) ['+', '1', '2', '8'] :=
    .positive ⟨by decide, by simp⟩
  have decimal : ∀ text ∈ [['0'], ['+', '1', '2', '8']], ∃ value, DecimalText value text :=
    List.forall_mem_cons.mpr ⟨⟨_, zero⟩, List.forall_mem_singleton.mpr ⟨_, high⟩⟩
  obtain ⟨values, optional, -⟩ := (integers_of_written registrations_sampleListed levels).1
    [lowest, seven, highest] _ (List.cons_ne_nil _ _) padded (by decide +kernel)
  obtain ⟨error, refused, -⟩ := (integers_of_written registrations_sampleListed beyond).2
    _ [['0'], ['+', '1', '2', '8']] decimal
    (.cons ⟨[], [], nofun, nofun, rfl⟩ (.cons ⟨[], [], nofun, nofun, rfl⟩ .nil)) (by decide +kernel)
    ⟨_, List.mem_cons_of_mem _ List.mem_cons_self, _, high, .inr (by decide)⟩
  exact ⟨levels, values, optional, error, refused⟩

end Config

end LayeredConfig.Resolve
