/-
**Blanks around a text are all that trimming takes away.**

* `exists_padding`: a text is its trimmed form between blanks;
* `trimmed_padded`: and whatever blanks stand around a text, its trimmed form is the same.

So trimming twice is trimming once (`trimmed_trimmed`), a text without blanks stays as it is
(`trimmed_of_unblanked`), and nothing is left of a text of blanks only (`trimmed_eq_nil_iff`).
-/

import LayeredConfig.Text.Blank
import Mathlib.Data.List.DropRight
import Mathlib.Tactic.Common

namespace LayeredConfig.Text

/-- A text of blanks only. -/
def Blanks (text : List Char) : Prop := ∀ character ∈ text, isBlank character = true

instance (text : List Char) : Decidable (Blanks text) :=
  decidable_of_iff (text.all isBlank = true) List.all_eq_true

theorem withoutLeadingBlanks_append {before : List Char} (blank : Blanks before) (text : List Char) :
    withoutLeadingBlanks (before ++ text) = withoutLeadingBlanks text :=
  List.dropWhile_append_of_pos blank

theorem withoutTrailingBlanks_append (text : List Char) {after : List Char} (blank : Blanks after) :
    withoutTrailingBlanks (text ++ after) = withoutTrailingBlanks text := by
  unfold withoutTrailingBlanks
  rw [List.reverse_append, List.dropWhile_append_of_pos]
  intro character member
  exact blank character (List.mem_reverse.mp member)

theorem trimmed_padded {before after : List Char} (blankBefore : Blanks before)
    (blankAfter : Blanks after) (text : List Char) :
    trimmed (before ++ text ++ after) = trimmed text := by
  unfold trimmed
  rw [List.append_assoc, withoutLeadingBlanks_append blankBefore]
  -- Of a text of blanks nothing is left to which the blanks behind it could be compared.
  by_cases empty : withoutLeadingBlanks text = []
  · have blank : Blanks text := List.dropWhile_eq_nil_iff.mp empty
    have nothing : withoutLeadingBlanks after = [] := List.dropWhile_eq_nil_iff.mpr blankAfter
    rw [withoutLeadingBlanks_append blank, nothing, empty]
  · have kept : withoutLeadingBlanks (text ++ after) = withoutLeadingBlanks text ++ after := by
      unfold withoutLeadingBlanks at empty ⊢
      rw [List.dropWhile_append, if_neg (by simpa using empty)]
    rw [kept, withoutTrailingBlanks_append _ blankAfter]

/-- Nothing is taken away from a text without blanks. -/
theorem trimmed_of_unblanked {text : List Char}
    (unblanked : ∀ character ∈ text, isBlank character = false) : trimmed text = text := by
  have leading : ∀ {text : List Char}, (∀ character ∈ text, isBlank character = false) →
      withoutLeadingBlanks text = text := by
    intro text unblanked
    cases text with
    | nil => rfl
    | cons first rest =>
      have here := unblanked first List.mem_cons_self
      exact List.dropWhile_cons_of_neg (by simp [here])
  have trailing : withoutLeadingBlanks text.reverse = text.reverse :=
    leading fun character member => unblanked character (List.mem_reverse.mp member)
  unfold trimmed withoutTrailingBlanks
  rw [leading unblanked]
  exact (congrArg List.reverse trailing).trans (List.reverse_reverse text)

theorem isBlank_of_isDigit {character : Char} (digit : character.isDigit = true) :
    isBlank character = false := by
  have range : 48 ≤ character.toNat ∧ character.toNat ≤ 57 := by
    simpa [Char.isDigit, UInt32.le_iff_toNat_le] using digit
  simp only [isBlank, Bool.or_eq_false_iff, Bool.and_eq_false_iff, decide_eq_false_iff_not,
    beq_eq_false_iff_ne]
  omega

/-- A text with blanks around it. -/
def Padded (text padded : List Char) : Prop :=
  ∃ before after, Blanks before ∧ Blanks after ∧ padded = before ++ text ++ after

theorem Padded.trimmed_eq {text padded : List Char} (around : Padded text padded) :
    trimmed padded = trimmed text := by
  obtain ⟨before, after, blankBefore, blankAfter, rfl⟩ := around
  exact trimmed_padded blankBefore blankAfter text

theorem exists_padding (text : List Char) :
    ∃ before after, Blanks before ∧ Blanks after ∧ text = before ++ trimmed text ++ after := by
  let inner := withoutLeadingBlanks text
  refine ⟨text.takeWhile isBlank, inner.rtakeWhile isBlank, ?_, ?_, ?_⟩
  · intro character member
    exact List.mem_takeWhile_imp member
  · intro character member
    exact List.mem_rtakeWhile_imp member
  · have outer : text.takeWhile isBlank ++ inner = text := List.takeWhile_append_dropWhile
    have ending : trimmed text ++ inner.rtakeWhile isBlank = inner :=
      List.rdropWhile_append_rtakeWhile
    rw [List.append_assoc, ending, outer]

theorem trimmed_trimmed (text : List Char) : trimmed (trimmed text) = trimmed text := by
  obtain ⟨before, after, blankBefore, blankAfter, padded⟩ := exists_padding text
  calc trimmed (trimmed text) = trimmed (before ++ trimmed text ++ after) :=
        (trimmed_padded blankBefore blankAfter _).symm
    _ = trimmed text := by rw [← padded]

/-- Nothing is left of a text exactly if it is blank. -/
theorem trimmed_eq_nil_iff {text : List Char} : trimmed text = [] ↔ Blanks text := by
  constructor
  · intro nothing
    obtain ⟨before, after, blankBefore, blankAfter, padded⟩ := exists_padding text
    rw [padded, nothing, List.append_nil]
    intro character member
    exact (List.mem_append.mp member).elim (blankBefore character) (blankAfter character)
  · intro blank
    have bare : Blanks [] := nofun
    have alone : trimmed (text ++ [] ++ []) = [] := trimmed_padded blank bare []
    rwa [List.append_nil, List.append_nil] at alone

theorem toList_trim (text : String) : (trim text).toList = trimmed text.toList :=
  String.toList_ofList

theorem trim_padded {before after : String} (blankBefore : Blanks before.toList)
    (blankAfter : Blanks after.toList) (text : String) :
    trim (before ++ text ++ after) = trim text := by
  unfold trim
  rw [String.toList_append, String.toList_append, trimmed_padded blankBefore blankAfter]

theorem trim_trim (text : String) : trim (trim text) = trim text := by
  rw [← String.toList_inj, toList_trim, toList_trim, trimmed_trimmed]

theorem trim_eq_empty_iff {text : String} : trim text = "" ↔ trimmed text.toList = [] := by
  rw [← toList_trim, String.toList_eq_nil_iff]

end LayeredConfig.Text
