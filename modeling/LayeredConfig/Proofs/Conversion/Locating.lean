/-
**What the refusal of a list tells about the element that caused it.**

A refusal should name the element by its number and carry its text (`Locates`). For a refused element
it does both. For an absent element that is rejected it names the element and carries the text of the
whole list, and that is never an element:

* `length_add_length_pieces_le`: the pieces of a text and the separators between them fit into it;
* `split_eq_singleton_of_mem`: so a text with several elements is none of them;
* `refusal_of_collection`: a refusal locates an element exactly if an element is refused, and names the
  first one at fault in any case;
* `rejected_element_not_located`: three elements of which the second is absent.
-/

import LayeredConfig.Conversion.Builtin
import LayeredConfig.Proofs.Conversion.Elements
import LayeredConfig.Proofs.Text.EscapedList

namespace LayeredConfig.Text.EscapedList

/-! ## Part 1 — elements are shorter than their text -/

theorem length_prepend {parts : List (List Char)} (nonempty : parts ≠ []) (character : Char) :
    (prepend character parts).length = parts.length := by
  cases parts with
  | nil => exact absurd rfl nonempty
  | cons first others => rfl

/-- What bounds each piece together with the number of pieces bounds them one character further on. -/
theorem length_add_length_prepend_le {parts : List (List Char)} {bound : Nat} (nonempty : parts ≠ [])
    (bounded : ∀ piece ∈ parts, piece.length + parts.length ≤ bound) (character : Char) :
    ∀ piece ∈ prepend character parts,
      piece.length + (prepend character parts).length ≤ bound + 1 := by
  intro piece member
  rw [length_prepend nonempty]
  rcases mem_prepend member with whole | ⟨rest, rfl, begun⟩
  · have := bounded piece whole
    omega
  · obtain ⟨first, others, rfl⟩ := List.exists_cons_of_ne_nil nonempty
    rcases begun with rfl | inside
    · have := bounded first List.mem_cons_self
      rw [List.length_singleton]
      omega
    · have := bounded rest inside
      rw [List.length_cons]
      omega

/-- **Each piece, and a separator between each two pieces, fit into the text.** -/
theorem length_add_length_pieces_le (text : List Char) :
    ∀ piece ∈ pieces text, piece.length + (pieces text).length ≤ text.length + 1 := by
  fun_induction pieces text with
  | case1 => decide
  | case2 rest hypothesis | case3 rest hypothesis =>
    intro piece member
    have := length_add_length_prepend_le (pieces_ne_nil rest) hypothesis _ piece member
    rw [List.length_cons, List.length_cons]
    omega
  | case4 other rest _ _ hypothesis =>
    have inner := length_add_length_prepend_le (pieces_ne_nil rest) hypothesis other
    exact length_add_length_prepend_le (prepend_ne_nil _ _) inner '\\'
  | case5 rest hypothesis =>
    obtain ⟨first, others, pieces⟩ := List.exists_cons_of_ne_nil (pieces_ne_nil rest)
    rw [pieces] at hypothesis ⊢
    intro piece member
    rcases List.mem_cons.mp member with rfl | later
    · have := hypothesis first List.mem_cons_self
      simp only [List.length_cons, List.length_nil] at this ⊢
      omega
    · have := hypothesis piece later
      simp only [List.length_cons] at this ⊢
      omega
  | case6 character rest _ _ _ _ hypothesis =>
    exact length_add_length_prepend_le (pieces_ne_nil rest) hypothesis character

theorem length_trimmed_le (text : List Char) : (trimmed text).length ≤ text.length := by
  obtain ⟨before, after, _, _, padded⟩ := exists_padding text
  have lengths := congrArg List.length padded
  rw [List.length_append, List.length_append] at lengths
  omega

/-- **A text that is one of its elements has no others.** -/
theorem split_eq_singleton_of_mem {text : String} (member : text ∈ split text) :
    split text = [text] := by
  obtain ⟨piece, inside, same⟩ := List.mem_map.mp member
  have fits := length_add_length_pieces_le text.toList piece inside
  have shorter := length_trimmed_le piece
  have length : (trimmed piece).length = text.toList.length := by rw [← same, String.toList_ofList]
  have single : (split text).length = 1 := by
    have some := List.length_pos_of_mem inside
    rw [split, List.length_map]
    omega
  obtain ⟨only, alone⟩ := List.length_eq_one_iff.mp single
  rw [alone, List.mem_singleton] at member
  rw [alone, member]

end LayeredConfig.Text.EscapedList

namespace LayeredConfig.Conversion

open LayeredConfig.Text (EscapedList.split EscapedList.split_eq_singleton_of_mem)

/-! ## Part 2 — refusals and elements -/

/-- A detail begins with the number of an element. -/
def Names (detail : String) (position : Nat) : Prop :=
  ("element " ++ toString position).toList <+: detail.toList

/-- A refusal names an element of a text and carries its text. -/
structure Locates (text : String) (error : ConversionError) (position : Nat) : Prop where
  named : Names error.detail position
  carried : (EscapedList.split text)[position]? = some error.input

variable {Value : Type} {element : Converter Value} {nulls : NullHandling Value} {text : String}
variable {error : ConversionError}

theorem names_append (position : Nat) (ending : String) :
    Names ("element " ++ toString position ++ ending) position := by
  rw [Names, String.toList_append (s := "element " ++ toString position)]
  exact List.prefix_append _ _

theorem collects_of_error (refused : (element.collection nulls).convert text = .error error) :
    Collects element text nulls (.error error) := by
  obtain ⟨outcome, collects⟩ := exists_collects element text nulls
  have same : outcome = .error error := (convertList_of_collects collects).symm.trans refused
  rwa [same] at collects

/-- Where some elements are absent and others are not, the text is no element. -/
theorem not_mem_split_of_usable (usable : Usable element (EscapedList.split text)) {absent : String}
    (member : absent ∈ EscapedList.split text) (isAbsent : element.IsAbsent absent) :
    text ∉ EscapedList.split text := by
  intro itself
  have alone := EscapedList.split_eq_singleton_of_mem itself
  obtain ⟨_, present, there, notAbsent⟩ := usable
  rw [alone, List.mem_singleton] at member there
  rw [there, ← member] at notAbsent
  exact notAbsent isAbsent

/-- **The refusal of a list locates an element exactly if an element is refused.** In any case it names
the first element at fault. For a refused element it carries the text of the element, and for an
absent one that of the whole list. -/
theorem refusal_of_collection (refused : (element.collection nulls).convert text = .error error) :
    ((∃ position, Locates text error position)
      ↔ ∃ item ∈ EscapedList.split text, element.Refuses item)
    ∧ ∃ position item, (EscapedList.split text)[position]? = some item
      ∧ Names error.detail position
      ∧ (FirstAt element.Refuses (EscapedList.split text) position item ∧ error.input = item
        ∨ nulls = .reject ∧ FirstAt element.IsAbsent (EscapedList.split text) position item
          ∧ error.input = text ∧ text ∉ EscapedList.split text) := by
  cases collects_of_error refused with
  | @refused _ position item reason first because =>
    have named : Names ("element " ++ toString position ++ ": " ++ reason.detail) position := by
      rw [String.append_assoc]
      exact names_append position _
    refine ⟨iff_of_true ⟨position, named, first.here⟩ ⟨item, first.mem, first.holds⟩, ?_⟩
    exact ⟨position, item, first.here, named, .inl ⟨first, rfl⟩⟩
  | @rejected position item usable first =>
    have named : Names ("element " ++ toString position ++ " converted to null by converter "
        ++ element.name) position := by
      rw [String.append_assoc]
      exact names_append position _
    have noElement := not_mem_split_of_usable usable first.mem first.holds
    refine ⟨iff_of_false ?_ ?_, ?_⟩
    · rintro ⟨position, located⟩
      exact noElement (List.mem_of_getElem? located.carried)
    · rintro ⟨item, member, refuses⟩
      exact usable.accepted item member refuses
    · exact ⟨position, item, first.here, named, .inr ⟨rfl, first, rfl, noElement⟩⟩

/-- A list of numbers in which absent elements are rejected. -/
def sampleNumbers : Converter (List (Number.Integer .i32)) :=
  (Converter.builtin (.integer .i32)).collection .reject

/-- The third element is no number; the absent one before it does not show. -/
theorem refusal_of_collection_sample :
    let error : ConversionError :=
      ⟨"collection<i32>", "x", "element 2: invalid digit found in string",
        ["converter `i32` rejected `x`: invalid digit found in string",
          "invalid digit found in string"]⟩
    sampleNumbers.convert "1,, x" = .error error ∧ ∃ position, Locates "1,, x" error position := by
  intro error
  have refused : sampleNumbers.convert "1,, x" = .error error := by rfl
  have elements : EscapedList.split "1,, x" = ["1", "", "x"] := by decide +kernel
  refine ⟨refused, (refusal_of_collection refused).1.mpr ⟨"x", ?_, ?_⟩⟩
  · rw [elements]
    exact List.mem_of_getLast? rfl
  · exact ⟨_, rfl⟩

/-- **The refusal of an absent element does not locate it**: it names the second element and carries the
whole list. -/
theorem rejected_element_not_located :
    ∃ error, sampleNumbers.convert "1,,3" = .error error
      ∧ error.detail = "element 1 converted to null by converter i32" ∧ error.input = "1,,3"
      ∧ EscapedList.split "1,,3" = ["1", "", "3"] ∧ ¬ ∃ position, Locates "1,,3" error position := by
  have elements : EscapedList.split "1,,3" = ["1", "", "3"] := by decide +kernel
  refine ⟨_, rfl, rfl, rfl, elements, fun ⟨position, located⟩ => ?_⟩
  have inside := List.mem_of_getElem? located.carried
  rw [elements] at inside
  exact absurd inside (by decide)

end LayeredConfig.Conversion
