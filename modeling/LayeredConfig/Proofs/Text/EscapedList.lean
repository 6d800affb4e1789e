/-
**Lists that are written with escapes are read back.**

An element is written with an escape before each comma and each backslash, and with any blanks
around that (`Writes`). Reading goes through a written element and puts its text in front of what
it makes of the rest (`Spells`), so an element cannot end inside an escape of what follows:

* `Spells.append`, `spells_encodeElement`, `spells_blanks`: the parts of a written element;
* `pieces_joinWith`: between separators each text is read by itself;
* `split_written`: trimmed elements are read back however they are written, and so are the elements
  of every text.
-/

import LayeredConfig.Proofs.Text.Separated
import LayeredConfig.Proofs.Text.Trimming
import LayeredConfig.Text.EscapedList
import Mathlib.Data.List.Forall2

namespace LayeredConfig.Text.EscapedList

/-! ## Part 1 — texts that are read through -/

/-- Reading goes through a text and has then read a part of an element. -/
def Spells (part written : List Char) : Prop :=
  ∀ rest, pieces (written ++ rest) = part.foldr prepend (pieces rest)

theorem foldr_prepend (part first : List Char) (others : List (List Char)) :
    part.foldr prepend (first :: others) = (part ++ first) :: others := by
  induction part with
  | nil => rfl
  | cons character part hypothesis => rw [List.foldr_cons, hypothesis, prepend, List.cons_append]

theorem pieces_plain {character : Char} (unescaped : character ≠ '\\') (inside : character ≠ ',')
    (rest : List Char) : pieces (character :: rest) = prepend character (pieces rest) := by
  rw [pieces]
  · exact fun _ same => absurd same unescaped
  · exact fun _ same => absurd same unescaped
  · exact fun _ _ same => absurd same unescaped
  · exact fun same => absurd same inside

namespace Spells

variable {first second firstWritten secondWritten : List Char}

theorem nil : Spells [] [] := fun _ => rfl

theorem append (start : Spells first firstWritten) (behind : Spells second secondWritten) :
    Spells (first ++ second) (firstWritten ++ secondWritten) := by
  intro rest
  rw [List.append_assoc, start, behind, List.foldr_append]

/-- An escaped character is the character. -/
theorem escaped {character : Char} (needed : character = ',' ∨ character = '\\') :
    Spells [character] ['\\', character] := by
  intro rest
  rcases needed with rfl | rfl
  · rfl
  · rfl

theorem plain {character : Char} (needless : ¬(character = ',' ∨ character = '\\')) :
    Spells [character] [character] := by
  intro rest
  rw [not_or] at needless
  exact pieces_plain needless.2 needless.1 rest

/-- At the end of a text. -/
theorem pieces_eq (spells : Spells first firstWritten) : pieces firstWritten = [first] := by
  have whole := spells []
  rwa [List.append_nil, pieces, foldr_prepend, List.append_nil] at whole

/-- Before a separator. -/
theorem pieces_separated (spells : Spells first firstWritten) (rest : List Char) :
    pieces (firstWritten ++ ',' :: rest) = first :: pieces rest := by
  rw [spells, pieces, foldr_prepend, List.append_nil]

end Spells

theorem spells_encodeElement (element : List Char) : Spells element (encodeElement element) := by
  induction element with
  | nil => exact .nil
  | cons character rest hypothesis =>
    have head : Spells [character]
        (if character = ',' ∨ character = '\\' then ['\\', character] else [character]) := by
      split
      next needed => exact .escaped needed
      next needless => exact .plain needless
    exact head.append hypothesis

/-- An element without separators and escapes is written as it is. -/
theorem encodeElement_of_plain {element : List Char}
    (plain : ∀ character ∈ element, ¬(character = ',' ∨ character = '\\')) :
    encodeElement element = element := by
  rw [encodeElement, List.flatMap_congr fun character member => if_neg (plain character member)]
  exact List.flatMap_singleton' element

theorem spells_blanks {blanks : List Char} (blank : Blanks blanks) : Spells blanks blanks := by
  induction blanks with
  | nil => exact .nil
  | cons character rest hypothesis =>
    have needless : ¬(character = ',' ∨ character = '\\') := by
      have here := blank character List.mem_cons_self
      rintro (rfl | rfl) <;> exact absurd here (by decide)
    have later := hypothesis fun character member => blank character (List.mem_cons_of_mem _ member)
    exact (Spells.plain needless).append later

/-! ## Part 2 — written lists -/

/-- A way to write an element. -/
def Writes (element : String) (written : List Char) : Prop :=
  ∃ before after, Blanks before ∧ Blanks after
    ∧ written = before ++ encodeElement element.toList ++ after

/-- **Between separators each text is read by itself.** -/
theorem pieces_joinWith {parts written : List (List Char)} (spelled : List.Forall₂ Spells parts written)
    (nonempty : parts ≠ []) : pieces (joinWith ',' written) = parts := by
  induction spelled with
  | nil => exact absurd rfl nonempty
  | @cons part text parts written head rest hypothesis =>
    cases rest with
    | nil => exact head.pieces_eq
    | cons second others =>
      rw [joinWith, head.pieces_separated, hypothesis (List.cons_ne_nil _ _)]

/-- However an element is written, what is read has it between blanks. -/
theorem Writes.spells {element : String} {written : List Char} (writes : Writes element written) :
    ∃ part, Spells part written ∧ trimmed part = trimmed element.toList := by
  obtain ⟨before, after, blankBefore, blankAfter, rfl⟩ := writes
  refine ⟨before ++ element.toList ++ after, ?_, trimmed_padded blankBefore blankAfter _⟩
  exact ((spells_blanks blankBefore).append (spells_encodeElement _)).append (spells_blanks blankAfter)

theorem split_joinWith {elements : List String} {written : List (List Char)}
    (nonempty : elements ≠ []) (writes : List.Forall₂ Writes elements written) :
    split (String.ofList (joinWith ',' written)) = elements.map trim := by
  have read : ∃ parts, List.Forall₂ Spells parts written
      ∧ parts.map trimmed = elements.map fun element => trimmed element.toList := by
    clear nonempty
    induction writes with
    | nil => exact ⟨[], .nil, rfl⟩
    | cons head _ hypothesis =>
      obtain ⟨part, spells, same⟩ := head.spells
      obtain ⟨parts, spelled, others⟩ := hypothesis
      exact ⟨part :: parts, .cons spells spelled, by simp [same, others]⟩
  obtain ⟨parts, spelled, same⟩ := read
  have present : parts ≠ [] := by
    rintro rfl
    exact nonempty (List.map_eq_nil_iff.mp same.symm)
  have strings := congrArg (List.map String.ofList) same
  rw [List.map_map, List.map_map] at strings
  rw [split, String.toList_ofList, pieces_joinWith spelled present]
  exact strings

theorem pieces_ne_nil (text : List Char) : pieces text ≠ [] := by
  fun_induction pieces text with
  | case1 => exact List.cons_ne_nil _ _
  | case2 | case3 | case4 | case6 => exact prepend_ne_nil _ _
  | case5 => exact List.cons_ne_nil _ _

/-- The elements of a text are trimmed. -/
theorem map_trim_split (text : String) : (split text).map trim = split text := by
  rw [split, List.map_map]
  refine List.map_congr_left fun piece _ => ?_
  show trim (String.ofList (trimmed piece)) = String.ofList (trimmed piece)
  rw [trim, String.toList_ofList, trimmed_trimmed]

theorem forall₂_writes_join (elements : List String) :
    List.Forall₂ Writes elements (elements.map fun element => encodeElement element.toList) := by
  induction elements with
  | nil => exact .nil
  | cons element rest hypothesis =>
    exact .cons ⟨[], [], nofun, nofun, by simp⟩ hypothesis

/-! ## Part 3 — round trips -/

/-- **Written lists are read back.** Trimmed elements come back from all their written forms, whatever
blanks stand around them; and the elements of a text come back from all forms in which they are
written again, the plainest one among these. -/
theorem split_written :
    (∀ (elements : List String) (written : List (List Char)), elements ≠ [] →
      (∀ element ∈ elements, trim element = element) → List.Forall₂ Writes elements written →
      split (String.ofList (joinWith ',' written)) = elements)
    ∧ (∀ (text : String) (written : List (List Char)), List.Forall₂ Writes (split text) written →
      split (String.ofList (joinWith ',' written)) = split text)
    ∧ ∀ text : String, split (join (split text)) = split text := by
  have again : ∀ (text : String) (written : List (List Char)),
      List.Forall₂ Writes (split text) written →
      split (String.ofList (joinWith ',' written)) = split text := by
    intro text written writes
    have nonempty : split text ≠ [] := by
      intro none
      exact pieces_ne_nil _ (List.map_eq_nil_iff.mp none)
    rw [split_joinWith nonempty writes, map_trim_split]
  refine ⟨?_, again, ?_⟩
  · intro elements written nonempty trimmed writes
    rw [split_joinWith nonempty writes]
    exact (List.map_congr_left trimmed).trans (List.map_id' elements)
  · intro text
    exact again text _ (forall₂_writes_join _)

/-- Elements that hold separators, end in a backslash or are empty. -/
def sampleElements : List String := ["a, b", "c\\", "", "\\,"]

/-- These elements as they may be written. -/
def sampleWritten : List (List Char) :=
  [" a\\, b\t".toList, "c\\\\ ".toList, "  ".toList, "\\\\\\,".toList]

/-- A text with backslashes that escape nothing, and its elements written again. -/
def sampleText : String := "x\\y , \\"

def sampleRewritten : List (List Char) := ["x\\\\y".toList, "\\\\\n".toList]

theorem split_written_sample :
    (sampleElements ≠ [] ∧ (∀ element ∈ sampleElements, trim element = element)
      ∧ List.Forall₂ Writes sampleElements sampleWritten
      ∧ split " a\\, b\t,c\\\\ ,  ,\\\\\\," = sampleElements)
    ∧ split sampleText = ["x\\y", "\\"] ∧ List.Forall₂ Writes (split sampleText) sampleRewritten
    ∧ split "x\\\\y,\\\\\n" = split sampleText ∧ split (join (split sampleText)) = split sampleText := by
  obtain ⟨readBack, readAgain, rejoined⟩ := split_written
  have nonempty : sampleElements ≠ [] := List.cons_ne_nil _ _
  have trimmed : ∀ element ∈ sampleElements, trim element = element := by decide +kernel
  have writes : List.Forall₂ Writes sampleElements sampleWritten :=
    .cons ⟨[' '], ['\t'], by decide, by decide, by decide +kernel⟩
      (.cons ⟨[], [' '], by decide, by decide, by decide +kernel⟩
        (.cons ⟨[' ', ' '], [], by decide, by decide, by decide +kernel⟩
          (.cons ⟨[], [], by decide, by decide, by decide +kernel⟩ .nil)))
  have elements : split sampleText = ["x\\y", "\\"] := by decide +kernel
  have rewrites : List.Forall₂ Writes (split sampleText) sampleRewritten := by
    rw [elements]
    exact .cons ⟨[], [], by decide, by decide, by decide +kernel⟩
      (.cons ⟨[], ['\n'], by decide, by decide, by decide +kernel⟩ .nil)
  have first : String.ofList (joinWith ',' sampleWritten) = " a\\, b\t,c\\\\ ,  ,\\\\\\," := by
    decide +kernel
  have second : String.ofList (joinWith ',' sampleRewritten) = "x\\\\y,\\\\\n" := by decide +kernel
  rw [← first, ← second]
  exact ⟨⟨nonempty, trimmed, writes, readBack _ _ nonempty trimmed writes⟩, elements, rewrites,
    readAgain _ _ rewrites, rejoined sampleText⟩

end LayeredConfig.Text.EscapedList
