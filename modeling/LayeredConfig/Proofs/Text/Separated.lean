/-
**Cutting a text and joining its pieces undo each other.**

* `not_mem_of_mem_cutAt`: no piece holds the separator;
* `cutAt_append_separator`: two texts with a separator between them have the pieces of both;
* `joinWith_cutAt`: the join of the pieces of a text is the text;
* `cutAt_joinWith`: and pieces without separators are the pieces of their join.
-/

import LayeredConfig.Text.Separated
import Mathlib.Tactic.Common

namespace LayeredConfig.Text

variable {separator : Char}

theorem prepend_ne_nil (character : Char) (parts : List (List Char)) : prepend character parts ≠ [] := by
  cases parts <;> exact List.cons_ne_nil _ _

theorem mem_prepend {character : Char} {parts : List (List Char)} {piece : List Char}
    (member : piece ∈ prepend character parts) :
    piece ∈ parts ∨ ∃ rest, piece = character :: rest ∧ (rest = [] ∨ rest ∈ parts) := by
  cases parts with
  | nil =>
    rw [prepend, List.mem_singleton] at member
    exact .inr ⟨[], member, .inl rfl⟩
  | cons first others =>
    rw [prepend, List.mem_cons] at member
    rcases member with rfl | later
    · exact .inr ⟨first, rfl, .inr List.mem_cons_self⟩
    · exact .inl (List.mem_cons_of_mem first later)

theorem not_mem_of_mem_cutAt {text piece : List Char} (member : piece ∈ cutAt separator text) :
    separator ∉ piece := by
  induction text generalizing piece with
  | nil =>
    rw [cutAt, List.mem_singleton] at member
    rw [member]
    exact List.not_mem_nil
  | cons character text hypothesis =>
    rw [cutAt] at member
    split at member
    next =>
      rcases List.mem_cons.mp member with rfl | later
      · exact List.not_mem_nil
      · exact hypothesis later
    next different =>
      rcases mem_prepend member with whole | ⟨rest, rfl, begun⟩
      · exact hypothesis whole
      · rw [List.mem_cons, not_or]
        refine ⟨Ne.symm different, ?_⟩
        rcases begun with rfl | inside
        · exact List.not_mem_nil
        · exact hypothesis inside

theorem cutAt_ne_nil (text : List Char) : cutAt separator text ≠ [] := by
  cases text with
  | nil => exact List.cons_ne_nil _ _
  | cons character text =>
    rw [cutAt]
    split
    · exact List.cons_ne_nil _ _
    · exact prepend_ne_nil _ _

theorem prepend_append (character : Char) {parts : List (List Char)} (nonempty : parts ≠ [])
    (others : List (List Char)) :
    prepend character (parts ++ others) = prepend character parts ++ others := by
  cases parts with
  | nil => exact absurd rfl nonempty
  | cons first parts => rfl

/-- **Two texts with a separator between them have the pieces of both.** -/
theorem cutAt_append_separator (first rest : List Char) :
    cutAt separator (first ++ separator :: rest)
      = cutAt separator first ++ cutAt separator rest := by
  induction first with
  | nil => exact if_pos rfl
  | cons character first hypothesis =>
    rw [List.cons_append, cutAt, cutAt, hypothesis]
    split
    · rfl
    · exact prepend_append character (cutAt_ne_nil first) _

theorem cutAt_of_not_mem {text : List Char} (whole : separator ∉ text) :
    cutAt separator text = [text] := by
  induction text with
  | nil => rfl
  | cons character text hypothesis =>
    rw [List.mem_cons, not_or] at whole
    rw [cutAt, if_neg (Ne.symm whole.1), hypothesis whole.2]
    rfl

theorem cutAt_append {first : List Char} (whole : separator ∉ first) (rest : List Char) :
    cutAt separator (first ++ separator :: rest) = first :: cutAt separator rest := by
  rw [cutAt_append_separator, cutAt_of_not_mem whole, List.singleton_append]

theorem joinWith_prepend {character : Char} {parts : List (List Char)} (nonempty : parts ≠ []) :
    joinWith separator (prepend character parts) = character :: joinWith separator parts := by
  match parts, nonempty with
  | [first], _ => rfl
  | first :: second :: others, _ => rfl

/-- **Cut pieces are joined again.** -/
theorem joinWith_cutAt (text : List Char) : joinWith separator (cutAt separator text) = text := by
  induction text with
  | nil => rfl
  | cons character text hypothesis =>
    have nonempty : cutAt separator text ≠ [] := cutAt_ne_nil text
    rw [cutAt]
    split
    next same =>
      obtain ⟨first, others, pieces⟩ := List.exists_cons_of_ne_nil nonempty
      rw [pieces] at hypothesis ⊢
      rw [joinWith, hypothesis, same, List.nil_append]
    next => rw [joinWith_prepend nonempty, hypothesis]

/-- **Joined pieces are cut apart again.** -/
theorem cutAt_joinWith {pieces : List (List Char)} (nonempty : pieces ≠ [])
    (whole : ∀ piece ∈ pieces, separator ∉ piece) :
    cutAt separator (joinWith separator pieces) = pieces := by
  induction pieces with
  | nil => exact absurd rfl nonempty
  | cons first others hypothesis =>
    obtain ⟨here, later⟩ := List.forall_mem_cons.mp whole
    cases others with
    | nil => exact cutAt_of_not_mem here
    | cons second others =>
      rw [joinWith, cutAt_append here, hypothesis (List.cons_ne_nil _ _) later]

/-- The join is empty if there is no piece, or one empty piece. -/
theorem joinWith_eq_nil_iff {pieces : List (List Char)} :
    joinWith separator pieces = [] ↔ pieces = [] ∨ pieces = [[]] := by
  match pieces with
  | [] => simp [joinWith]
  | [last] => simp [joinWith]
  | first :: second :: rest => simp [joinWith]

theorem intercalate_eq_joinWith (pieces : List (List Char)) :
    [separator].intercalate pieces = joinWith separator pieces := by
  induction pieces with
  | nil => rfl
  | cons first rest hypothesis =>
    cases rest with
    | nil => simp [joinWith]
    | cons second rest =>
      rw [joinWith, ← hypothesis]
      simp [List.intercalate]

end LayeredConfig.Text
