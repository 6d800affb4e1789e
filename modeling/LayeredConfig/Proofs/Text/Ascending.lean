/-
**Names in ascending order, and entries of which the last one counts.**

* `pairwise_ascending`, `mem_ascending`: names that were put in order ascend strictly, and are the same
  names;
* `lookup_entriesOf`: of the pairs of a name the last one gives the entry.
-/

import LayeredConfig.Text.Ascending
import Mathlib.Data.List.Induction
import Mathlib.Data.String.Basic

namespace LayeredConfig.Text

variable {name other : String} {names : List String}

/-! ## Part 1 — names -/

theorem mem_insertName : other ∈ insertName name names ↔ other = name ∨ other ∈ names := by
  induction names with
  | nil => exact List.mem_singleton.trans (or_iff_left List.not_mem_nil).symm
  | cons first rest hypothesis =>
    rw [insertName]
    split
    next same => rw [same, List.mem_cons, or_self_left]
    next =>
      split
      next => exact List.mem_cons
      next => rw [List.mem_cons, hypothesis, List.mem_cons, or_left_comm]

theorem pairwise_insertName (name : String) (ordered : names.Pairwise (· < ·)) :
    (insertName name names).Pairwise (· < ·) := by
  induction names with
  | nil => exact List.pairwise_singleton _ _
  | cons first rest hypothesis =>
    obtain ⟨below, later⟩ := List.pairwise_cons.mp ordered
    rw [insertName]
    split
    next => exact ordered
    next different =>
      split
      next less =>
        refine List.pairwise_cons.mpr ⟨fun other member => ?_, ordered⟩
        rcases List.mem_cons.mp member with rfl | inside
        · exact less
        · exact less.trans (below other inside)
      next notLess =>
        refine List.pairwise_cons.mpr ⟨fun other member => ?_, hypothesis later⟩
        rcases mem_insertName.mp member with rfl | inside
        · exact lt_of_le_of_ne (not_lt.mp notLess) (Ne.symm different)
        · exact below other inside

theorem mem_ascending : name ∈ ascending names ↔ name ∈ names := by
  induction names with
  | nil => exact Iff.rfl
  | cons first rest hypothesis =>
    rw [ascending, List.foldr_cons, ← ascending, mem_insertName, hypothesis, List.mem_cons]

/-- **Names that were put in order ascend strictly**, so that each occurs once. -/
theorem pairwise_ascending (names : List String) : (ascending names).Pairwise (· < ·) := by
  induction names with
  | nil => exact .nil
  | cons first rest hypothesis => exact pairwise_insertName first hypothesis

/-! ## Part 2 — entries -/

variable {Value : Type}

theorem lookup_cons_eq_ite (entry : String × Value) (rest : List (String × Value)) (asked : String) :
    (entry :: rest).lookup asked = if asked = entry.1 then some entry.2 else rest.lookup asked := by
  rw [List.lookup_cons]
  by_cases same : asked = entry.1
  · rw [beq_iff_eq.mpr same, if_pos same]
  · rw [beq_false_of_ne same, if_neg same]

/-- Setting an entry changes what is found under its name and nothing else. -/
theorem lookup_setEntry (name : String) (value : Value) (entries : List (String × Value))
    (asked : String) :
    (setEntry name value entries).lookup asked
      = if asked = name then some value else entries.lookup asked := by
  induction entries with
  | nil => exact lookup_cons_eq_ite (name, value) [] asked
  | cons entry rest hypothesis =>
    obtain ⟨other, old⟩ := entry
    rw [setEntry]
    split
    next known =>
      subst known
      simp only [lookup_cons_eq_ite]
      split <;> rfl
    next different =>
      split
      next => exact lookup_cons_eq_ite (name, value) _ asked
      next =>
        rw [lookup_cons_eq_ite, lookup_cons_eq_ite, hypothesis]
        by_cases same : asked = name
        · rw [if_neg (same ▸ different), if_pos same, if_pos same]
        · rw [if_neg same, if_neg same]

/-- **Of the pairs of a name the last one gives the entry.** -/
theorem lookup_entriesOf (pairs : List (String × Value)) (name : String) :
    (entriesOf pairs).lookup name = pairs.reverse.lookup name := by
  induction pairs using List.reverseRecOn with
  | nil => rfl
  | append_singleton pairs pair hypothesis =>
    rw [entriesOf, List.foldl_append, ← entriesOf, List.foldl_cons, List.foldl_nil, lookup_setEntry,
      hypothesis, List.reverse_append, List.reverse_singleton, List.singleton_append,
      lookup_cons_eq_ite]

end LayeredConfig.Text
