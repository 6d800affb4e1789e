/-
**A reference is closed by the first brace at which there are more braces than openings.**

The search for a closing brace counts the references that are open. Here its result is said without
that count, by the openings and the braces of a text. What stands before the closing brace has one
brace for each of its openings, and no part from its beginning has more (`Closes`):

* `closes_of_closing` and `matched_of_closing`: what the search has read when it ends;
* `isLeast_closing` and `not_overclosed_of_closing`: the same by positions;
* `closingAt_of_opens`: where a text closes all that it opens, each of its references is closed
  inside of it.
-/

import LayeredConfig.Proofs.Expression.Cost
import LayeredConfig.Proofs.Expression.Printing
import Mathlib.Data.List.Infix
import Mathlib.Order.Bounds.Basic

namespace LayeredConfig.Expression

variable {nesting : Nat} {character : Char} {text first second rest inner behind : List Char}

/-! ## Part 1 — openings and braces -/

/-- The number of openings in a text. -/
def openings (text : List Char) : Nat := text.tails.countP opens

theorem openings_nil : openings [] = 0 := rfl

theorem openings_cons (character : Char) (rest : List Char) :
    openings (character :: rest)
      = openings rest + if opens (character :: rest) = true then 1 else 0 := by
  rw [openings, List.tails_cons, List.countP_cons, openings]

theorem openings_opening (rest : List Char) :
    openings ('$' :: '{' :: rest) = openings rest + 1 := by
  rw [openings_cons, openings_cons]
  rfl

theorem openings_of_plain (plain : opens (character :: rest) = false) :
    openings (character :: rest) = openings rest := by
  rw [openings_cons, plain]
  rfl

theorem count_opening (rest : List Char) :
    ('$' :: '{' :: rest).count '}' = rest.count '}' := by
  rw [List.count_cons_of_ne (by decide), List.count_cons_of_ne (by decide)]

/-- Whether a text begins with an opening is up to its first two characters. -/
theorem opens_cons_append (apart : second.head? ≠ some '{') :
    opens (character :: (first ++ second)) = opens (character :: first) := by
  rw [Bool.eq_iff_iff, opens_iff, opens_iff]
  cases first with
  | nil =>
    cases second with
    | nil => rfl
    | cons next second =>
      have different : '{' ≠ next := fun same => apart (congrArg some same.symm)
      simp [List.cons_prefix_cons, different]
  | cons next first => simp [List.cons_prefix_cons]

/-- Openings are counted in parts, unless one is cut through. -/
theorem openings_append (apart : second.head? ≠ some '{') :
    openings (first ++ second) = openings first + openings second := by
  induction first with
  | nil => exact (Nat.zero_add _).symm
  | cons character first hypothesis =>
    rw [List.cons_append, openings_cons, openings_cons, opens_cons_append apart, hypothesis]
    omega

/-- No part from the beginning of a text has more braces than it has openings and references were
open before it. -/
def Matched (nesting : Nat) (text : List Char) : Prop :=
  ∀ read, read <+: text → read.count '}' ≤ openings read + nesting

/-- A text closes the references that were open before it and those that it opens, and at no point
more than are open. -/
@[mk_iff]
structure Closes (nesting : Nat) (text : List Char) : Prop where
  matched : Matched nesting text
  count_eq : text.count '}' = openings text + nesting

theorem matched_nil (nesting : Nat) : Matched nesting [] := by
  intro read part
  rw [List.prefix_nil.mp part]
  exact Nat.zero_le _

theorem forall_prefix_cons_iff {Holds : List Char → Prop} :
    (∀ read, read <+: character :: rest → Holds read)
      ↔ Holds [] ∧ ∀ read, read <+: rest → Holds (character :: read) := by
  constructor
  · intro each
    exact ⟨each [] List.nil_prefix,
      fun read part => each _ (List.cons_prefix_cons.mpr ⟨rfl, part⟩)⟩
  · rintro ⟨empty, each⟩ read part
    cases read with
    | nil => exact empty
    | cons next read =>
      obtain ⟨rfl, shorter⟩ := List.cons_prefix_cons.mp part
      exact each read shorter

theorem matched_cons_iff :
    Matched nesting (character :: rest) ↔ ∀ read, read <+: rest →
      (character :: read).count '}' ≤ openings (character :: read) + nesting := by
  rw [Matched, forall_prefix_cons_iff]
  exact and_iff_right (Nat.zero_le _)

theorem matched_opening_iff :
    Matched nesting ('$' :: '{' :: rest) ↔ Matched (nesting + 1) rest := by
  have dollar : ['$'].count '}' ≤ openings ['$'] + nesting := Nat.zero_le _
  rw [matched_cons_iff, forall_prefix_cons_iff, and_iff_right dollar]
  refine forall₂_congr fun read _ => ?_
  rw [count_opening, openings_opening]
  omega

theorem matched_brace_iff : Matched (nesting + 1) ('}' :: rest) ↔ Matched nesting rest := by
  rw [matched_cons_iff]
  refine forall₂_congr fun read _ => ?_
  rw [List.count_cons_self, openings_of_plain rfl]
  omega

theorem not_matched_brace (rest : List Char) : ¬ Matched 0 ('}' :: rest) := by
  intro matched
  have first := matched ['}'] (List.cons_prefix_cons.mpr ⟨rfl, List.nil_prefix⟩)
  revert first
  decide

theorem matched_character_iff (plain : opens (character :: rest) = false)
    (unclosed : character ≠ '}') :
    Matched nesting (character :: rest) ↔ Matched nesting rest := by
  rw [matched_cons_iff]
  refine forall₂_congr fun read part => ?_
  have plain_part : opens (character :: read) = false := by
    rw [Bool.eq_false_iff, ne_eq, opens_iff] at plain ⊢
    exact fun opening => plain (opening.trans (List.cons_prefix_cons.mpr ⟨rfl, part⟩))
  rw [List.count_cons_of_ne unclosed, openings_of_plain plain_part]

theorem closes_opening_iff :
    Closes nesting ('$' :: '{' :: rest) ↔ Closes (nesting + 1) rest := by
  have counts : ('$' :: '{' :: rest).count '}' = openings ('$' :: '{' :: rest) + nesting
      ↔ rest.count '}' = openings rest + (nesting + 1) := by
    rw [count_opening, openings_opening]
    omega
  rw [closes_iff, closes_iff]
  exact and_congr matched_opening_iff counts

theorem closes_brace_iff : Closes (nesting + 1) ('}' :: rest) ↔ Closes nesting rest := by
  have counts : ('}' :: rest).count '}' = openings ('}' :: rest) + (nesting + 1)
      ↔ rest.count '}' = openings rest + nesting := by
    rw [List.count_cons_self, openings_of_plain rfl]
    omega
  rw [closes_iff, closes_iff]
  exact and_congr matched_brace_iff counts

theorem closes_character_iff (plain : opens (character :: rest) = false)
    (unclosed : character ≠ '}') :
    Closes nesting (character :: rest) ↔ Closes nesting rest := by
  have counts : (character :: rest).count '}' = openings (character :: rest) + nesting
      ↔ rest.count '}' = openings rest + nesting := by
    rw [List.count_cons_of_ne unclosed, openings_of_plain plain]
  rw [closes_iff, closes_iff]
  exact and_congr (matched_character_iff plain unclosed) counts

/-- What stands before a text that closes all that it opens. -/
theorem Closes.of_append (closes : Closes nesting (first ++ second)) (later : Closes 0 second)
    (apart : second.head? ≠ some '{') : Closes nesting first := by
  refine ⟨fun read part => closes.matched read (part.trans (List.prefix_append _ _)), ?_⟩
  have whole := closes.count_eq
  rw [List.count_append, openings_append apart, later.count_eq] at whole
  omega

/-! ## Part 2 — the search for the closing brace -/

theorem ne_brace_of_cases (outermost : nesting = 0 → character = '}' → False)
    (inner : ∀ more, nesting = more + 1 → character = '}' → False) : character ≠ '}' := by
  cases nesting with
  | zero => exact outermost rfl
  | succ more => exact inner more rfl

/-- Where no brace is found, each brace closes a reference. -/
theorem matched_of_closing (unended : closing nesting text = none) : Matched nesting text := by
  fun_induction closing nesting text with
  | case1 nesting => exact matched_nil nesting
  | case2 nesting rest hypothesis =>
    exact matched_opening_iff.mpr (hypothesis (Option.map_eq_none_iff.mp unended))
  | case3 rest => cases unended
  | case4 rest nesting hypothesis =>
    exact matched_brace_iff.mpr (hypothesis (Option.map_eq_none_iff.mp unended))
  | case5 nesting character rest plain outermost inner hypothesis =>
    rw [matched_character_iff (opens_eq_false_iff.mpr plain) (ne_brace_of_cases outermost inner)]
    exact hypothesis (Option.map_eq_none_iff.mp unended)

/-- **What stands before the brace that is found closes all that it opens.** -/
theorem closes_of_closing (found : closing nesting text = some (inner, behind)) :
    Closes nesting inner := by
  fun_induction closing nesting text generalizing inner behind with
  | case1 => cases found
  | case2 nesting rest hypothesis =>
    obtain ⟨pair, earlier, equal⟩ := Option.map_eq_some_iff.mp found
    cases equal
    exact closes_opening_iff.mpr (hypothesis earlier)
  | case3 rest =>
    cases found
    exact ⟨matched_nil 0, rfl⟩
  | case4 rest nesting hypothesis =>
    obtain ⟨pair, earlier, equal⟩ := Option.map_eq_some_iff.mp found
    cases equal
    exact closes_brace_iff.mpr (hypothesis earlier)
  | case5 nesting character rest plain outermost inner hypothesis =>
    obtain ⟨pair, earlier, equal⟩ := Option.map_eq_some_iff.mp found
    cases equal
    -- A brace follows what was read, so the end of it cuts through no opening.
    have plain_part : opens (character :: pair.1) = false := by
      have apart := head?_ne_brace (show '}' ≠ '{' by decide) pair.2
      rw [← opens_cons_append apart, ← eq_of_closing earlier]
      exact opens_eq_false_iff.mpr plain
    exact (closes_character_iff plain_part (ne_brace_of_cases outermost inner)).mpr
      (hypothesis earlier)

/-! ## Part 3 — positions -/

/-- What stands in a text from one position up to another one. Positions count characters. -/
def between (text : List Char) (start stop : Nat) : List Char := (text.take stop).drop start

/-- Counted from one position up to and including another one, there are more braces than
openings. -/
structure Overclosed (text : List Char) (start position : Nat) : Prop where
  start_le : start ≤ position
  inside : position < text.length
  more : openings (between text start (position + 1))
    < (between text start (position + 1)).count '}'

/-- The position of the brace that closes a reference whose text begins at a position. -/
def closingAt (text : List Char) (start : Nat) : Option Nat :=
  (closing 0 (text.drop start)).map fun found => start + found.1.length

variable {start stop position close opening : Nat}

theorem between_eq_take (text : List Char) (start stop : Nat) :
    between text start stop = (text.drop start).take (stop - start) := List.drop_take ..

theorem between_append {middle : Nat} (start_le : start ≤ middle) (le_stop : middle ≤ stop) :
    between text start stop = between text start middle ++ between text middle stop := by
  have parts : stop - start = (middle - start) + (stop - middle) := by omega
  have later : start + (middle - start) = middle := by omega
  simp only [between_eq_take]
  rw [parts, List.take_add, List.drop_drop, later]

/-- What stands from an opening on. -/
theorem between_of_opens (opened : opens (text.drop opening) = true) (before : opening + 1 < stop) :
    between text opening stop = '$' :: '{' :: between text (opening + 2) stop := by
  obtain ⟨behind, whole⟩ := (opens_iff _).mp opened
  have later : text.drop (opening + 2) = behind := by
    rw [← List.drop_drop, ← whole]
    rfl
  have parts : stop - opening = stop - (opening + 2) + 2 := by omega
  rw [between_eq_take, between_eq_take, later, ← whole, parts]
  rfl

theorem between_of_drop (whole : text.drop start = first ++ second) :
    between text start (start + first.length) = first := by
  rw [between_eq_take, whole, Nat.add_sub_cancel_left, List.take_left]

theorem getElem?_of_drop (whole : text.drop start = first ++ character :: second) :
    text[start + first.length]? = some character := by
  rw [← List.getElem?_drop, whole, List.getElem?_append_right (Nat.le_refl _), Nat.sub_self]
  rfl

theorem getElem?_of_opens (opened : opens (text.drop opening) = true) :
    text[opening]? = some '$' ∧ text[opening + 1]? = some '{' := by
  obtain ⟨behind, whole⟩ := (opens_iff _).mp opened
  have dollar : text.drop opening = [] ++ '$' :: '{' :: behind := whole.symm
  have brace : text.drop opening = ['$'] ++ '{' :: behind := whole.symm
  exact ⟨getElem?_of_drop dollar, getElem?_of_drop brace⟩

theorem overclosed_of_closing (found : closing 0 (text.drop start) = some (inner, behind)) :
    Overclosed text start (start + inner.length) := by
  have whole := eq_of_closing found
  have length := congrArg List.length whole
  rw [List.length_drop, List.length_append, List.length_cons] at length
  have with_brace : between text start (start + inner.length + 1) = inner ++ ['}'] := by
    rw [between_eq_take, whole, Nat.add_assoc, Nat.add_sub_cancel_left, List.take_length_add_append]
    rfl
  have last : openings ['}'] < ['}'].count '}' := by decide
  refine ⟨Nat.le_add_right _ _, by omega, ?_⟩
  rw [with_brace, openings_append (head?_ne_brace (by decide) _), List.count_append,
    (closes_of_closing found).count_eq]
  omega

/-- **The brace that is found is the first one at which there are more braces than openings.** -/
theorem isLeast_closing (found : closing 0 (text.drop start) = some (inner, behind)) :
    IsLeast {position | Overclosed text start position} (start + inner.length) := by
  refine ⟨overclosed_of_closing found, fun position overclosed => ?_⟩
  by_contra earlier
  have part : between text start (position + 1) <+: inner := by
    have short : position + 1 - start ≤ inner.length := by omega
    rw [between_eq_take, eq_of_closing found, List.take_append_of_le_length short]
    exact List.take_prefix _ _
  have few := (closes_of_closing found).matched _ part
  have more := overclosed.more
  omega

theorem not_overclosed_of_closing (unended : closing 0 (text.drop start) = none) :
    ¬ Overclosed text start position := by
  intro overclosed
  have part : between text start (position + 1) <+: text.drop start := by
    rw [between_eq_take]
    exact List.take_prefix _ _
  have few := matched_of_closing unended _ part
  have more := overclosed.more
  omega

theorem closingAt_eq_some_iff :
    closingAt text start = some close
      ↔ IsLeast {position | Overclosed text start position} close := by
  cases found : closing 0 (text.drop start) with
  | none =>
    refine iff_of_false ?_ fun least => not_overclosed_of_closing found least.1
    simp [closingAt, found]
  | some pair =>
    have least := isLeast_closing found
    constructor
    · intro same
      rw [closingAt, found] at same
      cases same
      exact least
    · intro other
      rw [closingAt, found, other.unique least]
      rfl

theorem closingAt_eq_none_iff :
    closingAt text start = none ↔ ∀ position, ¬ Overclosed text start position := by
  constructor
  · intro unended position
    exact not_overclosed_of_closing (Option.map_eq_none_iff.mp unended)
  · intro none_overclosed
    refine Option.eq_none_iff_forall_ne_some.mpr fun close same => ?_
    exact none_overclosed close (closingAt_eq_some_iff.mp same).1

/-- **A reference inside of a text that closes all that it opens is closed there.** -/
theorem closingAt_of_opens (closes : Closes 0 (between text start stop))
    (inside : stop ≤ text.length) (start_le : start ≤ opening) (before : opening + 1 < stop)
    (opened : opens (text.drop opening) = true) :
    ∃ brace, closingAt text (opening + 2) = some brace ∧ brace < stop := by
  have parts : between text start stop
      = between text start opening ++ '$' :: '{' :: between text (opening + 2) stop := by
    rw [between_append start_le (by omega), between_of_opens opened before]
  -- The text before the opening has no brace too many, so one too many must follow.
  have more : openings (between text (opening + 2) stop)
      < (between text (opening + 2) stop).count '}' := by
    have front := closes.matched (between text start opening) ⟨_, parts.symm⟩
    have whole := closes.count_eq
    rw [parts, openings_append (head?_ne_brace (by decide) _), openings_opening, List.count_append,
      count_opening] at whole
    omega
  have nonempty : opening + 2 < stop := by
    by_contra short
    rw [between_eq_take, Nat.sub_eq_zero_of_le (Nat.not_lt.mp short)] at more
    cases more
  have last : stop - 1 + 1 = stop := by omega
  have overclosed : Overclosed text (opening + 2) (stop - 1) :=
    ⟨by omega, by omega, by rwa [last]⟩
  cases same : closingAt text (opening + 2) with
  | none => exact absurd overclosed (closingAt_eq_none_iff.mp same _)
  | some brace =>
    have least := (closingAt_eq_some_iff.mp same).2 overclosed
    exact ⟨brace, rfl, by omega⟩

end LayeredConfig.Expression
