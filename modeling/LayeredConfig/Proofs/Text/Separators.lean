/-
**A comma separates exactly if an even number of backslashes stands before it.**

Reading consumes a backslash together with the character behind it. Here the same list of elements is
said by positions: which commas separate (`Separates`), what stands between two of them
(`piecesBetween`), and how such a piece is read (`unescaped`):

* `cutFrom_eq_piecesBetween`: going through a text with the part that is already behind cuts it at
  the positions that separate;
* `pieces_eq_cutFrom`: and gives the pieces that reading by pairs of characters gives;
* `split_eq_piecesBetween`: so the elements are what stands between separators, and a separating comma
  divides a text into two that are read by themselves.
-/

import LayeredConfig.Proofs.Text.EscapedList
import Mathlib.Algebra.Ring.Parity
import Mathlib.Data.List.DropRight

namespace LayeredConfig.Text.EscapedList

/-! ## Part 1 — separators and what they separate -/

/-- The number of backslashes in the longest run of them at the end of a text. -/
def backslashes (text : List Char) : Nat := (text.rtakeWhile (· = '\\')).length

/-- A comma with an even number of backslashes before it. -/
structure Separates (text : List Char) (position : Nat) : Prop where
  comma : text[position]? = some ','
  even : Even (backslashes (text.take position))

instance (text : List Char) (position : Nat) : Decidable (Separates text position) :=
  decidable_of_iff (text[position]? = some ',' ∧ Even (backslashes (text.take position)))
    ⟨fun both => ⟨both.1, both.2⟩, fun separates => ⟨separates.1, separates.2⟩⟩

/-- The positions of the separating commas, in ascending order. -/
def separators (text : List Char) : List Nat :=
  (List.range text.length).filter fun position => Separates text position

/-- What stands from a position on between some ascending positions, and behind the last of them. -/
def piecesBetween (text : List Char) : (start : Nat) → (stops : List Nat) → List (List Char)
  | start, [] => [text.drop start]
  | start, stop :: stops => (text.take stop).drop start :: piecesBetween text (stop + 1) stops

/-- A piece with its escapes resolved: an escaped comma is a comma, an escaped backslash a backslash,
and every other backslash stands for itself. -/
def unescaped : List Char → List Char
  | [] => []
  | '\\' :: ',' :: rest => ',' :: unescaped rest
  | '\\' :: '\\' :: rest => '\\' :: unescaped rest
  | character :: rest => character :: unescaped rest

theorem length_piecesBetween (text : List Char) (start : Nat) (stops : List Nat) :
    (piecesBetween text start stops).length = stops.length + 1 := by
  induction stops generalizing start with
  | nil => rfl
  | cons stop stops hypothesis => rw [piecesBetween, List.length_cons, List.length_cons, hypothesis]

theorem backslashes_backslash (front : List Char) :
    backslashes (front ++ ['\\']) = backslashes front + 1 := by
  rw [backslashes, List.rtakeWhile_concat_pos _ _ _ (by decide), List.length_append]
  rfl

theorem backslashes_other (front : List Char) {character : Char} (other : character ≠ '\\') :
    backslashes (front ++ [character]) = 0 := by
  rw [backslashes, List.rtakeWhile_concat_neg _ _ _ (by simpa using other), List.length_nil]

theorem even_backslashes_other (front : List Char) {character : Char} (other : character ≠ '\\') :
    Even (backslashes (front ++ [character])) := by
  rw [backslashes_other front other]
  exact Even.zero

theorem unescaped_plain {character : Char} (plain : character ≠ '\\') (rest : List Char) :
    unescaped (character :: rest) = character :: unescaped rest := by
  rw [unescaped]
  · exact fun _ same => absurd same plain
  · exact fun _ same => absurd same plain

theorem unescaped_kept {character : Char} (comma : character ≠ ',') (backslash : character ≠ '\\')
    (rest : List Char) :
    unescaped ('\\' :: character :: rest) = '\\' :: character :: unescaped rest := by
  rw [unescaped, unescaped_plain backslash]
  · rintro _ _ ⟨rfl, rfl⟩
    exact comma rfl
  · rintro _ _ ⟨rfl, rfl⟩
    exact backslash rfl

/-! ## Part 2 — cutting with the text behind in view -/

/-- The pieces of the rest of a text whose front is given: a cut at each separating comma. -/
def cutFrom (front : List Char) : (rest : List Char) → List (List Char)
  | [] => [[]]
  | character :: rest =>
    if character = ',' ∧ Even (backslashes front) then [] :: cutFrom (front ++ [character]) rest
    else prepend character (cutFrom (front ++ [character]) rest)

theorem cutFrom_ne_nil (front rest : List Char) : cutFrom front rest ≠ [] := by
  cases rest with
  | nil => exact List.cons_ne_nil _ _
  | cons character rest =>
    rw [cutFrom]
    split
    · exact List.cons_ne_nil _ _
    · exact prepend_ne_nil _ _

theorem separates_front_iff (front rest : List Char) (character : Char) :
    Separates (front ++ character :: rest) front.length
      ↔ character = ',' ∧ Even (backslashes front) := by
  have here : (front ++ character :: rest)[front.length]? = some character := by simp
  have before : (front ++ character :: rest).take front.length = front := List.take_left
  constructor
  · rintro ⟨comma, even⟩
    rw [here] at comma
    rw [before] at even
    exact ⟨Option.some.inj comma, even⟩
  · rintro ⟨rfl, even⟩
    exact ⟨here, before.symm ▸ even⟩

/-- The positions of the separating commas of a text that are not in its front. -/
def separatorsBehind (front rest : List Char) : List Nat :=
  (List.range' front.length rest.length).filter fun position => Separates (front ++ rest) position

theorem separatorsBehind_cons (front rest : List Char) (character : Char) :
    separatorsBehind front (character :: rest)
      = if character = ',' ∧ Even (backslashes front)
        then front.length :: separatorsBehind (front ++ [character]) rest
        else separatorsBehind (front ++ [character]) rest := by
  simp only [separatorsBehind, List.length_cons, List.range'_succ, List.filter_cons,
    decide_eq_true_eq, separates_front_iff, List.length_append, List.length_nil, zero_add,
    List.append_assoc, List.singleton_append]

/-- A character before the first position belongs to the first piece. -/
theorem piecesBetween_of_lt {text : List Char} {start : Nat} {stops : List Nat} {character : Char}
    (here : text[start]? = some character) (later : ∀ stop ∈ stops, start < stop) :
    piecesBetween text start stops = prepend character (piecesBetween text (start + 1) stops) := by
  obtain ⟨inside, rfl⟩ := List.getElem?_eq_some_iff.mp here
  cases stops with
  | nil =>
    rw [piecesBetween, List.drop_eq_getElem_cons inside]
    rfl
  | cons stop stops =>
    have before := later stop List.mem_cons_self
    have within : start < (text.take stop).length := by
      rw [List.length_take]
      omega
    rw [piecesBetween, List.drop_eq_getElem_cons within, List.getElem_take]
    rfl

/-- **Cutting on the way gives what stands between the separators.** -/
theorem cutFrom_eq_piecesBetween (front rest : List Char) :
    cutFrom front rest
      = piecesBetween (front ++ rest) front.length (separatorsBehind front rest) := by
  induction rest generalizing front with
  | nil => simp [cutFrom, separatorsBehind, piecesBetween]
  | cons character rest hypothesis =>
    have next := hypothesis (front ++ [character])
    rw [List.append_assoc, List.singleton_append, List.length_append, List.length_singleton] at next
    rw [cutFrom, separatorsBehind_cons]
    by_cases separates : character = ',' ∧ Even (backslashes front)
    · rw [if_pos separates, if_pos separates, piecesBetween, next]
      simp
    · have here : (front ++ character :: rest)[front.length]? = some character := by simp
      rw [if_neg separates, if_neg separates, next]
      refine (piecesBetween_of_lt here fun stop member => ?_).symm
      have inside := (List.mem_filter.mp member).1
      rw [List.mem_range', List.length_append, List.length_singleton] at inside
      omega

theorem separatorsBehind_nil (text : List Char) : separatorsBehind [] text = separators text := by
  rw [separatorsBehind, separators, List.range_eq_range']
  rfl

/-- A separating comma divides a text into two. -/
theorem cutFrom_append {front first : List Char} (even : Even (backslashes (front ++ first)))
    (second : List Char) :
    cutFrom front (first ++ ',' :: second)
      = cutFrom front first ++ cutFrom (front ++ first ++ [',']) second := by
  induction first generalizing front with
  | nil =>
    rw [List.append_nil] at even
    rw [List.append_nil]
    exact if_pos ⟨rfl, even⟩
  | cons character first hypothesis =>
    have again : front ++ character :: first = front ++ [character] ++ first := by simp
    rw [again] at even
    rw [List.cons_append, cutFrom, hypothesis even, ← again, cutFrom]
    split
    · rfl
    · exact prepend_append _ (cutFrom_ne_nil _ _) _

/-! ## Part 3 — reading by pairs of characters -/

/-- After an even number of backslashes one more escapes the character behind it. -/
theorem cutFrom_escape {front : List Char} (even : Even (backslashes front)) (character : Char)
    (rest : List Char) :
    cutFrom front ('\\' :: character :: rest)
      = prepend '\\' (prepend character (cutFrom (front ++ ['\\'] ++ [character]) rest)) := by
  have odd : ¬ Even (backslashes (front ++ ['\\'])) := by
    rw [backslashes_backslash, Nat.even_add_one]
    exact not_not_intro even
  rw [cutFrom, if_neg (by simp), cutFrom, if_neg fun both => odd both.2]

theorem even_backslashes_escape {front : List Char} (even : Even (backslashes front))
    (character : Char) : Even (backslashes (front ++ ['\\'] ++ [character])) := by
  by_cases same : character = '\\'
  · rw [same, backslashes_backslash, backslashes_backslash, add_assoc]
    exact even.add even_two
  · exact even_backslashes_other _ same

theorem map_unescaped_prepend {character : Char} (plain : character ≠ '\\')
    {parts : List (List Char)} (nonempty : parts ≠ []) :
    (prepend character parts).map unescaped = prepend character (parts.map unescaped) := by
  cases parts with
  | nil => exact absurd rfl nonempty
  | cons first parts =>
    rw [prepend, List.map_cons, unescaped_plain plain]
    rfl

/-- An escape at the beginning of the first piece is resolved there. -/
theorem map_unescaped_escape {character : Char} {parts : List (List Char)} (nonempty : parts ≠ []) :
    (prepend '\\' (prepend character parts)).map unescaped
      = if character = ',' ∨ character = '\\' then prepend character (parts.map unescaped)
        else prepend '\\' (prepend character (parts.map unescaped)) := by
  cases parts with
  | nil => exact absurd rfl nonempty
  | cons first parts =>
    by_cases comma : character = ','
    · subst comma
      rfl
    · by_cases backslash : character = '\\'
      · subst backslash
        rfl
      · rw [if_neg (by simp [comma, backslash]), prepend, prepend, List.map_cons,
          unescaped_kept comma backslash]
        rfl

theorem map_cutFrom_escape {front : List Char} (even : Even (backslashes front)) {character : Char}
    {rest : List Char}
    (read : pieces rest = (cutFrom (front ++ ['\\'] ++ [character]) rest).map unescaped) :
    (cutFrom front ('\\' :: character :: rest)).map unescaped
      = if character = ',' ∨ character = '\\' then prepend character (pieces rest)
        else prepend '\\' (prepend character (pieces rest)) := by
  rw [cutFrom_escape even, map_unescaped_escape (cutFrom_ne_nil _ _), ← read]

/-- **Reading by pairs cuts at the separators and resolves the escapes between them.** -/
theorem pieces_eq_cutFrom {front : List Char} (even : Even (backslashes front)) (rest : List Char) :
    pieces rest = (cutFrom front rest).map unescaped := by
  fun_induction pieces rest generalizing front with
  | case1 => rfl
  | case2 rest hypothesis =>
    exact (map_cutFrom_escape even (hypothesis (even_backslashes_escape even ','))).symm
  | case3 rest hypothesis =>
    exact (map_cutFrom_escape even (hypothesis (even_backslashes_escape even '\\'))).symm
  | case4 other rest comma backslash hypothesis =>
    rw [map_cutFrom_escape even (hypothesis (even_backslashes_escape even other)), if_neg]
    simpa using ⟨comma, backslash⟩
  | case5 rest hypothesis =>
    have after := even_backslashes_other front (show ',' ≠ '\\' by decide)
    rw [cutFrom, if_pos ⟨rfl, even⟩, hypothesis after]
    rfl
  | case6 character rest unescapedComma unescapedBackslash unescapedOther comma hypothesis =>
    by_cases backslash : character = '\\'
    · -- Only the last backslash of a text has no character behind it.
      subst backslash
      cases rest with
      | nil => rfl
      | cons other rest => exact absurd rfl (unescapedOther other rest rfl)
    · rw [cutFrom, if_neg fun both => comma both.1, map_unescaped_prepend backslash (cutFrom_ne_nil _ _),
        ← hypothesis (even_backslashes_other front backslash)]

/-! ## Part 4 — elements -/

/-- **The elements of a text are what stands between its separators**, with escapes resolved and
trimmed; so there is one more of them than there are separators, and a comma behind a text that does
not end in an odd run of backslashes divides the elements. -/
theorem split_eq_piecesBetween :
    (∀ text : String, split text = (piecesBetween text.toList 0 (separators text.toList)).map
      fun piece => trim (String.ofList (unescaped piece)))
    ∧ (∀ text : String, (split text).length = (separators text.toList).length + 1)
    ∧ ∀ first second : String, ¬ Odd (backslashes first.toList) →
      split (first ++ "," ++ second) = split first ++ split second := by
  have start : Even (backslashes []) := Even.zero
  have read : ∀ text : List Char,
      pieces text = (piecesBetween text 0 (separators text)).map unescaped := by
    intro text
    rw [pieces_eq_cutFrom start, cutFrom_eq_piecesBetween, separatorsBehind_nil]
    rfl
  refine ⟨fun text => ?_, fun text => ?_, fun first second notOdd => ?_⟩
  · rw [split, read, List.map_map]
    refine List.map_congr_left fun piece _ => ?_
    simp [trim]
  · rw [split, List.length_map, read, List.length_map, length_piecesBetween]
  · have even := Nat.not_odd_iff_even.mp notOdd
    have after := even_backslashes_other ([] ++ first.toList) (show ',' ≠ '\\' by decide)
    have divided : pieces (first.toList ++ ',' :: second.toList)
        = pieces first.toList ++ pieces second.toList := by
      rw [pieces_eq_cutFrom start, cutFrom_append even, List.map_append, ← pieces_eq_cutFrom start,
        ← pieces_eq_cutFrom after]
    have letters : (first ++ "," ++ second).toList = first.toList ++ ',' :: second.toList := by simp
    rw [split, letters, divided, List.map_append]
    rfl

/-- Two backslashes before a comma, three before another one, and one before a letter. -/
def sampleRuns : String := "a\\\\, b\\\\\\,\\c"

theorem split_eq_piecesBetween_sample :
    split sampleRuns = ["a\\", "b\\,\\c"] ∧ separators sampleRuns.toList = [3]
    ∧ ¬ Odd (backslashes "a\\\\".toList)
    ∧ split ("a\\\\" ++ "," ++ "b\\, c") = split "a\\\\" ++ split "b\\, c" := by
  have even : ¬ Odd (backslashes "a\\\\".toList) := by decide +kernel
  exact ⟨by decide +kernel, by decide +kernel, even,
    split_eq_piecesBetween.2.2 "a\\\\" "b\\, c" even⟩

end LayeredConfig.Text.EscapedList
