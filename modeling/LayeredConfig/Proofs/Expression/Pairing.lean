/-
**The searches for a closing brace and for a colon agree on nesting.**

Each of the two searches counts the open references by itself, and the count of the search for a
colon stops at zero. In the text of a reference, which closes all that it opens, the count never has
to stop, and so the two counts are the same:

* `Search.next?` and `Search.Reads`: the search for a colon turn by turn, with the count it goes on
  with (`Search.Reads.splitDefault_eq`);
* `Closes.turn` and `Closes.reads`: one turn, and a whole run, keep this count the number of
  references that the text ahead closes;
* `Closes.closing_reads`: the search for a closing brace has the same count at each place;
* `splitDefault_of_closingAt`: all this together, and that no inner reference is open at the colon.
-/

import LayeredConfig.Proofs.Expression.Closing

namespace LayeredConfig.Expression

variable {nesting : Nat} {text inner behind : List Char}

/-! ## Part 1 — the search for the colon, turn by turn -/

/-- Where the search for the colon of a reference stands. -/
structure Search where
  /-- How many inner references are open. -/
  nesting : Nat
  /-- The text that is still to be read. -/
  ahead : List Char
deriving DecidableEq, Repr

/-- One turn of the search: what it reads, and where the search stands then. It ends at the end of
the text and at a colon outside of all inner references. -/
def Search.next? : Search → Option (List Char × Search)
  | ⟨_, []⟩ => none
  | ⟨nesting, '$' :: '{' :: rest⟩ => some (['$', '{'], ⟨nesting + 1, rest⟩)
  | ⟨nesting, '}' :: rest⟩ => some (['}'], ⟨nesting - 1, rest⟩)
  | ⟨0, ':' :: _⟩ => none
  | ⟨nesting, character :: rest⟩ => some ([character], ⟨nesting, rest⟩)

/-- The search reads a text by some turns and comes from one place to another one. -/
inductive Search.Reads : Search → List Char → Search → Prop
  | done (here : Search) : Reads here [] here
  | turn {here next last : Search} {read more : List Char} (step : here.next? = some (read, next))
      (run : Reads next more last) : Reads here (read ++ more) last

namespace Search

variable {here next last : Search} {read : List Char}

/-- What a turn can be. -/
inductive Turn : Search → List Char → Search → Prop
  | opening (nesting : Nat) (rest : List Char) :
      Turn ⟨nesting, '$' :: '{' :: rest⟩ ['$', '{'] ⟨nesting + 1, rest⟩
  | brace (nesting : Nat) (rest : List Char) :
      Turn ⟨nesting, '}' :: rest⟩ ['}'] ⟨nesting - 1, rest⟩
  | character (nesting : Nat) (character : Char) (rest : List Char)
      (plain : opens (character :: rest) = false) (unclosed : character ≠ '}')
      (undivided : nesting = 0 → character ≠ ':') :
      Turn ⟨nesting, character :: rest⟩ [character] ⟨nesting, rest⟩

theorem turn_of_next (step : here.next? = some (read, next)) : Turn here read next := by
  fun_cases Search.next? here with
  | case1 nesting => cases step
  | case2 nesting rest =>
    cases step
    exact .opening nesting rest
  | case3 nesting rest =>
    cases step
    exact .brace nesting rest
  | case4 rest => cases step
  | case5 nesting character rest plain unclosed undivided =>
    rw [next?.eq_5 nesting character rest plain unclosed undivided] at step
    cases step
    exact .character nesting character rest (opens_eq_false_iff.mpr plain) unclosed undivided

theorem Turn.length_lt (turn : Turn here read next) : next.ahead.length < here.ahead.length := by
  cases turn with
  | opening nesting rest => exact Nat.lt_add_of_pos_right (Nat.succ_pos 1)
  | brace nesting rest => exact Nat.lt_succ_self _
  | character nesting character rest => exact Nat.lt_succ_self _

/-- One turn is one call of the function. -/
theorem Turn.splitDefault_eq (turn : Turn here read next) :
    splitDefault here.nesting here.ahead
      = prepend read (splitDefault next.nesting next.ahead) := by
  cases turn with
  | opening nesting rest => exact splitDefault.eq_2 nesting rest
  | brace nesting rest => exact splitDefault.eq_3 nesting rest
  | character nesting character rest plain unclosed undivided =>
    exact splitDefault.eq_5 nesting character rest (opens_eq_false_iff.mp plain) unclosed undivided

theorem cases_of_ended (ended : here.next? = none) :
    here.ahead = [] ∨ here.nesting = 0 ∧ ∃ rest, here.ahead = ':' :: rest := by
  fun_cases Search.next? here with
  | case1 nesting => exact .inl rfl
  | case2 nesting rest => cases ended
  | case3 nesting rest => cases ended
  | case4 rest => exact .inr ⟨rfl, rest, rfl⟩
  | case5 nesting character rest plain unclosed undivided =>
    rw [next?.eq_5 nesting character rest plain unclosed undivided] at ended
    cases ended

/-- What follows the colon at which the search ends is the default. -/
theorem splitDefault_of_ended (ended : here.next? = none) :
    splitDefault here.nesting here.ahead = ([], here.ahead.tail?) := by
  rcases cases_of_ended ended with empty | ⟨outside, rest, colon⟩
  · rw [empty]
    rfl
  · rw [outside, colon]
    rfl

/-- **At each place the function goes on with the count and the text of the search.** -/
theorem Reads.splitDefault_eq (run : here.Reads read last) :
    splitDefault here.nesting here.ahead
      = prepend read (splitDefault last.nesting last.ahead) := by
  induction run with
  | done here => rfl
  | turn step run hypothesis =>
    rw [(turn_of_next step).splitDefault_eq, hypothesis, ← prepend_prepend]
    rfl

theorem exists_ended (here : Search) : ∃ read last, here.Reads read last ∧ last.next? = none := by
  cases step : here.next? with
  | none => exact ⟨[], here, .done here, step⟩
  | some turn =>
    obtain ⟨read, next⟩ := turn
    have shorter := (turn_of_next step).length_lt
    obtain ⟨more, last, run, ended⟩ := exists_ended next
    exact ⟨read ++ more, last, .turn step run, ended⟩
termination_by here.ahead.length

/-- The search reads the key and then ends. -/
theorem exists_reads_key {key : List Char} {default : Option (List Char)}
    (split : splitDefault nesting text = (key, default)) :
    ∃ last : Search, Reads ⟨nesting, text⟩ key last ∧ last.next? = none
      ∧ default = last.ahead.tail? := by
  obtain ⟨read, last, run, ended⟩ := exists_ended ⟨nesting, text⟩
  have whole := run.splitDefault_eq
  rw [splitDefault_of_ended ended, split, prepend, List.append_nil] at whole
  cases whole
  exact ⟨last, run, ended, rfl⟩

/-- A colon to split at is met with no reference open. -/
theorem reads_of_divided {key default : List Char}
    (divided : splitDefault 0 text = (key, some default)) :
    Reads ⟨0, text⟩ key ⟨0, ':' :: default⟩ := by
  obtain ⟨⟨nesting, ahead⟩, run, ended, same⟩ := exists_reads_key divided
  rcases cases_of_ended ended with rfl | ⟨rfl, rest, rfl⟩
  · cases same
  · cases same
    exact run

end Search

/-! ## Part 2 — the two counts -/

section Counts

variable {here next last : Search} {read key default : List Char}

/-- One turn keeps the count the number of references that the text ahead closes. -/
theorem Closes.turn (closes : Closes here.nesting here.ahead) (turn : Search.Turn here read next) :
    Closes next.nesting next.ahead := by
  cases turn with
  | opening nesting rest => exact closes_opening_iff.mp closes
  | brace nesting rest =>
    cases nesting with
    | zero => exact absurd closes.matched (not_matched_brace rest)
    | succ nesting => exact closes_brace_iff.mp closes
  | character nesting character rest plain unclosed =>
    exact (closes_character_iff plain unclosed).mp closes

/-- **So does a whole run.** -/
theorem Closes.reads (closes : Closes here.nesting here.ahead) (run : here.Reads read last) :
    Closes last.nesting last.ahead := by
  induction run with
  | done here => exact closes
  | turn step run hypothesis => exact hypothesis (closes.turn (Search.turn_of_next step))

/-- In one turn both searches read the same and come to the same count. -/
theorem Closes.closing_turn (closes : Closes here.nesting here.ahead)
    (turn : Search.Turn here read next) (apart : behind.head? ≠ some '{') :
    closing here.nesting (here.ahead ++ behind)
      = (closing next.nesting (next.ahead ++ behind)).map (prepend read) := by
  cases turn with
  | opening nesting rest => exact closing.eq_2 nesting (rest ++ behind)
  | brace nesting rest =>
    cases nesting with
    | zero => exact absurd closes.matched (not_matched_brace rest)
    | succ nesting => exact closing.eq_4 nesting (rest ++ behind)
  | character nesting character rest plain unclosed =>
    have plain_whole : opens (character :: (rest ++ behind)) = false := by
      rw [opens_cons_append apart, plain]
    exact closing.eq_5 nesting character (rest ++ behind) (opens_eq_false_iff.mp plain_whole)
      (fun _ => unclosed) (fun _ _ => unclosed)

/-- **At each place the search for the closing brace goes on with the same count.** -/
theorem Closes.closing_reads (closes : Closes here.nesting here.ahead)
    (run : here.Reads read last) (apart : behind.head? ≠ some '{') :
    closing here.nesting (here.ahead ++ behind)
      = (closing last.nesting (last.ahead ++ behind)).map (prepend read) := by
  induction run with
  | done here => exact Option.map_id'.symm
  | turn step run hypothesis =>
    have turn := Search.turn_of_next step
    rw [closes.closing_turn turn apart, hypothesis (closes.turn turn), Option.map_map,
      prepend_prepend]

/-- The count does not have to stop at zero. -/
theorem Closes.nesting_ne_zero (closes : Closes here.nesting here.ahead)
    (brace : here.ahead.head? = some '}') : here.nesting ≠ 0 := by
  intro zero
  obtain ⟨rest, same⟩ := List.head?_eq_some_iff.mp brace
  rw [zero, same] at closes
  exact not_matched_brace rest closes.matched

/-- Where there is no colon to split at, the search ends at the end of the text, with no reference
open. -/
theorem Closes.reads_of_undivided (closes : Closes 0 text)
    (undivided : splitDefault 0 text = (key, none)) : Search.Reads ⟨0, text⟩ key ⟨0, []⟩ := by
  obtain ⟨⟨nesting, ahead⟩, run, ended, same⟩ := Search.exists_reads_key undivided
  rcases Search.cases_of_ended ended with rfl | ⟨-, rest, rfl⟩
  · have open_left : nesting = 0 := by
      have count := (closes.reads run).count_eq
      rw [openings_nil, List.count_nil, Nat.zero_add] at count
      exact count.symm
    rwa [open_left] at run
  · cases same

/-- The key closes all that it opens. -/
theorem Closes.of_divided (closes : Closes 0 text)
    (divided : splitDefault 0 text = (key, some default)) : Closes 0 key := by
  have later : Closes 0 (':' :: default) := closes.reads (Search.reads_of_divided divided)
  rw [eq_of_splitDefault divided] at closes
  exact closes.of_append later (head?_ne_brace (by decide) _)

end Counts

/-! ## Part 3 — both searches -/

/-- **No inner reference is open at the colon**: each is closed before the reference around it, and
before the colon if it is opened before the colon. -/
theorem closingAt_beside_colon {start opening : Nat} {key default : List Char}
    (found : closing 0 (text.drop start) = some (inner, behind))
    (divided : splitDefault 0 inner = (key, some default)) (start_le : start ≤ opening)
    (before : opening < start + inner.length) (opened : opens (text.drop opening) = true) :
    ∃ brace, closingAt text (opening + 2) = some brace ∧ brace < start + inner.length
      ∧ (start + key.length < opening ∨ brace < start + key.length) := by
  have whole := eq_of_closing found
  have parts : text.drop start = key ++ ':' :: (default ++ '}' :: behind) := by
    rw [whole, eq_of_splitDefault divided, List.append_assoc, List.cons_append]
  have close := getElem?_of_drop whole
  have colon := getElem?_of_drop parts
  obtain ⟨dollar, next⟩ := getElem?_of_opens opened
  have opening_ne_colon : opening ≠ start + key.length := by
    rintro rfl
    cases dollar.symm.trans colon
  have next_ne_colon : opening + 1 ≠ start + key.length := by
    intro same
    rw [same] at next
    cases next.symm.trans colon
  have next_ne_close : opening + 1 ≠ start + inner.length := by
    intro same
    rw [same] at next
    cases next.symm.trans close
  have inside := (List.getElem?_eq_some_iff.mp close).1
  have colon_inside := (List.getElem?_eq_some_iff.mp colon).1
  have closes := closes_of_closing found
  have key_closes := closes.of_divided divided
  rw [← between_of_drop whole] at closes
  rw [← between_of_drop parts] at key_closes
  obtain ⟨brace, same, lt_close⟩ :=
    closingAt_of_opens closes (by omega) start_le (by omega) opened
  refine ⟨brace, same, lt_close, ?_⟩
  by_cases behind_colon : start + key.length < opening
  · exact .inl behind_colon
  · obtain ⟨earlier, same_earlier, lt_colon⟩ :=
      closingAt_of_opens key_closes (by omega) start_le (by omega) opened
    cases same.symm.trans same_earlier
    exact .inr lt_colon

/-- **The two searches agree on nesting.** The brace that closes a reference is the first one at
which there are more braces than openings. In the text before it both searches go on with the same
count at each place; that for the colon meets no brace while its count is zero and ends with no
reference open. Each inner reference is closed before the brace, and before the colon if it is
opened before the colon. -/
theorem splitDefault_of_closingAt (text : List Char) (start : Nat) :
    (∀ close, closingAt text start = some close
      ↔ IsLeast {position | Overclosed text start position} close)
    ∧ (closingAt text start = none ↔ ∀ position, ¬ Overclosed text start position)
    ∧ ∀ close, closingAt text start = some close →
      (∀ read here, Search.Reads ⟨0, between text start close⟩ read here →
        splitDefault 0 (between text start close)
            = prepend read (splitDefault here.nesting here.ahead)
          ∧ closing 0 (text.drop start)
            = (closing here.nesting (here.ahead ++ text.drop close)).map (prepend read)
          ∧ (here.ahead.head? = some '}' → here.nesting ≠ 0))
      ∧ (∀ key, splitDefault 0 (between text start close) = (key, none) →
        Search.Reads ⟨0, between text start close⟩ key ⟨0, []⟩)
      ∧ ∀ key default, splitDefault 0 (between text start close) = (key, some default) →
        Search.Reads ⟨0, between text start close⟩ key ⟨0, ':' :: default⟩
        ∧ ∀ opening, start ≤ opening → opening < close → opens (text.drop opening) = true →
          ∃ brace, closingAt text (opening + 2) = some brace ∧ brace < close
            ∧ (start + key.length < opening ∨ brace < start + key.length) := by
  refine ⟨fun close => closingAt_eq_some_iff, closingAt_eq_none_iff, fun close same => ?_⟩
  obtain ⟨⟨inner, behind⟩, found, rfl⟩ := Option.map_eq_some_iff.mp same
  have closes := closes_of_closing found
  have whole := eq_of_closing found
  have from_close : text.drop (start + inner.length) = '}' :: behind := by
    rw [← List.drop_drop, whole, List.drop_left]
  dsimp only
  rw [between_of_drop whole, whole, from_close]
  refine ⟨fun read here run => ?_, fun key undivided => ?_, fun key default divided => ?_⟩
  · have same_count := closes.closing_reads run (head?_ne_brace (show '}' ≠ '{' by decide) behind)
    exact ⟨run.splitDefault_eq, same_count, (closes.reads run).nesting_ne_zero⟩
  · exact closes.reads_of_undivided undivided
  · refine ⟨Search.reads_of_divided divided, fun opening start_le before opened => ?_⟩
    exact closingAt_beside_colon found divided start_le before opened

/-- References in the key and in the default of another one, and a brace too many. -/
def sampleNested : List Char := "${${a:b}:${c}}".toList ++ ['}']

/-- Where the search in it stands before the brace of the reference in the key. -/
def sampleBefore : Search := ⟨1, '}' :: ":${c}".toList⟩

/-- The colon is behind the reference in the key, and a later search has its own brace. -/
theorem splitDefault_of_closingAt_sample :
    closingAt sampleNested 2 = some 13
    ∧ IsLeast {position | Overclosed sampleNested 2 position} 13
    ∧ Search.Reads ⟨0, between sampleNested 2 13⟩ ['$', '{', 'a', ':', 'b'] sampleBefore
    ∧ sampleBefore.ahead.head? = some '}' ∧ sampleBefore.nesting ≠ 0
    ∧ splitDefault 0 (between sampleNested 2 13) = ("${a:b}".toList, some "${c}".toList)
    ∧ Search.Reads ⟨0, between sampleNested 2 13⟩ "${a:b}".toList ⟨0, ":${c}".toList⟩
    ∧ opens (sampleNested.drop 2) = true
    ∧ (∃ brace, closingAt sampleNested 4 = some brace ∧ brace < 13 ∧ (8 < 2 ∨ brace < 8))
    ∧ closingAt sampleNested 11 = some 12
    ∧ splitDefault 0 (between sampleNested 11 12) = (['c'], none)
    ∧ Search.Reads ⟨0, between sampleNested 11 12⟩ ['c'] ⟨0, []⟩
    ∧ closingAt sampleNested 15 = none
    ∧ ∀ position, ¬ Overclosed sampleNested 15 position := by
  have closed : closingAt sampleNested 2 = some 13 := by decide
  have divided : splitDefault 0 (between sampleNested 2 13)
      = ("${a:b}".toList, some "${c}".toList) := by decide
  have opened : opens (sampleNested.drop 2) = true := by decide
  have closed_last : closingAt sampleNested 11 = some 12 := by decide
  have undivided : splitDefault 0 (between sampleNested 11 12) = (['c'], none) := by decide
  have unended : closingAt sampleNested 15 = none := by decide
  have brace : sampleBefore.ahead.head? = some '}' := rfl
  have before : Search.Reads ⟨0, between sampleNested 2 13⟩ ['$', '{', 'a', ':', 'b']
      sampleBefore := by
    show Search.Reads _ (['$', '{'] ++ (['a'] ++ ([':'] ++ (['b'] ++ [])))) _
    exact .turn rfl (.turn rfl (.turn rfl (.turn rfl (.done _))))
  obtain ⟨least, -, inside⟩ := splitDefault_of_closingAt sampleNested 2
  obtain ⟨counted, -, split⟩ := inside 13 closed
  obtain ⟨run, beside⟩ := split _ _ divided
  have inner := beside 2 (by decide) (by decide) opened
  have last := ((splitDefault_of_closingAt sampleNested 11).2.2 12 closed_last).2.1 _ undivided
  exact ⟨closed, (least 13).mp closed, before, brace, (counted _ _ before).2.2 brace, divided, run,
    opened, inner, closed_last, undivided, last, unended,
    (splitDefault_of_closingAt sampleNested 15).2.1.mp unended⟩

end LayeredConfig.Expression
