/-
**What an expansion may cost.**

Every question of an expansion is paid for by a step: following a reference takes one step and asks
once, and keys, values and defaults pay for themselves. Every character of its result stands in the
text at the beginning, or in a value that was found for one of the steps; a default stands in the text
of its reference, and a key is nowhere in the result. An account of both (`Within`) is kept through
all parts of an expansion, next to a chain that counts how often it is asked:

* `Within.pure`, `Within.bind`, `Within.step`, `Within.ask`: the parts;
* `size_scan_le`: the pieces of a text are no longer than the text;
* `within_resolve`: a reference, by induction on the levels;
* `answer_counted`: the stage asks at most once more than there are steps, and its value is as long
  as that many values at most.
-/

import LayeredConfig.Proofs.Expression.Limits

namespace LayeredConfig.Expression

open LayeredConfig.Lookup LayeredConfig.Resolve LayeredConfig.Source

/-! ## Part 1 — lengths -/

/-- A way to measure texts that adds up. -/
structure Length where
  of : String → Nat
  append : ∀ first second, of (first ++ second) = of first + of second

namespace Length

/-- The number of characters. -/
def characters : Length := ⟨String.length, String.length_append⟩

/-- The number of bytes in UTF-8. -/
def bytes : Length := ⟨String.utf8ByteSize, fun _ _ => String.utf8ByteSize_append⟩

variable (length : Length)

/-- The length of a text that is given by its characters. -/
def size (text : List Char) : Nat := length.of (String.ofList text)

theorem size_append (first second : List Char) :
    length.size (first ++ second) = length.size first + length.size second := by
  rw [size, String.ofList_append, length.append]
  rfl

theorem size_cons (character : Char) (rest : List Char) :
    length.size (character :: rest) = length.size [character] + length.size rest :=
  length.size_append [character] rest

theorem size_nil : length.size [] = 0 := by
  have twice := length.size_append [] []
  rw [List.append_nil] at twice
  omega

theorem size_toList (text : String) : length.size text.toList = length.of text := by
  rw [size, String.ofList_toList]

/-- The length of a value, if there is one. -/
def ofFound (found : Option ConfigValue) : Nat := found.elim 0 fun found => length.of found.value

/-- The length of what a piece is made of. -/
def sizeOfPiece : Piece → Nat
  | .literal text => length.size text
  | .reference inner => length.size inner

/-- The length of what some pieces are made of. -/
def sizeOfPieces : List Piece → Nat
  | [] => 0
  | piece :: rest => length.sizeOfPiece piece + sizeOfPieces rest

end Length

/-- A reference and what follows it make up the text. -/
theorem eq_of_closing {nesting : Nat} {text inner behind : List Char}
    (found : closing nesting text = some (inner, behind)) : text = inner ++ '}' :: behind := by
  fun_induction closing nesting text generalizing inner behind with
  | case1 => cases found
  | case2 nesting rest hypothesis =>
    obtain ⟨pair, earlier, equal⟩ := Option.map_eq_some_iff.mp found
    cases equal
    rw [hypothesis earlier, List.cons_append, List.cons_append]
  | case3 rest =>
    cases found
    rfl
  | case4 rest nesting hypothesis =>
    obtain ⟨pair, earlier, equal⟩ := Option.map_eq_some_iff.mp found
    cases equal
    rw [hypothesis earlier, List.cons_append]
  | case5 nesting character rest _ _ _ hypothesis =>
    obtain ⟨pair, earlier, equal⟩ := Option.map_eq_some_iff.mp found
    cases equal
    rw [hypothesis earlier, List.cons_append]

/-- A key and its default make up the reference. -/
theorem eq_of_splitDefault {nesting : Nat} {text key default : List Char}
    (divided : splitDefault nesting text = (key, some default)) : text = key ++ ':' :: default := by
  fun_induction splitDefault nesting text generalizing key default with
  | case1 => cases divided
  | case2 nesting rest later default' split hypothesis =>
    cases divided
    rw [hypothesis split, List.cons_append, List.cons_append]
  | case3 nesting rest later default' split hypothesis =>
    cases divided
    rw [hypothesis split, List.cons_append]
  | case4 rest =>
    cases divided
    rfl
  | case5 nesting character rest _ _ _ later default' split hypothesis =>
    cases divided
    rw [hypothesis split, List.cons_append]

theorem size_default_le (length : Length) {text key default : List Char}
    (divided : splitDefault 0 text = (key, some default)) :
    length.size default ≤ length.size text := by
  rw [eq_of_splitDefault divided, length.size_append, length.size_cons]
  omega

theorem size_escaped_le (length : Length) (escape : Char) {rest : List Char} {pieces : Nat}
    (shorter : pieces ≤ length.size rest) :
    length.size ['$', '{'] + pieces ≤ length.size (escape :: '$' :: '{' :: rest) := by
  have opening := length.size_append ['$', '{'] rest
  have whole := length.size_cons escape (['$', '{'] ++ rest)
  rw [opening] at whole
  show length.size ['$', '{'] + pieces ≤ length.size (escape :: (['$', '{'] ++ rest))
  omega

/-- **The pieces of a text are no longer than the text.** -/
theorem size_scan_le (length : Length) (text : List Char) :
    length.sizeOfPieces (scan text) ≤ length.size text := by
  fun_induction scan text with
  | case1 => exact Nat.zero_le _
  | case2 rest hypothesis =>
    rw [Length.sizeOfPieces]
    exact size_escaped_le length '$' hypothesis
  | case3 rest hypothesis =>
    rw [Length.sizeOfPieces]
    exact size_escaped_le length '\\' hypothesis
  | case4 rest inner behind found hypothesis =>
    have reference := length.size_append inner ('}' :: behind)
    have closed := length.size_cons '}' behind
    have whole := length.size_append ['$', '{'] rest
    rw [eq_of_closing found, reference, closed] at whole
    rw [Length.sizeOfPieces, eq_of_closing found]
    show length.size inner + _ ≤ length.size (['$', '{'] ++ (inner ++ '}' :: behind))
    omega
  | case5 rest found =>
    rw [Length.sizeOfPieces]
    exact Nat.le_refl _
  | case6 character rest _ _ _ hypothesis =>
    rw [Length.sizeOfPieces, length.size_cons]
    exact Nat.add_le_add_left hypothesis _

/-! ## Part 2 — a chain that counts -/

variable {Memory Value Next : Type}

/-- A question that is counted besides being asked. -/
def counted (ask : String → Outcome (StateM Memory)) (name : String) :
    Outcome (StateM (Nat × Memory)) :=
  ExceptT.mk fun (asked, memory) =>
    let (outcome, after) := (ask name).run.run memory
    (outcome, (asked + 1, after))

/-- The same context with a count of the questions to the rest of the chain. -/
def counting (context : Context (StateM Memory)) : Context (StateM (Nat × Memory)) where
  next := context.next
  scope := context.scope
  proceed := counted context.proceed

/-! ## Part 3 — accounts -/

section

variable (bound : Nat) (size : Value → Nat) (saved kept base left asked : Nat)

/-- How an expansion ends, and how it ends next to a count of its questions. It began with some
questions saved up and keeps some; all others are paid for by the steps it took. Its value is longer
than at the beginning by at most so much for each of these steps. -/
inductive Within : Except ExpansionError (Value × Nat) × Memory →
    Except ExpansionError (Value × Nat) × (Nat × Memory) → Prop
  | value {value : Value} {after total : Nat} {memory : Memory} (taken : after ≤ left)
      (questions : total + kept + after ≤ asked + saved + left)
      (length : size value + bound * after ≤ base + bound * left) :
      Within (.ok (value, after), memory) (.ok (value, after), (total, memory))
  | failure {error : ExpansionError} {total : Nat} {memory : Memory}
      (questions : total ≤ asked + saved + left) :
      Within (.error error, memory) (.error error, (total, memory))

end

/-- An expansion with an account, and the same expansion with a count. -/
def Spends (bound : Nat) (size : Value → Nat) (saved kept base : Nat)
    (plain : Expanding (StateM Memory) Value) (count : Expanding (StateM (Nat × Memory)) Value) :
    Prop :=
  ∀ left asked memory, Within bound size saved kept base left asked
    (outcomeFrom plain left memory) (outcomeFrom count left (asked, memory))

namespace Spends

variable {bound : Nat} {size : Value → Nat} {nextSize : Next → Nat} {saved middle kept base : Nat}
variable {plain : Expanding (StateM Memory) Value} {count : Expanding (StateM (Nat × Memory)) Value}

theorem pure {value : Value} (short : size value ≤ base) :
    Spends bound size saved saved base (Pure.pure value : Expanding (StateM Memory) Value)
      (Pure.pure value) :=
  fun _ _ _ => .value (Nat.le_refl _) (Nat.le_refl _) (Nat.add_le_add_right short _)

theorem fail (error : ExpansionError) :
    Spends bound size saved kept base (throw error : Expanding (StateM Memory) Value)
      (throw error) :=
  fun _ _ _ => .failure (by omega)

theorem bind {plainNext : Value → Expanding (StateM Memory) Next}
    {countNext : Value → Expanding (StateM (Nat × Memory)) Next} {more : Nat}
    (first : Spends bound size saved middle base plain count)
    (second : ∀ value,
      Spends bound nextSize middle kept (size value + more) (plainNext value) (countNext value)) :
    Spends bound nextSize saved kept (base + more) (plain >>= plainNext) (count >>= countNext) := by
  intro left asked memory
  rw [outcomeFrom_bind, outcomeFrom_bind]
  have here := first left asked memory
  generalize outcomeFrom plain left memory = ended at here ⊢
  generalize outcomeFrom count left (asked, memory) = endedCount at here ⊢
  cases here with
  | failure questions => exact .failure questions
  | @value value after total memory taken questions length =>
    have later := second value after total memory
    show Within _ _ _ _ _ _ _ (outcomeFrom (plainNext value) after memory)
      (outcomeFrom (countNext value) after (total, memory))
    generalize outcomeFrom (plainNext value) after memory = ended at later ⊢
    generalize outcomeFrom (countNext value) after (total, memory) = endedCount at later ⊢
    cases later with
    | failure laterQuestions => exact .failure (by omega)
    | value laterTaken laterQuestions laterLength =>
      exact .value (by omega) (by omega) (by omega)

/-- What was saved up may be kept, and a longer text allowed for. -/
theorem mono {longer : Nat} (spends : Spends bound size saved kept base plain count)
    (spare : Nat) (longest : base ≤ longer) :
    Spends bound size (saved + spare) (kept + spare) longer plain count := by
  intro left asked memory
  have here := spends left asked memory
  generalize outcomeFrom plain left memory = ended at here ⊢
  generalize outcomeFrom count left (asked, memory) = endedCount at here ⊢
  cases here with
  | failure questions => exact .failure (by omega)
  | value taken questions length => exact .value taken (by omega) (by omega)

/-- An expansion whose value does not become part of the result. -/
theorem unused (spends : Spends bound size saved kept base plain count) :
    Spends bound (fun _ => 0) saved kept 0 plain count := by
  intro left asked memory
  have here := spends left asked memory
  generalize outcomeFrom plain left memory = ended at here ⊢
  generalize outcomeFrom count left (asked, memory) = endedCount at here ⊢
  cases here with
  | failure questions => exact .failure questions
  | value taken questions length =>
    refine .value taken questions ?_
    rw [Nat.zero_add, Nat.zero_add]
    exact Nat.mul_le_mul_left bound taken

/-- A step pays for one question and for one value. -/
theorem step (inner : List Char) :
    Spends bound (fun _ => bound) 0 1 0 (takeStep inner : Expanding (StateM Memory) Unit)
      (takeStep inner) := by
  intro left asked memory
  cases left with
  | zero => exact .failure (Nat.le_refl _)
  | succ left =>
    refine .value (Nat.le_succ _) (by omega) ?_
    rw [Nat.mul_succ]
    omega

/-- A question that was saved up, for a value of at most some length. -/
theorem ask {ask : String → Outcome (StateM Memory)} {name : String}
    {size : Option ConfigValue → Nat}
    (short : ∀ memory found, ((ask name).run.run memory).1 = .ok found → size found ≤ base) :
    Spends bound size 1 0 base (liftM (ask name) : Expanding (StateM Memory) _)
      (liftM (counted ask name)) := by
  intro left asked memory
  rw [outcomeFrom_ask, outcomeFrom_ask]
  have here := short memory
  have noted : (counted ask name).run.run (asked, memory)
      = (((ask name).run.run memory).1, (asked + 1, ((ask name).run.run memory).2)) := rfl
  rw [noted]
  generalize (ask name).run.run memory = ended at here ⊢
  rcases ended with ⟨error | found, after⟩
  · exact .failure (by omega)
  · exact .value (Nat.le_refl _) (by omega) (Nat.add_le_add_right (here found rfl) _)

end Spends

/-! ## Part 4 — texts and references -/

variable {length : Length} {bound : Nat}

theorem spends_expandPieces {plain : List Char → Expanding (StateM Memory) (List Char)}
    {count : List Char → Expanding (StateM (Nat × Memory)) (List Char)}
    (follow : ∀ inner,
      Spends bound length.size 0 0 (length.size inner) (plain inner) (count inner))
    (pieces : List Piece) :
    Spends bound length.size 0 0 (length.sizeOfPieces pieces) (expandPieces plain pieces)
      (expandPieces count pieces) := by
  induction pieces with
  | nil => exact .pure (Nat.le_of_eq length.size_nil)
  | cons piece rest hypothesis =>
    have behind : ∀ value : List Char, Spends bound length.size 0 0
        (length.size value + length.sizeOfPieces rest)
        (do return value ++ (← expandPieces plain rest))
        (do return value ++ (← expandPieces count rest)) := by
      intro value
      rw [Nat.add_comm]
      refine hypothesis.bind fun expanded => .pure (Nat.le_of_eq ?_)
      rw [length.size_append, Nat.add_comm]
    rw [Length.sizeOfPieces]
    cases piece with
    | literal text => exact behind text
    | reference inner => exact (follow inner).bind behind

theorem spends_expandText {plain : List Char → Expanding (StateM Memory) (List Char)}
    {count : List Char → Expanding (StateM (Nat × Memory)) (List Char)}
    (follow : ∀ inner,
      Spends bound length.size 0 0 (length.size inner) (plain inner) (count inner))
    (text : List Char) {longer : Nat} (longest : length.size text ≤ longer) :
    Spends bound length.size 0 0 longer (expandText plain text) (expandText count text) :=
  (spends_expandPieces follow (scan text)).mono 0
    (Nat.le_trans (size_scan_le length text) longest)

/-- No value that the rest of a chain gives is longer than the bound. -/
def ValuesWithin (length : Length) (bound : Nat) (ask : String → Outcome (StateM Memory)) : Prop :=
  ∀ name memory found, ((ask name).run.run memory).1 = .ok (some found) →
    length.of found.value ≤ bound

/-- **A reference pays for its question and for its value with its step**: by induction on the levels,
part by part of a reference. -/
theorem spends_resolve {ask : String → Outcome (StateM Memory)} (values : ValuesWithin length bound ask)
    (levels : Nat) (inner : List Char) :
    Spends bound length.size 0 0 (length.size inner) (resolve ask levels inner)
      (resolve (counted ask) levels inner) := by
  induction levels generalizing inner with
  | zero => exact .fail _
  | succ levels hypothesis =>
    have text := spends_expandText hypothesis
    have question : ∀ name, Spends bound length.ofFound 1 0 bound
        (liftM (ask name) : Expanding (StateM Memory) _) (liftM (counted ask name)) := by
      intro name
      refine .ask fun memory found given => ?_
      cases found with
      | none => exact Nat.zero_le _
      | some found => exact values name memory found given
    rw [← Nat.zero_add (length.size inner)]
    refine Spends.bind (.step inner) fun _ => ?_
    -- The question that the step has paid for is still to be asked behind the key.
    have key := (text (splitDefault 0 inner).1 (Nat.le_refl _)).unused.mono 1 (Nat.le_refl 0)
    rw [← Nat.zero_add (bound + length.size inner)]
    refine Spends.bind key fun key => ?_
    show Spends bound length.size 1 0 (0 + (bound + length.size inner)) _ _
    rw [Nat.zero_add]
    refine Spends.bind (question _) fun found => ?_
    cases found with
    | some found =>
      refine text found.value.toList ?_
      rw [length.size_toList]
      exact Nat.le_add_right _ _
    | none =>
      dsimp only
      cases divided : (splitDefault 0 inner).2 with
      | none => exact .fail _
      | some default =>
        refine text default ?_
        exact Nat.le_trans (size_default_le length (Prod.ext rfl divided)) (Nat.le_add_left _ _)

/-! ## Part 5 — the stage -/

/-- How an action ends, and how it ends next to a count of its questions: these are at most once more
than there are steps, and a value has at most some length. -/
inductive Afforded (steps longest : Nat) (size : Value → Nat) : Except ExpansionError Value × Memory →
    Except ExpansionError Value × (Nat × Memory) → Prop
  | value {value : Value} {asked : Nat} {memory : Memory} (few : asked ≤ steps + 1)
      (short : size value ≤ longest) :
      Afforded steps longest size (.ok value, memory) (.ok value, (asked, memory))
  | failure {error : ExpansionError} {asked : Nat} {memory : Memory} (few : asked ≤ steps + 1) :
      Afforded steps longest size (.error error, memory) (.error error, (asked, memory))

theorem afforded_expandValue {ask : String → Outcome (StateM Memory)}
    (values : ValuesWithin length bound ask) (limits : Limits) {found : ConfigValue}
    (short : length.of found.value ≤ bound) (memory : Memory) :
    Afforded limits.steps ((limits.steps + 1) * bound) (fun found => length.of found.value)
      ((expandValue limits ask found).run.run memory)
      ((expandValue limits (counted ask) found).run.run (1, memory)) := by
  have spends := spends_expandText (spends_resolve values limits.depth) found.value.toList
    (Nat.le_of_eq (length.size_toList found.value))
  have within := spends limits.steps 1 memory
  unfold outcomeFrom at within
  unfold expandValue
  rw [run_bind, run_bind]
  generalize ((expandText (resolve ask limits.depth) found.value.toList).run limits.steps).run.run
    memory = ended at within ⊢
  generalize ((expandText (resolve (counted ask) limits.depth) found.value.toList).run
    limits.steps).run.run (1, memory) = endedCount at within ⊢
  cases within with
  | failure questions => exact .failure (by omega)
  | @value text after asked memory taken questions long =>
    refine .value (by omega) ?_
    show length.size text ≤ (limits.steps + 1) * bound
    rw [Nat.add_mul, Nat.one_mul, Nat.mul_comm]
    omega

/-- What the stage makes of the answer of the rest of the chain. -/
def Limits.finish {m : Type → Type} [Monad m] (limits : Limits) (scope : Scope)
    (ask : String → Outcome m) : Option ConfigValue → Outcome m
  | none => return none
  | some found =>
    if scope.isSuspended || !hasOpening found.value.toList then return some found
    else return some (← expandValue limits ask found)

theorem afforded_finish {ask : String → Outcome (StateM Memory)}
    (values : ValuesWithin length bound ask) (limits : Limits) (scope : Scope)
    (found : Option ConfigValue) (short : length.ofFound found ≤ bound) (memory : Memory) :
    Afforded limits.steps ((limits.steps + 1) * bound) length.ofFound
      ((limits.finish scope ask found).run.run memory)
      ((limits.finish scope (counted ask) found).run.run (1, memory)) := by
  have more : bound ≤ (limits.steps + 1) * bound := Nat.le_mul_of_pos_left bound (Nat.succ_pos _)
  cases found with
  | none => exact .value (by omega) (Nat.zero_le _)
  | some found =>
    unfold Limits.finish
    dsimp only
    by_cases asFound : (scope.isSuspended || !hasOpening found.value.toList) = true
    · rw [if_pos asFound, if_pos asFound]
      exact .value (by omega) (Nat.le_trans short more)
    · rw [if_neg asFound, if_neg asFound, run_bind, run_bind]
      have expanded := afforded_expandValue values limits short memory
      generalize (expandValue limits ask found).run.run memory = ended at expanded ⊢
      generalize (expandValue limits (counted ask) found).run.run (1, memory) = endedCount
        at expanded ⊢
      cases expanded with
      | failure few => exact .failure few
      | value few short => exact .value few short

theorem afforded_answer (limits : Limits) (context : Context (StateM Memory)) (name : String)
    (memory : Memory) (values : ValuesWithin length bound context.proceed) :
    Afforded limits.steps ((limits.steps + 1) * bound) length.ofFound
      (limits.answer context name memory) (limits.answer (counting context) name (0, memory)) := by
  show Afforded _ _ _
    ((context.proceed name >>= limits.finish context.scope context.proceed).run.run memory)
    ((counted context.proceed name >>= limits.finish context.scope (counted context.proceed)).run.run
      (0, memory))
  rw [run_bind, run_bind]
  have given := values name memory
  have noted : (counted context.proceed name).run.run (0, memory)
      = (((context.proceed name).run.run memory).1, (1, ((context.proceed name).run.run memory).2)) :=
    rfl
  rw [noted]
  generalize (context.proceed name).run.run memory = ended at given ⊢
  rcases ended with ⟨error | _ | found, after⟩
  · exact .failure (by omega)
  · exact afforded_finish values limits context.scope none (Nat.zero_le _) after
  · exact afforded_finish values limits context.scope (some found) (given found rfl) after

/-- **Fan-out is bounded.** The stage asks the rest of its chain at most once more than there are
steps, and what it gives is at most as long as that many values. Counting the questions changes
nothing else. -/
theorem answer_counted (limits : Limits) (context : Context (StateM Memory)) (name : String)
    (memory : Memory) (length : Length) (bound : Nat)
    (values : ValuesWithin length bound context.proceed) :
    ∃ asked, limits.answer (counting context) name (0, memory)
        = ((limits.answer context name memory).1, (asked, (limits.answer context name memory).2))
      ∧ asked ≤ limits.steps + 1
      ∧ ∀ found, (limits.answer context name memory).1 = .ok (some found) →
        length.of found.value ≤ (limits.steps + 1) * bound := by
  have afforded := afforded_answer limits context name memory values
  generalize limits.answer context name memory = ended at afforded ⊢
  generalize limits.answer (counting context) name (0, memory) = endedCount at afforded ⊢
  cases afforded with
  | failure few => exact ⟨_, rfl, few, nofun⟩
  | value few short =>
    refine ⟨_, rfl, few, fun found equal => ?_⟩
    cases equal
    exact short

/-- Values of which the first two need the next one twice. -/
def doublingValues : String → Option ConfigValue
  | "a" => some ⟨"a", "${b}${b}", "base", 100⟩
  | "b" => some ⟨"b", "${c}${c}", "base", 100⟩
  | "c" => some ⟨"c", "${d:ωωω}", "base", 100⟩
  | _ => none

/-- A chain with these values that remembers how often it was asked. -/
def doublingContext : Context (StateM Nat) where
  next := 1
  scope := .outermost
  proceed name := do
    modify (· + 1)
    return doublingValues name

theorem valuesWithin_doublingContext {length : Length} {bound : Nat}
    (short : ∀ text ∈ ["${b}${b}", "${c}${c}", "${d:ωωω}"], length.of text ≤ bound) :
    ValuesWithin length bound doublingContext.proceed := by
  intro name memory found given
  have same : doublingValues name = some found := Except.ok.inj given
  unfold doublingValues at same
  split at same <;> cases same <;> exact short _ (by simp)

/-- Ten references are followed for `a`. With so many steps the stage asks eleven times and gives four
times the default; with one step less it is cut off behind its tenth question. -/
theorem answer_counted_sample :
    ValuesWithin .bytes 11 doublingContext.proceed
    ∧ ValuesWithin .characters 8 doublingContext.proceed
    ∧ (∃ asked, Limits.answer ⟨3, 10⟩ (counting doublingContext) "a" (0, 0)
        = (.ok (some ⟨"a", "ωωωωωωωωωωωω", "base", 100⟩), (asked, 11))
      ∧ asked ≤ 11 ∧ String.utf8ByteSize "ωωωωωωωωωωωω" ≤ 11 * 11)
    ∧ ∃ asked, Limits.answer ⟨3, 9⟩ (counting doublingContext) "a" (0, 0)
        = (.error ⟨"d:ωωω", true⟩, (asked, 10)) ∧ asked ≤ 10 := by
  have whole : Limits.answer ⟨3, 10⟩ doublingContext "a" 0
      = (.ok (some ⟨"a", "ωωωωωωωωωωωω", "base", 100⟩), 11) := by decide +kernel
  have cut : Limits.answer ⟨3, 9⟩ doublingContext "a" 0 = (.error ⟨"d:ωωω", true⟩, 10) := by
    decide +kernel
  have bytes : ValuesWithin .bytes 11 doublingContext.proceed :=
    valuesWithin_doublingContext (by decide +kernel)
  have characters : ValuesWithin .characters 8 doublingContext.proceed :=
    valuesWithin_doublingContext (by decide +kernel)
  obtain ⟨asked, same, few, short⟩ := answer_counted ⟨3, 10⟩ doublingContext "a" 0 _ _ bytes
  obtain ⟨fewer, sameCut, fewCut, -⟩ := answer_counted ⟨3, 9⟩ doublingContext "a" 0 _ _ characters
  rw [whole] at same short
  rw [cut] at sameCut
  exact ⟨bytes, characters, ⟨asked, same, few, short _ rfl⟩, fewer, sameCut, fewCut⟩

end LayeredConfig.Expression
