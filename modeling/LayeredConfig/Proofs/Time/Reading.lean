/-
**Texts of durations are read as the spans of time that they write, and no others are.**

A text begins with the longest run of digits (`Begins`), and what stands behind that names the unit. The
two bounds are checked one before and one after the unit, and so come before and after a unit that is
unknown (`Reads`):

* `ofAmount_of_fits`, `ofAmount_of_beyond`: an amount of a unit within the bound and beyond it;
* `read_of_reads`, `exists_reads`: a text is read as what it says, and every text says one thing;
* `convert_duration`: blank texts are absent, durations are read, all else is refused for its first
  fault, and written milliseconds are read back.
-/

import LayeredConfig.Proofs.Conversion.Builtin

namespace LayeredConfig.Time

open LayeredConfig.Number

/-! ## Part 1 — units and spans -/

namespace TimeUnit

/-- How a unit is written; seconds need no name. -/
def spellings : TimeUnit → List (List Char)
  | milliseconds => [['m', 's']]
  | seconds => [[], ['s']]
  | minutes => [['m']]
  | hours => [['h']]
  | days => [['d']]

/-- The seconds of a unit, if it has whole ones. -/
def seconds? : TimeUnit → Option Nat
  | milliseconds => none
  | seconds => some 1
  | minutes => some 60
  | hours => some 3600
  | days => some 86400

/-- The nanoseconds of a unit. -/
def nanoseconds : TimeUnit → Nat
  | milliseconds => 1000000
  | seconds => 1000000000
  | minutes => 60000000000
  | hours => 3600000000000
  | days => 86400000000000

theorem ofName?_of_mem {unit : TimeUnit} {name : List Char} (named : name ∈ unit.spellings) :
    ofName? name = some unit := by
  cases unit <;> simp only [spellings, List.mem_cons, List.not_mem_nil, or_false] at named
  case seconds => rcases named with rfl | rfl <;> rfl
  all_goals
    subst named
    rfl

theorem ofName?_eq_none {name : List Char} (unknown : ∀ unit : TimeUnit, name ∉ unit.spellings) :
    ofName? name = none := by
  have noMilliseconds := unknown .milliseconds
  have noSeconds := unknown .seconds
  have noMinutes := unknown .minutes
  have noHours := unknown .hours
  have noDays := unknown .days
  simp only [spellings, List.mem_cons, List.not_mem_nil, or_false]
    at noMilliseconds noSeconds noMinutes noHours noDays
  rw [ofName?, if_neg noMilliseconds, if_neg noSeconds, if_neg noMinutes, if_neg noHours,
    if_neg noDays]

end TimeUnit

namespace Duration

/-- The greatest amount, and the greatest number of whole seconds: the greatest of sixty-four bits. -/
def bound : Nat := Nat.pow 2 64 - 1

theorem height_u64 : IntegerKind.u64.height = bound := by decide

/-- A duration of so many nanoseconds, of which as many as possible are whole seconds. -/
structure Spans (duration : Duration) (total : Nat) : Prop where
  total : duration.seconds * 1000000000 + duration.nanoseconds = total
  normal : duration.nanoseconds < 1000000000

/-- An amount of a unit has no more seconds than the bound; milliseconds never do. -/
def Fits (amount : Nat) (unit : TimeUnit) : Prop :=
  ∀ scale, unit.seconds? = some scale → amount * scale ≤ bound

variable {amount scale : Nat} {unit : TimeUnit} {duration : Duration}

theorem exists_spans (total : Nat) : ∃ duration : Duration, duration.Spans total :=
  ⟨⟨total / 1000000000, total % 1000000000⟩, by dsimp only; omega, by dsimp only; omega⟩

theorem Spans.eq_mk {seconds nanoseconds total : Nat} (spans : duration.Spans total)
    (same : seconds * 1000000000 + nanoseconds = total) (normal : nanoseconds < 1000000000) :
    duration = ⟨seconds, nanoseconds⟩ := by
  obtain ⟨total, below⟩ := spans
  rcases duration with ⟨otherSeconds, otherNanoseconds⟩
  simp only [Duration.mk.injEq] at total below ⊢
  omega

theorem scaled_of_le (inside : amount * scale ≤ bound)
    (spans : duration.Spans (amount * scale * 1000000000)) : scaled amount scale = .ok duration := by
  rw [scaled, height_u64, if_pos inside, spans.eq_mk (Nat.add_zero _) (by decide)]
  rfl

theorem ofAmount_of_fits (fits : Fits amount unit)
    (spans : duration.Spans (amount * unit.nanoseconds)) : ofAmount amount unit = .ok duration := by
  cases unit with
  | milliseconds =>
    have same : amount / 1000 * 1000000000 + amount % 1000 * 1000000 = amount * 1000000 := by omega
    have normal : amount % 1000 * 1000000 < 1000000000 := by omega
    rw [spans.eq_mk same normal]
    rfl
  | seconds | minutes | hours | days =>
    refine scaled_of_le (fits _ rfl) ?_
    rwa [Nat.mul_assoc]

theorem ofAmount_of_beyond (whole : unit.seconds? = some scale) (beyond : bound < amount * scale) :
    ofAmount amount unit = .error .overflow := by
  cases unit with
  | milliseconds => cases whole
  | seconds | minutes | hours | days =>
    cases whole
    exact if_neg (Nat.not_le.mpr beyond)

/-! ## Part 2 — what a text says -/

/-- The longest run of digits that a text begins with, and what stands behind it. -/
structure Begins (text digits rest : List Char) : Prop where
  written : Digits digits
  whole : text = digits ++ rest
  longest : ∀ character ∈ rest.head?, character.isDigit = false

variable {text digits rest : List Char}

/-- No unit begins with a digit, so the amount ends where the unit begins. -/
theorem begins_append (written : Digits digits) (named : rest ∈ unit.spellings) :
    Begins (digits ++ rest) digits rest := by
  refine ⟨written, rfl, ?_⟩
  cases unit <;> simp only [TimeUnit.spellings, List.mem_cons, List.not_mem_nil, or_false] at named
  case seconds =>
    rcases named with rfl | rfl
    · exact nofun
    · rintro _ ⟨⟩
      rfl
  all_goals
    subst named
    rintro _ ⟨⟩
    rfl

/-- A text writes a duration: an amount with the name of a unit, both within the bounds. -/
structure Writes (text : List Char) (duration : Duration) (digits name : List Char)
    (unit : TimeUnit) : Prop where
  amount : Digits digits
  named : name ∈ unit.spellings
  whole : text = digits ++ name
  inside : Nat.ofDigitChars 10 digits 0 ≤ bound
  fits : Fits (Nat.ofDigitChars 10 digits 0) unit
  spans : duration.Spans (Nat.ofDigitChars 10 digits 0 * unit.nanoseconds)

/-- What a text says about a duration, the first fault before all others. -/
inductive Reads (text : List Char) : Except DurationFault Duration → Prop
  /-- There is no digit to begin with. -/
  | noAmount (start : ∀ character ∈ text.head?, character.isDigit = false) :
      Reads text (.error .noAmount)
  /-- The amount is too large, whatever stands behind it. -/
  | tooLarge {digits rest : List Char} (begins : Begins text digits rest)
      (beyond : bound < Nat.ofDigitChars 10 digits 0) : Reads text (.error (.amount .tooLarge))
  /-- What stands behind the amount is no unit. -/
  | unknownUnit {digits rest : List Char} (begins : Begins text digits rest)
      (inside : Nat.ofDigitChars 10 digits 0 ≤ bound)
      (unknown : ∀ unit : TimeUnit, rest ∉ unit.spellings) :
      Reads text (.error (.unknownUnit (String.ofList rest)))
  /-- The amount of the unit has too many seconds. -/
  | overflow {digits rest : List Char} {unit : TimeUnit} {scale : Nat}
      (begins : Begins text digits rest) (inside : Nat.ofDigitChars 10 digits 0 ≤ bound)
      (named : rest ∈ unit.spellings) (whole : unit.seconds? = some scale)
      (beyond : bound < Nat.ofDigitChars 10 digits 0 * scale) : Reads text (.error .overflow)
  /-- The text writes a duration. -/
  | written {duration : Duration} {digits name : List Char} {unit : TimeUnit}
      (writes : Writes text duration digits name unit) : Reads text (.ok duration)

theorem takeWhile_of_begins (begins : Begins text digits rest) :
    text.takeWhile Char.isDigit = digits ∧ text.dropWhile Char.isDigit = rest := by
  obtain ⟨written, rfl, longest⟩ := begins
  rw [List.takeWhile_append_of_pos written.digits, List.dropWhile_append_of_pos written.digits]
  cases rest with
  | nil => exact ⟨List.append_nil _, rfl⟩
  | cons character rest =>
    have noDigit : ¬ character.isDigit = true := by simp [longest character rfl]
    rw [List.takeWhile_cons_of_neg noDigit, List.dropWhile_cons_of_neg noDigit]
    exact ⟨List.append_nil _, rfl⟩

theorem exists_begins (text : List Char) :
    (∀ character ∈ text.head?, character.isDigit = false)
      ∨ ∃ digits rest, Begins text digits rest := by
  by_cases none : text.takeWhile Char.isDigit = []
  · refine .inl fun character first => ?_
    obtain ⟨rest, rfl⟩ := List.head?_eq_some_iff.mp first
    rw [List.takeWhile_cons] at none
    simpa using none
  · refine .inr ⟨_, text.dropWhile Char.isDigit, ⟨none, fun _ member => ?_⟩, ?_, ?_⟩
    · exact List.mem_takeWhile_imp member
    · exact List.takeWhile_append_dropWhile.symm
    · intro character first
      have refused := List.head?_dropWhile_not Char.isDigit text
      rw [first] at refused
      simpa using refused

/-- Behind an amount within the bound the unit decides. -/
theorem read_of_begins (begins : Begins text digits rest)
    (inside : Nat.ofDigitChars 10 digits 0 ≤ bound) :
    Duration.read text = (TimeUnit.ofName? rest).elim (.error (.unknownUnit (String.ofList rest)))
      fun unit => ofAmount (Nat.ofDigitChars 10 digits 0) unit := by
  obtain ⟨front, behind⟩ := takeWhile_of_begins begins
  have some : digits.isEmpty = false := by simp [begins.written.nonempty]
  rw [← height_u64] at inside
  have amount : readDigits IntegerKind.u64.height .tooLarge 0 (Nat.zero_le _) digits = .ok _ :=
    readDigits_of_le begins.written.digits _ inside
  simp only [Duration.read, front, behind, some, Bool.false_eq_true, if_false, amount]
  cases TimeUnit.ofName? rest with
  | none => rfl
  | some unit => rfl

/-- **A text is read as what it says.** -/
theorem read_of_reads {outcome : Except DurationFault Duration} (reads : Reads text outcome) :
    Duration.read text = outcome := by
  cases reads with
  | noAmount start =>
    have nothing : text.takeWhile Char.isDigit = [] := by
      cases text with
      | nil => rfl
      | cons character rest => exact List.takeWhile_cons_of_neg (by simp [start character rfl])
    simp only [Duration.read, nothing, List.isEmpty_nil, if_true]
  | @tooLarge digits rest begins beyond =>
    obtain ⟨front, -⟩ := takeWhile_of_begins begins
    have some : digits.isEmpty = false := by simp [begins.written.nonempty]
    rw [← height_u64] at beyond
    simp only [Duration.read, front, some, Bool.false_eq_true, if_false]
    rw [readDigits_of_lt begins.written.digits _ beyond]
  | unknownUnit begins inside unknown =>
    rw [read_of_begins begins inside, TimeUnit.ofName?_eq_none unknown, Option.elim_none]
  | overflow begins inside named whole beyond =>
    rw [read_of_begins begins inside, TimeUnit.ofName?_of_mem named, Option.elim_some]
    exact ofAmount_of_beyond whole beyond
  | written writes =>
    obtain ⟨amount, named, rfl, inside, fits, spans⟩ := writes
    rw [read_of_begins (begins_append amount named) inside, TimeUnit.ofName?_of_mem named,
      Option.elim_some]
    exact ofAmount_of_fits fits spans

theorem exists_reads (text : List Char) : ∃ outcome, Reads text outcome := by
  rcases exists_begins text with start | ⟨digits, rest, begins⟩
  · exact ⟨_, .noAmount start⟩
  · by_cases inside : Nat.ofDigitChars 10 digits 0 ≤ bound
    · by_cases named : ∃ unit : TimeUnit, rest ∈ unit.spellings
      · obtain ⟨unit, named⟩ := named
        by_cases fits : Fits (Nat.ofDigitChars 10 digits 0) unit
        · obtain ⟨duration, spans⟩ := exists_spans (Nat.ofDigitChars 10 digits 0 * unit.nanoseconds)
          exact ⟨_, .written ⟨begins.written, named, begins.whole, inside, fits, spans⟩⟩
        · obtain ⟨scale, whole, beyond⟩ : ∃ scale, unit.seconds? = some scale
              ∧ bound < Nat.ofDigitChars 10 digits 0 * scale := by
            simpa [Fits] using fits
          exact ⟨_, .overflow begins inside named whole beyond⟩
      · exact ⟨_, .unknownUnit begins inside (not_exists.mp named)⟩
    · exact ⟨_, .tooLarge begins (Nat.lt_of_not_le inside)⟩

theorem read_eq_iff {outcome : Except DurationFault Duration} :
    Duration.read text = outcome ↔ Reads text outcome := by
  constructor
  · rintro rfl
    obtain ⟨outcome, reads⟩ := exists_reads text
    rwa [read_of_reads reads]
  · exact read_of_reads

theorem reads_ok_iff :
    Reads text (.ok duration) ↔ ∃ digits name unit, Writes text duration digits name unit := by
  constructor
  · rintro (_ | _ | _ | _ | writes)
    exact ⟨_, _, _, writes⟩
  · rintro ⟨digits, name, unit, writes⟩
    exact .written writes

/-- Milliseconds are written as they are read. -/
theorem writes_writeMillis {count : Nat} (inside : count ≤ bound)
    (spans : duration.Spans (count * 1000000)) :
    Writes (writeMillis count) duration (decimalDigits count) ['m', 's'] .milliseconds where
  amount := digits_decimalDigits count
  named := List.mem_singleton_self _
  whole := rfl
  inside := by rwa [ofDigitChars_decimalDigits]
  fits := nofun
  spans := by rwa [ofDigitChars_decimalDigits]

end Duration

/-! ## Part 3 — the converter -/

section Converting

open LayeredConfig.Conversion LayeredConfig.Text Duration

theorem duration_ne_text : Builtin.duration ≠ .text := nofun

theorem read_eq_ok_iff {text : List Char} {duration : Duration} :
    Builtin.duration.read text = .ok duration
      ↔ ∃ digits name unit, Writes text duration digits name unit := by
  rw [← reads_ok_iff, ← read_eq_iff]
  exact mapError_eq_ok_iff

theorem read_eq_error_iff {text : List Char} {refused : ReadFault} :
    Builtin.duration.read text = .error refused
      ↔ ∃ fault, Reads text (.error fault) ∧ .duration fault = refused := by
  simp only [← read_eq_iff]
  exact mapError_eq_error_iff.trans (exists_congr fun fault => and_congr_right fun _ => eq_comm)

theorem convert_eq_some_iff {text : String} {duration : Duration} :
    (Converter.builtin .duration).convert text = .ok (some duration)
      ↔ ∃ digits name unit, Writes (trimmed text.toList) duration digits name unit := by
  rw [convert_builtin_eq_some_iff duration_ne_text, read_eq_ok_iff]
  refine and_iff_right_of_imp ?_
  rintro ⟨digits, name, unit, writes⟩ blank
  have nothing : digits ++ name = [] := writes.whole ▸ blank
  exact writes.amount.nonempty (List.append_eq_nil_iff.mp nothing).1

theorem convert_eq_error_iff {text : String} {error : ConversionError} :
    (Converter.builtin .duration).convert text = .error error
      ↔ trimmed text.toList ≠ [] ∧ ∃ fault, Reads (trimmed text.toList) (.error fault)
        ∧ error = .ofFault "Duration" (trim text) (.duration fault) := by
  rw [convert_builtin_eq_error_iff duration_ne_text]
  refine and_congr_right fun _ => ⟨?_, ?_⟩
  · rintro ⟨refused, read, rfl⟩
    obtain ⟨fault, reads, rfl⟩ := read_eq_error_iff.mp read
    exact ⟨fault, reads, rfl⟩
  · rintro ⟨fault, reads, rfl⟩
    exact ⟨.duration fault, read_eq_error_iff.mpr ⟨fault, reads, rfl⟩, rfl⟩

theorem trimmed_writeMillis (count : Nat) : trimmed (writeMillis count) = writeMillis count := by
  have unit : ∀ character ∈ ['m', 's'], isBlank character = false :=
    List.forall_mem_cons.mpr ⟨by decide, List.forall_mem_singleton.mpr (by decide)⟩
  refine trimmed_of_unblanked fun character member => ?_
  rcases List.mem_append.mp member with digit | named
  · exact isBlank_of_isDigit ((digits_decimalDigits count).digits character digit)
  · exact unit character named

/-- **Exactly the durations that a text writes are read.** A blank text is absent, a text that writes a
duration is that duration, and any other is refused for the first fault that it has. So whole
milliseconds are read back from what is written for them. -/
theorem convert_duration :
    (∀ text : String,
      ((Converter.builtin .duration).convert text = .ok none ↔ trimmed text.toList = [])
      ∧ (∀ duration, (Converter.builtin .duration).convert text = .ok (some duration) ↔
        ∃ digits name unit, Writes (trimmed text.toList) duration digits name unit)
      ∧ ∀ error, (Converter.builtin .duration).convert text = .error error ↔
        trimmed text.toList ≠ [] ∧ ∃ fault, Reads (trimmed text.toList) (.error fault)
          ∧ error = .ofFault "Duration" (trim text) (.duration fault))
    ∧ ∀ count ≤ bound, ∀ duration : Duration, duration.Spans (count * 1000000) →
      (Converter.builtin .duration).convert (String.ofList (writeMillis count))
        = .ok (some duration) := by
  refine ⟨fun text => ⟨?_, fun duration => convert_eq_some_iff, fun error => convert_eq_error_iff⟩, ?_⟩
  · exact convert_builtin_eq_none_iff duration_ne_text
  · intro count inside duration spans
    have writes := writes_writeMillis inside spans
    rw [convert_eq_some_iff, String.toList_ofList, trimmed_writeMillis]
    exact ⟨_, _, _, writes⟩

/-- The greatest amount, in milliseconds and in two texts that are one beyond a bound. Before the first
of these could be refused for its unit, it is for its amount. -/
theorem convert_duration_sample :
    let longest : Duration := ⟨18446744073709551, 615000000⟩
    let tooLarge := "number too large to fit in target type"
    (bound ≤ bound ∧ longest.Spans (bound * 1000000)
      ∧ (Converter.builtin .duration).convert (String.ofList (writeMillis bound))
        = .ok (some longest))
    ∧ (Converter.builtin .duration).convert "18446744073709551616w"
      = .error ⟨"Duration", "18446744073709551616w", tooLarge, [tooLarge]⟩
    ∧ (Converter.builtin .duration).convert "213503982334602d"
      = .error ⟨"Duration", "213503982334602d", "duration overflow", []⟩
    ∧ (Converter.builtin .duration).convert "\t007m" = .ok (some ⟨420, 0⟩) := by
  obtain ⟨converts, readBack⟩ := convert_duration
  have spans : Spans ⟨18446744073709551, 615000000⟩ (bound * 1000000) := ⟨by decide, by decide⟩
  have amount : Duration.read "18446744073709551616w".toList = .error (.amount .tooLarge) := by
    decide +kernel
  have product : Duration.read "213503982334602d".toList = .error .overflow := by decide +kernel
  have padded : trimmed "\t007m".toList = ['0', '0', '7', 'm'] := by decide +kernel
  have minutes : Duration.read ['0', '0', '7', 'm'] = .ok ⟨420, 0⟩ := by decide +kernel
  refine ⟨⟨le_rfl, spans, readBack bound le_rfl _ spans⟩, ?_, ?_, ?_⟩
  · exact ((converts _).2.2 _).mpr ⟨by decide, _, read_eq_iff.mp amount, rfl⟩
  · exact ((converts _).2.2 _).mpr ⟨by decide, _, read_eq_iff.mp product, rfl⟩
  · rw [(converts _).2.1, padded]
    exact reads_ok_iff.mp (read_eq_iff.mp minutes)

end Converting

end LayeredConfig.Time
