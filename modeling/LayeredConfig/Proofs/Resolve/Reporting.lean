/-
**What a report says of the problems that were found.**

A report has the failures among the findings, in their order, and it is made exactly if there is one.
Its text has a heading and, for each problem, the lines of its message behind a tab:

* `problems_ofFindings`: what is kept of some findings;
* `lines_message`: the lines of a report;
* `report_ofFindings`: each problem has a line of its own exactly if no line break occurs in the texts
  that the problems show, for these are written as they are;
* `broken_name_takes_two_lines`: a missing property with a line break in its name.
-/

import LayeredConfig.Proofs.Text.Separated
import LayeredConfig.Resolve.Report
import Mathlib.Data.List.Induction

/-! ## Part 1 — lines -/

namespace LayeredConfig.Text

/-- The lines of a text, which are what stands between its line breaks. -/
def lines (text : String) : List String := (cutAt '\n' text.toList).map String.ofList

theorem lines_append (first rest : String) :
    lines (first ++ "\n" ++ rest) = lines first ++ lines rest := by
  have letters : (first ++ "\n" ++ rest).toList = first.toList ++ '\n' :: rest.toList := by
    simp [String.toList_append]
  rw [lines, letters, cutAt_append_separator, List.map_append, ← lines, ← lines]

theorem lines_of_unbroken {text : String} (unbroken : '\n' ∉ text.toList) : lines text = [text] := by
  rw [lines, cutAt_of_not_mem unbroken, List.map_singleton, String.ofList_toList]

theorem length_lines_pos (text : String) : 0 < (lines text).length := by
  rw [lines, List.length_map]
  exact List.length_pos_iff.mpr (cutAt_ne_nil _)

theorem unbroken_of_length_lines {text : String} (alone : (lines text).length = 1) :
    '\n' ∉ text.toList := by
  intro broken
  obtain ⟨before, after, split⟩ := List.append_of_mem broken
  have joined : text = String.ofList before ++ "\n" ++ String.ofList after := by
    rw [← String.toList_inj, split]
    simp [String.toList_append]
  rw [joined, lines_append, List.length_append] at alone
  have first := length_lines_pos (String.ofList before)
  have second := length_lines_pos (String.ofList after)
  omega

theorem flatMap_lines_of_unbroken {texts : List String}
    (unbroken : ∀ text ∈ texts, '\n' ∉ text.toList) : texts.flatMap lines = texts := by
  induction texts with
  | nil => rfl
  | cons text rest hypothesis =>
    obtain ⟨here, later⟩ := List.forall_mem_cons.mp unbroken
    rw [List.flatMap_cons, lines_of_unbroken here, hypothesis later, List.singleton_append]

/-- Texts with as many lines as there are texts have one line each. -/
theorem unbroken_of_length_flatMap_lines {texts : List String}
    (level : (texts.flatMap lines).length = texts.length) :
    ∀ text ∈ texts, '\n' ∉ text.toList := by
  have atLeast : ∀ texts : List String, texts.length ≤ (texts.flatMap lines).length := by
    intro texts
    induction texts with
    | nil => exact Nat.le_refl _
    | cons text rest hypothesis =>
      have := length_lines_pos text
      rw [List.flatMap_cons, List.length_append, List.length_cons]
      omega
  induction texts with
  | nil => exact fun _ member => absurd member List.not_mem_nil
  | cons text rest hypothesis =>
    have := length_lines_pos text
    have := atLeast rest
    rw [List.flatMap_cons, List.length_append, List.length_cons] at level
    refine List.forall_mem_cons.mpr ⟨unbroken_of_length_lines ?_, hypothesis ?_⟩
    · omega
    · omega

end LayeredConfig.Text

namespace LayeredConfig.Resolve

open LayeredConfig.Conversion LayeredConfig.Text

/-! ## Part 2 — findings -/

/-- What a collection of problems is told. -/
inductive Finding : Type 1 where
  /-- The outcome of looking for a value. -/
  | checked {Value : Type} (outcome : Except ResolveError Value)
  /-- A failure. -/
  | failed (problem : ResolveError)

/-- The failure in a finding. -/
def Finding.problem? : Finding → Option ResolveError
  | checked (.ok _) => none
  | checked (.error problem) => some problem
  | failed problem => some problem

namespace Problems

/-- The problems behind one more finding. -/
def learn (problems : Problems) : Finding → Problems
  | .checked outcome => (problems.check outcome).2
  | .failed problem => problems.push problem

/-- The problems behind some findings. -/
def ofFindings (findings : List Finding) : Problems := findings.foldl learn empty

theorem problems_learn (problems : Problems) (finding : Finding) :
    (problems.learn finding).problems = problems.problems ++ finding.problem?.toList := by
  match finding with
  | .checked (.ok _) => exact (List.append_nil _).symm
  | .checked (.error _) | .failed _ => rfl

/-- **Of the findings the failures are kept**, in their order. -/
theorem problems_ofFindings (findings : List Finding) :
    (ofFindings findings).problems = findings.filterMap Finding.problem? := by
  induction findings using List.reverseRecOn with
  | nil => rfl
  | append_singleton findings finding hypothesis =>
    rw [ofFindings, List.foldl_append, ← ofFindings, List.foldl_cons, List.foldl_nil, problems_learn,
      hypothesis, List.filterMap_append]
    cases kept : finding.problem? with
    | none | some => simp [kept]

theorem finish_eq_ok_iff {problems : Problems} :
    problems.finish = .ok () ↔ problems.problems = [] :=
  match problems with
  | ⟨[]⟩ => iff_of_true rfl rfl
  | ⟨_ :: _⟩ => iff_of_false nofun nofun

theorem problems_of_finish {problems : Problems} {report : Report}
    (finished : problems.finish = .error report) : report.problems = problems.problems :=
  match problems, finished with
  | ⟨_ :: _⟩, rfl => rfl

end Problems

/-! ## Part 3 — reports -/

/-- The texts that the message of a problem shows, as they are. -/
def ResolveError.texts : ResolveError → List String
  | notFound name unresolved => name :: unresolved.toList
  | conversion name raw error => [name, raw, error.converter, error.input, error.detail]
  | noConverter typeName => [typeName]

/-- A message has the line breaks of the texts in it and no others. -/
theorem newline_mem_message_iff (problem : ResolveError) :
    '\n' ∈ problem.message.toList ↔ ∃ text ∈ problem.texts, '\n' ∈ text.toList := by
  have name : '\n' ∉ "property `".toList := by decide
  match problem with
  | .notFound property none =>
    have missing : '\n' ∉ "` not found".toList := by decide
    show '\n' ∈ ("property `" ++ property ++ "` not found").toList ↔ _
    simp only [String.toList_append, List.mem_append, name, missing, false_or, or_false]
    simp [ResolveError.texts]
  | .notFound property (some reference) =>
    have missing : '\n' ∉ "` not found (unresolved expression reference `".toList := by decide
    have closed : '\n' ∉ "`)".toList := by decide
    show '\n' ∈ ("property `" ++ property ++ "` not found (unresolved expression reference `"
      ++ reference ++ "`)").toList ↔ _
    simp only [String.toList_append, List.mem_append, name, missing, closed, false_or, or_false]
    simp [ResolveError.texts]
  | .conversion property raw error =>
    have failed : '\n' ∉ "failed to convert property `".toList := by decide
    have value : '\n' ∉ "` (raw value `".toList := by decide
    have closed : '\n' ∉ "`): ".toList := by decide
    have converter : '\n' ∉ "converter `".toList := by decide
    have rejected : '\n' ∉ "` rejected `".toList := by decide
    have detail : '\n' ∉ "`: ".toList := by decide
    show '\n' ∈ ("failed to convert property `" ++ property ++ "` (raw value `" ++ raw ++ "`): "
      ++ ("converter `" ++ error.converter ++ "` rejected `" ++ error.input ++ "`: "
        ++ error.detail)).toList ↔ _
    simp only [String.toList_append, List.mem_append, failed, value, closed, converter, rejected,
      detail, false_or, or_false]
    simp [ResolveError.texts, or_assoc]
  | .noConverter typeName =>
    have registered : '\n' ∉ "no converter registered for type `".toList := by decide
    have closed : '\n' ∉ "`".toList := by decide
    show '\n' ∈ ("no converter registered for type `" ++ typeName ++ "`").toList ↔ _
    simp only [String.toList_append, List.mem_append, registered, closed, false_or, or_false]
    simp [ResolveError.texts]

namespace Report

/-- No text that a problem shows has a line break. -/
def IsUnbroken (report : Report) : Prop :=
  ∀ problem ∈ report.problems, ∀ text ∈ problem.texts, '\n' ∉ text.toList

/-- What a report writes below its heading for each problem. -/
def entries (report : Report) : List String :=
  report.problems.map fun problem => "\t" ++ problem.message

/-- Each problem has one line below the heading: a tab and its message. -/
def HasLineForEach (report : Report) : Prop := lines report.message = heading :: report.entries

/-- **The lines of a report are its heading and the lines of its entries.** -/
theorem lines_message (report : Report) :
    lines report.message = heading :: report.entries.flatMap lines := by
  have below : ∀ (problems : List ResolveError) (start : String),
      lines (problems.foldl (fun text problem => text ++ "\n\t" ++ problem.message) start)
        = lines start ++ (problems.map fun problem => "\t" ++ problem.message).flatMap lines := by
    intro problems
    induction problems with
    | nil => exact fun start => (List.append_nil _).symm
    | cons problem rest hypothesis =>
      intro start
      have entry : start ++ "\n\t" ++ problem.message
          = start ++ "\n" ++ ("\t" ++ problem.message) := by
        rw [← String.toList_inj]
        simp [String.toList_append]
      rw [List.foldl_cons, hypothesis, entry, lines_append, List.map_cons, List.flatMap_cons,
        List.append_assoc]
  have single : lines heading = [heading] := lines_of_unbroken (by decide)
  rw [message, below, single]
  rfl

theorem isUnbroken_iff (report : Report) :
    report.IsUnbroken ↔ ∀ entry ∈ report.entries, '\n' ∉ entry.toList := by
  unfold IsUnbroken entries
  rw [List.forall_mem_map]
  refine forall₂_congr fun problem _ => ?_
  have behindTab : '\n' ∈ ("\t" ++ problem.message).toList ↔ '\n' ∈ problem.message.toList := by
    simp [String.toList_append]
  rw [behindTab, newline_mem_message_iff, not_exists]
  simp only [not_and]

theorem hasLineForEach_iff (report : Report) : report.HasLineForEach ↔ report.IsUnbroken := by
  rw [isUnbroken_iff, HasLineForEach, lines_message, List.cons.injEq, and_iff_right rfl]
  constructor
  · intro same
    exact unbroken_of_length_flatMap_lines (congrArg List.length same)
  · exact flatMap_lines_of_unbroken

/-- There is one line more than there are problems exactly if there are no line breaks in them. -/
theorem length_lines_message_iff (report : Report) :
    (lines report.message).length = report.problems.length + 1 ↔ report.IsUnbroken := by
  have entries : report.entries.length = report.problems.length := List.length_map _
  rw [isUnbroken_iff, lines_message, List.length_cons, Nat.add_right_cancel_iff, ← entries]
  constructor
  · exact unbroken_of_length_flatMap_lines
  · intro unbroken
    rw [flatMap_lines_of_unbroken unbroken]

end Report

/-- **A report has the failures among the findings, in their order, and there is one exactly if
something failed.** Its lines are the heading and the lines of the messages behind tabs. Each problem
has one line exactly if no text that it shows has a line break, and so it is with the number of lines. -/
theorem report_ofFindings (findings : List Finding) :
    let problems := Problems.ofFindings findings
    let failures := findings.filterMap Finding.problem?
    problems.problems = failures
    ∧ (problems.finish = .ok () ↔ ∀ finding ∈ findings, finding.problem? = none)
    ∧ ∀ report, problems.finish = .error report →
      report.problems = failures
      ∧ lines report.message = Report.heading :: report.entries.flatMap lines
      ∧ (report.HasLineForEach ↔ report.IsUnbroken)
      ∧ ((lines report.message).length = report.problems.length + 1 ↔ report.IsUnbroken) := by
  intro problems failures
  have kept : problems.problems = failures := Problems.problems_ofFindings findings
  refine ⟨kept, ?_, fun report finished => ⟨?_, report.lines_message, report.hasLineForEach_iff,
    report.length_lines_message_iff⟩⟩
  · rw [Problems.finish_eq_ok_iff, kept, List.filterMap_eq_nil_iff]
  · rw [Problems.problems_of_finish finished, kept]

/-- A port that was found, an address whose reference leads nowhere, and a type without converter. -/
def sampleFindings : List Finding :=
  [.checked (.ok 8080 : Except ResolveError Nat),
    .checked (.error (.notFound "url" (some "scheme")) : Except ResolveError String),
    .failed (.noConverter "Region")]

/-- The two failures have three lines with the heading. -/
theorem report_ofFindings_sample :
    let report : Report := ⟨[.notFound "url" (some "scheme"), .noConverter "Region"]⟩
    (Problems.ofFindings sampleFindings).finish = .error report ∧ report.IsUnbroken
    ∧ report.HasLineForEach ∧ (lines report.message).length = 3 := by
  intro report
  have finished : (Problems.ofFindings sampleFindings).finish = .error report := rfl
  have unbroken : report.IsUnbroken := by
    unfold Report.IsUnbroken
    decide
  obtain ⟨_, _, ofReport⟩ := report_ofFindings sampleFindings
  obtain ⟨_, _, each, number⟩ := ofReport report finished
  exact ⟨finished, unbroken, each.mpr unbroken, number.mpr unbroken⟩

/-- **A missing property with a line break in its name takes two lines**, and none of them is a tab and
its message. -/
theorem broken_name_takes_two_lines :
    let problem := ResolveError.notFound "db\nhost" none
    let report : Report := ⟨[problem]⟩
    (Problems.ofFindings [.failed problem]).finish = .error report
    ∧ lines report.message
      = ["Configuration validation failed:", "\tproperty `db", "host` not found"]
    ∧ (lines report.message).length ≠ report.problems.length + 1 ∧ ¬ report.HasLineForEach := by
  intro problem report
  have broken : ¬ report.IsUnbroken := by
    unfold Report.IsUnbroken
    decide
  exact ⟨rfl, by decide, mt report.length_lines_message_iff.mp broken,
    mt report.hasLineForEach_iff.mp broken⟩

end LayeredConfig.Resolve
