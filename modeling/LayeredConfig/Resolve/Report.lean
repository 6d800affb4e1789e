/-
**All problems of a configuration in one report.**

A start-up check looks at many properties and reports every failure, not only the first.

* `Problems.check`: keeps the failure of an outcome and gives its value;
* `Problems.finish`: nothing, or a report of what was kept;
* `Report.message`: a heading and one indented entry for each problem.
-/

import LayeredConfig.Resolve.Error

namespace LayeredConfig.Resolve

/-- The problems found so far, the oldest first. -/
structure Problems where
  problems : List ResolveError
deriving DecidableEq, Repr

/-- The problems of a check that failed. -/
structure Report where
  problems : List ResolveError
deriving DecidableEq, Repr

namespace Problems

/-- No problems yet. -/
def empty : Problems := ⟨[]⟩

/-- One more problem. -/
def push (problems : Problems) (problem : ResolveError) : Problems :=
  ⟨problems.problems ++ [problem]⟩

/-- Gives the value of an outcome, or keeps its failure. -/
def check {Value : Type} (problems : Problems) :
    Except ResolveError Value → Option Value × Problems
  | .ok value => (some value, problems)
  | .error problem => (none, problems.push problem)

/-- The number of problems. -/
def size (problems : Problems) : Nat := problems.problems.length

/-- Whether there are no problems. -/
def isEmpty (problems : Problems) : Bool := problems.problems.isEmpty

/-- A report, unless there are no problems. -/
def finish (problems : Problems) : Except Report Unit :=
  if problems.isEmpty then .ok () else .error ⟨problems.problems⟩

end Problems

/-- The line above the problems. -/
def Report.heading : String := "Configuration validation failed:"

/-- The message of a report. -/
def Report.message (report : Report) : String :=
  report.problems.foldl (fun text problem => text ++ "\n\t" ++ problem.message) Report.heading

end LayeredConfig.Resolve
