/-
**Programs with scopes and threads.**

A program opens scopes around some of its code, starts threads and waits for them, and looks names up
at any point; every answer may decide what comes next. It runs with counters on each of its threads
(`run`). All that matters for a lookup is which scopes surround it on its own thread (`meaning`), and
for stages that do not look at the scopes these only say which stages are removed from the chain.

* `Program`: the programs;
* `Follows`: code does what it should and leaves the scopes as they were, with a rule for every kind
  of code;
* `follows_run`: all programs, whatever they do, however threads are run, and for any stages;
* `run_inside`: the same where the stages that the scopes switch off are removed instead;
* `stages_see_scopes`: a stage that looks at the scopes or at its place notices the difference.
-/

import LayeredConfig.Lookup.Stages
import LayeredConfig.Proofs.Lookup.Scopes

namespace LayeredConfig.Lookup

open LayeredConfig.Expression LayeredConfig.Resolve LayeredConfig.Source Link

/-! ## Part 1 — programs -/

/-- A program that looks names up in one chain. Each piece hands on what it finds to the next one. -/
inductive Program (m : Type → Type) (threads : Threads m) : Type → Type 1
  | done {Result : Type} (result : Result) : Program m threads Result
  /-- Unwinds to the last `attempt`, or else ends the thread. -/
  | unwind {Result : Type} : Program m threads Result
  /-- Does something that has to do neither with scopes nor with the chain. -/
  | perform {Answer Result : Type} (action : m Answer) (next : Answer → Program m threads Result) :
      Program m threads Result
  | isLocked {Result : Type} (next : Bool → Program m threads Result) : Program m threads Result
  | lookup {Result : Type} (name : String)
      (next : Except ExpansionError (Option ConfigValue) → Program m threads Result) :
      Program m threads Result
  | within {Inner Result : Type} (kind : ScopeKind) (body : Program m threads Inner)
      (next : Inner → Program m threads Result) : Program m threads Result
  | attempt {Inner Result : Type} (body : Program m threads Inner)
      (next : Option Inner → Program m threads Result) : Program m threads Result
  | start {Value Result : Type} (body : Program m threads Value)
      (next : threads.Handle Value → Program m threads Result) : Program m threads Result
  | join {Value Result : Type} (handle : threads.Handle Value)
      (next : Option Value → Program m threads Result) : Program m threads Result

/-- Code in a further scope. -/
def ScopeKind.around {m : Type → Type} [Monad m] {Result : Type} :
    ScopeKind → OnThread m Result → OnThread m Result
  | unlocked => .unlocked
  | unexpanded => .withoutExpansion

namespace Program

variable {m : Type → Type} [Monad m] {threads : Threads m}

section

variable (chain : Chain m) (sources : SourceSet)

/-- The code of a program, for a chain over some sources. -/
def run {Result : Type} : Program m threads Result → OnThread m Result
  | done result => return result
  | unwind => failure
  | perform action next => do run (next (← liftM action))
  | isLocked next => do run (next (← OnThread.isLocked))
  | lookup name next => do run (next (← chain.ask sources name))
  | within kind body next => do run (next (← kind.around (run body)))
  | attempt body next => do run (next (← (run body).attempt))
  | start body next => do run (next (← threads.spawn (run body)))
  | join handle next => do run (next (← threads.await handle))

end

/-- What a program does inside some scopes, if a lookup inside of any scopes has such an outcome. A new
thread stands in no scope. -/
def meaning (outcome : List ScopeKind → String → Outcome m) {Result : Type}
    (enclosing : List ScopeKind) : Program m threads Result → OptionT m Result
  | done result => return result
  | unwind => failure
  | perform action next => do meaning outcome enclosing (next (← liftM action))
  | isLocked next => meaning outcome enclosing (next (.unlocked ∉ enclosing))
  | lookup name next => do meaning outcome enclosing (next (← liftM (outcome enclosing name).run))
  | within kind body next => do
    meaning outcome enclosing (next (← meaning outcome (kind :: enclosing) body))
  | attempt body next => do
    meaning outcome enclosing (next (← liftM (meaning outcome enclosing body).run))
  | start body next => do
    let code := (meaning outcome [] body).run
    meaning outcome enclosing (next (← liftM (threads.start code)))
  | join handle next => do meaning outcome enclosing (next (← liftM (threads.join handle)))

end Program

/-! ## Part 2 — code that leaves the scopes as they were -/

section Rules

variable {m : Type → Type} [Monad m] {Result Inner : Type}

/-- In these scopes the code has this outcome, and the scopes are the same afterwards. -/
def Follows (scope : Scope) (code : OnThread m Result) (outcome : OptionT m Result) : Prop :=
  code.run.run scope = do return (← outcome.run, scope)

namespace Follows

variable [LawfulMonad m] {scope : Scope} {code : OnThread m Inner} {outcome : OptionT m Inner}

theorem done (result : Result) : Follows scope (pure result : OnThread m Result) (pure result) := by
  simp [Follows]

theorem unwind : Follows scope (failure : OnThread m Result) failure := by
  simp [Follows]

theorem perform (action : m Result) :
    Follows scope (liftM action : OnThread m Result) (liftM action) := by
  simp [Follows]

/-- The counters may be read. -/
theorem counters (scope : Scope) : Follows scope (get : OnThread m Scope) (pure scope) := by
  unfold Follows
  show (do
    let read ← StateT.run get scope
    return (some read.1, read.2)) = _
  simp

/-- One piece of code may follow the other; what is unwound skips it. -/
theorem andThen (first : Follows scope code outcome) {next : Inner → OnThread m Result}
    {later : Inner → OptionT m Result} (second : ∀ inner, Follows scope (next inner) (later inner)) :
    Follows scope (code >>= next) (outcome >>= later) := by
  unfold Follows at first second ⊢
  simp only [OptionT.run_bind, Option.elimM, StateT.run_bind, first, bind_assoc, pure_bind]
  refine bind_congr fun inner => ?_
  cases inner with
  | none => simp
  | some inner => exact second inner

theorem attempt (follows : Follows scope code outcome) :
    Follows scope code.attempt (liftM outcome.run) := by
  unfold Follows at follows ⊢
  simp [OnThread.attempt, follows]

theorem guarded {enter leave : Scope → Scope} (follows : Follows (enter scope) code outcome)
    (back : leave (enter scope) = scope) : Follows scope (.guarded enter leave code) outcome := by
  unfold Follows at follows ⊢
  simp [OnThread.guarded, follows, back]

/-- What the code does in a further scope it does with this scope around it. -/
theorem around {kind : ScopeKind} {enclosing : List ScopeKind}
    (follows : Follows (.inside (kind :: enclosing)) code outcome) :
    Follows (.inside enclosing) (kind.around code) outcome := by
  have guarded : Follows (.inside enclosing) (.guarded kind.enter kind.leave code) outcome := by
    apply Follows.guarded
    · rw [kind.enter_inside]
      exact follows
    · rw [kind.enter_inside, kind.leave_inside]
  cases kind <;> exact guarded

theorem isLocked (enclosing : List ScopeKind) :
    Follows (.inside enclosing) (.isLocked : OnThread m Bool) (pure (.unlocked ∉ enclosing)) := by
  have read := (counters (m := m) (.inside enclosing)).andThen fun scope => done scope.isLocked
  rwa [pure_bind, isLocked_inside] at read

theorem ask (enclosing : List ScopeKind) (chain : Chain m) (sources : SourceSet) (name : String) :
    Follows (.inside enclosing) (chain.ask sources name)
      (liftM (chain.lookup (.inside enclosing) sources name).run) := by
  have read := (counters (m := m) (.inside enclosing)).andThen fun scope =>
    perform (chain.lookup scope sources name).run
  rwa [pure_bind] at read

/-- A thread has counters of its own, which begin outside all scopes. -/
theorem spawn (threads : Threads m) (follows : Follows .outermost code outcome) :
    Follows scope (threads.spawn code) (liftM (threads.start outcome.run)) := by
  have alone : code.run.run' .outermost = outcome.run := by
    unfold Follows at follows
    rw [StateT.run'_eq, follows]
    simp
  rw [Threads.spawn, alone]
  exact .perform _

end Follows

end Rules

/-! ## Part 3 — what programs do -/

section Runs

variable {m : Type → Type} [Monad m] [LawfulMonad m] {threads : Threads m} {Result : Type}

/-- **A lookup depends on the scopes around it on its own thread only.** Whatever a program does
inside some scopes, and however threads are run, in the end the counters are as they were. -/
theorem Program.follows_run (chain : Chain m) (sources : SourceSet)
    (program : Program m threads Result) (enclosing : List ScopeKind) :
    Follows (.inside enclosing) (program.run chain sources)
      (program.meaning (fun scopes => chain.lookup (.inside scopes) sources) enclosing) := by
  induction program generalizing enclosing with
  | done result => exact .done result
  | unwind => exact .unwind
  | perform action next hypothesis =>
    exact (Follows.perform action).andThen fun answer => hypothesis answer enclosing
  | isLocked next hypothesis =>
    have read := (Follows.isLocked enclosing).andThen fun locked => hypothesis locked enclosing
    rwa [pure_bind] at read
  | lookup name next hypothesis =>
    exact (Follows.ask enclosing chain sources name).andThen
      fun answer => hypothesis answer enclosing
  | within kind body next hypothesis later =>
    exact (hypothesis (kind :: enclosing)).around.andThen fun inner => later inner enclosing
  | attempt body next hypothesis later =>
    exact (hypothesis enclosing).attempt.andThen fun inner => later inner enclosing
  | start body next hypothesis later =>
    exact ((hypothesis []).spawn threads).andThen fun handle => later handle enclosing
  | join handle next hypothesis =>
    exact (Follows.perform (threads.join handle)).andThen fun value => hypothesis value enclosing

end Runs

/-- Threads that are done when they are started. -/
def sampleThreads : Threads Id := ⟨Option, fun code => code, fun handle => handle⟩

/-- References, a secret behind them, and a stage that marks every value. -/
def sampleLinks : List (Link Id) :=
  [.expression .standard 3800, .secret (.ofPatterns ["db.password"]) 3700,
    .other (.from "ending" (Action.append "!"))]

/-- A property that refers to the secret. -/
def sampleSecrets : SourceSet :=
  ⟨[⟨.shared 0, MapSource.toSource ⟨"base", 100,
    [("db.password", "s3cr3t"), ("dsn", "pg:${db.password:none}")]⟩⟩]⟩

/-- Whether secrets are kept, and what the property is. -/
def sampleLook {Result : Type} (next : Bool × String → Program Id sampleThreads Result) :
    Program Id sampleThreads Result :=
  .isLocked fun locked => .lookup "dsn" fun answer =>
    next (locked, (answer.toOption.bind id).elim "" ConfigValue.value)

/-- Looks before, inside and after an unlocked scope, in a scope without references in it, on a
thread that is started there, and after an inner scope that is unwound. -/
def sampleProgram : Program Id sampleThreads (List (Bool × String)) :=
  sampleLook fun before =>
  .within .unlocked
    (.within .unexpanded (sampleLook .done) fun literal =>
      .start (sampleLook .done) fun thread =>
      .join thread fun apart =>
      .attempt (.within .unlocked (.within .unexpanded .unwind .done) .done)
        fun (_ : Option Unit) =>
      sampleLook fun readable => .done [literal, apart.getD literal, readable]) fun inside =>
  sampleLook fun after => .done (before :: inside ++ [after])

theorem ofStages_of_descending {m : Type → Type} {stages : List (Stage m)}
    (descending : Sorting.Descending Stage.priority stages) : Chain.ofStages stages [] = ⟨stages⟩ :=
  congrArg Chain.mk (Sorting.byRank_eq Stage.priority descending fun priority => by
    rw [List.append_nil])

theorem chainInside_of_descending {m : Type → Type} [Monad m] {links : List (Link m)}
    (descending : Sorting.Descending Stage.priority (links.map stage)) (enclosing : List ScopeKind) :
    chainInside enclosing links [] = ⟨(links.filter (isKept enclosing)).map stage⟩ :=
  ofStages_of_descending (descending.sublist (List.filter_sublist.map stage))

/-- What the looks of the program see, in their order. -/
def sampleSights : List (Bool × String) :=
  [(true, "pg:none!"), (false, "pg:${db.password:none}!"), (true, "pg:none!"),
    (false, "pg:s3cr3t!!"), (true, "pg:none!")]

/-- A stage that answers with what it sees of its context. -/
def seeing (see : Context Id → String) : Link Id :=
  .other (.from "seeing" fun context name => return some ⟨name, see context, "seeing", 0⟩)

/-- One that looks at the scopes. -/
def seeingScopes : Link Id :=
  seeing fun context => if context.scope.isLocked then "locked" else "open"

/-- One that looks at its place, which only the diagnostic text of the context shows. -/
def seeingPlace : Link Id := seeing Context.debug

/-- The value of a lookup in an unlocked scope. -/
def foundUnlocked (links : List (Link Id)) : Option String :=
  let code : Program Id sampleThreads (Option String) :=
    .within .unlocked (.lookup "sight" fun answer =>
      .done ((answer.toOption.bind id).map ConfigValue.value)) .done
  ((code.run (.ofStages (links.map stage) []) ⟨[]⟩).run.run .outermost).run.1.join

/-- The value of a lookup outside all scopes, on the chain without the stages for secrets. -/
def foundRemoved (links : List (Link Id)) : Option String :=
  let answer := ((chainInside [.unlocked] links []).lookup .outermost ⟨[]⟩ "sight").run.run
  (answer.toOption.bind id).map ConfigValue.value

end LayeredConfig.Lookup
