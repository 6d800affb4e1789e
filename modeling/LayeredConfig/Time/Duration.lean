/-
**Durations and their texts.**

A duration is written as an amount with its unit: milliseconds, seconds, minutes, hours or days, and
seconds where no unit is given. An amount that no sixty-four bits hold is a fault of the number and
is found before the unit is looked at.

* `Duration`: whole seconds and nanoseconds;
* `Duration.read`: the duration that a text writes, or the fault;
* `Duration.writeMillis`: a whole number of milliseconds as text.
-/

import LayeredConfig.Number.Integer

namespace LayeredConfig.Time

open LayeredConfig.Number

/-! ## Part 1 — durations -/

/-- A span of time. -/
structure Duration where
  seconds : Nat
  nanoseconds : Nat
deriving DecidableEq, Repr

namespace Duration

/-- The span of no time. -/
def zero : Duration := ⟨0, 0⟩

/-- So many whole seconds. -/
def ofSeconds (count : Nat) : Duration := ⟨count, 0⟩

/-- So many whole milliseconds. -/
def ofMilliseconds (count : Nat) : Duration :=
  ⟨count / 1000, count % 1000 * 1000000⟩

end Duration

/-- The units of an amount. -/
inductive TimeUnit where
  | milliseconds
  | seconds
  | minutes
  | hours
  | days
deriving DecidableEq, Repr

/-- The unit with a name; the empty name is that of seconds. -/
def TimeUnit.ofName? (name : List Char) : Option TimeUnit :=
  if name = ['m', 's'] then some milliseconds
  else if name = [] ∨ name = ['s'] then some seconds
  else if name = ['m'] then some minutes
  else if name = ['h'] then some hours
  else if name = ['d'] then some days
  else none

/-! ## Part 2 — reading -/

/-- Why a text writes no duration. -/
inductive DurationFault where
  | noAmount
  | amount (fault : IntegerFault)
  | unknownUnit (name : String)
  | overflow
deriving DecidableEq, Repr

/-- The message of a fault. -/
def DurationFault.message : DurationFault → String
  | noAmount => "expected a non-negative integer amount"
  | amount fault => fault.message
  | unknownUnit name => "unknown duration unit `" ++ name ++ "`"
  | overflow => "duration overflow"

/-- The seconds of an amount, which have to fit into sixty-four bits. -/
def Duration.scaled (amount scale : Nat) : Except DurationFault Duration :=
  if amount * scale ≤ IntegerKind.u64.height then .ok (Duration.ofSeconds (amount * scale))
  else .error .overflow

/-- An amount of a unit. -/
def Duration.ofAmount (amount : Nat) : TimeUnit → Except DurationFault Duration
  | .milliseconds => .ok (Duration.ofMilliseconds amount)
  | .seconds => Duration.scaled amount 1
  | .minutes => Duration.scaled amount 60
  | .hours => Duration.scaled amount (60 * 60)
  | .days => Duration.scaled amount (24 * 60 * 60)

/-- The duration that a text writes. -/
def Duration.read (text : List Char) : Except DurationFault Duration :=
  let digits := text.takeWhile Char.isDigit
  let name := text.dropWhile Char.isDigit
  if digits.isEmpty then .error .noAmount
  else
    match readDigits IntegerKind.u64.height .tooLarge 0 (Nat.zero_le _) digits with
    | .error fault => .error (.amount fault)
    | .ok amount =>
      match TimeUnit.ofName? name with
      | some unit => Duration.ofAmount amount.1 unit
      | none => .error (.unknownUnit (String.ofList name))

/-! ## Part 3 — writing -/

/-- A whole number of milliseconds with its unit. -/
def Duration.writeMillis (count : Nat) : List Char :=
  decimalDigits count ++ ['m', 's']

end LayeredConfig.Time
