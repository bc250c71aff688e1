import Conformance.Decimal.Arithmetic
import Conformance.Text.Basic

/-!
# Reports

How the runs of cases end, what is kept of them, and the reports of whole runs and of runs over a tag.
-/

namespace Conformance

/-! ## Outcomes

How the run of a case ends, and what is kept of it. -/

/-- How the run of a case ends. -/
inductive Outcome
  | pass
  | fail
  | skip
  /-- The fixture could not be read. -/
  | errorCompile
  /-- No compiler could be built or prepared. -/
  | errorRuntime
  deriving Repr, DecidableEq

namespace Outcome

/-- The name of an outcome. -/
def text : Outcome → String
  | .pass => "pass"
  | .fail => "fail"
  | .skip => "skip"
  | .errorCompile => "error_compile"
  | .errorRuntime => "error_runtime"

/-- All outcomes. -/
def all : List Outcome :=
  [.pass, .fail, .skip, .errorCompile, .errorRuntime]

/-- The outcome with a name. -/
def ofText? (name : Text) : Option Outcome :=
  all.find? (·.text == name)

/-- Whether an outcome is one of the two errors. -/
def isError : Outcome → Bool
  | .errorCompile | .errorRuntime => true
  | .pass | .fail | .skip => false

/-- Whether an outcome counts against a run. -/
def isFailure (o : Outcome) : Bool :=
  o == .fail || o.isError

@[simp]
theorem ofText?_text (o : Outcome) : ofText? o.text = some o := by
  cases o <;> decide

end Outcome

/-- What is kept of the run of a case. -/
structure CaseResult where
  name : Text
  outcome : Outcome
  durationMs : Float
  message : Text
  filePath : Text
  deriving Repr

/-- What is kept of the run of a case, but for the time it took. -/
def CaseResult.entry (r : CaseResult) : Text × Outcome × Text × Text :=
  (r.name, r.outcome, r.message, r.filePath)

/-! ## Reports

The results of a run with their counters, and the results of a run over the cases with a tag. -/

open Decimal

/-- The double nearest to a natural number. -/
def floatOfNat (n : Nat) : Float :=
  nearest false n 1

/-- The double nearest to a quotient of natural numbers. -/
def ratio (num den : Nat) : Float :=
  nearest false num den

/-! ### Whole runs -/

/-- The results of a run, with their counters. -/
structure RunReport where
  passed : Nat
  failed : Nat
  skipped : Nat
  errors : Nat
  cases : List CaseResult
  /-- The time of the whole run. -/
  totalDurationMs : Float
  /-- The sum of the times of the cases. -/
  compileDurationMs : Float
  deriving Repr

namespace RunReport

/-- The report of a run without cases. -/
def empty : RunReport :=
  ⟨0, 0, 0, 0, [], 0.0, 0.0⟩

/-- Take in the result of a case. -/
def record (r : RunReport) (result : CaseResult) : RunReport :=
  let r := { r with
    cases := r.cases ++ [result]
    compileDurationMs := r.compileDurationMs + result.durationMs }
  match result.outcome with
  | .pass => { r with passed := r.passed + 1 }
  | .fail => { r with failed := r.failed + 1 }
  | .skip => { r with skipped := r.skipped + 1 }
  | .errorCompile | .errorRuntime => { r with errors := r.errors + 1 }

/-- The report of results, one after another. -/
def ofResults (results : List CaseResult) : RunReport :=
  results.foldl record empty

/-- The number of cases. -/
def total (r : RunReport) : Nat :=
  r.passed + r.failed + r.skipped + r.errors

/-- The time of a case on average. -/
def averageMs (r : RunReport) : Float :=
  if r.total = 0 then 0.0 else r.compileDurationMs / floatOfNat r.total

/-- The number of cases in a second of the whole run.  There is none if the time vanishes in seconds. -/
def testsPerSecond (r : RunReport) : Computed Float :=
  if r.totalDurationMs ≤ 0.0 then .ok 0.0
  else dividedBy r.total (r.totalDurationMs / 1000.0)

/-- The share of cases that passed, of a hundred. -/
def passRate (r : RunReport) : Float :=
  if r.total = 0 then 0.0 else ratio r.passed r.total * 100.0

/-- Whether no case failed or ended in an error. -/
def success (r : RunReport) : Bool :=
  r.failed + r.errors == 0

/-- The exit status that a run asks for. -/
def exitCode (r : RunReport) : Nat :=
  if r.success then 0 else 1

/-- The results that count against a run. -/
def failures (r : RunReport) : List CaseResult :=
  r.cases.filter (·.outcome.isFailure)

@[simp]
theorem cases_record (r : RunReport) (result : CaseResult) :
    (r.record result).cases = r.cases ++ [result] := by
  unfold record
  cases result.outcome <;> rfl

@[simp]
theorem total_record (r : RunReport) (result : CaseResult) :
    (r.record result).total = r.total + 1 := by
  unfold record
  cases result.outcome <;> simp only [total] <;> omega

end RunReport

/-! ### Runs over a tag -/

/-- The results of a run over the cases with a tag. -/
structure TagReport where
  tag : Text
  matched : Int
  passed : Int
  failed : Int
  cases : List CaseResult
  deriving Repr

namespace TagReport

/-- The report of a tag without cases. -/
def empty (tag : Text) : TagReport :=
  ⟨tag, 0, 0, 0, []⟩

/-- Take in the result of a case. -/
def record (r : TagReport) (result : CaseResult) : TagReport :=
  { r with
    cases := r.cases ++ [result]
    matched := r.matched + 1
    passed := if result.outcome = .pass then r.passed + 1 else r.passed
    failed := if result.outcome = .fail then r.failed + 1 else r.failed }

/-- Whether every case passed or was skipped. -/
def success (r : TagReport) : Bool :=
  r.cases.all fun c => c.outcome == .pass || c.outcome == .skip

@[simp]
theorem cases_record (r : TagReport) (result : CaseResult) :
    (r.record result).cases = r.cases ++ [result] :=
  rfl

end TagReport

end Conformance
