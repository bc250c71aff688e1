import Conformance.Compile.Result
import Conformance.Decimal.Arithmetic
import Conformance.Failure
import Conformance.Fixture.Case
import Conformance.Log
import Conformance.Run.Report

/-!
# Sessions

A session is the time that has passed, the notes that were taken, and the trace of what was asked of
compilers.  Everything that works with compilers is an action on a session; it ends with a value or with a
failure, and in either case leaves the session as it stands then.
-/

namespace Conformance

/-! ## Traces -/

/-- What can be asked of a compiler. -/
inductive Request
  | prepare
  | compileAdvanced (source : Text)
  | compile (source : Text)
  | describe
  | shutdown
  deriving Repr, DecidableEq

/-- The name of a request. -/
def Request.text : Request → Text
  | .prepare => "initialize"
  | .compileAdvanced _ => "compile_advanced"
  | .compile _ => "compile"
  | .describe => "describe"
  | .shutdown => "shutdown"

/-- What happens to compilers. -/
inductive Event
  /-- A compiler is built, or its construction fails. -/
  | built (number : Nat)
  /-- A compiler of a type is asked for something. -/
  | asked (number : Nat) (typeName : Text) (request : Request)
  /-- The run of a case has ended, and an observer is told. -/
  | finished (case : TestCase) (result : CaseResult)
  deriving Repr

/-- What has happened to compilers, the last event first. -/
abbrev Trace := List Event

namespace Trace

/-- The number of the next compiler to be built. -/
def nextNumber : Trace → Nat
  | [] => 0
  | .built number :: _ => number + 1
  | _ :: rest => nextNumber rest

/-- What a compiler has been asked since it was built, the last request first. -/
def requests (number : Nat) : Trace → List Request
  | [] => []
  | .built other :: rest => if other = number then [] else requests number rest
  | .asked other _ request :: rest =>
    if other = number then request :: requests number rest else requests number rest
  | .finished .. :: rest => requests number rest

@[simp]
theorem nextNumber_built (number : Nat) (t : Trace) :
    nextNumber (.built number :: t) = number + 1 :=
  rfl

@[simp]
theorem requests_built_self (number : Nat) (t : Trace) :
    requests number (.built number :: t) = [] := by
  simp [requests]

@[simp]
theorem requests_asked_self (number : Nat) (typeName : Text) (request : Request) (t : Trace) :
    requests number (.asked number typeName request :: t) = request :: requests number t := by
  simp [requests]

end Trace

/-! ## Sessions -/

/-- The state that actions work on. -/
structure Session where
  /-- The time, in nanoseconds. -/
  clock : Int
  /-- The notes taken, the last one first. -/
  log : List LogRecord
  trace : Trace
  deriving Repr

namespace Session

/-- A session at a time, before anything has happened. -/
def start (clock : Int) : Session :=
  ⟨clock, [], []⟩

/-- The time in seconds, as a double. -/
def seconds (s : Session) : Decimal.Computed Float :=
  Decimal.dividedBy s.clock 1000000000.0

/-- The notes taken, in order. -/
def records (s : Session) : List LogRecord :=
  s.log.reverse

/-- The events, in order. -/
def events (s : Session) : List Event :=
  s.trace.reverse

end Session

/-- An action on a session, which may fail. -/
abbrev Act := ExceptT Failure (StateM Session)

namespace Act

variable {α : Type}

/-- Run an action and hand over how it ended. -/
def attempt (action : Act α) : Act (Except Failure α) :=
  ExceptT.mk do
    let ending ← action.run
    pure (.ok ending)

/-- Take a note. -/
def note (record : LogRecord) : Act Unit :=
  modify fun s => { s with log := record :: s.log }

/-- Take several notes. -/
def notes (records : List LogRecord) : Act Unit :=
  modify fun s => { s with log := records.reverse ++ s.log }

/-- Add an event to the trace. -/
def happen (event : Event) : Act Unit :=
  modify fun s => { s with trace := event :: s.trace }

/-- The result of an action, or its failure, as an action. -/
def ofExcept (ending : Except Failure α) : Act α :=
  ExceptT.mk (pure ending)

/-- Read the time in seconds. -/
def seconds : Act Float := do
  ofExcept ((← get).seconds.mapError (·.failure))

/-- The ending of an action and the session that it leaves. -/
def runOn (action : Act α) (s : Session) : Except Failure α × Session :=
  (action.run).run s

end Act

end Conformance
