import Conformance.Decimal.Arithmetic
import Conformance.Decimal.Notation
import Conformance.Document.Operand
import Conformance.Environment
import Conformance.Failure
import Conformance.FileTree.Basic
import Conformance.Log

/-!
# Running external programs

A program is run in a directory for a limited time and its output is taken in.  What a program does is a
parameter; this module says what is checked before it starts and what is made of its end.
-/

namespace Conformance.Backend

open Decimal

/-- What is asked for: a command, where it runs, for how long, and with which extra variables, all as it
was given. -/
structure Launch where
  command : Document
  directory : Path
  timeout : Document
  environment : Document
  deriving Repr

/-- What is run: a command, where it runs, for how long, and with which extra variables. -/
structure Invocation where
  command : List Text
  directory : Path
  timeout : Number
  environment : Option Environment
  deriving Repr

/-- How a program ends. -/
inductive ProgramEnd
  /-- There is no such program. -/
  | missing
  /-- The program cannot be started for another reason. -/
  | refused (failure : Failure)
  /-- The program has ended with a status, negative if a signal ended it. -/
  | finished (status : Int) (stdout stderr : Text)
  /-- The time ran out. -/
  | timedOut (stdout stderr : Text)
  deriving Repr

/-- What is known of a program that was run. -/
structure SubprocessResult where
  returnCode : Int
  stdout : Text
  stderr : Text
  success : Bool
  timedOut : Bool
  deriving Repr, DecidableEq

namespace Subprocess

/-! ## What is asked for -/

/-- The time limit in seconds, which has to be a number above zero. -/
def readTimeout (value : Document) : Except Failure Number := do
  let number ← value.asNumber
  if number.isNotPositive then
    let shown ← value.displayed
    .error (.badValue ("Timeout must be positive, got " ++ shown))
  else .ok number

/-- The directory to run in, which has to be there. -/
def readDirectory (tree : FileTree) (path : Path) : Except Failure Path :=
  let directory := tree.resolve path
  match path.refusal?, tree.find directory with
  | some failure, _ => .error failure
  | none, .ok _ => .ok directory
  | none, .error .nameTooLong => .error (FileTree.FaultAt.failure ⟨.nameTooLong, directory⟩)
  | none, .error _ => .error (.badValue ("Working directory does not exist: " ++ directory.toText))

/-- The extra variables with their values.  Whatever counts as false stands for none. -/
def readEntries (value : Document) : Except Failure (Option (List (Document × Document))) :=
  if value.isTruthy then
    match value with
    | .map entries => .ok (some entries)
    | other => .error (.wrongKind ("'" ++ other.kind ++ "' object is not a mapping"))
  else .ok none

/-- A text that is handed to a program, which takes bytes. -/
def readText : Document → Except Failure Text
  | .text value =>
    match Text.nameFault? value with
    | some fault => .error (.unencodable fault)
    | none => .ok value
  | other => .error (.wrongKind
      ("expected str, bytes or os.PathLike object, not " ++ other.kind))

/-- Refuse a text with a null character. -/
def refuseNull (text : Text) : Except Failure Unit :=
  if Text.hasNull text then .error .nullCharacter else .ok ()

/-- A variable with its value. -/
def readVariable : Document × Document → Except Failure (Text × Text)
  | (name, value) => do
    let name ← readText name
    if name.toList.contains '=' then .error (.badValue "illegal environment variable name")
    else
      let value ← readText value
      pure (name, value)

/-- A part of a command as it is handed to a program. -/
def readArgument (part : Document) : Except Failure Text := do
  let text ← readText part
  refuseNull text
  pure text

/-- What is run for what is asked for.  Of several things that are wrong the first one in the order of these
lines is told. -/
def prepare (tree : FileTree) (l : Launch) : Except Failure Invocation := do
  if !l.command.isTruthy then .error (.badValue "Command cannot be empty")
  let timeout ← readTimeout l.timeout
  let directory ← readDirectory tree l.directory
  let entries ← readEntries l.environment
  let parts ← l.command.parts
  let environment ← entries.mapM (·.mapM readVariable)
  let command ← parts.mapM readArgument
  for (name, value) in environment.getD [] do
    refuseNull name
    refuseNull value
  pure ⟨command, directory, timeout, environment⟩

/-! ## How it ends -/

/-- A program that cannot be started because of a fault. -/
def faulty (fault : Fault) (name : Text) : Failure :=
  ⟨.inputOutput, fault.typeName, fault.message name⟩

/-- A program that cannot be found. -/
def missing (name : Text) : Failure :=
  faulty .notFound name

/-- The longest time that can be waited, in milliseconds. -/
def waitLimit : Float := 2147483647.0

/-- The longest time that the clock can count in nanoseconds, in milliseconds. -/
def clockLimit : Float := 9223372036854.0

/-- Why a program cannot be waited for, given the seconds that it may take. -/
def waitFault? (seconds : Float) : Option Failure :=
  if seconds.isNaN then some ArithmeticFault.notNumber.failure
  else if seconds.isInf then some ArithmeticFault.infinite.failure
  else if clockLimit < seconds * 1000.0 then
    some (.overflow "timestamp too large to convert to C _PyTime_t")
  else if waitLimit < seconds * 1000.0 then some (.overflow "timeout is too large")
  else none

/-- Why a time limit cannot be kept. -/
def limitFault? : Number → Option Failure
  | .float seconds => waitFault? seconds
  | .int seconds =>
    match double seconds with
    | .ok x => waitFault? x
    | .error fault => some fault.failure

/-- What is made of the end of a program. -/
def conclude (l : Launch) (i : Invocation) :
    ProgramEnd → Except Failure SubprocessResult × List LogRecord
  | .missing => (.error (missing (i.command.headD "")), [])
  | .refused failure => (.error failure, [])
  | .finished status stdout stderr => (.ok ⟨status, stdout, stderr, status == 0, false⟩, [])
  | .timedOut stdout stderr =>
    let note : Text := if stderr.isEmpty then "Process timed out and was killed" else stderr
    let limit := l.timeout.display?.getD ""
    (.ok ⟨-1, stdout, note, false, true⟩,
      [.warning ("Subprocess timed out after " ++ limit ++ " seconds")])

/-- Run a program. -/
def run (program : Invocation → ProgramEnd) (tree : FileTree) (l : Launch) :
    Except Failure SubprocessResult × List LogRecord :=
  match prepare tree l with
  | .error failure => (.error failure, [])
  | .ok i => conclude l i (program i)

end Subprocess

end Conformance.Backend
