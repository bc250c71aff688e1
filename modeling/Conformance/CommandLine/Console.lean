import Conformance.Backend.Table
import Conformance.Report.Terminal
import Conformance.Telemetry.Activation

/-!
# Consoles

A command works on a console: it shows things to the user, prints text for other programs, changes files,
and works with compilers.  It may stop early.  Some things last from one command to the next: the files, the
backends that were found, and whether failures are reported.
-/

namespace Conformance.CommandLine

open Terminal (Display)

/-- What does not change while commands are carried out. -/
structure Setting where
  points : List Backend.EntryPoint
  surroundings : FileTree → Environment → Backend.Surroundings
  /-- A source of compilers that takes the place of every backend. -/
  substitute : Option Factory
  /-- The time that reports bear. -/
  timestamp : Text

/-- What lasts from one command to the next. -/
structure Host where
  tree : FileTree
  environment : Environment
  clock : Int
  reporting : Bool
  table : Option Backend.Table

/-- What a command works on. -/
structure Console where
  host : Host
  session : Session
  /-- What was shown, the last first. -/
  shown : List Display
  printed : Text
  /-- The files that were written, with what they hold. -/
  written : List (Path × ByteArray)
  /-- What reporting was started with. -/
  started : List Telemetry.Start

/-- Why a command stops early. -/
inductive Stop
  | exit (status : Nat)
  /-- The user was told what is wrong. -/
  | abort
  | failed (failure : Failure)
  deriving Repr, DecidableEq

/-- A step of a command. -/
abbrev Step := ExceptT Stop (StateM Console)

namespace Console

/-- A console before anything has happened on it. -/
def start (h : Host) : Console :=
  ⟨h, .start h.clock, [], "", [], []⟩

/-- The files and the other things that are left when a command has ended. -/
def left (c : Console) : Host :=
  { c.host with clock := c.session.clock }

end Console

namespace Step

variable {α : Type}

/-- The things that last. -/
def host : Step Host := do
  pure (← get).host

/-- Show something. -/
def display (d : Display) : Step Unit :=
  modify fun c => { c with shown := d :: c.shown }

/-- Show several things. -/
def displays (ds : List Display) : Step Unit :=
  ds.forM display

/-- Print a text and end the line.  A text that cannot be written is not printed. -/
def print (text : Text) : Step Unit :=
  match Text.encodingFault? text with
  | some fault => throw (.failed (.unencodable fault))
  | none => modify fun c => { c with printed := c.printed ++ text ++ "\n" }

/-- Take notes. -/
def notes (records : List LogRecord) : Step Unit :=
  modify fun c => { c with
    session := { c.session with log := records.reverse ++ c.session.log } }

/-- Stop because of something that the user is told. -/
def refuse (message : Text) : Step α := do
  display (Terminal.error message)
  throw .abort

/-- Work with compilers and hand over how that ended. -/
def attempt (action : Act α) : Step (Except Failure α) := do
  let c ← get
  let (ending, session) := action.runOn c.session
  set { c with session := session }
  pure ending

/-- A result, or stop with its failure. -/
def ofExcept (ending : Except Failure α) : Step α :=
  match ending with
  | .ok value => pure value
  | .error failure => throw (.failed failure)

/-- Work with compilers, and stop with the failure if there is one. -/
def perform (action : Act α) : Step α := do
  ofExcept (← attempt action)

/-- What is shown of the cases that have ended, of the events after a number of earlier ones. -/
def finishedDisplays (verbose : Bool) (earlier : Nat) (s : Session) : List Display :=
  (s.events.drop earlier).flatMap fun
    | .finished c result => Terminal.caseFinished verbose c result
    | .built _ | .asked .. => []

/-- Work with compilers while every case that ends is shown. -/
def watched (verbose : Bool) (action : Act α) : Step (Except Failure α) := do
  let earlier := (← get).session.trace.length
  let ending ← attempt action
  displays (finishedDisplays verbose earlier (← get).session)
  pure ending

/-- Start reporting failures, if that is asked for. -/
def report (activation : Telemetry.Activation) : Step Unit := do
  notes activation.log
  modify fun c => { c with
    host := { c.host with reporting := activation.active }
    started := c.started ++ activation.started.toList }

/-- The backends, which are looked for once. -/
def table (s : Setting) : Step Backend.Table := do
  let h ← host
  match h.table with
  | some table => pure table
  | none =>
    let table ← perform (Backend.Table.discover (s.surroundings h.tree h.environment) s.points)
    modify fun c => { c with host := { c.host with table := some table } }
    pure table

/-- Write a report to a file. -/
def writeReport (path : Path) (text : Text) : Step Unit := do
  let (tree, ending) := Report.write (← host).tree path text
  let found := match tree.find path with
    | .ok (.file content _) => [(path, content)]
    | _ => []
  modify fun c => { c with host := { c.host with tree := tree }, written := c.written ++ found }
  ofExcept ending

end Step

end Conformance.CommandLine
