import Conformance.Backend.Command
import Conformance.Shell.Execution

/-!
# Starting programs

A program is looked for, started in a directory of a file tree with an environment, and given a limited
time.  What it leaves behind are its output, its end, and the files that it has changed.
-/

namespace Conformance.Shell

open Backend

/-! ## Looking for programs -/

/-- The directories in which programs are looked for where no others are set. -/
def usualDirectories : Text := "/bin:/usr/bin"

/-- What is found where a program is looked for. -/
inductive Sought
  | program (path : Text)
  | fault (fault : Fault)
  deriving Repr, DecidableEq

/-- What lies at a path for someone who wants to run it. -/
def soughtAt (tree : FileTree) (attributes : AttributeTable) (path : Text) : Sought :=
  match tree.reach true path with
  | .ok (place, entry) => if canRun attributes place entry then .program path else .fault .notPermitted
  | .error fault =>
    match tree.destination true path with
    | .ok place => if isProgramPath place then .program path else .fault fault
    | .error _ => if isProgramPath (Path.ofText path) then .program path else .fault fault

/-- Look for a program in directories.  A file that is there and cannot be run is told before one that is
nowhere. -/
def seek (tree : FileTree) (attributes : AttributeTable) (name : Text) : List Text → Sought
  | [] => .fault .notFound
  | directory :: rest =>
    let path := if directory.isEmpty then name else directory ++ "/" ++ name
    match soughtAt tree attributes path with
    | .program path => .program path
    | .fault fault =>
      match seek tree attributes name rest with
      | .fault .notFound => .fault (if fault = .notDirectory then .notFound else fault)
      | found => found

/-- Look for a program as the system does that is asked to start it. -/
def seekProgram (tree : FileTree) (attributes : AttributeTable) (environment : Environment)
    (name : Text) : Sought :=
  if name.toList.contains (.char '/') then soughtAt tree attributes name
  else if (["", ".", ".."] : List Text).contains name then .fault .notPermitted
  else if FileTree.nameLimit < Text.nameSize name then .fault .nameTooLong
  else
    let directories := (environment.get? "PATH").getD usualDirectories
    seek tree attributes name (directories.splitOn ':')

/-- Whether a name is that of a program that can be found. -/
def isOnPath (tree : FileTree) (environment : Environment) (name : Text) : Bool :=
  if name.isEmpty then false
  else if name.toList.contains (.char '/') then soughtAt tree [] name matches .program _
  else
    let directories := (environment.get? "PATH").getD usualDirectories
    !directories.isEmpty && (seek tree [] name (directories.splitOn ':')) matches .program _

/-! ## Running -/

/-- How deeply the parts of a script can be nested. -/
def depthLimit : Nat := 100000

/-- How many commands are run before nothing more is waited for. -/
def stepLimit : Nat := 100000

/-- The number of whole nanoseconds in a time limit. -/
def limitNanoseconds : Decimal.Number → Nat
  | .int seconds => seconds.toNat * 1000000000
  | .float seconds => ((Decimal.truncate? (seconds * 1000000000.0)).getD 0).toNat

/-- What is there when a program is started: files, what is known of them, and the variables. -/
structure Surrounding where
  tree : FileTree
  attributes : AttributeTable
  environment : Environment

/-- The machine on which a program is started. -/
def Surrounding.machine (s : Surrounding) (i : Invocation) : Machine where
  tree := s.tree
  attributes := s.attributes
  twins := []
  channels := #[.source [] 0, .output false, .output true]
  now := 0
  limit := limitNanoseconds i.timeout
  jobs := []
  job := 0
  sent := []
  alarms := []
  waiting := []
  written := []
  steps := stepLimit
  serial := 4000
  process :=
    { own := 4000
      number := 4000
      name := ""
      arguments := []
      directory := s.tree.currentPath
      mask := 0o022
      patience := 0
      bindings := s.environment.foldl (fun bindings (name, value) =>
        Effect.putEntry (octets name) ⟨some (octets value), true, false⟩ bindings) []
      functions := []
      aliases := []
      descriptors := [(0, 0), (1, 1), (2, 2)]
      options := []
      status := 0
      substituted := 0
      line := 0
      command := none
      loops := 0
      depth := 0
      traps := []
      pending := []
      lastJob := none
      hidden := []
      optionPlace := 0 }

/-- What has been written to one of the outputs by a time. -/
def Machine.outputUntil (m : Machine) (time : Nat) (ofErrors : Bool) : Text :=
  let parts := m.written.reverse.filter fun w => w.ofErrors == ofErrors && w.time ≤ time
  readOutput (String.join ((parts.mergeSort fun a b => decide (a.time ≤ b.time)).map Written.text))

/-- How a program ends, given how its first process does.  It is waited for until nothing can be written
any more. -/
def Machine.conclude (m : Machine) (result : Except Leave Ended) : ProgramEnd :=
  let lingering := (m.jobs.filter Job.holdsOutput).foldl (fun time j => max time j.ends) 0
  let timedOut : ProgramEnd := .timedOut (m.outputUntil m.limit false) (m.outputUntil m.limit true)
  let finished (status : Int) : ProgramEnd :=
    let time := max lingering m.now
    .finished status (m.outputUntil time false) (m.outputUntil time true)
  match result with
  | .ok ended =>
    if m.limit ≤ lingering then timedOut
    else
      match ended with
      | .status n => finished n
      | .signal n => finished (-(n : Int))
  | .error _ => timedOut

/-- A program that cannot be started in what is no directory. -/
def notInDirectory (directory : Path) : Failure :=
  ⟨.inputOutput, Fault.notDirectory.typeName,
    s!"[Errno {Fault.notDirectory.number}] {Fault.notDirectory.text}: " ++
      "PosixPath(" ++ Text.quoted directory.toText ++ ")"⟩

/-- Run a program; the answer is how it ends, with the files that are there afterwards and what is
known of them. -/
def runIn (s : Surrounding) (i : Invocation) : ProgramEnd × FileTree × AttributeTable :=
  let tree := { s.tree with current := i.directory.asRead.names }
  let environment := (i.environment.getD []).foldl (fun e (name, value) => e.put name value) s.environment
  let unchanged (ending : ProgramEnd) : ProgramEnd × FileTree × AttributeTable :=
    (ending, s.tree, s.attributes)
  match i.command with
  | [] => unchanged .missing
  | name :: rest =>
    if !tree.isDirectory i.directory then unchanged (.refused (notInDirectory i.directory))
    else
      match seekProgram tree s.attributes environment name with
      | .fault .notFound => unchanged .missing
      | .fault fault => unchanged (.refused (Subprocess.faulty fault name))
      | .program path =>
        match Subprocess.limitFault? i.timeout with
        | some failure => unchanged (.refused failure)
        | none =>
          let machine := Surrounding.machine ⟨tree, s.attributes, environment⟩ i
          let (result, m) :=
            (do
              let own ← nextProcess
              inProcess own (·.program (octets name)) (runExitTrap depthLimit)
                (startProgram depthLimit machine.process.own (octets path) (rest.map octets)) :
              Effect Ended).run.run machine
          (m.conclude result, { m.tree with current := s.tree.current }, m.attributes)

/-- Run a program in a file tree with an environment. -/
def start (tree : FileTree) (environment : Environment) (i : Invocation) : ProgramEnd :=
  (runIn ⟨tree, [], environment⟩ i).1

/-- Put a file into its work directory and run a tool on it. -/
def runOn (s : Surrounding) (l : Launch) (file : Command.SourceFile) :
    (Except Failure SubprocessResult × List LogRecord) × Surrounding :=
  let tree := s.tree.put file.path (.plain file.content)
  match Subprocess.prepare tree l with
  | .error failure => ((.error failure, []), { s with tree := tree })
  | .ok i =>
    let (ending, tree, attributes) := runIn { s with tree := tree } i
    (Subprocess.conclude l i ending, { s with tree := tree, attributes := attributes })

/-- Run a tool on files, one after another, in the directory where it is started. -/
def runOnEach (s : Surrounding) (l : Launch) (files : List Command.SourceFile) : Surrounding :=
  let ready := { s with tree := s.tree.putDirectory l.directory }
  files.foldl (fun s file => (runOn s l file).2) ready

/-- What is there behind a work directory that was in use. -/
def leave (s : Surrounding) (former : Command.Former) : Surrounding :=
  let used := runOnEach s former.launch former.files
  if former.removed then { used with tree := used.tree.remove former.launch.directory } else used

/-- Run a tool on a file that lies in its work directory, where it has been run on other files before.  Other work
directories were in use before that one. -/
def tool (tree : FileTree) (environment : Environment) (formers : List Command.Former) : Command.Tool :=
  fun l earlier file =>
    let before := runOnEach (formers.foldl leave ⟨tree, [], environment⟩) l earlier
    let (ending, log) := (runOn before l file).1
    (ending, log, 0)

end Conformance.Shell
