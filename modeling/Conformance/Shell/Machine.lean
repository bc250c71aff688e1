import Conformance.Backend.Subprocess
import Conformance.FileTree.Basic
import Conformance.Shell.Script
import Conformance.Shell.Octets

/-!
# The machine that scripts run on

What a running script sees and changes: files, the places that descriptors lead to, the time, and what a
shell keeps for itself.  Time passes only while something sleeps.  A process in the background is run at
once, and what it writes is put in its place by the time at which it is written.
-/

namespace Conformance.Shell

/-! ## Signals

The names and the numbers of signals, and what they do by themselves to a process that has set nothing for
them.
-/

/-! ### Names -/

/-- The names of the usual signals by their numbers. -/
def usualSignals : List (Nat × String) :=
  [(0, "EXIT"), (1, "HUP"), (2, "INT"), (3, "QUIT"), (4, "ILL"), (5, "TRAP"), (6, "ABRT"), (7, "BUS"),
    (8, "FPE"), (9, "KILL"), (10, "USR1"), (11, "SEGV"), (12, "USR2"), (13, "PIPE"), (14, "ALRM"),
    (15, "TERM"), (17, "CHLD"), (18, "CONT"), (19, "STOP"), (20, "TSTP"), (21, "TTIN"), (22, "TTOU"),
    (23, "URG"), (24, "XCPU"), (25, "XFSZ"), (26, "VTALRM"), (27, "PROF"), (28, "WINCH"), (29, "IO"),
    (30, "PWR"), (31, "SYS")]

/-- The name of a signal.  The signals from 34 on are counted from both ends. -/
def signalName (n : Nat) : String :=
  if n < 34 then (usualSignals.lookup n).getD (toString n)
  else if n = 34 then "RTMIN"
  else if n < 50 then s!"RTMIN+{n - 34}"
  else if n < 64 then s!"RTMAX-{64 - n}"
  else "RTMAX"

/-- The numbers and the names of all signals. -/
def signalNames : List (Nat × String) :=
  (List.range 65).map fun n => (n, signalName n)

/-- The signal that a name or a number means. -/
def signal? (text : String) : Option Nat :=
  if !text.isEmpty && text.toList.all Char.isDigit then
    (text.toNat?).bind fun n => if n < 65 then some n else none
  else (signalNames.find? fun (_, name) => name == text.toUpper).map Prod.fst

/-- The signal that tells a process that another one has ended which it has started. -/
def childSignal : Nat := 17

/-- What a signal does that nothing is set for. -/
inductive SignalEffect
  | nothing
  | stop
  | kill
  deriving Repr, DecidableEq

/-- What a signal does that nothing is set for. -/
def signalEffect (n : Nat) : SignalEffect :=
  if [0, 17, 18, 23, 28].contains n then .nothing
  else if [19, 20, 21, 22].contains n then .stop
  else .kill

/-- What a shell says when a program has been killed. -/
def killedText? (n : Nat) : Option String :=
  if 34 ≤ n then some s!"Real-time signal {n - 34}"
  else
    [(1, "Hangup"), (3, "Quit"), (4, "Illegal instruction"), (5, "Trace/breakpoint trap"), (6, "Aborted"),
      (7, "Bus error"), (8, "Floating point exception"), (9, "Killed"), (10, "User defined signal 1"),
      (11, "Segmentation fault"), (12, "User defined signal 2"), (14, "Alarm clock"), (15, "Terminated"),
      (16, "Stack fault"), (24, "CPU time limit exceeded"), (25, "File size limit exceeded"),
      (26, "Virtual timer expired"), (27, "Profiling timer expired"), (29, "I/O possible"),
      (30, "Power failure"), (31, "Bad system call")].lookup n

/-! ## State -/

/-- A variable: its value, whether it is handed to programs, and whether it can change. -/
structure Binding where
  value : Option String
  exported : Bool
  readOnly : Bool
  deriving Repr, DecidableEq

/-- Where a descriptor can lead. -/
inductive Channel
  /-- To a text that is read, which is complete at some time. -/
  | source (rest : List Char) (ready : Nat)
  | file (path : Path) (place : Nat) (appending : Bool)
  /-- To one of the two outputs of the whole program. -/
  | output (ofErrors : Bool)
  /-- To a text that is kept, its parts last first. -/
  | kept (parts : List String)
  /-- To where everything is lost. -/
  | sink
  deriving Repr, DecidableEq

/-- A process in the background. -/
structure Job where
  process : Nat
  /-- The shell that it belongs to. -/
  parent : Nat
  /-- Its number among the jobs of this shell, while it is listed among them. -/
  place : Option Nat
  ends : Nat
  status : Nat
  /-- The signal that killed it, as long as nobody has been told. -/
  signal : Option Nat
  /-- Whether it has been waited for. -/
  isAwaited : Bool
  /-- Whether it can write to the outputs of the whole program. -/
  holdsOutput : Bool
  deriving Repr, DecidableEq

/-- A signal on its way to a process. -/
structure Sent where
  target : Nat
  signal : Nat
  time : Nat
  /-- The process in the background that has sent it. -/
  job : Nat
  deriving Repr, DecidableEq

/-- A part of the output of the whole program. -/
structure Written where
  time : Nat
  job : Nat
  ofErrors : Bool
  text : String
  deriving Repr, DecidableEq

/-- The options of a shell that one letter stands for. -/
def optionLetters : List Char :=
  "efIimnsxvVECabup".toList

/-- What a shell keeps for itself. -/
structure Process where
  /-- Its own number. -/
  own : Nat
  /-- The number of the shell that it is, or is a copy of. -/
  number : Nat
  name : String
  arguments : List String
  directory : Path
  /-- The permissions that files are made without. -/
  mask : Nat
  /-- How much other processes come before this one. -/
  patience : Int
  bindings : List (String × Binding)
  functions : List (String × Script)
  aliases : List (String × String)
  /-- Descriptors with the places of the channels they lead to. -/
  descriptors : List (Nat × Nat)
  options : List Char
  status : Nat
  /-- How the last substitution of a command ended. -/
  substituted : Nat
  line : Nat
  /-- The command of the shell that is running, which messages name. -/
  command : Option String
  loops : Nat
  depth : Nat
  traps : List (String × String)
  pending : List Nat
  lastJob : Option Nat
  /-- What the variables of the functions that are running were before. -/
  hidden : List (List (String × Option Binding))
  /-- How many characters of an argument have been read as options. -/
  optionPlace : Nat

/-- What is known of a file besides its content. -/
structure Attributes where
  /-- What the owner, the group and the others may do with it. -/
  mode : Nat
  /-- When it was changed last, in nanoseconds since the start of 1970. -/
  changed : Int
  deriving Repr, DecidableEq

/-- What is known of files that differs from what is usual, by their places. -/
abbrev AttributeTable := List (Path × Attributes)

/-- All that running a script reads and changes. -/
structure Machine where
  tree : FileTree
  attributes : AttributeTable
  /-- The places of files that have several. -/
  twins : List (List Path)
  channels : Array Channel
  now : Nat
  limit : Nat
  jobs : List Job
  job : Nat
  /-- Signals on their way, the last one first. -/
  sent : List Sent
  /-- The times at which signals come to all processes that are started from here on. -/
  alarms : List (Nat × Nat)
  /-- The processes that wait for the one that is running. -/
  waiting : List Nat
  written : List Written
  steps : Nat
  serial : Nat
  process : Process

/-! ## Places and attributes -/

/-- What a machine starts to look for names from. -/
def Machine.here (m : Machine) : FileTree :=
  { m.tree with current := m.process.directory.names }

/-- The place that a name leads to, or that of the link which its last part is. -/
def Machine.placeOf (m : Machine) (throughLast : Bool) (name : String) : Except Fault Path :=
  m.here.destination throughLast (textOf name)

/-- What lies under a name, which may be a link.  A directory that has been taken away while it is used is
still there, without anything in it. -/
def Machine.lookUp (m : Machine) (throughLast : Bool) (name : String) : Except Fault FileTree.Entry := do
  match m.here.reach throughLast (textOf name) with
  | .ok (_, entry) => .ok entry
  | .error fault =>
    if (m.placeOf throughLast name).toOption == some m.process.directory then .ok (.directory []) else .error fault

/-- When a program is started, in nanoseconds since the start of 1970. -/
def startTime : Int := 1780000000000000000

/-- The time of a machine, in nanoseconds since the start of 1970. -/
def Machine.time (m : Machine) : Int :=
  startTime + m.now

/-- What is usual for an entry: it is older than the program that is running. -/
def usualAttributes (entry : FileTree.Entry) : Attributes :=
  let mode := match entry with
    | .directory _ => 0o755
    | .file .. => 0o644
    | .sink => 0o666
    | .link _ => 0o777
  ⟨mode, startTime - 10000000⟩

/-- All the places of the file at a place. -/
def Machine.twinsOf (m : Machine) (path : Path) : List Path :=
  (m.twins.find? (·.contains path)).getD [path]

/-- What is known of an entry at a place. -/
def attributesIn (table : AttributeTable) (path : Path) (entry : FileTree.Entry) : Attributes :=
  (table.lookup path).getD (usualAttributes entry)

/-- What has been noted once the directory above a path has been changed. -/
def Machine.withChangeAbove (m : Machine) (path : Path) : Machine :=
  match m.tree.find path.parent with
  | .ok entry =>
    let noted := { attributesIn m.attributes path.parent entry with changed := m.time }
    { m with attributes := (path.parent, noted) :: m.attributes.filter (·.1 != path.parent) }
  | .error _ => m

/-- Whether an entry at a place is a file that can be run. -/
def canRun (table : AttributeTable) (path : Path) (entry : FileTree.Entry) : Bool :=
  entry.isFile && (attributesIn table path entry).mode &&& 0o111 != 0

/-! ## Effects -/

/-- Why running does not simply go on. -/
inductive Leave
  /-- The shell ends. -/
  | exit
  /-- A command fails in a way that ends a script, unless the command is one that others could do. -/
  | failure
  /-- The process is killed by a signal. -/
  | killed (signal : Nat)
  | timedOut
  | leaveLoop (levels : Nat)
  | nextTurn (levels : Nat)
  | leaveFunction
  deriving Repr, DecidableEq

/-- Something that is done on the machine. -/
abbrev Effect := ExceptT Leave (StateM Machine)

namespace Effect

/-! ## Basic steps -/

/-- What the shell keeps for itself. -/
def process : Effect Process := do
  pure (← get).process

/-- Change what the shell keeps for itself. -/
def update (change : Process → Process) : Effect Unit :=
  modify fun m => { m with process := change m.process }

/-- Do something, and see whether it went to its end. -/
def attempt {α : Type} (body : Effect α) : Effect (Except Leave α) :=
  ExceptT.lift body.run

/-- End a command with a status. -/
def setStatus (status : Nat) : Effect Unit :=
  update fun p => { p with status := status }

/-- Do something again and again until it says that it is done, at most a number of times. -/
def iterate {σ : Type} : Nat → σ → (σ → Effect (σ × Bool)) → Effect σ
  | 0, _, _ => throw .timedOut
  | n + 1, s, body => do
    let (s, isDone) ← body s
    if isDone then pure s else iterate n s body

/-- Count a step; there is a number of them after which nothing more is waited for. -/
def countStep : Effect Unit := do
  match (← get).steps with
  | 0 => throw .timedOut
  | n + 1 => modify fun m => { m with steps := n }

/-- The first signal up to a point in time that kills the process while it waits. -/
def killer? (time : Nat) : Effect (Option Sent) := do
  let m ← get
  let kills (s : Sent) : Bool :=
    s.target == m.process.own && m.now < s.time && s.time ≤ time && s.time < m.limit &&
      signalEffect s.signal == .kill &&
      (s.signal == 9 || (m.process.traps.lookup (signalName s.signal)).isNone)
  pure ((m.sent.filter kills).foldl (fun first s =>
    match first with
    | some other => if other.time ≤ s.time then some other else some s
    | none => some s) none)

/-- Let the time pass up to a point. -/
def waitUntil (time : Nat) : Effect Unit := do
  match ← killer? time with
  | some s =>
    modify fun m => { m with now := s.time }
    throw (.killed s.signal)
  | none =>
    modify fun m => { m with now := max m.now time }
    let m ← get
    if m.limit ≤ m.now then throw .timedOut

/-! ## Variables -/

/-- The variable with a name. -/
def binding? (name : String) : Effect (Option Binding) := do
  pure ((← process).bindings.lookup name)

/-- The value of a variable. -/
def value? (name : String) : Effect (Option String) := do
  pure ((← binding? name).bind (·.value))

/-- Put an entry under a name in front of the others, or in its place. -/
def putEntry {α : Type} (name : String) (value : α) : List (String × α) → List (String × α)
  | [] => [(name, value)]
  | (other, old) :: rest =>
    if other == name then (name, value) :: rest else (other, old) :: putEntry name value rest

/-- Change the variable with a name. -/
def putBinding (name : String) (binding : Binding) : Effect Unit :=
  update fun p => { p with bindings := putEntry name binding p.bindings }

/-! ## Channels -/

/-- Open a channel. -/
def openChannel (channel : Channel) : Effect Nat := do
  let place := (← get).channels.size
  modify fun m => { m with channels := m.channels.push channel }
  pure place

/-- The channel at a place. -/
def channelAt (place : Nat) : Effect Channel := do
  pure ((← get).channels[place]?.getD .sink)

/-- Change the channel at a place. -/
def putChannel (place : Nat) (channel : Channel) : Effect Unit :=
  modify fun m => { m with channels := m.channels.setIfInBounds place channel }

/-- The place of the channel that a descriptor leads to. -/
def placeOf? (descriptor : Nat) : Effect (Option Nat) := do
  pure ((← process).descriptors.lookup descriptor)

/-- Let a descriptor lead to a place, or nowhere. -/
def connect (descriptor : Nat) (place : Option Nat) : Effect Unit :=
  update fun p =>
    let others := p.descriptors.filter (·.1 != descriptor)
    { p with descriptors := match place with
        | some place => (descriptor, place) :: others
        | none => others }

/-! ## Places -/

/-- The place that a name leads to, or would lead to if all in front of it were there. -/
def pathOf (name : String) : Effect Path := do
  let m ← get
  match m.placeOf true name with
  | .ok path => pure path
  | .error _ => pure (m.process.directory.child (textOf name)).lexical

/-- The place of what a name stands for itself, be it a link. -/
def linkPathOf (name : String) : Effect Path := do
  let m ← get
  match m.placeOf false name with
  | .ok path => pure path
  | .error _ => pure (m.process.directory.child (textOf name)).lexical

/-- What lies under a name. -/
def lookUp (name : String) : Effect (Except Fault FileTree.Entry) := do
  pure ((← get).lookUp true name)

/-- What a name stands for itself, be it a link. -/
def lookUpLink (name : String) : Effect (Except Fault FileTree.Entry) := do
  pure ((← get).lookUp false name)

/-- Change what is known of an entry at a place. -/
def changeAttributes (path : Path) (entry : FileTree.Entry) (change : Attributes → Attributes) :
    Effect Unit :=
  modify fun m =>
    let changed := change (attributesIn m.attributes path entry)
    let places := m.twinsOf path
    { m with attributes := places.map (fun p => (p, changed)) ++
        m.attributes.filter fun (p, _) => !places.contains p }

/-! ## Files -/

/-- The entries of a directory under the bytes of their names, in the order of these. -/
def namedEntries (entry : FileTree.Entry) : List (String × FileTree.Entry) :=
  (entry.entries.map fun (name, inner) => (octets name, inner)).mergeSort fun a b => decide (a.1 ≤ b.1)

/-- Whether a directory lies under a name. -/
def isDirectory (name : String) : Effect Bool := do
  match ← lookUp name with
  | .ok entry => pure entry.isDirectory
  | .error _ => pure false

/-- The content of the file at a path. -/
def contentAt (path : Path) : Effect String := do
  match (← get).tree.find path with
  | .ok entry => pure ((entry.content?.map ofBytes).getD "")
  | .error _ => pure ""

/-- Put a file at a path. -/
def putFile (path : Path) (content : String) : Effect Unit :=
  modify fun m =>
    let entry := FileTree.Entry.plain (bytesOf content)
    let mode := match m.tree.find path with
      | .ok old => (attributesIn m.attributes path old).mode
      | .error _ => 0o666 &&& (0o777 - m.process.mask)
    let places := m.twinsOf path
    let m := if (m.tree.find path).isOk then m else m.withChangeAbove path
    { m with
      tree := places.foldl (fun tree p => tree.put p entry) m.tree
      attributes := places.map (fun p => (p, ⟨mode, m.time⟩)) ++
        m.attributes.filter fun (p, _) => !places.contains p }

/-- Why a file cannot be made under a name that is free. -/
def creationFault? (name : String) : Effect (Option Fault) := do
  match (← get).placeOf true name with
  | .ok _ => pure none
  | .error fault => pure (some fault)

/-- The content of the file under a name. -/
def readFile (name : String) : Effect (Except Fault String) := do
  match ← lookUp name with
  | .ok entry =>
    match entry.content? with
    | some content => pure (.ok (ofBytes content))
    | none => pure (.error .isDirectory)
  | .error fault => pure (.error fault)

/-! ## Writing -/

/-- Put a text into another one at a place; zeros fill a gap. -/
def overwrite (old text : String) (place : Nat) : String :=
  let cs := old.toList
  let gap := List.replicate (place - cs.length) '\x00'
  String.ofList (cs.take place ++ gap ++ text.toList ++ cs.drop (place + text.length))

/-- Write a text to the channel at a place. -/
def writeAt (place : Nat) (text : String) : Effect Unit := do
  match ← channelAt place with
  | .output ofErrors =>
    modify fun m => { m with written := ⟨m.now, m.job, ofErrors, text⟩ :: m.written }
  | .kept parts => putChannel place (.kept (text :: parts))
  | .file path start appending =>
    let old ← contentAt path
    let start := if appending then old.length else start
    putFile path (overwrite old text start)
    putChannel place (.file path (start + text.length) appending)
  | .source .. | .sink => pure ()

/-- Write a text where a descriptor leads. -/
def write (descriptor : Nat) (text : String) : Effect Unit := do
  match ← placeOf? descriptor with
  | some place => if text.isEmpty then pure () else writeAt place text
  | none => pure ()

/-- Write a text to the standard output. -/
def say (text : String) : Effect Unit :=
  write 1 text

/-- Write a text to the error output. -/
def complain (text : String) : Effect Unit :=
  write 2 text

/-- Write a message of the shell about the command that is running. -/
def report (message : String) : Effect Unit := do
  let p ← process
  let origin := (p.command.map (· ++ ": ")).getD ""
  complain s!"{p.name}: {p.line}: {origin}{message}\n"

/-- Fail with a message and a status. -/
def failWith {α : Type} (status : Nat) (message : String) : Effect α := do
  report message
  setStatus status
  throw .failure

/-! ## Reading -/

/-- What can still be read where a descriptor leads. -/
def remaining (descriptor : Nat) : Effect (List Char) := do
  match ← placeOf? descriptor with
  | none => pure []
  | some place =>
    match ← channelAt place with
    | .source rest ready => waitUntil ready; pure rest
    | .file path start _ => pure ((← contentAt path).toList.drop start)
    | .output _ | .kept _ | .sink => pure []

/-- Count some characters as read where a descriptor leads. -/
def consume (descriptor : Nat) (n : Nat) : Effect Unit := do
  match ← placeOf? descriptor with
  | none => pure ()
  | some place =>
    match ← channelAt place with
    | .source rest ready => putChannel place (.source (rest.drop n) ready)
    | .file path start appending => putChannel place (.file path (start + n) appending)
    | .output _ | .kept _ | .sink => pure ()

/-- Read all that is left where a descriptor leads. -/
def readAll (descriptor : Nat) : Effect String := do
  let text ← remaining descriptor
  consume descriptor text.length
  pure (String.ofList text)

/-- Whether a descriptor leads to a file, in which one can go back. -/
def leadsToFile (descriptor : Nat) : Effect Bool := do
  match ← placeOf? descriptor with
  | none => pure false
  | some place =>
    match ← channelAt place with
    | .file .. => pure true
    | _ => pure false

/-! ## Variables that are set -/

/-- Put back a variable as it was. -/
def restoreBinding (name : String) (old : Option Binding) : Effect Unit :=
  match old with
  | some binding => putBinding name binding
  | none => update fun p => { p with bindings := p.bindings.filter (·.1 != name) }

/-- Give a variable a value, unless it cannot change. -/
def setValue (name value : String) : Effect Unit := do
  let old := (← binding? name).getD ⟨none, false, false⟩
  if old.readOnly then failWith 2 s!"{name}: is read only"
  let exported := old.exported || (← process).options.contains 'a'
  putBinding name { old with value := some value, exported := exported }

end Effect

end Conformance.Shell
