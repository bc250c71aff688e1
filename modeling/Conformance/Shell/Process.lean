import Conformance.Shell.Builtin

/-!
# Processes

What is handed from one process to another, how something is done as a process apart, and how processes
end.
-/

namespace Conformance.Shell

open Effect

/-! ## Ends -/

/-- How a process ends. -/
inductive Ended
  | status (n : Nat)
  | signal (n : Nat)
  deriving Repr, DecidableEq

/-- The status that a shell sees of a process that has ended. -/
def Ended.code : Ended → Nat
  | .status n => n
  | .signal n => 128 + n

/-- What a process keeps that is started from another one as a program with a name. -/
def Process.program (p : Process) (name : String) : Process where
  own := p.own
  number := p.own
  name := name
  arguments := []
  directory := p.directory
  mask := p.mask
  patience := p.patience
  bindings := p.bindings.filterMap fun (name, b) =>
    if b.exported && b.value.isSome then some (name, { b with readOnly := false }) else none
  functions := []
  aliases := []
  descriptors := p.descriptors
  options := []
  status := 0
  substituted := 0
  line := 0
  command := none
  loops := 0
  depth := 0
  traps := p.traps.filter (·.2.isEmpty)
  pending := []
  lastJob := none
  hidden := []
  optionPlace := 0

/-- The variables that every shell has from the beginning. -/
def ownVariables : List String :=
  ["IFS", "MAIL", "MAILPATH", "PATH", "PS1", "PS2", "PS4", "OPTIND", "LINENO"]

/-- The variables of a process in the order in which a shell hands them to programs: by the places of their
names among others, and those that every shell has before others with the same place. -/
def Process.ordered (p : Process) : Process :=
  let rank (name : String) : Nat := 2 * aliasRank name + if ownVariables.contains name then 0 else 1
  { p with bindings := p.bindings.mergeSort fun a b => decide (rank a.1 ≤ rank b.1) }

/-- Where a shell looks for programs unless it is told. -/
def shellPath : String := "/usr/local/sbin:/usr/local/bin:/usr/sbin:/usr/bin:/sbin:/bin"

/-- What a shell adds to its environment when it starts. -/
def Process.asShell (p : Process) (parent : Nat) : Process :=
  let usual (name value : String) (exported : Bool) (bindings : List (String × Binding)) :
      List (String × Binding) :=
    putEntry name ⟨some value, exported, false⟩ bindings
  let path := match p.bindings.lookup "PATH" with
    | some _ => id
    | none => usual "PATH" shellPath false
  let named := p.bindings.filter fun (name, _) => isIdentifier name
  { p with
    line := 1
    bindings := usual "PWD" (octets p.directory.toText) true <| usual "IFS" " \t\n" false <|
      usual "OPTIND" "1" false <| usual "PPID" (toString parent) false <|
      usual "PS1" "# " false <| usual "PS2" "> " false <| usual "PS4" "+ " false <| path named }

/-- Do something as a process apart with a number, and with something to be done at its end; what the shell
keeps for itself is afterwards as before. -/
def inProcess (own : Nat) (change : Process → Process) (finish body : Effect Unit) : Effect Ended := do
  let outside ← process
  let waiting := (← get).waiting
  modify fun m =>
    let coming := (m.alarms.filter fun (time, _) => m.now < time).map fun (time, n) => ⟨own, n, time, m.job⟩
    { m with waiting := outside.own :: waiting, sent := coming ++ m.sent }
  update fun p => change { p with own := own }
  let result ← attempt body
  let result ← match result with
    | .error (.killed _) | .error .timedOut => pure result
    | _ => attempt finish
  let status := (← process).status
  modify fun m =>
    { m with process := outside, waiting := waiting, sent := m.sent.filter (·.target != own) }
  match result with
  | .error (.killed signal) => pure (.signal signal)
  | .error .timedOut => throw .timedOut
  | _ => pure (.status (status % 256))

/-- What a process keeps that is a copy of another one. -/
def Process.copy (p : Process) : Process :=
  { p with traps := p.traps.filter (·.2.isEmpty), pending := [], hidden := p.hidden }

/-- A number for a process. -/
def nextProcess : Effect Nat := do
  let n := (← get).serial + 1
  modify fun m => { m with serial := n }
  pure n

/-- A number for a process that is waited for, which may take the place of a job that has ended. -/
def startForeground : Effect Nat := do
  let _ ← claimPlace
  nextProcess

/-- Set the status with which a process has ended that was waited for, and tell of a signal that killed it. -/
def conclude (ended : Ended) : Effect Unit := do
  takeSignal childSignal
  takeSignals
  match ended with
  | .signal n => complain ((killedText? n).elim "" (· ++ "\n"))
  | .status _ => pure ()
  setStatus ended.code

/-- Do something with descriptors as they may be changed by it, and put them back. -/
def keepingDescriptors {α : Type} (body : Effect α) : Effect α := do
  let before := (← process).descriptors
  let result ← attempt body
  update fun p => { p with descriptors := before }
  ExceptT.mk (pure result)

/-! ## Programs that start others -/

/-- The directories in which programs look for others. -/
def programPlaces : Effect (List String) := do
  match ← value? "PATH" with
  | some _ => searchDirectories
  | none => pure ["/bin", "/usr/bin"]

/-- What programs find under the name of another one: its path, or what is wrong. -/
def soughtFile (name : String) : Effect (Except Fault String) := do
  let hasPlace := name.toList.contains '/'
  let found ← if hasPlace then foundAt name else searchIn name (← programPlaces)
  match ← startable found with
  | .program path => pure (.ok path)
  | .refused => pure (.error .notPermitted)
  | _ =>
    match hasPlace, ← lookUp name with
    | true, .error fault => pure (.error fault)
    | _, _ => pure (.error .notFound)

/-- The status of a program that cannot start another one. -/
def startStatus (fault : Fault) : Nat :=
  if fault == .notFound then 127 else 126

/-- How the file with a path is run in the process that is running, under a name and with arguments. -/
abbrev Starter := String → String → List String → Effect Unit

/-- Let another program take the place of the one that is running; the text in front of a fault is made from
its name. -/
def startNamed (start : Starter) (teller : String → String) (name : String) (arguments : List String) :
    Effect Unit := do
  match ← soughtFile name with
  | .ok path => start path name arguments
  | .error fault =>
    complain s!"{teller name}: {fault.text}\n"
    setStatus (startStatus fault)

/-- Run a program in a process of its own, where something is changed first; the answer is how it ends. -/
def runApart (start : Starter) (teller : String → String) (prepare : Effect Unit) (name : String)
    (arguments : List String) : Effect Ended := do
  let own ← nextProcess
  inProcess own (fun p => { p with number := own }) (pure ()) do
    prepare
    startNamed start teller name arguments

/-- Let a shell with a name run a command in a process of its own, where something is changed first; the answer
is how it ends. -/
def shellApart (start : Starter) (name : String) (prepare : Effect Unit) (command : String) :
    Effect Ended := do
  let own ← nextProcess
  inProcess own (fun p => { p with number := own }) (pure ()) do
    prepare
    start "/bin/sh" name ["-c", command]

/-- What a command writes that a shell with a name runs, and how it ends. -/
def shellOutput (start : Starter) (name command : String) : Effect (String × Ended) := do
  let place ← openChannel (.kept [])
  let ended ← shellApart start name (connect 1 (some place)) command
  match ← channelAt place with
  | .kept parts => pure (String.join parts.reverse, ended)
  | _ => pure ("", ended)

end Conformance.Shell
