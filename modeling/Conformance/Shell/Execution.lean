import Conformance.Shell.Process
import Conformance.Shell.Reading
import Conformance.Shell.Utility

/-!
# Running scripts

How the parts of a script are run: commands of the shell, functions and programs, pipes and processes apart
and in the background, and what is done when a process ends.  The number that all these functions take
bounds how deeply they can be nested.
-/

namespace Conformance.Shell

open Effect

/-! ## Redirections -/

/-- Whether redirections take both outputs. -/
def coverOutputs (redirections : List Redirection) : Bool :=
  let taken (n : Nat) : Bool := redirections.any fun
    | .file descriptor .. | .duplicate descriptor _ | .document descriptor _ => descriptor == n
  taken 1 && taken 2

/-- Whether a script writes to none of the outputs that it is given. -/
def Script.isSilent : Script → Bool
  | .command _ _ _ redirections | .apart _ _ redirections | .redirected _ _ redirections =>
    coverOutputs redirections
  | _ => false

/-- What is said about a fault when a file is opened. -/
def openFault (fault : Fault) (absent : String) : String :=
  if [Fault.notFound, .notDirectory].contains fault then absent else fault.text

/-- The descriptor that a name of a device stands for. -/
def deviceDescriptor? (name : String) : Option Nat :=
  match name with
  | "/dev/stdin" => some 0
  | "/dev/stdout" => some 1
  | "/dev/stderr" => some 2
  | name => if name.startsWith "/dev/fd/" then (name.drop 8).toString.toNat? else none

/-- Open the file with a name; the answer is the place of its channel, or what is wrong. -/
def openFile (opening : Opening) (name : String) : Effect (Except String Nat) := do
  let path ← pathOf name
  let opened (channel : Channel) : Effect (Except String Nat) := .ok <$> openChannel channel
  let refused (fault : Fault) (absent : String) : Effect (Except String Nat) :=
    pure (.error (if opening == .reading then s!"cannot open {name}: {openFault fault absent}"
      else s!"cannot create {name}: {openFault fault absent}"))
  match deviceDescriptor? name with
  | some descriptor =>
    match ← placeOf? descriptor with
    | some place => pure (.ok place)
    | none => refused .notFound "No such file"
  | none =>
    match ← lookUp name with
    | .ok .sink => opened .sink
    | .ok (.directory _) =>
      if opening == .reading then opened (.source [] 0)
      else if opening == .writing && (← process).options.contains 'C' then
        pure (.error s!"cannot open {name}: {Fault.isDirectory.text}")
      else refused .isDirectory ""
    | .ok (.link _) => refused .looping ""
    | .ok (.file ..) =>
      if opening == .writing && (← process).options.contains 'C' then
        return .error s!"cannot create {name}: File exists"
      if opening == .writing || opening == .replacing then putFile path ""
      opened (.file path 0 (opening == .appending))
    | .error fault =>
      if opening == .reading then refused fault "No such file"
      else if fault == .notFound then
        match ← creationFault? name with
        | none =>
          putFile path ""
          opened (.file path 0 (opening == .appending))
        | some fault => refused fault "Directory nonexistent"
      else refused fault "Directory nonexistent"

/-- Apply a redirection; the answer is what is wrong. -/
def redirect (output : Script → Effect String) : Redirection → Effect (Option String)
  | .file descriptor opening name => do
    let name ← expandText output name
    match ← openFile opening name with
    | .ok place => connect descriptor (some place); pure none
    | .error message => pure (some message)
  | .duplicate descriptor source => do
    let text ← expandText output source
    if text == "-" then connect descriptor none; pure none
    else
      match text.toNat? with
      | some n =>
        match ← placeOf? n with
        | some place => connect descriptor (some place); pure none
        | none => pure (some s!"{n}: Bad file descriptor")
      | none => failWith 2 "Syntax error: Bad fd number"
  | .document descriptor body => do
    let text := atomText (← expandPieces output body)
    let place ← openChannel (.source text.toList 0)
    connect descriptor (some place)
    pure none

/-- Apply redirections in order, up to one that fails. -/
def redirectAll (output : Script → Effect String) : List Redirection → Effect Bool
  | [] => pure true
  | r :: rest => do
    match ← redirect output r with
    | none => redirectAll output rest
    | some message =>
      report message
      setStatus 2
      pure false

/-! ## Arguments -/

/-- The commands that give variables values, whose arguments are not cut into words. -/
def declaringCommands : List String := ["export", "readonly", "local"]

/-- The arguments that words stand for. -/
def expandArguments (output : Script → Effect String) : List Word → Effect (List String)
  | [] => pure []
  | first :: rest => do
    let front ← expandWords output [first]
    let declares := (first.plain?).any declaringCommands.contains
    let more ← rest.mapM fun w =>
      match declares, assignment? w with
      | true, some (name, value) => do
        let text ← expandValue output value
        pure [name ++ "=" ++ text]
      | _, _ => expandWords output [w]
    pure (front ++ more.flatten)

/-- Show a command before it is run, where that is asked for, at the place where errors have gone so far. -/
def trace (place : Option Nat) (assigned : List (String × String)) (arguments : List String) :
    Effect Unit := do
  if (← process).options.contains 'x' then
    let mark := (← value? "PS4").getD ""
    let shown := assigned.map (fun (name, value) => s!"{name}={value}") ++ arguments
    match place with
    | some place => writeAt place (mark ++ " ".intercalate shown ++ "\n")
    | none => pure ()

/-- Give variables values, one after another; the answer is what they have been given. -/
def assignAll (output : Script → Effect String) (exported : Bool) :
    List (String × Word) → Effect (List (String × String))
  | [] => pure []
  | (name, word) :: rest => do
    let value ← expandValue output word
    setValue name value
    if exported then
      putBinding name { (← binding? name).getD ⟨none, true, false⟩ with exported := true }
    let more ← assignAll output exported rest
    pure ((name, value) :: more)

/-- Do something after which some variables are as before. -/
def keepingBindings {α : Type} (names : List String) (body : Effect α) : Effect α := do
  let before ← names.mapM fun name => do
    pure (name, ← binding? name)
  let result ← attempt body
  before.reverse.forM fun (name, old) => restoreBinding name old
  ExceptT.mk (pure result)

/-! ## Programs -/

/-- What a shell is told when it starts. -/
structure ShellStart where
  options : List Char
  isScript : Bool
  arguments : List String

/-- Read the options that a shell is started with. -/
def readShellOptions : List String → Effect ShellStart
  | [] => pure ⟨[], false, []⟩
  | "-" :: rest | "--" :: rest => pure ⟨[], false, rest⟩
  | "-o" :: name :: rest | "+o" :: name :: rest => do
    let start ← readShellOptions rest
    match longOptions.lookup name with
    | some letter => pure { start with options := letter :: start.options }
    | none => failWith 2 s!"Illegal option -o {name}"
  | argument :: rest =>
    match argument.toList with
    | '-' :: letters => do
      match letters.find? fun c => c != 'c' && !optionLetters.contains c with
      | some bad => failWith 2 s!"Illegal option -{bad}"
      | none =>
        let start ← readShellOptions rest
        pure { start with
          options := letters.filter (· != 'c') ++ start.options
          isScript := start.isScript || letters.contains 'c' }
    | '+' :: _ => readShellOptions rest
    | _ => pure ⟨[], false, argument :: rest⟩

/-- The most functions that can be running at once. -/
def functionLimit : Nat := 1000

/-- The last name of a path. -/
def nameAtEnd (path : String) : String :=
  octets (Path.ofText (textOf path)).name

/-- Whether a name is that of a shell. -/
def isShellName (name : String) : Bool :=
  name == "sh" || name == "dash"

/-! ## Loops -/

/-- Do what belongs to one turn of a loop; the answer is whether the loop is left. -/
def inTurn (body : Effect Unit) : Effect Bool := do
  match ← attempt body with
  | .ok () => pure false
  | .error (.leaveLoop n) => if n ≤ 1 then pure true else throw (.leaveLoop (n - 1))
  | .error (.nextTurn n) => if n ≤ 1 then pure false else throw (.nextTurn (n - 1))
  | .error other => throw other

/-- Do the turns of a loop until there is none left. -/
def takeTurns {σ : Type} (start : σ) (turn : σ → Effect (σ × Bool)) : Effect σ := do
  let loops := (← process).loops
  update fun p => { p with loops := loops + 1 }
  let result ← attempt (iterate ((← get).steps + 1) start fun s => do
    countStep
    turn s)
  update fun p => { p with loops := loops }
  ExceptT.mk (pure result)

/-! ## Scripts -/

mutual

/-- What a script writes. -/
def outputOf (fuel : Nat) (script : Script) : Effect String :=
  match fuel with
  | 0 => throw .timedOut
  | fuel + 1 => do
    let place ← openChannel (.kept [])
    let ended ← inProcess (← startForeground) Process.copy (runExitTrap fuel) do
      connect 1 (some place)
      run fuel false script
    takeSignal childSignal
    update fun p => { p with substituted := ended.code }
    match ← channelAt place with
    | .kept parts => pure (String.ofList ((String.join parts.reverse).toList.filter (· != '\x00')))
    | _ => pure ""
termination_by structural fuel

/-- Run a script.  Where its end is tested, a failure does not end the shell. -/
def run (fuel : Nat) (tested : Bool) (script : Script) : Effect Unit :=
  match fuel with
  | 0 => throw .timedOut
  | fuel + 1 => do
    let output := outputOf fuel
    let checked (body : Effect Unit) : Effect Unit := do
      countStep
      body
      runTraps fuel
      let p ← process
      if p.options.contains 'e' && !tested && p.status != 0 then throw .exit
    let setLine (line : Nat) : Effect Unit := update fun p => { p with line := line }
    if (← process).options.contains 'n' then return
    match script with
    | .command line assignments words redirections =>
      checked do
        setLine line
        runCommand fuel tested assignments words redirections
    | .sequence first second =>
      run fuel tested first
      run fuel tested second
    | .both first second =>
      run fuel true first
      if (← process).status = 0 then run fuel tested second
    | .either first second =>
      run fuel true first
      if (← process).status != 0 then run fuel tested second
    | .negation body =>
      run fuel true body
      setStatus (if (← process).status = 0 then 1 else 0)
    | .pipe stages =>
      checked do
        let now := (← get).now
        let _ ← claimPlace
        runStages fuel tested none now now stages
    | .background body =>
      countStep
      runBackground fuel body
    | .apart line body redirections =>
      checked do
        setLine line
        let ended ← inProcess (← startForeground) Process.copy (runExitTrap fuel) do
          if ← redirectAll output redirections then run fuel tested body
        conclude ended
    | .redirected line body redirections =>
      setLine line
      keepingDescriptors do
        if ← redirectAll output redirections then run fuel tested body
    | .choice condition positive negative =>
      run fuel true condition
      if (← process).status = 0 then run fuel tested positive
      else
        match negative with
        | some body => run fuel tested body
        | none => setStatus 0
    | .loop expected condition body =>
      let last ← takeTurns 0 fun last => do
        let isLeft ← inTurn (run fuel true condition)
        if isLeft then pure (0, true)
        else if ((← process).status == 0) == expected then
          let isLeft ← inTurn (run fuel tested body)
          pure ((← process).status, isLeft)
        else pure (last, true)
      setStatus last
    | .forEach line name words body =>
      setLine line
      let values ← expandArguments output words
      setStatus 0
      let _ ← takeTurns values fun
        | [] => pure ([], true)
        | value :: rest => do
          setValue name value
          let isLeft ← inTurn (run fuel tested body)
          pure (rest, isLeft)
    | .matching line word branches =>
      setLine line
      let text ← expandText output word
      setStatus 0
      runBranches fuel tested text branches
    | .function _ name body =>
      update fun p => { p with functions := putEntry name body p.functions, status := 0 }
termination_by structural fuel

/-- Run the first of several scripts that has a pattern which describes a text. -/
def runBranches (fuel : Nat) (tested : Bool) (text : String) :
    List (List Word × Option Script) → Effect Unit :=
  match fuel with
  | 0 => fun _ => throw .timedOut
  | fuel + 1 => fun
    | [] => pure ()
    | (patterns, body) :: rest => do
      let isChosen ← patterns.anyM fun pattern => do
        pure ((← expandPattern (outputOf fuel) pattern).accepts text.toList)
      if isChosen then
        match body with
        | some body => run fuel tested body
        | none => pure ()
      else runBranches fuel tested text rest
termination_by structural fuel

/-- Run the scripts of a pipe.  All of them start at the same time, and the pipe ends with the last of them
to end. -/
def runStages (fuel : Nat) (tested : Bool) (input : Option Nat) (start finish : Nat) :
    List Script → Effect Unit :=
  match fuel with
  | 0 => fun _ => throw .timedOut
  | fuel + 1 => fun
    | [] => waitUntil finish
    | stage :: rest => do
      let kept ← openChannel (.kept [])
      let descriptors (p : Process) : List (Nat × Nat) :=
        let read := input.toList.map fun place => (0, place)
        let written := if rest.isEmpty then [] else [(1, kept)]
        (read ++ written) ++ p.descriptors.filter fun (n, _) =>
          !(read ++ written).any fun (m, _) => m == n
      let own ← nextProcess
      let result ← attempt (inProcess own
        (fun p => { p.copy with descriptors := descriptors p }) (runExitTrap fuel)
        (run fuel tested stage))
      let m ← get
      let ended := if result matches .error .timedOut then m.limit else m.now
      match result with
      | .ok ended => conclude ended
      | .error .timedOut => if rest.isEmpty then throw .timedOut
      | .error other => throw other
      let text := match m.channels[kept]? with
        | some (.kept parts) => (String.join parts.reverse).toList
        | _ => []
      let source ← openChannel (.source text ended)
      modify fun m => { m with now := start }
      runStages fuel tested (some source) start (max finish ended) rest
termination_by structural fuel

/-- Run a script in the background: all at once, but in a time of its own. -/
def runBackground (fuel : Nat) (body : Script) : Effect Unit :=
  match fuel with
  | 0 => throw .timedOut
  | fuel + 1 => do
    let place ← claimPlace
    let number ← nextProcess
    let before ← get
    let input ← openChannel (.source [] 0)
    modify fun m => { m with job := number }
    let result ← attempt (inProcess number Process.copy (runExitTrap fuel) do
      connect 0 (some input)
      run fuel false body)
    let m ← get
    let (ends, status, signal) := match result with
      | .ok (.status n) => (m.now, n, none)
      | .ok (.signal n) => (m.now, 128 + n, some n)
      | .error _ => (m.limit, 0, none)
    let job : Job := ⟨number, before.process.own, some place, ends, status, signal, false, !body.isSilent⟩
    set { m with
      now := before.now
      job := before.job
      jobs := m.jobs ++ [job]
      sent := ⟨before.process.own, childSignal, ends, number⟩ :: m.sent
      process := { m.process with lastJob := some number, status := 0 } }
termination_by structural fuel

/-- Run a simple command. -/
def runCommand (fuel : Nat) (tested : Bool) (assignments : List (String × Word)) (words : List Word)
    (redirections : List Redirection) : Effect Unit :=
  match fuel with
  | 0 => throw .timedOut
  | fuel + 1 => do
    let output := outputOf fuel
    update fun p => { p with substituted := 0 }
    let errors ← placeOf? 2
    match ← expandArguments output words with
    | [] =>
      if ← keepingDescriptors (redirectAll output redirections) then
        trace errors (← assignAll output false assignments) []
        setStatus (← process).substituted
    | name :: arguments =>
      let found ← findCommand true name
      let isSpecial := found matches .special
      let names := if isSpecial then [] else assignments.map Prod.fst
      let body : Effect Unit := do
        if ← redirectAll output redirections then
          keepingBindings names do
            let assigned ← assignAll output (!isSpecial) assignments
            trace errors assigned (name :: arguments)
            dispatch fuel tested found name arguments
        else if isSpecial then throw .failure
      if name == "exec" then body else keepingDescriptors body
termination_by structural fuel

/-- Run a command that has been found. -/
def dispatch (fuel : Nat) (tested : Bool) (found : Found) (name : String)
    (arguments : List String) : Effect Unit :=
  match fuel with
  | 0 => throw .timedOut
  | fuel + 1 => do
    match ← startable found with
    | .special => runBuiltin fuel tested true name arguments
    | .plain => runBuiltin fuel tested false name arguments
    | .function body => callFunction fuel tested body arguments
    | .program path =>
      let ended ← runProgram fuel name path arguments
      conclude ended
    | .refused =>
      report s!"{name}: Permission denied"
      setStatus 126
    | .missing =>
      report (name ++ if name.isEmpty then ": Permission denied" else ": not found")
      setStatus 127
termination_by structural fuel

/-- Call a function. -/
def callFunction (fuel : Nat) (tested : Bool) (body : Script) (arguments : List String) :
    Effect Unit :=
  match fuel with
  | 0 => throw .timedOut
  | fuel + 1 => do
    let before ← process
    if functionLimit ≤ before.depth then
      failWith 2 s!"Maximum function recursion depth ({functionLimit}) reached"
    update fun p => { p with
      arguments := arguments, depth := p.depth + 1, loops := 0, hidden := [] :: p.hidden
      optionPlace := 0 }
    let result ← attempt (run fuel tested body)
    ((← process).hidden.headD []).forM fun (name, old) => restoreBinding name old
    update fun p => { p with
      arguments := before.arguments, depth := before.depth, loops := before.loops
      hidden := before.hidden, optionPlace := before.optionPlace }
    match result with
    | .error .leaveFunction => pure ()
    | result => ExceptT.mk (pure result)
termination_by structural fuel

/-- Run a command of the shell.  A failure of one that is not special only gives it a status. -/
def runBuiltin (fuel : Nat) (tested special : Bool) (name : String) (arguments : List String) :
    Effect Unit :=
  match fuel with
  | 0 => throw .timedOut
  | fuel + 1 => do
    let before := (← process).command
    update fun p => { p with command := some name }
    let result ← attempt (do
      match name, arguments with
      | "eval", _ => runText fuel tested (" ".intercalate arguments)
      | ".", file :: _ => runFile fuel tested file
      | "exec", program :: rest => replaceBy fuel program rest
      | "exec", [] => setStatus 0
      | "command", _ => runPlainly fuel tested arguments
      | _, _ => setStatus (← builtin name arguments))
    update fun p => { p with command := before }
    match result with
    | .error .failure => if special then throw .failure
    | result => ExceptT.mk (pure result)
termination_by structural fuel

/-- Run a command without looking at functions, or say what it is. -/
def runPlainly (fuel : Nat) (tested : Bool) (arguments : List String) : Effect Unit :=
  match fuel with
  | 0 => throw .timedOut
  | fuel + 1 => do
    let (options, rest) ← takeOptions ['p', 'v', 'V'] arguments
    match rest with
    | [] => setStatus 0
    | name :: more =>
      if options.contains 'v' || options.contains 'V' then
        setStatus (← describeCommand (options.contains 'v') name)
      else
        update fun p => { p with command := none }
        match ← findCommand false name with
        | .special => runBuiltin fuel tested false name more
        | found => dispatch fuel tested found name more
termination_by structural fuel

/-- Put a program in the place of the shell. -/
def replaceBy (fuel : Nat) (name : String) (arguments : List String) : Effect Unit :=
  match fuel with
  | 0 => throw .timedOut
  | fuel + 1 => do
    let found ← if name.toList.contains '/' then foundAt name
      else searchIn name (← searchDirectories)
    update fun p => { p with traps := p.traps.filter (·.2.isEmpty) }
    match ← startable found with
    | .program path =>
      let ended ← runProgram fuel name path arguments
      setStatus ended.code
      match ended with
      | .signal n => throw (.killed n)
      | .status _ => throw .exit
    | .refused =>
      report s!"{name}: Permission denied"
      setStatus 126
      throw .exit
    | _ =>
      report s!"{name}: not found"
      setStatus 127
      throw .exit
termination_by structural fuel

/-- Run the script in a file as a part of the one that is running. -/
def runFile (fuel : Nat) (tested : Bool) (name : String) : Effect Unit :=
  match fuel with
  | 0 => throw .timedOut
  | fuel + 1 => do
    let places ← if name.toList.contains '/' then pure [name]
      else do pure ((← searchDirectories).map fun directory => s!"{directory}/{name}")
    let found ← places.findSomeM? fun place => do
      match ← readFile place with
      | .ok content => pure (some content)
      | .error _ => pure none
    match found with
    | none =>
      failWith 2 (if name.toList.contains '/' then s!"cannot open {name}: No such file"
        else s!"{name}: not found")
    | some content =>
      update fun p => { p with command := some name }
      match ← attempt (runText fuel tested content) with
      | .error .leaveFunction => pure ()
      | result => ExceptT.mk (pure result)
termination_by structural fuel

/-- Do what is set for the signals that have come. -/
def runTraps (fuel : Nat) : Effect Unit :=
  match fuel with
  | 0 => throw .timedOut
  | fuel + 1 => do
    takeSignals
    let p ← process
    match p.pending with
    | [] => pure ()
    | n :: rest =>
      update fun p => { p with pending := rest }
      match p.traps.lookup (signalName n) with
      | some action =>
        if !action.isEmpty then
          runText fuel true action
          setStatus p.status
      | none => pure ()
      runTraps fuel
termination_by structural fuel

/-- Do what is set for the end of the shell. -/
def runExitTrap (fuel : Nat) : Effect Unit :=
  match fuel with
  | 0 => throw .timedOut
  | fuel + 1 => do
    let p ← process
    match p.traps.lookup "EXIT" with
    | some action =>
      update fun p => { p with traps := p.traps.filter (·.1 != "EXIT"), command := none }
      runText fuel true action
      setStatus p.status
    | none => pure ()
termination_by structural fuel

/-- Run a script that is given as a text. -/
def runText (fuel : Nat) (tested : Bool) (text : String) : Effect Unit :=
  match fuel with
  | 0 => throw .timedOut
  | fuel + 1 => runSource fuel tested false (Source.ofText text)
termination_by structural fuel

/-- Run what is left of a script, of which something may have been run. -/
def runSource (fuel : Nat) (tested hasRun : Bool) (source : Source) : Effect Unit :=
  match fuel with
  | 0 => throw .timedOut
  | fuel + 1 => do
    match { source with aliases := (← process).aliases }.next with
    | .ending => if !hasRun then setStatus 0
    | .nothing rest => runSource fuel tested hasRun rest
    | .script script rest isLast =>
      if !(← process).options.contains 'n' then run fuel tested script
      if !isLast then runSource fuel tested true rest
    | .fault fault =>
      update fun p => { p with line := fault.line }
      failWith 2 s!"Syntax error: {fault.message}"
termination_by structural fuel

/-- Run a program in a process of its own. -/
def runProgram (fuel : Nat) (name path : String) (arguments : List String) : Effect Ended :=
  match fuel with
  | 0 => throw .timedOut
  | fuel + 1 => do
    let own ← startForeground
    let parent := (← process).own
    inProcess own (fun p => (p.program name).ordered) (runExitTrap fuel)
      (startProgram fuel parent path arguments)
termination_by structural fuel

/-- Start the program with a path in the process that is running. -/
def startProgram (fuel : Nat) (parent : Nat) (path : String) (arguments : List String) :
    Effect Unit :=
  match fuel with
  | 0 => throw .timedOut
  | fuel + 1 => do
    countStep
    let name := nameAtEnd path
    match ← readFile path with
    | .ok content =>
      match interpreter? content with
      | none =>
        update fun p => { p with name := "sh" }
        runShell fuel parent (path :: arguments)
      | some (program, argument) =>
        update fun p => { p with name := program }
        startProgram fuel parent program (argument.toList ++ path :: arguments)
    | .error _ =>
      if isShellName name then runShell fuel parent arguments
      else setStatus (← utility (startFile fuel) path name arguments)
termination_by structural fuel

/-- Run a shell with arguments. -/
def runShell (fuel : Nat) (parent : Nat) (arguments : List String) : Effect Unit :=
  match fuel with
  | 0 => throw .timedOut
  | fuel + 1 => do
    let start ← readShellOptions arguments
    update fun p => { p.asShell parent with options := start.options.eraseDups, line := 0 }
    let runNamed (text : String) (named : List String) : Effect Unit := do
      update fun p => { p with name := named.headD p.name, arguments := named.drop 1, line := 1 }
      runText fuel false text
    match start.isScript, start.arguments with
    | true, [] => failWith 2 "-c requires an argument"
    | true, text :: named => runNamed text named
    | false, named =>
      if start.options.contains 's' || named.isEmpty then
        let text ← readAll 0
        update fun p => { p with arguments := named, line := 1 }
        runText fuel false text
      else
        match ← openFile .reading (named.headD "") with
        | .ok place =>
          connect 10 (some place)
          let text ← readAll 10
          connect 10 none
          runNamed text named
        | .error message => failWith 2 message
termination_by structural fuel

/-- Start the program with a path, for another one whose place it takes. -/
def startFile (fuel : Nat) (path name : String) (arguments : List String) : Effect Unit :=
  match fuel with
  | 0 => throw .timedOut
  | fuel + 1 => do
    let p ← process
    update fun p => { p with name := name }
    startProgram fuel p.own path arguments
termination_by structural fuel

end

end Conformance.Shell
