import Conformance.Shell.Condition
import Conformance.Shell.Expansion
import Conformance.Shell.Format
import Conformance.Shell.Job
import Conformance.Shell.Permission

/-!
# Commands of the shell

The commands that a shell carries out itself and that run no other command: they write, read, test, and
change variables, arguments, the directory, the options and what is done on signals.  Each gives the status
it ends with.
-/

namespace Conformance.Shell

open Effect

/-! ## Options of commands -/

/-- Take the options off arguments: letters behind a dash, of which only some are known. -/
def takeOptions (known : List Char) : List String → Effect (List Char × List String)
  | [] => pure ([], [])
  | argument :: rest =>
    match argument.toList with
    | ['-', '-'] => pure ([], rest)
    | '-' :: c :: letters => do
      match (c :: letters).find? (!known.contains ·) with
      | some bad => failWith 2 s!"Illegal option -{bad}"
      | none =>
        let (more, rest) ← takeOptions known rest
        pure ((c :: letters) ++ more, rest)
    | _ => pure ([], argument :: rest)

/-- The number that an argument is, which must have digits only. -/
def countArgument (argument : String) : Effect Nat :=
  if !argument.isEmpty && argument.toList.all Char.isDigit then
    pure ((argument.toNat?).getD 0)
  else failWith 2 s!"Illegal number: {argument}"

/-! ## Writing -/

/-- Write to the standard output of a command of the shell. -/
def sayFrom (name text : String) : Effect Nat := do
  match ← placeOf? 1 with
  | some _ => say text; pure 0
  | none => if text.isEmpty then pure 0 else do report s!"{name}: I/O error"; pure 1

/-- Write arguments with their escapes replaced. -/
def echoCommand (arguments : List String) : Effect Nat :=
  let (endLine, rest) := match arguments with
    | "-n" :: rest => ("", rest)
    | rest => ("\n", rest)
  let (text, ended) := unescapeAll rest
  sayFrom "echo" (if ended then text else text ++ endLine)

/-- Write arguments as a pattern asks for. -/
def printfCommand (arguments : List String) : Effect Nat := do
  match ← takeOptions [] arguments with
  | (_, []) => failWith 2 "usage: printf format [arg ...]"
  | (_, pattern :: rest) =>
    let found := format pattern rest
    found.warnings.forM report
    let _ ← sayFrom "printf" found.text
    match found.fault with
    | some fault => failWith 2 fault
    | none => pure (if found.warnings.isEmpty then 0 else 1)

/-! ## Directories -/

/-- The names under which a directory is looked for, each with whether it is shown when it is found there. -/
def directoryNames (target : String) : Effect (List (String × Bool)) := do
  let isFixed := target.startsWith "/" || [".", ".."].contains ((target.splitOn "/").headD "")
  if isFixed then pure [(target, false)]
  else
    let places := ((← value? "CDPATH").map (·.splitOn ":")).getD []
    let named (place : String) : String × Bool :=
      if place.isEmpty then (target, false) else (s!"{place}/{target}", true)
    pure (places.map named ++ [(target, false)])

/-- The directory under a name.  Without regard to what lies there, a name is joined with what stands before
two dots. -/
def directoryAt? (physical : Bool) (name : String) : Effect (Option Path) := do
  let path := ((← process).directory.child (textOf name)).lexical
  let m ← get
  let found := if physical then m.here.reach true (textOf name) else m.here.reach true path.toText
  match found with
  | .ok (place, entry) => pure (if entry.isDirectory then some (if physical then place else path) else none)
  | .error _ => pure none

/-- Use another directory. -/
def cdCommand (arguments : List String) : Effect Nat := do
  let (options, rest) ← takeOptions ['L', 'P', 'e'] arguments
  let (wanted, isShown) ← match rest with
    | [] => do pure ((← value? "HOME").getD "", false)
    | "-" :: _ => do pure ((← value? "OLDPWD").getD "", true)
    | name :: _ => pure (name, false)
  let physical := (options.filter "LP".toList.contains).getLast? == some 'P'
  let found ← (← directoryNames (if wanted.isEmpty then "." else wanted)).findSomeM? fun (name, shown) => do
    pure ((← directoryAt? physical name).map fun path => (path, shown))
  match found with
  | none => failWith 2 s!"can't cd to {wanted}"
  | some (directory, shown) =>
    let place := octets directory.toText
    putBinding "OLDPWD" ⟨some (octets (← process).directory.toText), true, false⟩
    putBinding "PWD" ⟨some place, true, false⟩
    update fun p => { p with directory := directory }
    if isShown || shown then say s!"{place}\n"
    pure 0

/-- Write the name of the directory. -/
def pwdCommand (arguments : List String) : Effect Nat := do
  let _ ← takeOptions ['L', 'P'] arguments
  sayFrom "pwd" s!"{octets (← process).directory.toText}\n"

/-! ## Tests -/

/-- The directories that hold the programs. -/
def programDirectories : List Path :=
  [Path.ofText "/usr/bin", Path.ofText "/bin"]

/-- The programs that can be used besides the shell. -/
def knownPrograms : List String :=
  ["[", "awk", "b2sum", "base32", "base64", "basename", "basenc", "cat", "chgrp", "chmod", "chown",
    "cksum", "cmp", "comm", "cp", "cut", "dash", "date", "diff", "dir", "dirname", "du", "echo", "egrep",
    "env", "expand", "expr", "factor", "false", "fgrep", "find", "fmt", "fold", "grep", "head", "install",
    "join", "kill", "link", "ln"]
  ++ ["ls", "mawk", "md5sum", "mkdir", "mktemp", "mv", "nice", "nl", "nohup", "numfmt", "od", "paste",
    "printenv", "printf", "pwd", "readlink", "realpath", "rev", "rm", "rmdir", "sdiff", "sed", "seq",
    "setsid", "sh", "sha1sum", "sha224sum", "sha256sum", "sha384sum", "sha512sum", "shuf", "sleep", "sort", "split", "split",
    "stat", "stdbuf", "sum", "tac", "tail", "tee", "test"]
  ++ ["timeout", "touch", "tr", "true", "truncate", "tsort", "unexpand", "uniq", "unlink", "vdir", "wc",
    "which", "xargs", "yes"]

/-- Whether a path is that of a program. -/
def isProgramPath (path : Path) : Bool :=
  let path := path.lexical
  programDirectories.contains { path.parent with root := .top } && path.isAbsolute &&
    path.name.string?.any knownPrograms.contains

/-- Whether the file under a name can be run. -/
def isRunnable (name : String) : Effect Bool := do
  let path ← pathOf name
  match ← lookUp name with
  | .ok entry => pure (canRun (← get).attributes path entry)
  | .error _ => pure (isProgramPath path)

/-- Whether a file passes a test. -/
def testFile (m : Machine) (letter : Char) (name : String) : Bool :=
  let path := (m.placeOf true name).toOption.getD (m.process.directory.child (textOf name))
  match letter, m.lookUp (!"hL".toList.contains letter) name with
  | _, .error _ => isProgramPath path && "exfrswOG".toList.contains letter
  | 'h', .ok entry | 'L', .ok entry => entry.isLink
  | letter, .ok entry =>
    let mode := (attributesIn m.attributes path entry).mode
    match letter with
    | 'e' | 'r' | 'w' | 'O' | 'G' => true
    | 'd' => entry.isDirectory
    | 'f' => entry.isFile
    | 'x' => entry.isDirectory || canRun m.attributes path entry
    | 's' => entry.isDirectory || (entry.content?.map ByteArray.size).getD 0 != 0
    | 'c' => match entry with
      | .sink => true
      | _ => false
    | 'u' => mode &&& 0o4000 != 0
    | 'g' => mode &&& 0o2000 != 0
    | 'k' => mode &&& 0o1000 != 0
    | _ => false

/-- When what lies under a name was changed last. -/
def Machine.timeOf? (m : Machine) (name : String) : Option Int :=
  match m.placeOf true name, m.lookUp true name with
  | .ok path, .ok entry => some (attributesIn m.attributes path entry).changed
  | _, _ => none

/-- Whether two files stand in a relation.  One that is not there may count as older than one that is. -/
def testFiles (missingIsOld : Bool) (m : Machine) (sign a b : String) : Bool :=
  let isOlder (a b : String) : Bool :=
    match m.timeOf? a, m.timeOf? b with
    | some s, some t => decide (s < t)
    | none, some _ => missingIsOld
    | _, _ => false
  match sign with
  | "-ef" =>
    match m.placeOf true a, m.placeOf true b with
    | .ok p, .ok q => testFile m 'e' a && (m.twinsOf p).contains q
    | _, _ => false
  | "-nt" => isOlder b a
  | "-ot" => isOlder a b
  | _ => false

/-- Test a condition. -/
def testCommand (name : String) (arguments : List String) : Effect Nat := do
  let arguments ←
    if name == "[" then
      if arguments.getLast? == some "]" then pure arguments.dropLast
      else failWith 2 "missing ]"
    else pure arguments
  let m ← get
  match holds ⟨testFile m, testFiles false m⟩ arguments with
  | .ok result => pure (if result then 0 else 1)
  | .error fault => failWith 2 fault

/-! ## Reading -/

/-- The characters of a line that is read, each with a mark if it was escaped, how many characters there
were, and whether the line was complete. -/
def takeLine (raw : Bool) : List Char → List Marked → Nat → List Marked × Nat × Bool
  | [], done, n => (done.reverse, n, false)
  | '\n' :: _, done, n => (done.reverse, n + 1, true)
  | '\\' :: rest, done, n =>
    if raw then takeLine raw rest (('\\', false) :: done) (n + 1)
    else
      match rest with
      | [] => (done.reverse, n + 1, false)
      | '\n' :: rest => takeLine raw rest done (n + 2)
      | c :: rest => takeLine raw rest ((c, true) :: done) (n + 2)
  | c :: rest, done, n => takeLine raw rest ((c, false) :: done) (n + 1)

/-- Whether a character separates words, and whether as white space does. -/
def isSeparator (separators : List Char) (spaces : Bool) (c : Marked) : Bool :=
  !c.2 && separators.contains c.1 && isSpace c.1 == spaces

/-- Pass over white space, one other separator, and white space again. -/
def dropSeparator (separators : List Char) (text : List Marked) : List Marked :=
  let rest := text.dropWhile (isSeparator separators true)
  match rest with
  | c :: more =>
    if isSeparator separators false c then more.dropWhile (isSeparator separators true) else rest
  | [] => []

/-- The last of several words: all that is left, without white space at its end, and without a separator
that nothing follows if it is a single word. -/
def lastWord (separators : List Char) (text : List Marked) : String :=
  let word := text.takeWhile fun c => !isSeparator separators true c && !isSeparator separators false c
  let rest := text.drop word.length
  let kept := if (dropSeparator separators rest).isEmpty then word
    else (text.reverse.dropWhile (isSeparator separators true)).reverse
  String.ofList (kept.map Prod.fst)

/-- Share the words of a line among names. -/
def shareWords (separators : List Char) : List String → List Marked → List (String × String)
  | [], _ => []
  | [name], text => [(name, lastWord separators text)]
  | name :: rest, text =>
    let word := text.takeWhile fun c => !isSeparator separators true c && !isSeparator separators false c
    (name, String.ofList (word.map Prod.fst)) ::
      shareWords separators rest (dropSeparator separators (text.drop word.length))

/-- Read a line into variables. -/
def readInto (arguments : List String) : Effect Nat := do
  let (options, names) ← match arguments with
    | "-p" :: _ :: rest => takeOptions ['r'] rest
    | "-r" :: "-p" :: _ :: rest => pure (['r'], rest)
    | rest => takeOptions ['r'] rest
  if names.isEmpty then failWith 2 "arg count"
  let (text, n, complete) := takeLine (options.contains 'r') (← remaining 0) [] 0
  consume 0 n
  let found ← separators
  let pairs := shareWords found names (text.dropWhile (isSeparator found true))
  pairs.forM fun (name, value) => do
    if !isIdentifier name then failWith 2 s!"{name}: bad variable name"
    setValue name value
  pure (if complete then 0 else 1)

/-! ## Variables -/

/-- A text in single quotes. -/
def singleQuoted (text : String) : String :=
  "'" ++ String.intercalate "'\"'\"'" (text.splitOn "'") ++ "'"

/-- Variables written as commands that set them, in the order of their names. -/
def listBindings (front : String) (chosen : Binding → Bool) : Effect String := do
  let bindings := (← process).bindings.filter fun (_, b) => chosen b
  let sorted := bindings.mergeSort fun a b => decide (a.1 ≤ b.1)
  pure (String.join (sorted.map fun (name, b) =>
    front ++ name ++ ((b.value.map fun v => "=" ++ singleQuoted v).getD "") ++ "\n"))

/-- An argument that may give a variable a value: its name and the value. -/
def splitAssignment (argument : String) : String × Option String :=
  let cs := argument.toList
  let name := cs.takeWhile (· != '=')
  (String.ofList name,
    if name.length < cs.length then some (String.ofList (cs.drop (name.length + 1))) else none)

/-- Change a variable that an argument names, after giving it the value that may follow. -/
def markVariable (change : Binding → Binding) (argument : String) : Effect Unit := do
  let (name, value) := splitAssignment argument
  if !isIdentifier name then failWith 2 s!"{name}: bad variable name"
  match value with
  | some text => setValue name text
  | none => pure ()
  putBinding name (change ((← binding? name).getD ⟨none, false, false⟩))

/-- Hand variables to programs, or list those that are. -/
def exportCommand (arguments : List String) : Effect Nat := do
  let (_, rest) ← takeOptions ['p'] arguments
  if rest.isEmpty then
    say (← listBindings "export " (·.exported))
  rest.forM (markVariable fun b => { b with exported := true })
  pure 0

/-- Keep variables from changing, or list those that cannot. -/
def readonlyCommand (arguments : List String) : Effect Nat := do
  let (_, rest) ← takeOptions ['p'] arguments
  if rest.isEmpty then
    say (← listBindings "readonly " (·.readOnly))
  rest.forM (markVariable fun b => { b with readOnly := true })
  pure 0

/-- Take variables or functions away. -/
def unsetCommand (arguments : List String) : Effect Nat := do
  let (options, rest) ← takeOptions ['v', 'f'] arguments
  rest.forM fun name => do
    if options.getLast? == some 'f' then
      update fun p => { p with functions := p.functions.filter (·.1 != name) }
    else
      match ← binding? name with
      | some b =>
        if b.readOnly then failWith 2 s!"{name}: is read only"
        update fun p => { p with bindings := p.bindings.filter (·.1 != name) }
      | none =>
        if !isIdentifier name then failWith 2 s!"{name}: bad variable name"
  pure 0

/-- Make variables last as long as the function that is running. -/
def localCommand (arguments : List String) : Effect Nat := do
  match (← process).hidden with
  | [] => failWith 2 "not in a function"
  | _ => pure ()
  arguments.forM fun argument => do
    let (name, value) := splitAssignment argument
    if name != "-" then
      let old ← binding? name
      update fun p => { p with hidden := match p.hidden with
        | top :: rest => ((name, old) :: top) :: rest
        | [] => [] }
      match value with
      | some text => setValue name text
      | none => pure ()
  pure 0

/-! ## Options and arguments of the shell -/

/-- The options of the shell by their long names, in the order in which they are listed. -/
def longOptions : List (String × Char) :=
  [("errexit", 'e'), ("noglob", 'f'), ("ignoreeof", 'I'), ("interactive", 'i'), ("monitor", 'm'),
    ("noexec", 'n'), ("stdin", 's'), ("xtrace", 'x'), ("verbose", 'v'), ("vi", 'V'), ("emacs", 'E'),
    ("noclobber", 'C'), ("allexport", 'a'), ("notify", 'b'), ("nounset", 'u'), ("privileged", 'p'),
    ("nolog", 'l'), ("debug", 'd')]

/-- The sign that turns an option on or off. -/
def optionSign (isOn : Bool) : String :=
  if isOn then "-" else "+"

/-- Turn an option of the shell on or off. -/
def setOption (isOn : Bool) (letter : Char) : Effect Unit := do
  if !optionLetters.contains letter then
    failWith 2 s!"Illegal option {optionSign isOn}{letter}"
  update fun p =>
    let others := p.options.filter (· != letter)
    { p with options := if isOn then others ++ [letter] else others }

/-- Turn an option of the shell on or off by its long name. -/
def setLongOption (isOn : Bool) (name : String) : Effect Unit := do
  match longOptions.lookup name with
  | some letter => setOption isOn letter
  | none => failWith 2 s!"Illegal option {optionSign isOn}o {name}"

/-- List the options of the shell. -/
def listOptions : Effect Unit := do
  let p ← process
  say "Current option settings\n"
  longOptions.forM fun (name, letter) =>
    say (name ++ "".pushn ' ' (16 - name.length) ++
      (if p.options.contains letter then "on\n" else "off\n"))

/-- List the options of the shell as commands that set them. -/
def listOptionCommands : Effect Unit := do
  let p ← process
  longOptions.forM fun (name, letter) =>
    say s!"set {optionSign (p.options.contains letter)}o {name}\n"

/-- Set options of the shell and its arguments. -/
def setArguments : List String → Effect Unit
  | [] => pure ()
  | "--" :: rest => update fun p => { p with arguments := rest, optionPlace := 0 }
  | "-o" :: name :: rest => do
    setLongOption true name
    setArguments rest
  | "+o" :: name :: rest => do
    setLongOption false name
    setArguments rest
  | ["-o"] => listOptions
  | ["+o"] => listOptionCommands
  | "-" :: rest => if rest.isEmpty then pure () else
      update fun p => { p with arguments := rest, optionPlace := 0 }
  | argument :: rest =>
    match argument.toList with
    | '-' :: letters => do
      if letters.getLast? == some 'o' then
        letters.dropLast.forM (setOption true)
        setLongOption true (rest.headD "")
        setArguments (rest.drop 1)
      else
        letters.forM (setOption true)
        setArguments rest
    | '+' :: letters => do
      letters.forM (setOption false)
      setArguments rest
    | _ => update fun p => { p with arguments := argument :: rest, optionPlace := 0 }
termination_by arguments => arguments.length
decreasing_by all_goals (simp only [List.length_cons, List.length_drop]; omega)

/-- Set options and arguments, or list the variables. -/
def setCommand (arguments : List String) : Effect Nat := do
  if arguments.isEmpty then
    say (← listBindings "" (·.value.isSome))
  setArguments arguments
  pure 0

/-- Drop arguments of the shell. -/
def shiftCommand (arguments : List String) : Effect Nat := do
  let n ← match arguments with
    | [] => pure 1
    | count :: _ => countArgument count
  if (← process).arguments.length < n then failWith 2 "can't shift that many"
  update fun p => { p with arguments := p.arguments.drop n, optionPlace := 0 }
  pure 0

/-- Give a variable the next option among arguments. -/
def getoptsCommand (arguments : List String) : Effect Nat := do
  match arguments with
  | known :: name :: given =>
    let p ← process
    let list := if given.isEmpty then p.arguments else given
    let next := ((← value? "OPTIND").bind String.toNat?).getD 1
    let isKnown := 1 ≤ next && next ≤ list.length + 1
    let index := if isKnown then next - 1 else 0
    let place := if isKnown then p.optionPlace else 0
    let current := (list[index]?).getD ""
    let finish (index place : Nat) (letter : String) (status : Nat) : Effect Nat := do
      setValue "OPTIND" (toString (index + 1))
      update fun p => { p with optionPlace := place }
      setValue name letter
      pure status
    let unsetArgument : Effect Unit :=
      update fun p => { p with bindings := p.bindings.filter (·.1 != "OPTARG") }
    let begins := place != 0 || (current.startsWith "-" && current != "-" && current != "--")
    if index ≥ list.length || !begins then
      unsetArgument
      finish (if current == "--" && index < list.length then index + 1 else index) 0 "?" 1
    else
      let place := max place 1
      let letter := (current.toList[place]?).getD '-'
      let atEnd := place + 1 ≥ current.length
      let (nextIndex, nextPlace) := if atEnd then (index + 1, 0) else (index, place + 1)
      let quiet := known.startsWith ":"
      let letters := known.toList.dropWhile (· == ':')
      let tail := letters.dropWhile (· != letter)
      match tail with
      | _ :: ':' :: _ =>
        if letter == ':' then
          finish nextIndex nextPlace "?" 0
        else if !atEnd then
          setValue "OPTARG" (String.ofList (current.toList.drop (place + 1)))
          finish (index + 1) 0 (String.singleton letter) 0
        else
          match list[index + 1]? with
          | some value =>
            setValue "OPTARG" value
            finish (index + 2) 0 (String.singleton letter) 0
          | none =>
            if quiet then
              setValue "OPTARG" (String.singleton letter)
              finish (index + 1) 0 ":" 0
            else
              complain s!"No arg for -{letter} option\n"
              unsetArgument
              finish (index + 1) 0 "?" 0
      | _ :: _ =>
        setValue "OPTARG" ""
        finish nextIndex nextPlace (String.singleton letter) 0
      | [] =>
        if quiet then setValue "OPTARG" (String.singleton letter)
        else
          complain s!"Illegal option -{letter}\n"
          unsetArgument
        finish nextIndex nextPlace "?" 0
  | _ => failWith 2 "Usage: getopts optstring var [arg...]"

/-! ## Leaving -/

/-- Leave the shell. -/
def exitCommand (arguments : List String) : Effect Nat := do
  match arguments with
  | [] => pure ()
  | status :: _ => setStatus (← countArgument status)
  throw .exit

/-- Leave a function. -/
def returnCommand (arguments : List String) : Effect Nat := do
  match arguments with
  | [] => pure ()
  | status :: _ => setStatus (← countArgument status)
  throw .leaveFunction

/-- Leave loops, or go on with their next turn. -/
def leaveCommand (leave : Nat → Leave) (arguments : List String) : Effect Nat := do
  let n ← match arguments with
    | [] => pure 1
    | levels :: _ => do
      let n ← countArgument levels
      if n = 0 then failWith 2 s!"Illegal number: {levels}"
      pure n
  let loops := (← process).loops
  setStatus 0
  if loops = 0 then pure 0 else throw (leave (min n loops))

/-! ## Signals and jobs -/

/-- Write how the jobs are doing, of which some stand before these.  One that has ended is not listed any
more. -/
def showJobs (before : Nat) : List Job → Effect Unit
  | [] => pure ()
  | job :: rest => do
    let now := (← get).now
    let mark := match before with
      | 0 => "+"
      | 1 => "-"
      | _ => " "
    let line := s!"[{job.place.getD 0}] {mark} {jobState now job}"
    say (line.pushn ' ' (33 - line.length) ++ "\n")
    if now < job.ends then showJobs (before + 1) rest
    else
      changeJob job.process fun j => { j with place := none }
      showJobs before rest

/-- How signals are sent. -/
def killUsage : String :=
  "Usage: kill [-s sigspec | -signum | -sigspec] [pid | job]... or\nkill -l [exitstatus]"

/-- Send a signal to processes. -/
def killAll (n : Nat) (targets : List String) : Effect Nat := do
  if targets.isEmpty then failWith 2 killUsage
  let sent ← targets.mapM fun target => do
    let isThere ← if target.startsWith "%" then do
        let _ ← jobNamed target
        pure false
      else sendSignal n (← countArgument target)
    if !isThere then report "No such process\n"
    pure isThere
  pure (if sent.all id then 0 else 1)

/-- Send signals, or list them. -/
def killCommand (arguments : List String) : Effect Nat := do
  match arguments with
  | [] => failWith 2 killUsage
  | "-l" :: [] =>
    say ("0\n" ++ String.join ((signalNames.drop 1).map fun (_, name) => name ++ "\n"))
    pure 0
  | "-l" :: number :: _ =>
    let n ← countArgument number
    let signal := if n > 128 then n - 128 else n
    if signal = 0 || 64 < signal then failWith 2 s!"invalid signal number or exit status: {number}"
    say s!"{signalName signal}\n"
    pure 0
  | "-s" :: name :: targets =>
    match signal? name with
    | some n => killAll n targets
    | none => failWith 2 s!"invalid signal number or name: {name}"
  | "--" :: targets => killAll 15 targets
  | argument :: targets =>
    match argument.toList with
    | '-' :: c :: name =>
      match signal? (String.ofList (c :: name)) with
      | some n => killAll n targets
      | none => failWith 2 s!"Illegal option -{c}"
    | _ => killAll 15 (argument :: targets)

/-- Set what is done on signals. -/
def trapCommand (arguments : List String) : Effect Nat := do
  let (_, rest) ← takeOptions [] arguments
  match rest with
  | [] =>
    let p ← process
    signalNames.forM fun (_, name) =>
      match p.traps.lookup name with
      | some action => say s!"trap -- {singleQuoted action} {name}\n"
      | none => pure ()
    pure 0
  | first :: more =>
    let (action, names) :=
      if more.isEmpty then (none, [first])
      else if first == "-" then (none, more)
      else (some first, more)
    let set (name : String) : Effect Bool := do
      match signal? name with
      | some n =>
        let key := signalName n
        update fun p => { p with traps := match action with
          | some text => putEntry key text p.traps
          | none => p.traps.filter (·.1 != key) }
        pure true
      | none =>
        complain s!"trap: {name}: bad trap\n"
        pure false
    let known ← names.mapM set
    pure (if known.all id then 0 else 1)

/-- How waiting ends: with the status of the last job, or with a signal. -/
inductive Waited
  | status (n : Nat)
  | interrupted (signal : Nat)
  deriving Repr, DecidableEq

/-- Wait for jobs, one after another, of which some may be unknown.  It may be told which of them have been
killed. -/
def waitForJobs (telling : Bool) (last : Nat) : List (Option Job) → Effect Waited
  | [] => pure (.status last)
  | none :: rest => waitForJobs telling 127 rest
  | some job :: rest => do
    match ← interruption? job.ends with
    | some s =>
      waitUntil s.time
      takeSignals
      pure (.interrupted s.signal)
    | none =>
      waitUntil job.ends
      changeJob job.process fun j => { j with signal := none, isAwaited := true }
      match telling, job.signal.bind killedText? with
      | true, some text => complain s!"{text}\n"
      | _, _ => pure ()
      waitForJobs telling job.status rest

/-- The job that an argument names, if it is one of the shell. -/
def jobAwaited? (argument : String) : Effect (Option Job) := do
  if argument.startsWith "%" then some <$> jobNamed argument
  else
    let number ← countArgument argument
    pure ((← listedJobs).find? (·.process == number))

/-- Wait for processes in the background. -/
def waitCommand (arguments : List String) : Effect Nat := do
  let jobs ← if arguments.isEmpty then do pure ((← listedJobs).reverse.map some)
    else arguments.mapM jobAwaited?
  match ← waitForJobs (!arguments.isEmpty) 127 jobs with
  | .status n => pure (if arguments.isEmpty then 0 else n)
  | .interrupted n => pure (128 + n)

/-! ## Permissions and times -/

/-- Show or set the permissions that files are made without. -/
def umaskCommand (arguments : List String) : Effect Nat := do
  let (options, rest) ← takeOptions ['S'] arguments
  let kept := keptPermissions (← process).mask
  match rest with
  | [] =>
    if options.contains 'S' then
      let parts := ("ugo".toList.zip kept).map fun (who, bits) => s!"{who}={permissionText bits}"
      say (",".intercalate parts ++ "\n")
    else say (String.join (("0" :: kept.map fun bits => toString (7 - bits))) ++ "\n")
    pure 0
  | mode :: _ =>
    let mask ← if (mode.toList.headD ' ').isDigit then
        match octalNumber? mode with
        | some n => pure (n % 512)
        | none => failWith 2 s!"Illegal number: {mode}"
      else
        match (mode.splitOn ",").foldlM (fun kept clause => changePermissions? kept clause.toList) kept with
        | some kept => pure (maskOf kept)
        | none => failWith 2 s!"Illegal mode: {mode}"
    update fun p => { p with mask := mask }
    pure 0

/-- Write how long the shell and its programs have been computing, which takes no time here. -/
def timesCommand : Effect Nat := do
  say "0m0.000000s 0m0.000000s\n0m0.000000s 0m0.000000s\n"
  pure 0

/-! ## Aliases -/

/-- The place of a name in the order in which aliases are listed. -/
def aliasRank (name : String) : Nat :=
  let codes := name.toList.map Char.toNat
  (codes.foldl (· + ·) (16 * codes.headD 0)) % 39

/-- How an alias is shown. -/
def aliasLine (name value : String) : String :=
  s!"{name}={singleQuoted value}\n"

/-- Set aliases, or show them. -/
def aliasCommand (arguments : List String) : Effect Nat := do
  if arguments.isEmpty then
    let listed := (← process).aliases.mergeSort fun a b => decide (aliasRank a.1 ≤ aliasRank b.1)
    listed.forM fun (name, value) => say (aliasLine name value)
    pure 0
  else
    let known ← arguments.mapM fun argument => do
      match splitAssignment argument with
      | (name, some value) =>
        update fun p => { p with aliases := putEntry name value p.aliases }
        pure true
      | (name, none) =>
        match (← process).aliases.lookup name with
        | some value => say (aliasLine name value); pure true
        | none => complain s!"alias: {name} not found\n"; pure false
    pure (if known.all id then 0 else 1)

/-- Take aliases away. -/
def unaliasCommand (arguments : List String) : Effect Nat := do
  let (options, rest) ← takeOptions ['a'] arguments
  if options.contains 'a' then
    update fun p => { p with aliases := [] }
    pure 0
  else
    let known ← rest.mapM fun name => do
      if ((← process).aliases.lookup name).isSome then
        update fun p => { p with aliases := p.aliases.filter (·.1 != name) }
        pure true
      else
        complain s!"unalias: {name} not found\n"
        pure false
    pure (if known.all id then 0 else 1)

/-! ## Names of commands -/

/-- The commands of the shell whose failure does not end a script. -/
def plainCommands : List String :=
  ["[", "alias", "bg", "cd", "chdir", "command", "echo", "false", "fg", "getopts", "hash", "jobs", "kill",
    "local", "printf", "pwd", "read", "test", "true", "type", "ulimit", "umask", "unalias", "wait"]

/-- What a command can be. -/
inductive Found
  | special
  | plain
  | function (body : Script)
  /-- A program with its path. -/
  | program (path : String)
  /-- Something that cannot be run. -/
  | refused
  | missing

/-- The directories in which programs are looked for. -/
def searchDirectories : Effect (List String) := do
  pure ((((← value? "PATH").getD "").splitOn ":").map fun d => if d.isEmpty then "." else d)

/-- What the file with a path is. -/
def foundAt (path : String) : Effect Found := do
  if ← isRunnable path then pure (.program path)
  else
    match ← lookUp path with
    | .ok _ => pure .refused
    | .error fault =>
      pure (if [Fault.notFound, .notDirectory].contains fault then .missing else .refused)

/-- Look for a program in directories. -/
def searchIn (name : String) : List String → Effect Found
  | [] => pure .missing
  | directory :: rest => do
    match ← foundAt s!"{directory}/{name}" with
    | .missing => searchIn name rest
    | .refused =>
      if ← isDirectory s!"{directory}/{name}" then searchIn name rest
      else
        match ← searchIn name rest with
        | .missing => pure .refused
        | found => pure found
    | found => pure found

/-- The program that the first line of a file asks for, and what that is given in front of the name of the
file. -/
def interpreter? (content : String) : Option (String × Option String) :=
  if content.startsWith "#!" then
    let isBlank (c : Char) : Bool := c == ' ' || c == '\t'
    let line := (((content.drop 2).toString.splitOn "\n").headD "").toList.dropWhile isBlank
    let trimmed := (line.reverse.dropWhile isBlank).reverse
    let program := trimmed.takeWhile (!isBlank ·)
    let argument := (trimmed.drop program.length).dropWhile isBlank
    if program.isEmpty then none
    else some (String.ofList program, if argument.isEmpty then none else some (String.ofList argument))
  else none

/-- What has been found, as far as it can be started: the program that a file asks for must be there. -/
def startable (found : Found) : Effect Found := do
  match found with
  | .program path =>
    match ← readFile path with
    | .error _ => pure found
    | .ok content =>
      match interpreter? content with
      | none => pure found
      | some (program, _) =>
        match ← foundAt program with
        | .program _ => pure found
        | other => pure other
  | found => pure found

/-- What a name of a command means. -/
def findCommand (withFunctions : Bool) (name : String) : Effect Found := do
  if name.toList.contains '/' then foundAt name
  else if specialCommands.contains name then pure .special
  else
    match withFunctions, (← process).functions.lookup name with
    | true, some body => pure (.function body)
    | _, _ =>
      if plainCommands.contains name then pure .plain
      else if name.isEmpty then pure .missing
      else searchIn name (← searchDirectories)

/-- Say what a name means. -/
def describeCommand (brief : Bool) (name : String) : Effect Nat := do
  let tell (text kind : String) (status : Nat) : Effect Nat := do
    say (if brief then s!"{text}\n" else s!"{name}{kind}\n")
    pure status
  if keywords.contains name then tell name " is a shell keyword" 0
  else
    match ← findCommand true name with
    | .special => tell name " is a special shell builtin" 0
    | .plain => tell name " is a shell builtin" 0
    | .function _ => tell name " is a shell function" 0
    | .program path => tell path s!" is {path}" 0
    | .refused | .missing =>
      if brief then pure 127 else tell "" ": not found" 127

/-! ## All of them -/

/-- Carry out a command of the shell that runs no other command. -/
def builtin (name : String) (arguments : List String) : Effect Nat :=
  match name with
  | "false" => pure 1
  | "echo" => echoCommand arguments
  | "printf" => printfCommand arguments
  | "cd" | "chdir" => cdCommand arguments
  | "pwd" => pwdCommand arguments
  | "test" | "[" => testCommand name arguments
  | "read" => readInto arguments
  | "export" => exportCommand arguments
  | "readonly" => readonlyCommand arguments
  | "unset" => unsetCommand arguments
  | "local" => localCommand arguments
  | "set" => setCommand arguments
  | "shift" => shiftCommand arguments
  | "getopts" => getoptsCommand arguments
  | "exit" => exitCommand arguments
  | "return" => returnCommand arguments
  | "break" => leaveCommand .leaveLoop arguments
  | "continue" => leaveCommand .nextTurn arguments
  | "kill" => killCommand arguments
  | "trap" => trapCommand arguments
  | "wait" => waitCommand arguments
  | "type" => do
    let statuses ← arguments.mapM (describeCommand false)
    pure (if statuses.all (· == 0) then 0 else 127)
  | "fg" | "bg" => failWith 2 "No current job"
  | "umask" => umaskCommand arguments
  | "times" => timesCommand
  | "alias" => aliasCommand arguments
  | "unalias" => unaliasCommand arguments
  | "jobs" => do
    showJobs 0 (← listedJobs)
    pure 0
  | _ => pure 0

end Conformance.Shell
