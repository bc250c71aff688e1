import Conformance.Shell.Utility.Awk
import Conformance.Shell.Utility.Caller
import Conformance.Shell.Utility.Characters
import Conformance.Shell.Utility.Checksum
import Conformance.Shell.Utility.Columns
import Conformance.Shell.Utility.Compute
import Conformance.Shell.Utility.Copy
import Conformance.Shell.Utility.Date
import Conformance.Shell.Utility.Difference
import Conformance.Shell.Utility.Dump
import Conformance.Shell.Utility.Edit
import Conformance.Shell.Utility.Encode
import Conformance.Shell.Utility.Find
import Conformance.Shell.Utility.Numbers
import Conformance.Shell.Utility.Search
import Conformance.Shell.Utility.Sort
import Conformance.Shell.Utility.Split

/-!
# Programs

The programs that can be run besides the shell, by their names.  Some do what commands of the shell do, but
speak of their faults in words of their own.
-/

namespace Conformance.Shell

open Effect

/-! ## Programs like commands of the shell -/

/-- Whether an argument consists of options for writing arguments. -/
def isEchoOption (argument : String) : Bool :=
  match argument.toList with
  | '-' :: c :: letters => (c :: letters).all "neE".toList.contains
  | _ => false

/-- Write arguments; escapes are replaced only where that is asked for. -/
def echoProgram (arguments : List String) : Effect Nat := do
  let options := arguments.takeWhile isEchoOption
  let letters := options.flatMap fun option => option.toList.drop 1
  let rest := arguments.drop options.length
  let endLine := if letters.contains 'n' then "" else "\n"
  let replaced := (letters.reverse.find? fun c => c == 'e' || c == 'E') == some 'e'
  let (text, ended) := if replaced then unescapeAll rest else (" ".intercalate rest, false)
  say (if ended then text else text ++ endLine)
  pure 0

/-- What the program that writes as a pattern asks for says, given what the command of the shell says. -/
def formatMessage (message : String) : String :=
  match message.splitOn ": " with
  | [argument, "expected numeric value"] => quoted argument ++ ": expected a numeric value"
  | [argument, "not completely converted"] => quoted argument ++ ": value not completely converted"
  | [argument, "Numerical result out of range"] => quoted argument ++ ": Numerical result out of range"
  | [directive, "invalid directive"] => directive ++ ": invalid conversion specification"
  | _ => message

/-- Whether a pattern has a place for an argument. -/
def takesArguments : List Char → Bool
  | '%' :: '%' :: rest => takesArguments rest
  | '%' :: _ => true
  | _ :: rest => takesArguments rest
  | [] => false

/-- Write arguments as a pattern asks for. -/
def printfProgram (arguments : List String) : Effect Nat := do
  match arguments with
  | [] => misused "missing operand" 1
  | pattern :: rest =>
    let found := format pattern rest
    found.warnings.forM fun warning => tell (formatMessage warning)
    say found.text
    match rest, takesArguments pattern.toList with
    | first :: _, false => tell ("warning: ignoring excess arguments, starting with " ++ quoted first)
    | _, _ => pure ()
    match found.fault with
    | some fault =>
      tell (formatMessage fault)
      pure 1
    | none => pure (if found.warnings.isEmpty then 0 else 1)

/-- What the program that tests says, given what the command of the shell says. -/
def conditionMessage (arguments : List String) (message : String) : String :=
  match message.splitOn ": ", arguments with
  | ["Illegal number", text], _ => "invalid integer " ++ quoted text
  | [_, "unexpected operator"], [_, sign, _] => quoted sign ++ ": binary operator expected"
  | _, arguments => "missing argument after " ++ quoted (arguments.getLast?.getD "")

/-- Test a condition. -/
def testProgram (isBracket : Bool) (arguments : List String) : Effect Nat := do
  if isBracket && arguments.getLast? != some "]" then
    tell ("missing " ++ quoted "]")
    pure 2
  else
    let arguments := if isBracket then arguments.dropLast else arguments
    let m ← get
    match holds ⟨testFile m, testFiles true m⟩ arguments with
    | .ok result => pure (if result then 0 else 1)
    | .error message =>
      tell (conditionMessage arguments message)
      pure 2

/-- Write the name of the directory. -/
def pwdProgram (arguments : List String) : Effect Nat := do
  if arguments.any (!·.startsWith "-") then tell "ignoring non-option arguments"
  say s!"{octets (← process).directory.toText}\n"
  pure 0

/-! ## Other programs -/

/-- Wait for as long as all arguments say. -/
def sleepProgram (arguments : List String) : Effect Nat := do
  let lengths := arguments.map fun text => (text, nanoseconds? text)
  match arguments, lengths.filter fun (_, n) => n.isNone with
  | [], _ => misused "missing operand" 1
  | _, (bad, _) :: more =>
    tell ("invalid time interval " ++ quoted bad)
    more.forM fun (text, _) => tell ("invalid time interval " ++ quoted text)
    misused "" 1
  | _, [] =>
    waitUntil ((← get).now + (lengths.filterMap Prod.snd).foldl (· + ·) 0)
    pure 0

/-- Write variables of the environment. -/
def printenvProgram (arguments : List String) : Effect Nat := do
  let bindings := (← process).bindings
  if arguments.isEmpty then
    say (unlines (bindings.map fun (name, b) => name ++ "=" ++ b.value.getD ""))
    pure 0
  else
    let found := arguments.map fun name => (bindings.lookup name).bind (·.value)
    say (unlines (found.filterMap id))
    pure (if found.all Option.isSome then 0 else 1)

/-- How many lines a program writes that would write without end. -/
def endlessLines : Nat := 20000

/-- Write a line again and again. -/
def yesProgram (arguments : List String) : Effect Nat := do
  let line := if arguments.isEmpty then "y" else " ".intercalate arguments
  say (unlines (List.replicate endlessLines line))
  pure 141

/-- Where a program lies that a shell script looks for, in the directories that a shell starts with. -/
def placesOf (name : String) : Effect (List String) := do
  let isFound (path : String) : Effect Bool := do
    match ← lookUp path with
    | .ok (.directory _) => pure false
    | _ => isRunnable path
  if name.toList.contains '/' then [name].filterM isFound
  else
    let path := (← value? "PATH").getD shellPath
    let directories := if path.isEmpty then [] else path.splitOn ":"
    (directories.map fun d => (if d.isEmpty then "." else d) ++ "/" ++ name).filterM isFound

/-- Write where programs lie. -/
def whichProgram (path : String) (arguments : List String) : Effect Nat := do
  match Given.read "+as" [] arguments with
  | .error message =>
    complain ("Illegal option -" ++ String.ofList ((message.toList.reverse.drop 1).take 1) ++ "\n")
    say ("Usage: " ++ path ++ " [-as] args\n")
    pure 2
  | .ok g =>
    let results ← g.operands.mapM fun name => do
      let places ← placesOf name
      if !g.has 's' then say (unlines (if g.has 'a' then places else places.take 1))
      pure !places.isEmpty
    pure (if results.all id && !results.isEmpty then 0 else 1)

/-- The programs that use only what they are given, by their names. -/
def plainPrograms : List (String × (List String → Effect Nat)) :=
  [("true", fun _ => pure 0), ("false", fun _ => pure 1), ("echo", echoProgram), ("printf", printfProgram),
    ("test", testProgram false), ("[", testProgram true), ("pwd", pwdProgram), ("sleep", sleepProgram),
    ("printenv", printenvProgram), ("yes", yesProgram), ("expr", exprProgram),
    ("basename", basenameProgram), ("dirname", dirnameProgram), ("realpath", realpathProgram),
    ("readlink", readlinkProgram), ("mktemp", mktempProgram), ("ls", lsProgram), ("stat", statProgram),
    ("du", duProgram), ("mkdir", mkdirProgram), ("rmdir", rmdirProgram), ("rm", rmProgram),
    ("unlink", unlinkProgram), ("touch", touchProgram), ("truncate", truncateProgram),
    ("chmod", chmodProgram), ("chown", chownProgram), ("chgrp", chownProgram), ("cp", cpProgram),
    ("mv", mvProgram), ("install", installProgram), ("ln", lnProgram), ("link", linkProgram),
    ("cat", catProgram), ("tac", tacProgram)]
  ++ [("rev", revProgram), ("nl", nlProgram), ("tee", teeProgram), ("paste", pasteProgram),
    ("head", headProgram), ("tail", tailProgram), ("wc", wcProgram), ("sort", sortProgram),
    ("uniq", uniqProgram), ("tsort", tsortProgram), ("shuf", shufProgram), ("cut", cutProgram),
    ("comm", commProgram), ("join", joinProgram), ("tr", trProgram), ("expand", expandProgram),
    ("unexpand", unexpandProgram), ("fold", foldProgram), ("fmt", fmtProgram), ("seq", seqProgram),
    ("factor", factorProgram), ("numfmt", numfmtProgram), ("grep", grepProgram), ("cmp", cmpProgram),
    ("diff", diffProgram), ("sdiff", sdiffProgram), ("od", odProgram), ("base64", baseProgram .base64),
    ("base32", baseProgram .base32), ("basenc", basencProgram), ("md5sum", digestProgram .md5),
    ("sha1sum", digestProgram .sha1), ("sha224sum", digestProgram .sha224),
    ("sha256sum", digestProgram .sha256), ("sha384sum", digestProgram .sha384)]
  ++ [("sha512sum", digestProgram .sha512), ("b2sum", b2sumProgram), ("cksum", cksumProgram),
    ("sum", sumProgram), ("date", dateProgram)]

/-- The programs that run other ones, by their names. -/
def callingPrograms : List (String × (Starter → List String → Effect Nat)) :=
  [("awk", awkProgram), ("mawk", awkProgram), ("find", findProgram), ("sed", sedProgram),
    ("xargs", xargsProgram), ("env", envProgram), ("timeout", timeoutProgram), ("nice", niceProgram),
    ("nohup", nohupProgram), ("setsid", setsidProgram), ("stdbuf", stdbufProgram),
    ("split", splitProgram)]

/-- Run the program with a path; the answer is the status it ends with. -/
def utility (start : Starter) (path name : String) (arguments : List String) : Effect Nat :=
  match plainPrograms.lookup name, callingPrograms.lookup name with
  | some program, _ => program arguments
  | none, some program => program start arguments
  | none, none =>
    match name with
    | "egrep" | "fgrep" => do
      update fun p => { p with name := "grep" }
      grepProgram ((if name == "egrep" then "-E" else "-F") :: arguments)
    | "dir" => lsProgram ("-C" :: "-b" :: arguments)
    | "vdir" => lsProgram ("-l" :: "-b" :: arguments)
    | "which" => whichProgram path arguments
    | name => builtin name arguments

end Conformance.Shell
