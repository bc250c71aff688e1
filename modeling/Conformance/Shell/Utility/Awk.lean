import Conformance.Shell.Awk.Running

/-!
# Programs over records

The rules for the beginning are carried out first, then those for records with each record, and at last those
for the end.  A program that leaves its course early still comes to its end, unless something is wrong.  On a
command line the options name the files of the program, or its first operand is the program; options also give
variables their first values.
-/

namespace Conformance.Shell

open Effect

/-! ## The course over records -/

/-- Whether a rule is meant for records. -/
def AwkTrigger.isForRecords : AwkTrigger → Bool
  | .start | .finish => false
  | .always | .when _ | .between .. => true

/-- Whether a rule is meant for the beginning. -/
def AwkTrigger.isStart : AwkTrigger → Bool
  | .start => true
  | _ => false

/-- Whether a rule is meant for the end. -/
def AwkTrigger.isFinish : AwkTrigger → Bool
  | .finish => true
  | _ => false

namespace AwkRun

/-- How deep expressions and statements go at most, which is deeper than the steps that are made. -/
def depthLimit : Nat := 4 * stepLimit

/-- Whether an expression is true. -/
def passes (p : AwkSetting) (test : AwkExpr) : AwkRun Bool := do
  pure (← evaluate depthLimit p 0 0 test).isTrue

/-- Whether a rule with a number applies to the record. -/
def applies (p : AwkSetting) (number : Nat) (trigger : AwkTrigger) : AwkRun Bool := do
  match trigger with
  | .start | .finish => pure false
  | .always => pure true
  | .when test => passes p test
  | .between first last =>
    let isInside := (← get).ranges.contains number
    let begins ← if isInside then pure true else passes p first
    if begins then do
      let ends ← passes p last
      let others := (← get).ranges.filter (· != number)
      modify fun s => { s with ranges := if ends then others else number :: others }
      pure true
    else pure false

/-- Carry out the rules for the record, from one with a number on. -/
def runRules (p : AwkSetting) (number : Nat) : List AwkRule → AwkRun Unit
  | [] => pure ()
  | rule :: rest => do
    let flow ← if ← applies p number rule.trigger then execute depthLimit p 0 0 rule.body else pure .goOn
    match flow with
    | .nextRecord => pure ()
    | .nextFile => modify fun s => { s with operands := { s.operands with input := none } }
    | _ => runRules p (number + 1) rest

/-- Go through the records.  The number bounds how many there are. -/
def runRecords (p : AwkSetting) (rules : List AwkRule) : Nat → AwkRun Unit
  | 0 => throw .endless
  | fuel + 1 => do
    countStep
    match ← nextMain p operandLimit with
    | none => pure ()
    | some text =>
      putRecord (.given text)
      runRules p 0 rules
      runRecords p rules fuel

/-- Carry out all rules of a list. -/
def runAlways (p : AwkSetting) (rules : List AwkRule) : AwkRun Unit :=
  rules.forM fun rule => do
    let _ ← execute depthLimit p 0 0 rule.body

/-- Do something that may leave the course of the program; the answer says why it does. -/
def leaving (body : AwkRun Unit) : AwkRun (Option AwkLeave) :=
  tryCatch (do
    body
    pure none) (pure ∘ some)

/-- Whether a program goes on to its end from where it has left its course. -/
def goesOn : Option AwkLeave → Bool
  | none | some .exit => true
  | some _ => false

/-- Run a program; the answer says why it does not come to its end. -/
def runProgram (p : AwkSetting) (program : AwkProgram) : AwkRun (Option AwkLeave) := do
  let records := program.rules.filter (·.trigger.isForRecords)
  let last := program.rules.filter (·.trigger.isFinish)
  let left ← leaving do
    runAlways p (program.rules.filter (·.trigger.isStart))
    if !(records.isEmpty && last.isEmpty) then runRecords p records stepLimit
  if goesOn left then leaving (runAlways p last) else pure left

/-- The text behind a message that says where the program stands. -/
def placeText : AwkRun String := do
  let file ← textOfVariable "FILENAME"
  let record ← textOfVariable "FNR"
  let total ← textOfVariable "NR"
  pure (s!"\n\tFILENAME=\"{file}\" FNR={record} NR={total}\n")

/-- Run a program with a name up to its end; the answer is the status it ends with. -/
def runToEnd (name : String) (p : AwkSetting) (program : AwkProgram) : AwkRun Nat := do
  let left ← runProgram p program
  match left with
  | none | some .exit =>
    closeAll p.start
    pure (← get).status
  | some (.fault message) =>
    closeAll p.start
    onMachine (complain (name ++ ": run time error: " ++ message))
    onMachine (complain (← placeText))
    pure 2
  | some (.broken message) =>
    closeAll p.start
    onMachine (complain (name ++ ": " ++ message ++ "\n"))
    pure 2
  | some .endless =>
    onMachine do
      waitUntil (← get).limit
    pure 2
  | some .crashed => throw .crashed

end AwkRun

/-! ## Options -/

/-- What a command line asks for. -/
structure AwkRequest where
  files : List String
  /-- The variables that have a value from the beginning. -/
  values : List (String × String)
  warnings : List String
  operands : List String

/-- What comes of the options of a command line. -/
inductive AwkOptions
  | run
  | usage
  | nothing
  | refused (message : String)
  deriving Repr, DecidableEq

/-- How programs over records are called. -/
def awkUsage : String :=
  "Usage: mawk [Options] [Program] [file ...]\n\nProgram:\n" ++
  "    The -f option value is the name of a file containing program text.\n" ++
  "    If no -f option is given, a \"--\" ends option processing; the following\n" ++
  "    parameters are the program text.\n\nOptions:\n" ++
  "    -f program-file  Program  text is read from file instead of from the\n" ++
  "                     command-line.  Multiple -f options are accepted.\n" ++
  "    -F value         sets the field separator, FS, to value.\n" ++
  "    -v var=value     assigns value to program variable var.\n" ++
  "    --               unambiguous end of options.\n\n" ++
  "    Implementation-specific options are prefixed with \"-W\".  They can be\n    abbreviated:\n\n" ++
  "    -W version       show version information and exit.\n" ++
  "    -W compat        pre-POSIX 2001.\n" ++
  "    -W dump          show assembler-like listing of program and exit.\n" ++
  "    -W help          show this message and exit.\n" ++
  "    -W interactive   set unbuffered output, line-buffered input.\n" ++
  "    -W exec file     use file as program as well as last option.\n" ++
  "    -W posix         stricter POSIX checking.\n" ++
  "    -W random=number set initial random seed.\n" ++
  "    -W sprintf=number adjust size of sprintf buffer.\n" ++
  "    -W usage         show this message and exit.\n"

/-- The names of special options. -/
def awkSpecialNames : List String :=
  ["version", "dump", "exec", "help", "interactive", "posix", "random", "sprintf", "traditional", "usage"]

/-- The special option that a text names, which can be shortened. -/
def awkSpecial? (text : String) : Option String :=
  let name := String.ofList ((text.toList.takeWhile (· != '=')).map Char.toLower)
  if name.isEmpty then none else awkSpecialNames.find? (·.startsWith name)

/-- A request with the value of a variable that an option gives, or what is wrong with it. -/
def AwkRequest.withValue (r : AwkRequest) (text : String) : Except String AwkRequest :=
  match splitAssignment text with
  | (name, some value) =>
    if !isIdentifier name then .error s!"improper assignment: -v {text}"
    else if awkKeywords.contains name || (AwkBuiltin.table.lookup name).isSome || name == "ENVIRON" then
      .error (s!"run time error: {AwkRun.assignmentMessage name}" ++ "\n\tFILENAME=\"\" FNR=0 NR=0")
    else .ok { r with values := r.values ++ [(name, unescapeAwk value)] }
  | _ => .error s!"improper assignment: -v {text}"

/-- Read the arguments of a command line; the number bounds how many there are. -/
def AwkRequest.read (r : AwkRequest) : Nat → List String → AwkRequest × AwkOptions
  | 0, _ | _, [] => (r, .run)
  | fuel + 1, argument :: rest =>
    match argument.toList with
    | ['-'] => (r, .nothing)
    | ['-', '-'] => ({ r with operands := rest }, .run)
    | '-' :: letter :: attached =>
      let given? := if attached.isEmpty then rest.head? else some (String.ofList attached)
      let rest := if attached.isEmpty then rest.drop 1 else rest
      match "fvFW".toList.contains letter, given? with
      | false, _ => (r, .refused ("not an option: " ++ argument))
      | true, none => (r, .refused (s!"option -{letter} lacks argument"))
      | true, some value =>
        match letter with
        | 'f' => ({ r with files := r.files ++ [value] } : AwkRequest).read fuel rest
        | 'F' => ({ r with values := r.values ++ [("FS", unescapeAwk value)] } : AwkRequest).read fuel rest
        | 'v' =>
          match r.withValue value with
          | .ok r => r.read fuel rest
          | .error message => (r, .refused message)
        | _ =>
          match awkSpecial? value, rest with
          | none, _ =>
            ({ r with warnings := r.warnings ++ [s!"vacuous option: -W \"{value}\""] } : AwkRequest).read fuel rest
          | some "help", _ | some "usage", _ => (r, .usage)
          | some "version", _ => (r, .nothing)
          | some "exec", [] => (r, .nothing)
          | some "exec", file :: rest => ({ r with files := r.files ++ [file], operands := rest }, .run)
          | some _, _ => r.read fuel rest
    | _ => ({ r with operands := argument :: rest }, .run)

/-! ## The program -/

/-- The state in which a program begins, given its operands and the environment. -/
def AwkState.start (name : String) (program : AwkProgram) (operands : List String)
    (environment : List (String × String)) : AwkState :=
  let names := AwkTable.ofPairs ((AwkKey.number 0, .text name) ::
    operands.zipIdx.map fun (operand, i) => (.number (i + 1), .given operand))
  let settings := AwkTable.ofPairs (environment.map fun (name, value) => (AwkKey.text name, .given value))
  let others := program.tables.filter fun name => !awkTables.contains name
  { shared := .ofList (("ARGC", .ofNat (operands.length + 1)) :: awkVariables)
    places := .ofList (awkTables ++ others).zipIdx
    tables := #[names, settings] ++ Array.replicate others.length .empty
    own := #[]
    record := ⟨.text "", none, .blanks⟩
    splitter := .blanks
    ending := .char '\n'
    patterns := ∅
    ranges := []
    operands := ⟨1, none, false, false⟩
    inputs := []
    outputs := []
    pending := []
    written := 0
    status := 0
    steps := AwkRun.stepLimit
    seed := .unset
    chance := 2463534242 }

/-- The texts of a program that stands in files, or what is wrong with one. -/
def awkSources (files : List String) : Effect (Except String (List (Option String × String))) := do
  let texts ← files.mapM fun name => do
    pure (name, ← readOperand? (if name == "/dev/stdin" then "-" else name))
  pure (texts.mapM fun (name, result) =>
    match result with
    | .ok text => .ok (some name, text)
    | .error .isDirectory => .error "read error (Is a directory)"
    | .error fault => .error s!"cannot open \"{name}\" ({fault.text})")

/-- Run a program whose text is given. -/
def runAwk (start : Starter) (name : String) (values : List (String × String))
    (sources : List (Option String × String)) (operands : List String) : Effect Nat := do
  match AwkProgram.read (values.map Prod.fst) sources with
  | .error messages =>
    messages.forM fun message => complain s!"{name}: {message}\n"
    pure 2
  | .ok program =>
    let environment := (← process).bindings.filterMap fun (name, b) => b.value.map fun value => (name, value)
    let p : AwkSetting := ⟨start, .ofList program.functions⟩
    let first := AwkState.start name program operands environment
    let prepare : AwkRun Unit := values.forM fun (name, value) => AwkRun.putValue (.shared name) (.given value)
    match ← prepare.run first with
    | (.error (.fault message), _) =>
      complain s!"{name}: line 0: {message}\n"
      pure 2
    | (_, prepared) =>
      match ← (AwkRun.runToEnd name p program).run prepared with
      | (.ok status, _) => pure status
      | (.error _, _) => throw (.killed 11)

/-- Run a program over records. -/
def awkProgram (start : Starter) (arguments : List String) : Effect Nat := do
  let name := (((← process).name.splitOn "/").getLast?).getD "awk"
  let (request, outcome) := AwkRequest.read ⟨[], [], [], []⟩ (arguments.length + 1) arguments
  request.warnings.forM fun message => complain s!"{name}: {message}\n"
  match (if arguments.isEmpty then .usage else outcome), request.files, request.operands with
  | .usage, _, _ =>
    say awkUsage
    pure 0
  | .nothing, _, _ => pure 0
  | .refused message, _, _ =>
    complain s!"{name}: {message}\n"
    pure 2
  | .run, [], [] => pure 0
  | .run, [], program :: operands => runAwk start name request.values [(none, program)] operands
  | .run, files, operands =>
    match ← awkSources files with
    | .error message =>
      complain s!"{name}: {message}\n"
      pure 2
    | .ok sources => runAwk start name request.values sources operands

end Conformance.Shell
