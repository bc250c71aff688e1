import Conformance.Shell.Editing
import Conformance.Shell.Process
import Conformance.Shell.Utility.Change

/-!
# The program that edits lines

The script of the program and its options, what it reads, and where the results of editing go.
-/

namespace Conformance.Shell

open Effect

/-! ## Files -/

/-- The first line of how the program is used. -/
def editUsage : String :=
  "Usage: sed [OPTION]... \x7bscript-only-if-no-other-script\x7d [input-file]...\n"

/-- The long options of the program that edits lines. -/
def editNames : List (String × Char) :=
  [("quiet", 'n'), ("silent", 'n'), ("expression", 'e'), ("file", 'f'), ("regexp-extended", 'E'),
    ("in-place", 'i'), ("separate", 's'), ("unbuffered", 'u'), ("null-data", 'z'),
    ("zero-terminated", 'z'), ("line-length", 'l'), ("binary", 'b'), ("posix", 'π'), ("debug", 'δ'),
    ("sandbox", 'σ'), ("follow-symlinks", 'φ')]

/-- A text whose lines are edited, under its name. -/
def readEditInput (inPlace : Bool) (mark : Char) (name : String) : Effect EditInput := do
  let found ← if inPlace && name != "-" then readFile name else readOperand? name
  match found with
  | .ok text => pure (.text name (editLines mark text))
  | .error .isDirectory =>
    pure (if inPlace then .absent s!"couldn't edit {name}: not a regular file" 4
      else .broken s!"read error on {name}: Is a directory")
  | .error fault => pure (.absent s!"can't read {name}: {fault.text}" 2)

/-- What editing asks of the machine. -/
def editAccess (start : Starter) : EditAccess Effect where
  outputOf command := Prod.fst <$> shellOutput start "sh" command
  contentOf name := do pure (← readOperand? (if name == "-" then "./-" else name)).toOption

/-- The name under which a file is kept that is edited in its place. -/
def editedBackup (pattern name : String) : String :=
  name.intercalate (pattern.splitOn "*")

/-- Put a result in the place of a file, which may be kept under another name. -/
def replaceEdited (through : Bool) (backup : Option String) (name text : String) :
    Effect (Option Fault) := do
  let path ← if through then pathOf name else linkPathOf name
  let target ← pathOf name
  let m ← get
  let mode := match m.tree.find target with
    | .ok entry => (attributesIn m.attributes target entry).mode
    | .error _ => 0o644
  let fault ← match backup with
    | some pattern => creationFault? (editedBackup pattern name)
    | none => pure none
  if fault.isSome then pure fault
  else
    match backup with
    | some pattern => moveAt path (← linkPathOf (editedBackup pattern name))
    | none => removeAt path
    putNew path (FileTree.Entry.plain (bytesOf text)) mode
    pure none

/-! ## Results -/

/-- What was written to some targets. -/
def writtenTo (targets : List EditTarget) (written : List (EditTarget × String)) : String :=
  String.join (written.filterMap fun (target, text) => if targets.contains target then some text else none)

/-- The files that a script writes, in the order of its commands. -/
def writtenFiles (commands : List EditCommand) : List String :=
  (commands.filterMap fun c =>
    match c.action with
    | .writeFile name _ => some name
    | .substitute q => q.file
    | _ => none).eraseDups.filter fun name => Editing.targetOf name == .file name

/-- Make the files that a script writes, up to one that cannot be made. -/
def makeWritten : List String → Effect (Option (String × Fault))
  | [] => pure none
  | name :: rest => do
    match ← lookUp name, ← creationFault? name with
    | .ok (.directory _), _ => pure (some (name, .isDirectory))
    | .error _, some fault => pure (some (name, fault))
    | _, _ =>
      if name != "/dev/null" then putFile (← pathOf name) ""
      makeWritten rest

/-! ## The program -/

/-- The parts of a script that options give, with how each is read; signs have the meaning for which the
options in front of it ask. -/
def editParts (g : Given) : Effect (Except String (List (EditOrigin × EditRules × String))) := do
  let isSafe := g.has 'σ'
  let (_, _, parts) ← g.options.foldlM (fun (s : Bool × Nat × Except String (List _)) (letter, value) => do
    let (extended, count, parts) := s
    let rules : EditRules := ⟨extended, isSafe⟩
    match letter, parts with
    | 'E', _ | 'r', _ => pure (true, count, parts)
    | 'e', .ok parts =>
      pure (extended, count + 1, .ok (parts ++ [(EditOrigin.argument (count + 1), rules, value)]))
    | 'f', .ok parts =>
      match ← readOperand? value with
      | .ok text => pure (extended, count, .ok (parts ++ [(EditOrigin.file value, rules, text)]))
      | .error fault => pure (extended, count, .error s!"couldn't open file {value}: {fault.text}")
    | _, parts => pure (extended, count, parts)) (false, 0, .ok [])
  pure parts

/-- Edit with a script. -/
def runEdit (start : Starter) (g : Given) (script : EditScript) (files : List String) : Effect Nat := do
  let inPlace := g.has 'i'
  let mark := if g.has 'z' then '\x00' else '\n'
  let width := match g.get? 'l' with
    | some text => (String.ofList (text.toList.takeWhile Char.isDigit)).toNat?.getD 0
    | none => 70
  let plan : EditPlan := ⟨script.commands.toArray, g.has 'n' || script.isQuiet, inPlace || g.has 's', inPlace,
    mark, width⟩
  let inputs ← files.mapM (readEditInput inPlace mark)
  let result ← plan.edit (editAccess start) inputs
  if result.final == .endless then waitUntil (← get).limit
  result.complaints.forM tell
  complain (writtenTo [.errors] result.written)
  for name in writtenFiles script.commands do
    let text := writtenTo [.file name] result.written
    if !text.isEmpty && name != "/dev/null" then putFile (← pathOf name) text
  say (writtenTo [.output, .outputFile] result.written)
  if inPlace then
    let backup := (g.get? 'i').bind fun pattern =>
      if pattern.isEmpty then none
      else some (if pattern.toList.contains '*' then pattern else "*" ++ pattern)
    let names := inputs.filterMap fun
      | .text name _ => some name
      | _ => none
    let finished := match result.final with
      | .fault .. => result.begun - 1
      | _ => result.begun
    let faults ← (names.take finished).zipIdx.mapM fun (name, n) => do
      let fault ← replaceEdited (g.has 'φ') backup name (writtenTo [.input (n + 1)] result.written)
      pure (fault.map fun fault => s!"cannot rename {name}: {fault.text}")
    match faults.findSome? id with
    | some message => failed message 4
    | none => concludeEdit result.final
  else concludeEdit result.final
where
  /-- Say why editing has stopped. -/
  concludeEdit (final : EditEnd) : Effect Nat := do
    match final with
    | .status n => pure n
    | .fault message status =>
      failed (if message.startsWith "no previous" then s!"-e expression #1, char 0: {message}" else message)
        status
    | .endless => pure 4

/-- Edit lines. -/
def sedProgram (start : Starter) (arguments : List String) : Effect Nat := do
  match Given.read "nEri::suze:f:l:bδπσφ" editNames arguments with
  | .error message =>
    tell message
    complain editUsage
    pure 1
  | .ok g =>
    match ← editParts g, g.operands with
    | .error message, _ => failed message 4
    | .ok [], [] =>
      complain editUsage
      pure 1
    | .ok parts, operands =>
      let rules : EditRules := ⟨g.has 'E' || g.has 'r', g.has 'σ'⟩
      let (parts, files) := match parts, operands with
        | [], script :: files => ([(EditOrigin.argument 1, rules, script)], files)
        | parts, files => (parts, files)
      match EditScript.read parts with
      | .error fault => failed (fault.place ++ fault.message) 1
      | .ok script =>
        match missingLabel? script.commands with
        | some name => failed s!"can't find label for jump to \x60{name}'" 4
        | none =>
          if g.has 'i' && files.isEmpty then failed "no input files" 4
          else
            match ← makeWritten (writtenFiles script.commands) with
            | some (name, fault) => failed s!"couldn't open file {name}: {fault.text}" 4
            | none => runEdit start g script (if files.isEmpty then ["-"] else files)

end Conformance.Shell
