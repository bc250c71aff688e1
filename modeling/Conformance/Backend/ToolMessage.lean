import Conformance.Compile.Result
import Conformance.Decimal.Reading
import Conformance.FileTree.Path
import Conformance.Text.Character
import Conformance.Text.Lines
import Conformance.Text.Lowercase

/-!
# Messages of external tools

Tools report on a line of its own: a file, a line, perhaps a column, perhaps a severity, and a message.
Some put the severity in front of the file behind a percent sign.  Everything else that a tool writes is
no message.
-/

namespace Conformance.Backend

open Text

/-- A message of a tool, in the parts in which it is written. -/
structure ToolMessage where
  /-- The severity in front of the file. -/
  label : Option (List CodePoint)
  file : List CodePoint
  line : List CodePoint
  column : Option (List CodePoint)
  /-- The severity in front of the message. -/
  severity : Option (List CodePoint)
  message : List CodePoint
  deriving Repr, DecidableEq

namespace ToolMessage

/-! ## Parts of a line -/

/-- The severities that can stand in front of the file. -/
def labels : List (List Char) :=
  ["error".toList, "warning".toList]

/-- The severities that can stand in front of the message. -/
def severities : List (List Char) :=
  ["fatal".toList, "error".toList, "warning".toList]

/-- Split a text at its first colon, which is dropped. -/
def splitColon? (text : List CodePoint) : Option (List CodePoint × List CodePoint) :=
  match text.dropWhile (· != .char ':') with
  | _ :: rest => some (text.takeWhile (· != .char ':'), rest)
  | [] => none

/-- Split off a severity in front of the file. -/
def splitLabel? : List CodePoint → Option (List CodePoint × List CodePoint)
  | .char '%' :: rest =>
    match splitAnyWord? labels rest with
    | some (label, rest) =>
      (splitColon? rest).map fun (_, rest) => (label, rest.dropWhile isBlank)
    | none => none
  | _ => none

/-- Split off a number and the colon behind it. -/
def splitNumber? (text : List CodePoint) : Option (List CodePoint × List CodePoint) :=
  let number := text.takeWhile isDigit
  match number, text.dropWhile isDigit with
  | _ :: _, .char ':' :: rest => some (number, rest)
  | _, _ => none

/-- Split off a severity in front of the message. -/
def splitSeverity (text : List CodePoint) : Option (List CodePoint) × List CodePoint :=
  match splitAnyWord? severities text with
  | some (severity, rest) =>
    match rest.dropWhile isBlank with
    | .char ':' :: rest => (some severity, rest.dropWhile isBlank)
    | _ => (none, text)
  | none => (none, text)

/-- Read what stands behind a severity in front of the file. -/
def readPlaced? (label : Option (List CodePoint)) (text : List CodePoint) : Option ToolMessage :=
  match splitColon? text with
  | none => none
  | some (file, rest) =>
    if (file.head?.map isBlank).getD true then none
    else
      match splitNumber? rest with
      | none => none
      | some (line, rest) =>
        let (column, rest) := match splitNumber? rest with
          | some (column, rest) => (some column, rest)
          | none => (none, rest)
        let (severity, message) := splitSeverity (rest.dropWhile isBlank)
        some ⟨label, file, line, column, severity, message⟩

/-- Read a line of a tool without blanks at its ends. -/
def read? (text : List CodePoint) : Option ToolMessage :=
  match splitLabel? text with
  | some (label, rest) =>
    match readPlaced? (some label) rest with
    | some message => some message
    | none => readPlaced? none text
  | none => readPlaced? none text

/-! ## Meaning -/

/-- Whether a message is a warning: the severity in front of the file decides, then the one in front of
the message; without any, a message is an error. -/
def isWarning (m : ToolMessage) : Bool :=
  lower ((m.label.or m.severity).getD []) == ("warning" : Text).toList

/-- The file that a message names, unless it is the source itself. -/
def namedFile (source : Option Text) (m : ToolMessage) : Option Text :=
  let file := Text.ofList m.file
  match source with
  | some source => if (Path.ofText file).name = (Path.ofText source).name then none else some file
  | none => some file

/-- A diagnostic of a tool: an error or a warning. -/
abbrev Finding := CompileError ⊕ CompileWarning

/-- The diagnostic that a message stands for.  Line and column must not have too many digits. -/
def finding (source : Option Text) (m : ToolMessage) : Except Decimal.ReadingError Finding :=
  match Decimal.readInteger (Text.ofList m.line) with
  | .error error => .error error
  | .ok line =>
    match (m.column.map fun column => Decimal.readInteger (Text.ofList column)).getD (.ok 0) with
    | .error error => .error error
    | .ok column =>
      let message := Text.ofList (trimBlanks m.message)
      let file := m.namedFile source
      .ok (if m.isWarning then .inr ⟨message, line, column, file, .general⟩
        else .inl ⟨message, line, column, file, .other⟩)

end ToolMessage

/-! ## Whole outputs -/

/-- The diagnostics in lines of a tool. -/
def findingsOf (source : Option Text) :
    List (List CodePoint) → Except Decimal.ReadingError (List ToolMessage.Finding)
  | [] => .ok []
  | line :: rest =>
    match ToolMessage.read? (trimBlanks line) with
    | none => findingsOf source rest
    | some message =>
      match message.finding source with
      | .error error => .error error
      | .ok finding => (findingsOf source rest).map (finding :: ·)

/-- The errors among diagnostics. -/
def errorsOf (findings : List ToolMessage.Finding) : List CompileError :=
  findings.filterMap Sum.getLeft?

/-- The warnings among diagnostics. -/
def warningsOf (findings : List ToolMessage.Finding) : List CompileWarning :=
  findings.filterMap Sum.getRight?

/-- The errors and warnings in the output of a tool. -/
def readDiagnostics (output : Text) (source : Option Text) :
    Except Decimal.ReadingError (List CompileError × List CompileWarning) :=
  (findingsOf source (breakLines output.toList)).map fun findings =>
    (errorsOf findings, warningsOf findings)

end Conformance.Backend
