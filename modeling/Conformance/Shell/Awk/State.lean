import Conformance.Shell.Awk.Reading
import Conformance.Shell.Process
import Conformance.Shell.Utility.Basic

/-!
# The state of a running program over records

A running program has variables and tables, the record with its fields, and texts that it reads and writes.
Fields are found when they are first needed, by what separated them when the record was read.
-/

namespace Conformance.Shell

open Effect

/-! ## Parts of the state -/

/-- What a function has for itself at one place. -/
inductive AwkSlot
  | value (v : AwkValue)
  | table (place : Nat)

instance : Inhabited AwkSlot := ⟨.value .unset⟩

/-- What separates fields. -/
inductive AwkSplitter
  | blanks
  /-- Nothing: each character is a field. -/
  | nothing
  | pattern (e : Regular)

/-- What ends a record. -/
inductive AwkEnding
  | char (c : Char)
  /-- Empty lines. -/
  | paragraph
  | pattern (e : Regular)

/-- A record: its text, its fields if they have been found, and what separates them. -/
structure AwkRecord where
  whole : AwkValue
  fields : Option (Array AwkValue)
  splitter : AwkSplitter

/-- Where a text comes from. -/
inductive AwkOrigin
  | file
  /-- The standard input, of which so much has been read. -/
  | standard (consumed : Nat)
  /-- A command, which has ended with a number. -/
  | command (status : Nat)

/-- A text of which records are taken, and how much of it has been taken. -/
structure AwkInput where
  text : Array Char
  place : Nat
  origin : AwkOrigin

/-- Something that is written to: its name, and the place where it leads; what a command gets is kept until the
end. -/
structure AwkOutput where
  name : String
  isCommand : Bool
  place : Nat
  parts : List String

/-- How far the operands of a program have been read. -/
structure AwkOperands where
  next : Nat
  input : Option AwkInput
  hasRead : Bool
  isFinished : Bool

/-- The state of a running program. -/
structure AwkState where
  shared : Std.HashMap String AwkValue
  /-- The places of the tables that belong to the whole program. -/
  places : Std.HashMap String Nat
  /-- All tables: those of the whole program come first, then those that functions have for themselves. -/
  tables : Array AwkTable
  own : Array AwkSlot
  record : AwkRecord
  splitter : AwkSplitter
  ending : AwkEnding
  patterns : Std.HashMap String Regular
  /-- The rules whose first record has come, but not the last. -/
  ranges : List Nat
  operands : AwkOperands
  inputs : List ((Bool × String) × AwkInput)
  outputs : List AwkOutput
  /-- What has been written to the standard output, the last first, but does not show yet. -/
  pending : List String
  /-- How much has been written. -/
  written : Nat
  status : Nat
  steps : Nat
  seed : AwkValue
  chance : UInt64

/-- Why a program does not simply go on. -/
inductive AwkLeave
  | exit
  /-- Something cannot be done. -/
  | fault (message : String)
  /-- The program cannot go on for a reason that has nothing to do with the record. -/
  | broken (message : String)
  | endless
  /-- There are more calls than there is room for. -/
  | crashed
  deriving Repr, DecidableEq

/-- A running program. -/
abbrev AwkRun := ExceptT AwkLeave (StateT AwkState Effect)

namespace AwkRun

/-- Do something on the machine. -/
def onMachine {α : Type} (body : Effect α) : AwkRun α :=
  ExceptT.lift (StateT.lift body)

/-- How many steps a program makes that would go on without end. -/
def stepLimit : Nat := 3000000

/-- How much a program writes that would go on without end. -/
def writeLimit : Nat := 4000000

/-- Count a step. -/
def countStep : AwkRun Unit := do
  match (← get).steps with
  | 0 => throw .endless
  | n + 1 => modify fun s => { s with steps := n }

/-! ## Patterns -/

/-- The pattern that a text holds. -/
def patternOf (text : String) : AwkRun Regular := do
  match (← get).patterns[text]? with
  | some e => pure e
  | none =>
    match AwkPattern.read text with
    | .ok e =>
      modify fun s => { s with patterns := s.patterns.insert text e }
      pure e
    | .error message => throw (.fault (s!"regular expression compile failed ({message})\n" ++ text))

/-- What separates fields, as a text says. -/
def splitterOf (text : String) : AwkRun AwkSplitter := do
  match text.toList with
  | [] => pure .nothing
  | [' '] => pure .blanks
  | [c] => pure (.pattern (AwkPattern.ofChar c))
  | _ => .pattern <$> patternOf text

/-- What ends a record, as a text says. -/
def endingOf (text : String) : AwkRun AwkEnding := do
  match text.toList with
  | [] => pure .paragraph
  | [c] => pure (.char c)
  | _ => .pattern <$> patternOf text

/-! ## Fields -/

/-- The words of a text, with blanks around them; the last is given in reverse. -/
def wordsOf : List Char → List Char → List String
  | [], [] => []
  | [], last => [String.ofList last.reverse]
  | c :: rest, last =>
    if c == ' ' || c == '\t' || c == '\n' then
      if last.isEmpty then wordsOf rest [] else String.ofList last.reverse :: wordsOf rest []
    else wordsOf rest (c :: last)

/-- The first match from a place on that is not empty.  The number bounds how many places are tried. -/
def findWide? (e : Regular) (subject : Regular.Subject) : Nat → Nat → Option (Nat × Nat)
  | 0, _ => none
  | fuel + 1, place =>
    match e.find? subject place with
    | none => none
    | some (start, spot) =>
      if start < spot.place then some (start, spot.place) else findWide? e subject fuel (start + 1)

/-- The pieces of a text between matches.  The number bounds how many there are. -/
def piecesOf (e : Regular) (subject : Regular.Subject) : Nat → Nat → List String
  | 0, place => [String.ofList (subject.text.extract place subject.text.size).toList]
  | fuel + 1, place =>
    match findWide? e subject (subject.text.size + 1) place with
    | none => [String.ofList (subject.text.extract place subject.text.size).toList]
    | some (start, stop) =>
      String.ofList (subject.text.extract place start).toList :: piecesOf e subject fuel stop

/-- The fields of a text. -/
def fieldsOf (splitter : AwkSplitter) (text : String) : List String :=
  if text.isEmpty then []
  else
    match splitter with
    | .blanks => wordsOf text.toList []
    | .nothing => text.toList.map String.singleton
    | .pattern e =>
      match e with
      | .one c => text.splitOn (String.singleton c)
      | e => piecesOf e (AwkPattern.subject text) (text.length + 1) 0

/-! ## Variables -/

/-- The text of a variable of the whole program. -/
def textOfVariable (name : String) : AwkRun String := do
  let s ← get
  match s.shared[name]?.getD .unset with
  | .number x => pure (AwkValue.numberText AwkValue.usualPattern x)
  | v => pure (v.toText AwkValue.usualPattern)

/-- A value as a text. -/
def toText (v : AwkValue) : AwkRun String := do
  match v with
  | .unset => pure ""
  | .text t | .given t => pure t
  | .number x =>
    match AwkValue.whole? x with
    | some n => pure (toString n)
    | none => pure (AwkValue.numberText (← textOfVariable "CONVFMT") x)

/-- The fields of the record. -/
def fields : AwkRun (Array AwkValue) := do
  let s ← get
  match s.record.fields with
  | some found => pure found
  | none =>
    let found := ((fieldsOf s.record.splitter (s.record.whole.toText "")).map AwkValue.given).toArray
    modify fun s => { s with record := { s.record with fields := some found } }
    pure found

/-- Put fields in the place of those of the record, whose text they make up. -/
def putFields (found : Array AwkValue) : AwkRun Unit := do
  let separator ← textOfVariable "OFS"
  let parts ← found.toList.mapM toText
  modify fun s => { s with
    record := { s.record with whole := .given (separator.intercalate parts), fields := some found } }

/-- Put a value in the place of the record. -/
def putRecord (v : AwkValue) : AwkRun Unit :=
  modify fun s => { s with record := ⟨v, none, s.splitter⟩ }

/-- The field with a number. -/
def fieldAt (n : Nat) : AwkRun AwkValue := do
  match n with
  | 0 => pure (← get).record.whole
  | n + 1 => pure ((← fields)[n]?.getD .unset)

/-- How many fields a record has at most. -/
def fieldLimit : Nat := 1000000

/-- Put a value in the place of the field with a number. -/
def putField (n : Nat) (v : AwkValue) : AwkRun Unit := do
  match n with
  | 0 =>
    let whole ← match v with
      | .number _ | .unset => do pure (AwkValue.given (← toText v))
      | v => pure v
    putRecord whole
  | n + 1 =>
    if fieldLimit < n then throw .endless
    let found ← fields
    let found := if n < found.size then found else found ++ Array.replicate (n + 1 - found.size) (.text "")
    putFields (found.setIfInBounds n v)

/-- Set how many fields there are. -/
def putFieldCount (v : AwkValue) : AwkRun Unit := do
  let n := AwkValue.toInteger v.toNumber
  if n < 0 then throw (.fault "negative value assigned to NF")
  if fieldLimit < n.toNat then throw .endless
  let found ← fields
  let kept := found.take n.toNat
  putFields (kept ++ Array.replicate (n.toNat - kept.size) (.text ""))

/-- The value of a variable. -/
def valueOf (name : AwkName) : AwkRun AwkValue := do
  match name with
  | .shared name =>
    if name == "NF" then
      let found ← fields
      pure (.ofNat found.size)
    else pure ((← get).shared[name]?.getD .unset)
  | .own place =>
    match (← get).own[place]? with
    | some (.value v) => pure v
    | _ => pure .unset

/-- Give a variable a value. -/
def putValue (name : AwkName) (v : AwkValue) : AwkRun Unit := do
  match name with
  | .shared name =>
    if name == "NF" then putFieldCount v
    else
      modify fun s => { s with shared := s.shared.insert name v }
      if name == "FS" then
        let splitter ← splitterOf (← toText v)
        modify fun s => { s with splitter := splitter }
      else if name == "RS" then
        let ending ← endingOf (← toText v)
        modify fun s => { s with ending := ending }
  | .own place => modify fun s => { s with own := s.own.setIfInBounds place (.value v) }

/-! ## Tables -/

/-- The place of the table with a name; one that is not there has the place behind all others. -/
def tablePlace (name : AwkName) : AwkRun Nat := do
  let s ← get
  match name with
  | .shared name => pure (s.places[name]?.getD s.tables.size)
  | .own place =>
    match s.own[place]? with
    | some (.table place) => pure place
    | _ => pure s.tables.size

/-- Do something with the table at a place, which may change it; meanwhile its place is empty. -/
def withTable {α : Type} (place : Nat) (body : AwkTable → AwkTable × α) : AwkRun α :=
  modifyGet fun s =>
    let table := s.tables[place]?.getD .empty
    let others := s.tables.setIfInBounds place .empty
    let (table, a) := body table
    (a, { s with tables := others.setIfInBounds place table })

/-- The key for a value. -/
def keyOf (v : AwkValue) : AwkRun AwkKey := do
  match v with
  | .number x =>
    if x.abs < AwkValue.signedLimit then
      let n := x.toInt64
      if n.toFloat == x then pure (.number n.toInt) else .text <$> toText v
    else if x == AwkValue.signedLimit then pure (.number greatestNumber)
    else if x == -AwkValue.signedLimit then pure (.number leastNumber)
    else pure (.text (AwkValue.fractionText { Field.plain with precision := some 6 } 'g' x))
  | v => .text <$> toText v

/-- The key for several values. -/
def keyOfAll (values : List AwkValue) : AwkRun AwkKey := do
  match values with
  | [v] => keyOf v
  | values =>
    let parts ← values.mapM toText
    pure (.text ((← textOfVariable "SUBSEP").intercalate parts))

end AwkRun

end Conformance.Shell
