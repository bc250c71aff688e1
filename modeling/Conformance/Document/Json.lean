import Conformance.Document.Display

/-!
# JSON

Documents written as JSON and read back.  Writing puts every character of a text after the ones before
it, last first, so that the output is built in one pass.
-/

namespace Conformance.Json

open Decimal Text

/-! ## Writing -/

/-- How JSON is laid out. -/
structure Layout where
  /-- Whether characters outside ASCII are written as escapes. -/
  ascii : Bool
  /-- Spaces per level of nesting; without a number everything stands on one line. -/
  indent : Option Nat
  deriving Repr, DecidableEq

/-- Two spaces per level, all characters as they are. -/
def Layout.readable : Layout := ⟨false, some 2⟩

/-- Two spaces per level, ASCII only. -/
def Layout.readableAscii : Layout := ⟨true, some 2⟩

/-- One line, all characters as they are. -/
def Layout.line : Layout := ⟨false, none⟩

/-- An escape of four digits in base sixteen. -/
def unitEscape (unit : Nat) : List CodePoint :=
  '\\' :: 'u' :: hexDigits 4 unit

/-- The UTF-16 units of a code point. -/
def utf16Units (code : Nat) : List Nat :=
  if code < 0x10000 then [code]
  else [0xD800 + (code - 0x10000) / 0x400, 0xDC00 + (code - 0x10000) % 0x400]

/-- How a character is written inside a text. -/
def writtenChar (ascii : Bool) (c : CodePoint) : List CodePoint :=
  if c = '"' then ['\\', '"']
  else if c = '\\' then ['\\', '\\']
  else if c = '\n' then ['\\', 'n']
  else if c = '\r' then ['\\', 'r']
  else if c = '\t' then ['\\', 't']
  else if c.toNat = 8 then ['\\', 'b']
  else if c.toNat = 12 then ['\\', 'f']
  else if c.toNat < 32 then unitEscape c.toNat
  else if ascii && 127 ≤ c.toNat then (utf16Units c.toNat).flatMap unitEscape
  else [c]

/-- Put characters after the output written so far. -/
def emit (chars out : List CodePoint) : List CodePoint :=
  chars.reverse ++ out

/-- Write a text with its quotes. -/
def writeText (ascii : Bool) (value : Text) (out : List CodePoint) : List CodePoint :=
  '"' :: value.toList.foldl (fun written c => emit (writtenChar ascii c) written) ('"' :: out)

/-- The text of a double.  Infinities and no number have names of their own. -/
def numberText (x : Float) : String :=
  match Parts.ofFloat x with
  | .nan => "NaN"
  | .infinite negative => if negative then "-Infinity" else "Infinity"
  | .finite .. => Decimal.text x

/-- Begin a new line at a level of nesting, where the layout has lines. -/
def Layout.newline (layout : Layout) (depth : Nat) (out : List CodePoint) : List CodePoint :=
  match layout.indent with
  | none => out
  | some width => List.replicate (width * depth) (.char ' ') ++ .char '\n' :: out

/-- Separate an item from the one before it. -/
def Layout.separate (layout : Layout) (depth : Nat) (out : List CodePoint) : List CodePoint :=
  match layout.indent with
  | none => ' ' :: ',' :: out
  | some _ => layout.newline depth (',' :: out)

/-- The text of a key. -/
def keyText : Document → Text
  | .bool value => if value then "true" else "false"
  | .null => "null"
  | other => (other.display?).getD ""

mutual

/-- Write a document.  A value that JSON has no form for is written as its text. -/
def write (layout : Layout) (depth : Nat) : Document → List CodePoint → List CodePoint
  | .null, out => emit ("null" : Text).toList out
  | .bool value, out => emit (if value then "true" else "false" : Text).toList out
  | .int value, out => emit (Text.ofString (toString value)).toList out
  | .float value, out => emit (Text.ofString (numberText value)).toList out
  | .text value, out => writeText layout.ascii value out
  | .list [], out | .tuple [], out => ']' :: '[' :: out
  | .list (item :: rest), out | .tuple (item :: rest), out =>
    let first := write layout (depth + 1) item (layout.newline (depth + 1) ('[' :: out))
    ']' :: layout.newline depth (writeItems layout (depth + 1) rest first)
  | .map [], out => '\x7d' :: '\x7b' :: out
  | .map ((key, value) :: rest), out =>
    let opened := layout.newline (depth + 1) ('\x7b' :: out)
    let named : List CodePoint := ' ' :: ':' :: writeText layout.ascii (keyText key) opened
    let first := write layout (depth + 1) value named
    '\x7d' :: layout.newline depth (writeEntries layout (depth + 1) rest first)
  | .bytes value, out => writeText layout.ascii (Document.bytesText value) out
  | .date value, out => writeText layout.ascii value.text out
  | .moment value, out => writeText layout.ascii value.text out
  | .set members, out =>
    writeText layout.ascii (((Document.set members).display?).getD "") out
  | .enclosing collection, out =>
    writeText layout.ascii (((Document.enclosing collection).display?).getD "") out

/-- Write the items after the first one. -/
def writeItems (layout : Layout) (depth : Nat) : List Document → List CodePoint → List CodePoint
  | [], out => out
  | item :: rest, out =>
    writeItems layout depth rest (write layout depth item (layout.separate depth out))

/-- Write the entries after the first one. -/
def writeEntries (layout : Layout) (depth : Nat) :
    List (Document × Document) → List CodePoint → List CodePoint
  | [], out => out
  | (key, value) :: rest, out =>
    let named : List CodePoint :=
      ' ' :: ':' :: writeText layout.ascii (keyText key) (layout.separate depth out)
    writeEntries layout depth rest (write layout depth value named)

end

/-- The JSON text of a document. -/
def render (layout : Layout) (document : Document) : Text :=
  Text.ofList (write layout 0 document []).reverse

/-! ## Reading -/

/-- Skip the blanks that may stand between tokens. -/
def skipBlanks (input : List Char) : List Char :=
  input.dropWhile fun c => c == ' ' || c == '\n' || c == '\t' || c == '\r'

/-- The value of a digit in base sixteen. -/
def hexValue? (c : Char) : Option Nat :=
  if '0' ≤ c ∧ c ≤ '9' then some (c.toNat - '0'.toNat)
  else if 'a' ≤ c ∧ c ≤ 'f' then some (c.toNat - 'a'.toNat + 10)
  else if 'A' ≤ c ∧ c ≤ 'F' then some (c.toNat - 'A'.toNat + 10)
  else none

/-- The number that four digits in base sixteen stand for. -/
def unitValue? (a b c d : Char) : Option Nat :=
  match hexValue? a, hexValue? b, hexValue? c, hexValue? d with
  | some a, some b, some c, some d => some (((a * 16 + b) * 16 + c) * 16 + d)
  | _, _, _, _ => none

/-- The character that an escape of one letter stands for. -/
def escapedChar? (c : Char) : Option Char :=
  if c = '"' ∨ c = '\\' ∨ c = '/' then some c
  else if c = 'n' then some '\n'
  else if c = 'r' then some '\r'
  else if c = 't' then some '\t'
  else if c = 'b' then some (Char.ofNat 8)
  else if c = 'f' then some (Char.ofNat 12)
  else none

/-- Read a text after its opening quote: its code points and UTF-16 units, last first, and what
follows the closing quote. -/
def readUnits : List Char → List Nat → Option (List Nat × List Char)
  | [], _ => none
  | '"' :: rest, units => some (units, rest)
  | '\\' :: 'u' :: a :: b :: c :: d :: rest, units =>
    match unitValue? a b c d with
    | some unit => readUnits rest (unit :: units)
    | none => none
  | '\\' :: c :: rest, units =>
    match escapedChar? c with
    | some c => readUnits rest (c.toNat :: units)
    | none => none
  | c :: rest, units => if c.toNat < 32 then none else readUnits rest (c.toNat :: units)

/-- Whether a unit is the second of a pair. -/
def isTrailing (unit : Nat) : Bool :=
  0xDC00 ≤ unit && unit < 0xE000

/-- Whether a unit is the first of a pair. -/
def isLeading (unit : Nat) : Bool :=
  0xD800 ≤ unit && unit < 0xDC00

/-- The code points that units stand for, given last first; a pair is one character. -/
def joinUnits : List Nat → List CodePoint → List CodePoint
  | low :: high :: rest, done =>
    if isTrailing low && isLeading high then
      joinUnits rest (.ofNat (0x10000 + (high - 0xD800) * 0x400 + (low - 0xDC00)) :: done)
    else joinUnits (high :: rest) (.ofNat low :: done)
  | [unit], done => .ofNat unit :: done
  | [], done => done

/-- Read a text after its opening quote. -/
def readText? (input : List Char) : Option (Text × List Char) :=
  (readUnits input []).map fun (units, rest) => (.ofList (joinUnits units []), rest)

/-- Whether a character can stand in a number. -/
def isNumberChar (c : Char) : Bool :=
  c.isDigit || c == '-' || c == '+' || c == '.' || c == 'e' || c == 'E'

/-- Read a number: an integer if it has neither a point nor an exponent. -/
def readNumber? (input : List Char) : Option (Document × List Char) :=
  let word := input.takeWhile isNumberChar
  let rest := input.dropWhile isNumberChar
  let (negative, body) := splitSign word
  if body.isEmpty then none
  else if body.all Char.isDigit then
    let value : Int := ((digitsValue body : Nat) : Int)
    some (.int (if negative then -value else value), rest)
  else (readMagnitude? negative body).map fun x => (.float x, rest)

/-- The input after a word it begins with. -/
def after? (word : String) (input : List Char) : Option (List Char) :=
  if word.toList.isPrefixOf input then some (input.drop word.length) else none

mutual

/-- Read a value.  The number bounds how many values may be read. -/
def readValue : Nat → List Char → Option (Document × List Char)
  | 0, _ => none
  | fuel + 1, input =>
    match skipBlanks input with
    | '"' :: rest => (readText? rest).map fun (value, rest) => (.text value, rest)
    | '[' :: rest =>
      match skipBlanks rest with
      | ']' :: rest => some (.list [], rest)
      | rest => readItems fuel rest []
    | '\x7b' :: rest =>
      match skipBlanks rest with
      | '\x7d' :: rest => some (.map [], rest)
      | rest => readEntries fuel rest []
    | 'n' :: 'u' :: 'l' :: 'l' :: rest => some (.null, rest)
    | 't' :: 'r' :: 'u' :: 'e' :: rest => some (.bool true, rest)
    | 'f' :: 'a' :: 'l' :: 's' :: 'e' :: rest => some (.bool false, rest)
    | 'N' :: 'a' :: 'N' :: rest => some (.float notANumber, rest)
    | rest =>
      match after? "Infinity" rest, after? "-Infinity" rest with
      | some rest, _ => some (.float (infinity false), rest)
      | _, some rest => some (.float (infinity true), rest)
      | none, none => readNumber? rest

/-- Read the items of a list, given those before, last first. -/
def readItems : Nat → List Char → List Document → Option (Document × List Char)
  | 0, _, _ => none
  | fuel + 1, input, done =>
    match readValue fuel input with
    | none => none
    | some (item, rest) =>
      match skipBlanks rest with
      | ',' :: rest => readItems fuel rest (item :: done)
      | ']' :: rest => some (.list (item :: done).reverse, rest)
      | _ => none

/-- Read the entries of a mapping, given those before.  A key given twice keeps its place and takes the
last value. -/
def readEntries : Nat → List Char → List (Document × Document) → Option (Document × List Char)
  | 0, _, _ => none
  | fuel + 1, input, done =>
    match skipBlanks input with
    | '"' :: rest =>
      match readText? rest with
      | none => none
      | some (name, rest) =>
        match skipBlanks rest with
        | ':' :: rest =>
          match readValue fuel rest with
          | none => none
          | some (value, rest) =>
            match skipBlanks rest with
            | ',' :: rest => readEntries fuel rest (Document.put name value done)
            | '\x7d' :: rest => some (.map (Document.put name value done), rest)
            | _ => none
        | _ => none
    | _ => none

end

/-- Read one document and nothing else. -/
def read? (input : String) : Option Document :=
  let chars := input.toList
  match readValue (chars.length + 1) chars with
  | some (document, rest) => if (skipBlanks rest).isEmpty then some document else none
  | none => none

end Conformance.Json
