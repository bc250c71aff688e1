import Conformance.Document.Json
import Conformance.Document.Yaml.Cursor
import Conformance.Document.Yaml.Fault

/-!
# Scalars of a YAML text

The five ways to write a scalar: plain, between single or double quotes, and as a literal or folded
block.  Each reader takes the place where the scalar begins and gives its text and the place behind it.
-/

namespace Conformance.Yaml

/-! ## Between quotes -/

/-- The characters that an escape of one letter stands for. -/
def letterEscapes : List (Char × Char) :=
  [('0', '\x00'), ('a', '\x07'), ('b', '\x08'), ('t', '\t'), ('\t', '\t'), ('n', '\n'),
    ('v', '\x0b'), ('f', '\x0c'), ('r', '\r'), ('e', '\x1b'), (' ', ' '), ('"', '"'), ('\\', '\\'),
    ('/', '/'), ('N', '\u0085'), ('_', '\u00a0'), ('L', '\u2028'), ('P', '\u2029')]

/-- How many digits follow the letter of a numeric escape. -/
def escapeWidth? (c : Char) : Option Nat :=
  if c = 'x' then some 2 else if c = 'u' then some 4 else if c = 'U' then some 8 else none

/-- The number that digits in base sixteen stand for. -/
def hexNumber? (digits : List Char) : Option Nat :=
  digits.foldl (fun n c => n.bind fun n => (Json.hexValue? c).map (n * 16 + ·)) (some 0)

/-- The line ends before the next text of a quoted scalar.  A document marker may not stand there. -/
def quotedBreaks? : Nat → Cursor → List Char → Option (List Char × Cursor)
  | 0, _, _ => none
  | fuel + 1, c, breaks =>
    if c.atDocumentMarker then none
    else
      let c := c.skipWhile fun ch => ch == ' ' || ch == '\t'
      match c.lineEnd? with
      | some (b, c) => quotedBreaks? fuel c (breaks ++ [b])
      | none => some (breaks, c)

/-- The blanks inside a quoted scalar.  A single line end becomes a space; of several, the first one is
dropped. -/
def quotedBlanks? (fuel : Nat) (c : Cursor) : Option (List Char × Cursor) :=
  let (blanks, c) := c.span fun ch => ch == ' ' || ch == '\t'
  if c.peek = '\x00' then none
  else
    match c.lineEnd? with
    | none => some (blanks, c)
    | some (b, c) =>
      match quotedBreaks? fuel c [] with
      | none => none
      | some (breaks, c) =>
        some ((if b != '\n' then [b] else if breaks.isEmpty then [' '] else []) ++ breaks, c)

/-- Whether a character stands for itself between quotes. -/
def isQuotedPlain (c : Char) : Bool :=
  c != '\'' && c != '"' && c != '\\' && !isGap c

/-- The code point that the digits of a numeric escape name.  The digits have to be there. -/
def escaped (width : Nat) (digits : List Char) : Except Fault CodePoint :=
  match hexNumber? digits with
  | some code =>
    if digits.length < width then .error .malformed
    else if 0x10FFFF < code then .error (.escape code)
    else .ok (.ofNat code)
  | none => .error .malformed

/-- Read the text between quotes from behind the opening quote, given the text so far in reverse. -/
def quotedScalar (double : Bool) :
    Nat → Cursor → List CodePoint → Except Fault (List CodePoint × Cursor)
  | 0, _, _ => .error .malformed
  | fuel + 1, c, done =>
    let (word, c) := c.span isQuotedPlain
    let done := (word.map CodePoint.char).reverse ++ done
    let ch := c.peek
    if !double && ch == '\'' && c.ahead 1 == '\'' then
      quotedScalar double fuel (c.skip 2) (.char '\'' :: done)
    else if ch == (if double then '"' else '\'') then .ok (done.reverse, c.next)
    else if ch == '\'' || (!double && (ch == '"' || ch == '\\')) then
      quotedScalar double fuel c.next (.char ch :: done)
    else if ch == '\\' then
      let c := c.next
      match letterEscapes.lookup c.peek, escapeWidth? c.peek, c.lineEnd? with
      | some image, _, _ => quotedScalar double fuel c.next (.char image :: done)
      | none, some width, _ =>
        match escaped width (c.next.rest.take width) with
        | .ok image => quotedScalar double fuel (c.next.skip width) (image :: done)
        | .error fault => .error fault
      | none, none, some (_, c) =>
        match quotedBreaks? fuel c [] with
        | some (breaks, c) => quotedScalar double fuel c ((breaks.map CodePoint.char).reverse ++ done)
        | none => .error .malformed
      | none, none, none => .error .malformed
    else
      match quotedBlanks? fuel c with
      | some (blanks, c) => quotedScalar double fuel c ((blanks.map CodePoint.char).reverse ++ done)
      | none => .error .malformed

/-! ## Plain -/

/-- Whether a plain scalar ends before a character, given the one behind it. -/
def endsPlain (inFlow : Bool) (c after : Char) : Bool :=
  isGap c ||
    (c == ':' && (isGap after || (inFlow && ",[]\x7b\x7d".toList.contains after))) ||
    (inFlow && ",?[]\x7b\x7d".toList.contains c)

/-- The word of a plain scalar at the start of a text. -/
def plainWord (inFlow : Bool) : List Char → List Char → List Char
  | [], done => done.reverse
  | c :: rest, done =>
    if endsPlain inFlow c (rest.headD '\x00') then done.reverse
    else plainWord inFlow rest (c :: done)

/-- The spaces and line ends behind a line of a plain scalar.  Nothing is given where a document is
marked. -/
def plainBreaks : Nat → Cursor → List Char → Option (List Char) × Cursor
  | 0, c, breaks => (some breaks, c)
  | fuel + 1, c, breaks =>
    let c := c.skipSpaces
    match c.lineEnd? with
    | none => (some breaks, c)
    | some (b, c) =>
      if c.atDocumentMarker then (none, c) else plainBreaks fuel c (breaks ++ [b])

/-- What separates two words of a plain scalar, whether a line ended, and the place behind it. -/
def plainBlanks (fuel : Nat) (c : Cursor) : List Char × Bool × Cursor :=
  let (spaces, c) := c.span (· == ' ')
  match c.lineEnd? with
  | none => (spaces, false, c)
  | some (b, c) =>
    if c.atDocumentMarker then ([], true, c)
    else
      match plainBreaks fuel c [] with
      | (none, c) => ([], true, c)
      | (some breaks, c) =>
        ((if b != '\n' then [b] else if breaks.isEmpty then [' '] else []) ++ breaks, true, c)

/-- A plain scalar as it is read: its text, whether a line ended since the last word, and the place
reached. -/
structure PlainScalar where
  text : List Char
  lineEnded : Bool
  cursor : Cursor

/-- Read a plain scalar, given the text so far in reverse and the blanks since then. -/
def plainScalar (inFlow : Bool) (indent : Int) :
    Nat → Cursor → List Char → List Char → Bool → PlainScalar
  | 0, c, done, _, ended => ⟨done.reverse, ended, c⟩
  | fuel + 1, c, done, blanks, ended =>
    if c.peek = '#' then ⟨done.reverse, ended, c⟩
    else
      let word := plainWord inFlow c.rest []
      if word.isEmpty then ⟨done.reverse, ended, c⟩
      else
        let done := word.reverse ++ (blanks.reverse ++ done)
        let (blanks, ended, c) := plainBlanks fuel (c.skip word.length)
        if blanks.isEmpty || c.peek = '#' || (!inFlow && (c.column : Int) < indent) then
          ⟨done.reverse, ended, c⟩
        else plainScalar inFlow indent fuel c done blanks ended

/-! ## Blocks -/

/-- What happens to the line ends at the end of a block. -/
inductive Chomping
  | keep
  | clip
  | strip
  deriving Repr, DecidableEq

/-- The sign of an end-of-block rule. -/
def Chomping.of? (c : Char) : Option Chomping :=
  if c = '+' then some .keep else if c = '-' then some .strip else none

/-- The depth that a digit asks for. -/
def indentDigit? (c : Char) : Option Nat :=
  if '1' ≤ c ∧ c ≤ '9' then some (c.toNat - '0'.toNat) else none

/-- Read what follows the sign of a block: a rule for its end and a depth, in either order. -/
def blockHeader? (c : Cursor) : Option (Chomping × Option Nat × Cursor) :=
  let (chomping, depth, c) :=
    match Chomping.of? c.peek with
    | some rule =>
      match indentDigit? c.next.peek with
      | some depth => (rule, some depth, c.skip 2)
      | none => (rule, none, c.next)
    | none =>
      match indentDigit? c.peek with
      | some depth =>
        match Chomping.of? c.next.peek with
        | some rule => (rule, some depth, c.skip 2)
        | none => (.clip, some depth, c.next)
      | none => (.clip, none, c)
  if isSpaceOrEnd c.peek then (c.finishLine?).map fun c => (chomping, depth, c) else none

/-- The empty lines before a block, and the deepest column that they reach. -/
def blockLead : Nat → Cursor → List Char → Nat → List Char × Nat × Cursor
  | 0, c, breaks, deepest => (breaks, deepest, c)
  | fuel + 1, c, breaks, deepest =>
    if c.peek = ' ' then
      let c := c.skipSpaces
      blockLead fuel c breaks (max deepest c.column)
    else
      match c.lineEnd? with
      | some (b, c) => blockLead fuel c (breaks ++ [b]) deepest
      | none => (breaks, deepest, c)

/-- The empty lines inside a block of a depth. -/
def blockBreaks (indent : Nat) : Nat → Cursor → List Char → List Char × Cursor
  | 0, c, breaks => (breaks, c)
  | fuel + 1, c, breaks =>
    let c := c.skipIndent indent
    match c.lineEnd? with
    | some (b, c) => blockBreaks indent fuel c (breaks ++ [b])
    | none => (breaks, c)

/-- The lines of a block: its text in reverse, the last line end, the empty lines behind it, and the place
reached. -/
def blockLines (folded : Bool) (indent : Nat) :
    Nat → Cursor → List Char → List Char → List Char → List Char × List Char × List Char × Cursor
  | 0, c, done, lineEnd, breaks => (done, lineEnd, breaks, c)
  | fuel + 1, c, done, lineEnd, breaks =>
    if c.column != indent || c.peek = '\x00' then (done, lineEnd, breaks, c)
    else
      let flush := c.peek != ' ' && c.peek != '\t'
      let (line, c) := c.span (!isBreak ·)
      let done := line.reverse ++ (breaks.reverse ++ done)
      let (lineEnd, c) := match c.lineEnd? with
        | some (b, c) => ([b], c)
        | none => ([], c)
      let (breaks, c) := blockBreaks indent fuel c []
      if c.column != indent || c.peek = '\x00' then (done, lineEnd, breaks, c)
      else if folded && lineEnd == ['\n'] && flush && c.peek != ' ' && c.peek != '\t' then
        blockLines folded indent fuel c (if breaks.isEmpty then ' ' :: done else done) lineEnd breaks
      else blockLines folded indent fuel c (lineEnd ++ done) lineEnd breaks

/-- Read a block from behind its sign, inside a collection at a depth. -/
def blockScalar? (folded : Bool) (outer : Int) (c : Cursor) : Option (List Char × Cursor) :=
  let fuel := c.size + 1
  match blockHeader? c with
  | none => none
  | some (chomping, depth, c) =>
    let least := (max 1 (outer + 1)).toNat
    let (indent, breaks, c) := match depth with
      | none =>
        let (breaks, deepest, c) := blockLead fuel c [] 0
        (max least deepest, breaks, c)
      | some depth =>
        let indent := least + depth - 1
        let (breaks, c) := blockBreaks indent fuel c []
        (indent, breaks, c)
    let (done, lineEnd, breaks, c) := blockLines folded indent fuel c [] [] breaks
    let tail := match chomping with
      | .strip => []
      | .clip => lineEnd
      | .keep => lineEnd ++ breaks
    some (done.reverse ++ tail, c)

end Conformance.Yaml
