/-!
# Positions in a YAML text

A cursor holds what is left of a text and how far it has come: the index, the line and the column of the
next character.  The end of the text reads as a null character, which no YAML text can hold.  The size of the
whole text bounds every walk along what is left of it.
-/

namespace Conformance.Yaml

/-! ## Character classes -/

/-- Whether a character ends a line. -/
def isBreak (c : Char) : Bool :=
  c == '\n' || c == '\r' || c == '\u0085' || c == '\u2028' || c == '\u2029'

/-- Whether a character ends a line or the text. -/
def isBreakOrEnd (c : Char) : Bool :=
  c == '\x00' || isBreak c

/-- Whether a character ends a word in front of a comment or a line end. -/
def isSpaceOrEnd (c : Char) : Bool :=
  c == ' ' || isBreakOrEnd c

/-- Whether a character is a gap: a space, a tab, or the end of a line or of the text. -/
def isGap (c : Char) : Bool :=
  c == '\t' || isSpaceOrEnd c

/-- Whether a character can stand in the name of an anchor or a directive. -/
def isNameChar (c : Char) : Bool :=
  ('0' ≤ c && c ≤ '9') || ('A' ≤ c && c ≤ 'Z') || ('a' ≤ c && c ≤ 'z') || c == '-' || c == '_'

/-- Whether a YAML text may hold a character at all. -/
def isAllowed (c : Char) : Bool :=
  let code := c.toNat
  code == 9 || code == 10 || code == 13 || (0x20 ≤ code && code ≤ 0x7E) || code == 0x85 ||
    (0xA0 ≤ code && code ≤ 0xD7FF) || (0xE000 ≤ code && code ≤ 0xFFFD) || 0x10000 ≤ code

/-! ## Cursors -/

/-- A position in a text. -/
structure Cursor where
  rest : List Char
  /-- The number of characters of the whole text. -/
  size : Nat
  index : Nat
  line : Nat
  column : Nat
  deriving Repr

namespace Cursor

/-- The beginning of a text. -/
def start (text : List Char) : Cursor :=
  ⟨text, text.length, 0, 0, 0⟩

/-- The character a number of places ahead. -/
def ahead (c : Cursor) (places : Nat) : Char :=
  (c.rest.drop places).headD '\x00'

/-- The next character. -/
def peek (c : Cursor) : Char :=
  c.rest.headD '\x00'

/-- Step over one character.  A carriage return and a line feed end one line; a byte order mark takes no
column. -/
def next (c : Cursor) : Cursor :=
  match c.rest with
  | [] => c
  | ch :: rest =>
    if ch != '\r' && isBreak ch || ch == '\r' && rest.head? != some '\n' then
      ⟨rest, c.size, c.index + 1, c.line + 1, 0⟩
    else ⟨rest, c.size, c.index + 1, c.line, if ch = '\uFEFF' then c.column else c.column + 1⟩

/-- Step over a number of characters. -/
def skip : Nat → Cursor → Cursor
  | 0, c => c
  | n + 1, c => skip n c.next

/-- The characters of a class at the cursor, and the place behind them. -/
def span (c : Cursor) (p : Char → Bool) : List Char × Cursor :=
  let word := c.rest.takeWhile p
  (word, c.skip word.length)

/-- The place behind the characters of a class. -/
def skipWhile (c : Cursor) (p : Char → Bool) : Cursor :=
  (c.span p).2

/-- The place behind the spaces. -/
def skipSpaces (c : Cursor) : Cursor :=
  c.skipWhile (· == ' ')

/-- Spaces stepped over until a column is reached. -/
def skipIndent (c : Cursor) (column : Nat) : Cursor :=
  let spaces := (c.rest.takeWhile (· == ' ')).length
  c.skip (min spaces (column - c.column))

/-- The character that a line end stands for, and the place behind it. -/
def lineEnd? (c : Cursor) : Option (Char × Cursor) :=
  match c.rest with
  | '\r' :: '\n' :: _ => some ('\n', c.skip 2)
  | ch :: _ =>
    if ch == '\u2028' || ch == '\u2029' then some (ch, c.next)
    else if isBreak ch then some ('\n', c.next)
    else none
  | [] => none

/-- Whether three characters and a gap stand at the cursor. -/
def atMarker (c : Cursor) (mark : Char) : Bool :=
  c.rest.take 3 == [mark, mark, mark] && isGap (c.ahead 3)

/-- Whether the start or the end of a document is marked at the cursor. -/
def atDocumentMarker (c : Cursor) : Bool :=
  c.atMarker '-' || c.atMarker '.'

/-- The place behind a comment, if there is one. -/
def skipComment (c : Cursor) : Cursor :=
  if c.peek = '#' then c.skipWhile (!isBreak ·) else c

/-- The place behind the rest of a line that may hold nothing but a comment. -/
def finishLine? (c : Cursor) : Option Cursor :=
  let c := c.skipSpaces.skipComment
  if isBreakOrEnd c.peek then some ((c.lineEnd?.map (·.2)).getD c) else none

end Cursor

end Conformance.Yaml
