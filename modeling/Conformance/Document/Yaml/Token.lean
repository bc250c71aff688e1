import Conformance.Document.Yaml.Scalar
import Conformance.Text.Utf8

/-!
# Tokens of a YAML text

A YAML text is cut into tokens: marks, scalars, and the beginnings and ends of collections.  Block
collections have no marks of their own; they begin and end where the depth of the lines changes.  A key in
front of a colon is recognised only when the colon is met, and its mark is then put before it.  A text that
cannot be cut to its end gives the tokens that are settled up to there, and then the fault.
-/

namespace Conformance.Yaml

/-- A token of a YAML text. -/
inductive Token
  | version (major : Int)
  | tagHandle (handle start : String)
  | otherDirective
  | documentStart
  | documentEnd
  | blockSequence
  | blockMapping
  | blockEnd
  | flowSequence
  | flowSequenceEnd
  | flowMapping
  | flowMappingEnd
  | entry
  | flowEntry
  | key
  | value
  | alias (name : String)
  | anchor (name : String)
  /-- A tag: a handle, if there is one, and the rest. -/
  | tag (handle : Option String) (rest : String)
  | scalar (text : Text) (plain : Bool)
  | streamEnd
  /-- The place from which the text cannot be cut. -/
  | broken (fault : Fault)
  deriving Repr, DecidableEq

/-- A place at which a key may have begun. -/
structure PossibleKey where
  /-- The number of tokens before the key. -/
  position : Nat
  /-- Whether nothing but a key may stand there. -/
  required : Bool
  index : Nat
  line : Nat
  column : Nat
  deriving Repr

/-- How far a text has been cut. -/
structure Scan where
  cursor : Cursor
  /-- The tokens so far, the last one first. -/
  tokens : List Token
  /-- The number of tokens so far. -/
  count : Nat
  /-- The number of open flow collections. -/
  flow : Nat
  /-- The column of the innermost block collection. -/
  indent : Int
  /-- The columns of the block collections around it. -/
  outer : List Int
  keyAllowed : Bool
  /-- The places where a key may have begun, by the number of open flow collections. -/
  possible : List (Nat × PossibleKey)
  deriving Repr

namespace Scan

/-- The beginning of a text. -/
def start (text : List Char) : Scan where
  cursor := .start text
  tokens := []
  count := 0
  flow := 0
  indent := -1
  outer := []
  keyAllowed := true
  possible := []

/-- Add a token. -/
def push (s : Scan) (token : Token) : Scan :=
  { s with tokens := token :: s.tokens, count := s.count + 1 }

/-- Put a token at a position. -/
def insertAt (s : Scan) (position : Nat) (token : Token) : Scan :=
  let behind := s.count - position
  { s with tokens := s.tokens.take behind ++ token :: s.tokens.drop behind, count := s.count + 1 }

/-! ## Keys in front of a colon -/

/-- Forget the places at which no key can be any more: a key stands on one line and is not longer than
1024 characters. -/
def dropStale? (s : Scan) : Option Scan :=
  let stale (key : PossibleKey) : Bool :=
    key.line != s.cursor.line || 1024 < s.cursor.index - key.index
  if s.possible.any fun (_, key) => stale key && key.required then none
  else some { s with possible := s.possible.filter fun (_, key) => !stale key }

/-- Forget the place at the present level. -/
def forgetKey? (s : Scan) : Option Scan :=
  match s.possible.lookup s.flow with
  | some key =>
    if key.required then none
    else some { s with possible := s.possible.filter (·.1 != s.flow) }
  | none => some s

/-- Remember that a key may begin here. -/
def rememberKey? (s : Scan) : Option Scan :=
  if s.keyAllowed then
    (s.forgetKey?).map fun s =>
      let key : PossibleKey :=
        { position := s.count
          required := s.flow == 0 && s.indent == (s.cursor.column : Int)
          index := s.cursor.index
          line := s.cursor.line
          column := s.cursor.column }
      { s with possible := (s.flow, key) :: s.possible }
  else some s

/-! ## Depth -/

/-- End the block collections that are deeper than a column. -/
def unwindTo (column : Int) : List Int → Scan → Scan
  | [], s => s
  | up :: outer, s =>
    if column < s.indent then unwindTo column outer { s.push .blockEnd with indent := up, outer := outer }
    else s

/-- End the block collections that are deeper than a column; inside flow collections depth has no
meaning. -/
def unwind (s : Scan) (column : Int) : Scan :=
  if s.flow = 0 then unwindTo column s.outer s else s

/-- Begin a block collection at a column, unless one has begun there. -/
def deepen? (s : Scan) (column : Nat) : Option Scan :=
  if s.indent < column then some { s with outer := s.indent :: s.outer, indent := column } else none

/-! ## Single tokens -/

/-- Step over the character at the cursor and add a token. -/
def step (s : Scan) (token : Token) : Scan :=
  { s.push token with cursor := s.cursor.next }

/-- Add a token that ends at a place. -/
def pushAt (s : Scan) (token : Token) (c : Cursor) : Scan :=
  { s.push token with cursor := c }

/-- The end of the text. -/
def endStream? (s : Scan) : Option Scan :=
  ((s.unwind (-1)).forgetKey?).map fun s => s.push .streamEnd

/-- The mark of the start or the end of a document. -/
def documentMark? (s : Scan) (token : Token) : Option Scan :=
  ((s.unwind (-1)).forgetKey?).map fun s =>
    { s.pushAt token (s.cursor.skip 3) with keyAllowed := false }

/-- The start of a flow collection. -/
def openFlow? (s : Scan) (token : Token) : Option Scan :=
  (s.rememberKey?).map fun s => { s.step token with flow := s.flow + 1, keyAllowed := true }

/-- The end of a flow collection. -/
def closeFlow? (s : Scan) (token : Token) : Option Scan :=
  if s.flow = 0 then none
  else (s.forgetKey?).map fun s => { s.step token with flow := s.flow - 1, keyAllowed := false }

/-- A comma between the items of a flow collection. -/
def flowEntry? (s : Scan) : Option Scan :=
  (s.forgetKey?).map fun s => { s.step .flowEntry with keyAllowed := true }

/-- Begin a block collection at the cursor if needed.  It may begin only where a key may. -/
def beginBlock? (s : Scan) (token : Token) : Option Scan :=
  if s.flow ≠ 0 then some s
  else if !s.keyAllowed then none
  else some (((s.deepen? s.cursor.column).map (·.push token)).getD s)

/-- A dash in front of an item. -/
def blockEntry? (s : Scan) : Option Scan :=
  (s.beginBlock? .blockSequence).bind fun s =>
    (s.forgetKey?).map fun s => { s.step .entry with keyAllowed := true }

/-- A question mark in front of a key. -/
def explicitKey? (s : Scan) : Option Scan :=
  (s.beginBlock? .blockMapping).bind fun s =>
    (s.forgetKey?).map fun s => { s.step .key with keyAllowed := s.flow == 0 }

/-- A colon in front of a value. -/
def value? (s : Scan) : Option Scan :=
  match s.possible.lookup s.flow with
  | some key =>
    let s := { s with possible := s.possible.filter (·.1 != s.flow) }.insertAt key.position .key
    let s :=
      if s.flow ≠ 0 then s
      else ((s.deepen? key.column).map (·.insertAt key.position .blockMapping)).getD s
    some { s.step .value with keyAllowed := false }
  | none =>
    (s.beginBlock? .blockMapping).bind fun s =>
      (s.forgetKey?).map fun s => { s.step .value with keyAllowed := s.flow == 0 }

/-! ## Names and tags -/

/-- Read a name behind its sign. -/
def name? (c : Cursor) : Option (String × Cursor) :=
  let (name, c) := c.next.span isNameChar
  if name.isEmpty then none
  else if isGap c.peek || "?:,]\x7d%@\x60".toList.contains c.peek then
    some (String.ofList name, c)
  else none

/-- An anchor or an alias. -/
def named? (s : Scan) (token : String → Token) : Option Scan :=
  (s.rememberKey?).bind fun s =>
    (name? s.cursor).map fun (name, c) => { s.pushAt (token name) c with keyAllowed := false }

/-- Read a tag handle: an exclamation mark, or a name between two of them. -/
def handle? (c : Cursor) : Option (String × Cursor) :=
  if c.peek != '!' then none
  else if c.ahead 1 = ' ' then some ("!", c.next)
  else
    let (name, c) := c.next.span isNameChar
    if c.peek = '!' then some (String.ofList ('!' :: name ++ ['!']), c.next) else none

/-- Whether a character can stand in a tag. -/
def isTagChar (c : Char) : Bool :=
  isNameChar c || ";/?:@&=+$,.!~*'()[]".toList.contains c

/-- The bytes of the escapes at a place. -/
def tagBytes? : Nat → Cursor → List UInt8 → Option (List UInt8 × Cursor)
  | 0, _, _ => none
  | fuel + 1, c, bytes =>
    if c.peek != '%' then some (bytes, c)
    else
      match Json.hexValue? (c.ahead 1), Json.hexValue? (c.ahead 2) with
      | some high, some low => tagBytes? fuel (c.skip 3) (bytes ++ [UInt8.ofNat (high * 16 + low)])
      | _, _ => none

/-- Read the characters of a tag, of which there has to be one. -/
def tagText? : Nat → Cursor → List Char → Option (String × Cursor)
  | 0, _, _ => none
  | fuel + 1, c, done =>
    let (word, c) := c.span isTagChar
    let done := done ++ word
    if c.peek = '%' then
      match tagBytes? fuel c [] with
      | some (bytes, c) =>
        match String.fromUTF8? ⟨bytes.toArray⟩ with
        | some text => tagText? fuel c (done ++ text.toList)
        | none => none
      | none => none
    else if done.isEmpty then none
    else some (String.ofList done, c)

/-- Read a tag. -/
def tag? (c : Cursor) : Option (Token × Cursor) :=
  let fuel := c.size + 1
  let found :=
    if c.ahead 1 = '<' then
      match tagText? fuel (c.skip 2) [] with
      | some (text, c) => if c.peek = '>' then some (Token.tag none text, c.next) else none
      | none => none
    else if isGap (c.ahead 1) then some (.tag none "!", c.next)
    else
      let word := (c.next.rest).takeWhile (!isSpaceOrEnd ·)
      let handle := if word.contains '!' then handle? c else some ("!", c.next)
      match handle with
      | some (handle, c) => (tagText? fuel c []).map fun (text, c) => (.tag (some handle) text, c)
      | none => none
  match found with
  | some (token, c) => if isSpaceOrEnd c.peek then some (token, c) else none
  | none => none

/-- A tag. -/
def tagged? (s : Scan) : Option Scan :=
  (s.rememberKey?).bind fun s =>
    (tag? s.cursor).map fun (token, c) => { s.pushAt token c with keyAllowed := false }

/-! ## Directives -/

/-- Read a number of a version. -/
def versionNumber (c : Cursor) : Except Fault (Int × Cursor) :=
  let (word, c) := c.span fun ch => '0' ≤ ch && ch ≤ '9'
  if word.isEmpty then .error .malformed
  else
    match Decimal.readInteger (String.ofList word) with
    | .ok n => .ok (n, c)
    | .error error => .error (.integer error)

/-- Read a version. -/
def version (c : Cursor) : Except Fault (Token × Cursor) := do
  let (major, c) ← versionNumber c.skipSpaces
  if c.peek != '.' then .error .malformed
  else
    let (_, c) ← versionNumber c.next
    if isSpaceOrEnd c.peek then .ok (.version major, c) else .error .malformed

/-- Read the meaning of a tag handle. -/
def tagHandle? (c : Cursor) : Option (Token × Cursor) :=
  match handle? c.skipSpaces with
  | some (handle, c) =>
    if c.peek != ' ' then none
    else
      match tagText? (c.size + 1) c.skipSpaces [] with
      | some (text, c) => if isSpaceOrEnd c.peek then some (.tagHandle handle text, c) else none
      | none => none
  | none => none

/-- Read a directive and the rest of its line. -/
def directive (c : Cursor) : Except Fault (Token × Cursor) := do
  let (name, c) := c.next.span isNameChar
  if name.isEmpty || !isSpaceOrEnd c.peek then .error .malformed
  else
    let (token, c) ←
      if name = "YAML".toList then version c
      else if name = "TAG".toList then orMalformed (tagHandle? c)
      else .ok (.otherDirective, c.skipWhile (!isBreak ·))
    let c ← orMalformed c.finishLine?
    .ok (token, c)

/-- A directive. -/
def directed (s : Scan) : Except Fault Scan := do
  let s ← orMalformed (s.unwind (-1)).forgetKey?
  let (token, c) ← directive s.cursor
  .ok { s.pushAt token c with keyAllowed := false }

/-! ## Scalars -/

/-- A scalar between quotes. -/
def quoted (s : Scan) (double : Bool) : Except Fault Scan := do
  let s ← orMalformed s.rememberKey?
  let (text, c) ← quotedScalar double (2 * s.cursor.size + 1) s.cursor.next []
  .ok { s.pushAt (.scalar (.ofList text) false) c with keyAllowed := false }

/-- A block scalar. -/
def block? (s : Scan) (folded : Bool) : Option Scan :=
  (s.forgetKey?).bind fun s =>
    (blockScalar? folded s.indent s.cursor.next).map fun (text, c) =>
      { s.pushAt (.scalar (.ofChars text) false) c with keyAllowed := true }

/-- A plain scalar. -/
def plain? (s : Scan) : Option Scan :=
  (s.rememberKey?).map fun s =>
    let found := plainScalar (s.flow != 0) (s.indent + 1) (s.cursor.size + 1) s.cursor [] [] false
    { s.pushAt (.scalar (.ofChars found.text) true) found.cursor with
      keyAllowed := found.lineEnded }

/-- Whether a plain scalar can begin at a place. -/
def startsPlain (c : Cursor) (inFlow : Bool) : Bool :=
  !(isGap c.peek || "-?:,[]\x7b\x7d#&*!|>'\"%@\x60".toList.contains c.peek) ||
    (!isGap (c.ahead 1) && (c.peek == '-' || (!inFlow && (c.peek == '?' || c.peek == ':'))))

/-! ## Whole texts -/

/-- Step over blanks, comments and line ends.  At the beginning of a line a key may stand. -/
def toNextToken : Nat → Scan → Scan
  | 0, s => s
  | fuel + 1, s =>
    let c := s.cursor.skipSpaces.skipComment
    match c.lineEnd? with
    | some (_, c) =>
      toNextToken fuel { s with cursor := c, keyAllowed := s.keyAllowed || s.flow == 0 }
    | none => { s with cursor := c }

/-- Add the next token. -/
def next (s : Scan) : Except Fault Scan :=
  let c := s.cursor
  let inBlock := s.flow == 0
  let ch := c.peek
  if ch == '\x00' then orMalformed s.endStream?
  else if ch == '%' && c.column == 0 then s.directed
  else if c.column == 0 && c.atMarker '-' then orMalformed (s.documentMark? .documentStart)
  else if c.column == 0 && c.atMarker '.' then orMalformed (s.documentMark? .documentEnd)
  else if ch == '[' then orMalformed (s.openFlow? .flowSequence)
  else if ch == '\x7b' then orMalformed (s.openFlow? .flowMapping)
  else if ch == ']' then orMalformed (s.closeFlow? .flowSequenceEnd)
  else if ch == '\x7d' then orMalformed (s.closeFlow? .flowMappingEnd)
  else if ch == ',' then orMalformed s.flowEntry?
  else if ch == '-' && isGap (c.ahead 1) then orMalformed s.blockEntry?
  else if ch == '?' && (!inBlock || isGap (c.ahead 1)) then orMalformed s.explicitKey?
  else if ch == ':' && (!inBlock || isGap (c.ahead 1)) then orMalformed s.value?
  else if ch == '*' then orMalformed (s.named? .alias)
  else if ch == '&' then orMalformed (s.named? .anchor)
  else if ch == '!' then orMalformed s.tagged?
  else if ch == '|' && inBlock then orMalformed (s.block? false)
  else if ch == '>' && inBlock then orMalformed (s.block? true)
  else if ch == '\'' then s.quoted false
  else if ch == '"' then s.quoted true
  else if startsPlain c !inBlock then orMalformed s.plain?
  else .error .malformed

/-- Step to the next token and add it. -/
def advance (s : Scan) : Except Fault Scan := do
  let s ← orMalformed (toNextToken (s.cursor.size + 1) s).dropStale?
  (s.unwind s.cursor.column).next

/-- The tokens that nothing further can change: those before the first place where a key may have begun.
They are given last first, like all tokens of a scan. -/
def settled (s : Scan) : List Token :=
  let open? := ((s.dropStale?).getD s).possible.map (·.2.position)
  s.tokens.drop (s.count - open?.foldl min s.count)

/-- The tokens up to the end of the text, or up to the first fault. -/
def toEnd : Nat → Scan → List Token
  | 0, s => (.broken .malformed :: s.settled).reverse
  | fuel + 1, s =>
    match s.tokens with
    | .streamEnd :: _ => s.tokens.reverse
    | _ =>
      match s.advance with
      | .ok s => toEnd fuel s
      | .error fault => (.broken fault :: s.settled).reverse

end Scan

/-- The tokens of a text.  They end with the end of the stream or with a fault. -/
def tokens (text : List Char) : List Token :=
  if text.all isAllowed then
    let text := if text.head? = some '\uFEFF' then text.drop 1 else text
    Scan.toEnd (2 * text.length + 3) (.start text)
  else [.broken .malformed]

end Conformance.Yaml
