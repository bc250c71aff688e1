import Conformance.Document.Display
import Conformance.Document.Yaml.Node
import Conformance.Text.Search

/-!
# YAML in block style

A document written with one entry or item per line.  A text stands for itself where it reads back as the same
text, and is quoted otherwise; a long text is continued on the next line at a single space.  Outside double
quotes only printable ASCII is written.
-/

namespace Conformance.Yaml

open Text

/-- The column behind which a text is continued on the next line. -/
def lineWidth : Nat := 80

/-! ## Pens -/

/-- What has been written, the last character first, and the column that was reached. -/
structure Pen where
  written : List CodePoint
  column : Nat
  deriving Repr

namespace Pen

/-- Nothing has been written. -/
def start : Pen := ⟨[], 0⟩

/-- Write characters on the same line. -/
def put (p : Pen) (chars : List CodePoint) : Pen :=
  ⟨chars.reverse ++ p.written, p.column + chars.length⟩

/-- Write a text on the same line. -/
def puts (p : Pen) (text : Text) : Pen :=
  p.put text.toList

/-- End the line. -/
def endLine (p : Pen) : Pen :=
  ⟨.char '\n' :: p.written, 0⟩

/-- Write spaces up to a column. -/
def padTo (p : Pen) (column : Nat) : Pen :=
  p.put (List.replicate (column - p.column) (.char ' '))

/-- Go to a column of the next line. -/
def lineTo (p : Pen) (column : Nat) : Pen :=
  p.endLine.padTo column

/-- Whether a text is continued on the next line. -/
def isWide (p : Pen) : Bool :=
  decide (lineWidth < p.column)

/-- What has been written. -/
def text (p : Pen) : Text :=
  Text.ofList p.written.reverse

@[simp]
theorem column_padTo (p : Pen) (column : Nat) : (p.padTo column).column = max p.column column := by
  simp [padTo, put]
  omega

@[simp]
theorem column_lineTo (p : Pen) (column : Nat) : (p.lineTo column).column = column := by
  simp [lineTo, endLine]

end Pen

/-! ## Texts -/

/-- How a text is written. -/
inductive TextStyle
  | plain
  | single
  | double
  deriving Repr, DecidableEq

/-- Whether a character is written as it is. -/
def isPlainChar (c : CodePoint) : Bool :=
  ' ' ≤ c && c ≤ '~'

/-- Whether a space and a line end stand side by side. -/
def mixesBlanks : List CodePoint → Bool
  | .char ' ' :: .char '\n' :: _ | .char '\n' :: .char ' ' :: _ => true
  | _ :: rest => mixesBlanks rest
  | [] => false

/-- Whether a character separates an indicator from what stands around it. -/
def isSeparator (c : CodePoint) : Bool :=
  c == ' ' || c == '\n'

/-- Whether a text has nothing or a separator in front. -/
def isSeparated : List CodePoint → Bool
  | [] => true
  | c :: _ => isSeparator c

/-- Whether a text begins like a document marker, or with a character that begins something else than a
text. -/
def beginsOtherwise (text : List CodePoint) : Bool :=
  text.take 3 == [.char '-', .char '-', .char '-'] || text.take 3 == [.char '.', .char '.', .char '.'] ||
    match text with
    | [] => false
    | c :: rest =>
      ("#,[]\x7b\x7d&*!|>'\"%@\x60" : Text).toList.contains c ||
        ([.char '?', .char ':', .char '-'].contains c && isSeparated rest)

/-- Whether a text would end early: at a colon before a separator, or at a comment. -/
def endsEarly : List CodePoint → Bool
  | [] => false
  | .char ':' :: rest => isSeparated rest || endsEarly rest
  | c :: .char '#' :: rest => isSeparator c || endsEarly (.char '#' :: rest)
  | _ :: rest => endsEarly rest

/-- Whether a text of printable characters reads back when it stands for itself. -/
def isPlainText (text : List CodePoint) : Bool :=
  !text.contains (.char '\n') && text.head? != some (.char ' ') && text.getLast? != some (.char ' ') &&
    !beginsOtherwise text && !endsEarly text &&
    plainTag (Text.ofList text) == commonTag "str"

/-- How a text is written. -/
def TextStyle.of (text : List CodePoint) : TextStyle :=
  if !text.all (fun c => isPlainChar c || c == '\n') || mixesBlanks text then .double
  else if isPlainText text then .plain else .single

/-- Whether a single space stands between two other characters, given the one before and what follows. -/
def isSingleSpace (before : Option CodePoint) (after : List CodePoint) : Bool :=
  match before, after with
  | some b, a :: _ => b != ' ' && a != ' '
  | _, _ => false

/-- Write the characters of a text that is not between double quotes, after the given one. -/
def writePlain (doubled : Bool) (indent : Nat) : Option CodePoint → List CodePoint → Pen → Pen
  | _, [], p => p
  | before, c :: rest, p =>
    let p :=
      if c = ' ' then
        if isSingleSpace before rest && p.isWide then p.lineTo indent else p.put [c]
      else if c = '\n' then
        let p := if before = some (.char '\n') then p.endLine else p.endLine.endLine
        if rest.head? = some (.char '\n') then p else p.padTo indent
      else if c = '\'' && doubled then p.put [c, c]
      else p.put [c]
    writePlain doubled indent (some c) rest p

/-- A digit in base sixteen in upper case. -/
def upperDigit (c : CodePoint) : CodePoint :=
  if 'a' ≤ c ∧ c ≤ 'f' then .ofNat (c.toNat - 32) else c

/-- The escape of a character between double quotes, if it needs one. -/
def escape? (c : CodePoint) : Option (List CodePoint) :=
  let code := c.toNat
  match letterEscapes.find? fun (letter, image) =>
    image == c && letter != '/' && letter != ' ' && letter != '\t' with
  | some (letter, _) => some ['\\', letter]
  | none =>
    if isPlainChar c then none
    else if code ≤ 0xFF then some (.char '\\' :: .char 'x' :: (hexDigits 2 code).map upperDigit)
    else if code ≤ 0xFFFF then some (.char '\\' :: .char 'u' :: (hexDigits 4 code).map upperDigit)
    else some (.char '\\' :: .char 'U' :: (hexDigits 8 code).map upperDigit)

/-- Continue a text between double quotes on the next line.  A space in front is marked. -/
def continueDouble (indent : Nat) (next : Option CodePoint) (p : Pen) : Pen :=
  let p := (p.put [.char '\\']).lineTo indent
  if next = some (.char ' ') then p.put [.char '\\'] else p

/-- Write the characters of a text between double quotes.  A line may end at a space and next to an escape,
but neither before the second nor behind the last character but one. -/
def writeDouble (indent : Nat) (first afterBreak : Bool) : List CodePoint → Pen → Pen
  | [], p => p
  | c :: rest, p =>
    let inside := !first && !rest.isEmpty
    match escape? c with
    | some escape =>
      let p := p.put escape
      if inside && decide (lineWidth + 1 < p.column) then
        writeDouble indent false true rest (continueDouble indent rest.head? p)
      else writeDouble indent false true rest p
    | none =>
      let p :=
        if inside && (c == ' ' || afterBreak) && p.isWide then continueDouble indent (some c) p
        else p
      writeDouble indent false false rest (p.put [c])

/-- Write a text behind a space. -/
def writeText (indent : Nat) (text : List CodePoint) (p : Pen) : Pen :=
  match TextStyle.of text with
  | .plain => writePlain false indent none text (p.put [.char ' '])
  | .single => (writePlain true indent none text (p.puts " '")).put [.char '\'']
  | .double => (writeDouble indent true true text (p.puts " \"")).put [.char '"']

/-! ## Values -/

/-- A double in the spelling that reads back as a double. -/
def floatText (x : Float) : Text :=
  if x.isNaN then ".nan"
  else if x.isInf then (if x < 0.0 then "-.inf" else ".inf")
  else
    let text := Decimal.text x
    if text.toList.contains '.' then text
    else replaceAll "e" ".0e" text

/-- The text of a value that is neither a text nor a collection. -/
def valueText : Document → Text
  | .null => "null"
  | .bool value => if value then "true" else "false"
  | .float value => floatText value
  | other => other.display?.getD ""

/-- A text as a key, which stands on one line. -/
def keyChars (text : List CodePoint) : List CodePoint :=
  match TextStyle.of text with
  | .plain => text
  | .single | .double => .char '"' :: text.flatMap (fun c => (escape? c).getD [c]) ++ [.char '"']

/-- A value as a key. -/
def keyText : Document → List CodePoint
  | .text value => keyChars value.toList
  | other => (valueText other).toList

mutual

/-- Write a value behind a key or a dash at a depth. -/
def writeValue (indent : Nat) (inMap : Bool) : Document → Pen → Pen
  | .list [], p => p.puts " []"
  | .list items, p =>
    if inMap then writeItems indent false items p else writeItems (indent + 2) true items p
  | .map [], p => p.puts " \x7b\x7d"
  | .map entries, p => writeEntries (indent + 2) (!inMap) entries p
  | .text value, p => writeText (indent + 2) value.toList p
  | other, p => (p.put [.char ' ']).puts (valueText other)

/-- Write the items of a list, the first one on the same line if so told. -/
def writeItems (indent : Nat) (sameLine : Bool) : List Document → Pen → Pen
  | [], p => p
  | item :: rest, p =>
    let p := (if sameLine then p.padTo indent else p.lineTo indent).put [.char '-']
    writeItems indent false rest (writeValue indent false item p)

/-- Write the entries of a mapping, the first one on the same line if so told. -/
def writeEntries (indent : Nat) (sameLine : Bool) : List (Document × Document) → Pen → Pen
  | [], p => p
  | (key, value) :: rest, p =>
    let p := if sameLine then p.padTo indent else p.lineTo indent
    let p := (p.put (keyText key)).put [.char ':']
    writeEntries indent false rest (writeValue indent true value p)

end

/-- A document in block style. -/
def renderBlock : Document → Text
  | .map (entry :: rest) => (writeEntries 0 true (entry :: rest) .start).endLine.text
  | .list (item :: rest) => (writeItems 0 true (item :: rest) .start).endLine.text
  | other => (writeValue 0 true other .start).endLine.text

end Conformance.Yaml
