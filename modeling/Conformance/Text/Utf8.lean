import Conformance.Text.Character

/-!
# UTF-8

Bytes to text.  Valid UTF-8 is taken as it is.  In anything else every maximal part that could have begun a
character, and every byte that could not, is spoilt: in a text it becomes one replacement character, and in a
name each byte of it becomes a half of a surrogate pair, so that the bytes can be found again.  Where nothing
may be spoilt, the first fault is told instead.
-/

namespace Conformance.Text

/-! ## Characters of several bytes -/

/-- What may follow a leading byte: the range of the second byte, and how many bytes follow in all. -/
structure Lead where
  low : UInt8
  high : UInt8
  following : Nat
  deriving Repr

/-- The rule for a leading byte of a character of several bytes.  The ranges keep out overlong forms,
surrogates and numbers beyond the last code point. -/
def Lead.of? (b : UInt8) : Option Lead :=
  if 0xC2 ≤ b ∧ b ≤ 0xDF then some ⟨0x80, 0xBF, 1⟩
  else if b = 0xE0 then some ⟨0xA0, 0xBF, 2⟩
  else if b = 0xED then some ⟨0x80, 0x9F, 2⟩
  else if 0xE1 ≤ b ∧ b ≤ 0xEF then some ⟨0x80, 0xBF, 2⟩
  else if b = 0xF0 then some ⟨0x90, 0xBF, 3⟩
  else if 0xF1 ≤ b ∧ b ≤ 0xF3 then some ⟨0x80, 0xBF, 3⟩
  else if b = 0xF4 then some ⟨0x80, 0x8F, 3⟩
  else none

/-- A character that has been begun: the bits so far, what may follow, and its bytes, last first. -/
structure Begun where
  code : Nat
  low : UInt8
  high : UInt8
  following : Nat
  bytes : List UInt8
  deriving Repr

/-- The payload of a leading byte that announces the given number of following bytes. -/
def leadBits (b : UInt8) (following : Nat) : Nat :=
  b.toNat % [64, 32, 16].getD following 8

/-- The character that a leading byte begins. -/
def Lead.begin (lead : Lead) (b : UInt8) : Begun :=
  ⟨leadBits b lead.following, lead.low, lead.high, lead.following, [b]⟩

/-! ## Reading -/

/-- What becomes of spoilt bytes, given last first. -/
abbrev Spoil := List UInt8 → List CodePoint

/-- Read one byte outside any character. -/
def startChar (spoil : Spoil) (b : UInt8) : List CodePoint × Option Begun :=
  if b < 0x80 then ([.ofNat b.toNat], none)
  else
    match Lead.of? b with
    | some lead => ([], some (lead.begin b))
    | none => (spoil [b], none)

/-- Read one byte, after the given beginning of a character if there is one. -/
def readByte (spoil : Spoil) : Option Begun → UInt8 → List CodePoint × Option Begun
  | none, b => startChar spoil b
  | some begun, b =>
    if begun.low ≤ b ∧ b ≤ begun.high then
      let code := begun.code * 64 + b.toNat % 64
      if begun.following ≤ 1 then ([.ofNat code], none)
      else ([], some ⟨code, 0x80, 0xBF, begun.following - 1, b :: begun.bytes⟩)
    else
      let (found, next) := startChar spoil b
      (spoil begun.bytes ++ found, next)

/-- The code points that the bytes add to those already read, last first. -/
def readBytes (spoil : Spoil) : List UInt8 → Option Begun → List CodePoint → List CodePoint
  | [], none, found => found.reverse
  | [], some begun, found => found.reverse ++ spoil begun.bytes
  | b :: rest, begun, found =>
    let (more, next) := readByte spoil begun b
    readBytes spoil rest next (more.reverse ++ found)

/-- The text that the bytes hold, where something becomes of the bytes that are no text. -/
def decodeWith (spoil : Spoil) (bytes : ByteArray) : Text :=
  match String.fromUTF8? bytes with
  | some text => .ofString text
  | none => .ofList (readBytes spoil bytes.toList none [])

/-- The character that stands for bytes that are no text. -/
def replacementChar : Char := '\uFFFD'

/-- The text that the bytes hold, with replacement characters for what is no text. -/
def decode (bytes : ByteArray) : Text :=
  decodeWith (fun _ => [.char replacementChar]) bytes

/-- The half that stands for a byte of a name. -/
def halfOfByte (b : UInt8) : CodePoint :=
  .ofNat (0xDC00 + b.toNat)

/-- The name that the bytes hold. -/
def decodeName (bytes : ByteArray) : Text :=
  decodeWith (fun spoilt => spoilt.reverse.map halfOfByte) bytes

/-! ## Faults -/

/-- Why bytes are no text. -/
inductive Utf8Problem
  | start
  | continuation
  | ending
  deriving Repr, DecidableEq

/-- The name of a problem. -/
def Utf8Problem.text : Utf8Problem → Text
  | .start => "invalid start byte"
  | .continuation => "invalid continuation byte"
  | .ending => "unexpected end of data"

/-- A place where bytes are no text: where it begins, how many bytes it has, and the first of them. -/
structure Utf8Fault where
  position : Nat
  width : Nat
  byte : UInt8
  problem : Utf8Problem
  deriving Repr, DecidableEq

/-- What is wrong with bytes, and where. -/
def Utf8Fault.message (f : Utf8Fault) : Text :=
  let place : Text :=
    if f.width ≤ 1 then
      "byte 0x" ++ ofList (hexDigits 2 f.byte.toNat) ++ s!" in position {f.position}"
    else s!"bytes in position {f.position}-{f.position + f.width - 1}"
  "'utf-8' codec can't decode " ++ place ++ ": " ++ f.problem.text

/-- The bits that come with the beginning of a character, the byte it began with, and how many bytes it has
had. -/
structure Opened where
  begun : Begun
  byte : UInt8
  width : Nat
  deriving Repr

/-- The first fault among bytes from a position on, inside the given character if there is one. -/
def firstFault? (position : Nat) : Option Opened → List UInt8 → Option Utf8Fault
  | none, [] => none
  | some o, [] => some ⟨position - o.width, o.width, o.byte, .ending⟩
  | none, b :: rest =>
    if b < 0x80 then firstFault? (position + 1) none rest
    else
      match Lead.of? b with
      | some lead => firstFault? (position + 1) (some ⟨lead.begin b, b, 1⟩) rest
      | none => some ⟨position, 1, b, .start⟩
  | some o, b :: rest =>
    if o.begun.low ≤ b ∧ b ≤ o.begun.high then
      if o.begun.following ≤ 1 then firstFault? (position + 1) none rest
      else
        let begun := ⟨0, 0x80, 0xBF, o.begun.following - 1, b :: o.begun.bytes⟩
        firstFault? (position + 1) (some ⟨begun, o.byte, o.width + 1⟩) rest
    else some ⟨position - o.width, o.width, o.byte, .continuation⟩

/-- The text that the bytes hold, or the first fault. -/
def decodeExactly (bytes : ByteArray) : Except Utf8Fault Text :=
  match firstFault? 0 none bytes.toList with
  | some fault => .error fault
  | none => .ok (decode bytes)

/-! ## Texts as bytes

A text is written as UTF-8, which has no bytes for halves of surrogate pairs: a text that holds one cannot be
written.  A name is written as UTF-8 too, but there some of the halves stand for the bytes of a name that is
no text. -/

/-! ### What cannot be written -/

/-- A run of halves in a text: the places of its first and its last code point, and the number of the first
half. -/
structure EncodingFault where
  first : Nat
  last : Nat
  number : Nat
  deriving Repr, DecidableEq

/-- What is wrong with a text that cannot be written. -/
def EncodingFault.message (f : EncodingFault) : Text :=
  let place : Text :=
    if f.first = f.last then
      "character '\\u" ++ ofList (hexDigits 4 f.number) ++ s!"' in position {f.first}"
    else s!"characters in position {f.first}-{f.last}"
  "'utf-8' codec can't encode " ++ place ++ ": surrogates not allowed"

/-- The first run of halves that cannot be written from a place on, where some halves can. -/
def findUnencodable (allowed : CodePoint → Bool) : Nat → List CodePoint → Option EncodingFault
  | _, [] => none
  | place, c :: rest =>
    if !c.isHalf || allowed c then findUnencodable allowed (place + 1) rest
    else some ⟨place, place + (rest.takeWhile CodePoint.isHalf).length, c.toNat⟩

/-- The first run of halves in a text. -/
def encodingFault? (text : Text) : Option EncodingFault :=
  findUnencodable (fun _ => false) 0 text.toList

/-- Whether a code point stands for a byte of a name that is no text. -/
def isNameByte (c : CodePoint) : Bool :=
  0xDC80 ≤ c.toNat && c.toNat ≤ 0xDCFF

/-- The first run of halves that cannot be part of a name. -/
def nameFault? (text : Text) : Option EncodingFault :=
  findUnencodable isNameByte 0 text.toList

/-! ### Writing -/

/-- The bytes of a code point; a half stands for a single byte. -/
def bytesOfCodePoint : CodePoint → List UInt8
  | .char c => String.utf8EncodeChar c
  | .half offset => [UInt8.ofNat offset.val]

/-- The bytes of a name. -/
def nameBytes (text : Text) : ByteArray :=
  match text.string? with
  | some s => s.toUTF8
  | none => ⟨(text.toList.flatMap bytesOfCodePoint).toArray⟩

/-- The number of bytes of a name. -/
def nameSize (text : Text) : Nat :=
  text.toList.foldl (fun size c => size + (bytesOfCodePoint c).length) 0

/-- The bytes of a text, or why it cannot be written. -/
def encode (text : Text) : Except EncodingFault ByteArray :=
  match encodingFault? text with
  | some fault => .error fault
  | none => .ok (nameBytes text)

/-- A name as it is read back: bytes that are text are read as text. -/
def asName (text : Text) : Text :=
  if text.toList.any CodePoint.isHalf then decodeName (nameBytes text) else text

/-- A text can be written if it holds no halves. -/
theorem encodingFault?_eq_none_iff (text : Text) :
    encodingFault? text = none ↔ ∀ c ∈ text.toList, c.isHalf = false := by
  have each : ∀ (points : List CodePoint) (place : Nat),
      findUnencodable (fun _ => false) place points = none ↔ ∀ c ∈ points, c.isHalf = false := by
    intro points
    induction points with
    | nil => simp [findUnencodable]
    | cons c rest ih =>
      intro place
      cases h : c.isHalf <;> simp [findUnencodable, h, ih]
  exact each text.toList 0

end Conformance.Text
