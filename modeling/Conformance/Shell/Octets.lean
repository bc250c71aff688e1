import Conformance.Text.Utf8

/-!
# Texts of bytes

Scripts and the programs that they use work on bytes.  Here a byte is held as the character with its
number, so that bytes are ordinary strings.  What goes in and the names of files are names, whose bytes can
be found again; what comes out is read as UTF-8.
-/

namespace Conformance.Shell

/-- The character that holds a byte. -/
def charOfByte (b : UInt8) : Char :=
  Char.ofNat b.toNat

/-- The byte that a character holds. -/
def byteOfChar (c : Char) : UInt8 :=
  UInt8.ofNat c.toNat

/-- The bytes of a name as characters. -/
def octets (name : Text) : String :=
  String.ofList ((Text.nameBytes name).toList.map charOfByte)

/-- The bytes that characters hold. -/
def bytesOf (text : String) : ByteArray :=
  ⟨(text.toList.map byteOfChar).toArray⟩

/-- The characters that hold bytes. -/
def ofBytes (bytes : ByteArray) : String :=
  String.ofList (bytes.toList.map charOfByte)

/-- The name that characters hold the bytes of. -/
def textOf (bytes : String) : Text :=
  Text.decodeName (bytesOf bytes)

/-- The text that is read from characters which hold its bytes. -/
def readOutput (bytes : String) : Text :=
  Text.decode (bytesOf bytes)

/-- Holding a byte loses nothing. -/
@[simp]
theorem byteOfChar_charOfByte (b : UInt8) : byteOfChar (charOfByte b) = b := by
  have valid : b.toNat.isValidChar := Or.inl (Nat.lt_trans b.toNat_lt (by decide))
  have whole : Char.ofNat b.toNat = Char.ofNatAux b.toNat valid := dif_pos valid
  unfold byteOfChar charOfByte
  rw [whole]
  exact UInt8.ofNat_toNat

/-- Whether a character is white space. -/
def isSpace (c : Char) : Bool :=
  c == ' ' || (9 ≤ c.toNat && c.toNat ≤ 13)

/-- The lines of a text without their ends; what follows the last end counts if it is not empty. -/
def linesOf (text : String) : List String :=
  let lines := text.splitOn "\n"
  if lines.getLast? = some "" then lines.dropLast else lines

/-- A text for each line, with its end. -/
def unlines (lines : List String) : String :=
  String.join (lines.map (· ++ "\n"))

/-- How many bytes a character has that begins with one, as far as this byte can tell. -/
def unitLength (c : Char) : Nat :=
  let n := c.toNat
  if n < 0xC2 then 1 else if n < 0xE0 then 2 else if n < 0xF0 then 3 else if n < 0xF5 then 4 else 1

/-- The characters that bytes make up; a byte that belongs to none comes as it is.  The number bounds how
many there are. -/
def unitsFrom : Nat → List Char → List (Except Char Char)
  | 0, _ | _, [] => []
  | fuel + 1, c :: rest =>
    let count := unitLength c
    match String.fromUTF8? (bytesOf (String.ofList ((c :: rest).take count))) with
    | some text =>
      match text.toList with
      | [d] => .ok d :: unitsFrom fuel (rest.drop (count - 1))
      | _ => .error c :: unitsFrom fuel rest
    | none => .error c :: unitsFrom fuel rest

/-- The characters that the bytes of a text make up. -/
def charactersOf (text : String) : List (Except Char Char) :=
  match String.fromUTF8? (bytesOf text) with
  | some known => known.toList.map .ok
  | none => unitsFrom text.length text.toList

/-- Whether a text holds bytes that are no text. -/
def isForeign (text : String) : Bool :=
  (String.fromUTF8? (bytesOf text)).isNone

end Conformance.Shell
