import Conformance.Shell.Utility.Basic

/-!
# Bytes written with few characters

Bytes are written with the digits of a base, group by group, and read back.  A group that is not full is
filled up with a sign of its own.
-/

namespace Conformance.Shell

open Effect

/-! ## Bases -/

/-- A way to write bytes: the digits, how many bits one of them holds, how many bytes make a group, whether a
group is filled up, and whether the digits of a group stand in reverse. -/
structure ByteBase where
  digits : String
  bits : Nat
  bytes : Nat
  isFilled : Bool
  isReversed : Bool
  deriving Repr, DecidableEq

namespace ByteBase

/-- The capital letters. -/
def capitals : String :=
  "ABCDEFGHIJKLMNOPQRSTUVWXYZ"

/-- The small letters. -/
def smallLetters : String :=
  "abcdefghijklmnopqrstuvwxyz"

/-- Sixty-four digits. -/
def base64 : ByteBase :=
  ⟨capitals ++ smallLetters ++ "0123456789+/", 6, 3, true, false⟩

/-- Sixty-four digits that can stand in the name of a file. -/
def base64url : ByteBase :=
  ⟨capitals ++ smallLetters ++ "0123456789-_", 6, 3, true, false⟩

/-- Thirty-two digits. -/
def base32 : ByteBase :=
  ⟨capitals ++ "234567", 5, 5, true, false⟩

/-- Thirty-two digits in the order of their characters. -/
def base32hex : ByteBase :=
  ⟨"0123456789ABCDEFGHIJKLMNOPQRSTUV", 5, 5, true, false⟩

/-- Sixteen digits. -/
def base16 : ByteBase :=
  ⟨"0123456789ABCDEF", 4, 1, false, false⟩

/-- Two digits, the first of which counts most or least. -/
def base2 (isReversed : Bool) : ByteBase :=
  ⟨"01", 1, 1, false, isReversed⟩

/-- How many digits a group has. -/
def width (b : ByteBase) : Nat :=
  8 * b.bytes / b.bits

/-- The digits of a group of bytes, which may be too few. -/
def encodeGroup (b : ByteBase) (group : List Char) : List Char :=
  let full := group ++ List.replicate (b.bytes - group.length) '\x00'
  let n := full.foldl (fun n c => 256 * n + c.toNat) 0
  let count := (8 * group.length + b.bits - 1) / b.bits
  let table := b.digits.toList
  let digits := (List.range count).map fun i =>
    (table[(n >>> (b.bits * (b.width - 1 - i))) % (1 <<< b.bits)]?).getD '0'
  (if b.isReversed then digits.reverse else digits) ++ List.replicate (b.width - count) '='

/-- The digits of bytes.  The number bounds how many groups there are. -/
def encode (b : ByteBase) : Nat → List Char → List Char
  | 0, _ | _, [] => []
  | fuel + 1, bytes => b.encodeGroup (bytes.take b.bytes) ++ b.encode fuel (bytes.drop b.bytes)

/-- The bytes of a group from one on, as far as its digits are right; the answer says whether all of them
are.  The number is that of the bytes that are left. -/
def decodeFrom (b : ByteBase) (group : List Char) : Nat → List Char × Bool
  | 0 => ([], true)
  | left + 1 =>
    let index := b.bytes - (left + 1)
    let first := (8 * index + b.bits - 1) / b.bits
    let last := (8 * (index + 1) + b.bits - 1) / b.bits
    let values := ((group.take last).mapM fun c => b.digits.toList.idxOf? c)
    if b.isFilled && 0 < index && group[first]? == some '=' then
      ([], group.length = b.width && (group.drop first).all (· == '='))
    else
      match values with
      | none => ([], false)
      | some values =>
        if group.length < last then ([], false)
        else
          let n := values.foldl (fun n d => (n <<< b.bits) + d) 0
          let byte := Char.ofNat ((n >>> (b.bits * last - 8 * (index + 1))) % 256)
          let (more, isRight) := b.decodeFrom group left
          (byte :: more, isRight)

/-- The bytes of a group of digits, as far as these are right, and whether they are. -/
def decodeGroup (b : ByteBase) (group : List Char) : List Char × Bool :=
  if group.length < b.width && (b.isReversed || b.bytes = 5) then ([], false)
  else b.decodeFrom (if b.isReversed then group.reverse else group) b.bytes

/-- The bytes that digits stand for, as far as these are right, and whether they are.  The number bounds how many
groups there are. -/
def decode (b : ByteBase) : Nat → List Char → List Char × Bool
  | 0, _ | _, [] => ([], true)
  | fuel + 1, digits =>
    match b.decodeGroup (digits.take b.width) with
    | (found, false) => (found, false)
    | (found, true) =>
      let (more, isRight) := b.decode fuel (digits.drop b.width)
      (found ++ more, isRight)

end ByteBase

/-! ## Eighty-five digits -/

/-- The digits of which five hold four bytes. -/
def digits85 : String :=
  "0123456789" ++ ByteBase.smallLetters ++ ByteBase.capitals ++ ".-:+=^!/*?&<>()[]\x7b\x7d@%$#"

/-- The digits of bytes, the number of which is a multiple of four.  The number bounds how many groups there
are. -/
def encode85 : Nat → List Char → List Char
  | 0, _ | _, [] => []
  | fuel + 1, bytes =>
    let n := (bytes.take 4).foldl (fun n c => 256 * n + c.toNat) 0
    let table := digits85.toList
    let digit (unit : Nat) : Char := table[n / unit % 85]?.getD '0'
    [52200625, 614125, 7225, 85, 1].map digit ++ encode85 fuel (bytes.drop 4)

/-- The bytes that digits stand for, as far as these are right, and whether they are. -/
def decode85 : Nat → List Char → List Char × Bool
  | 0, _ | _, [] => ([], true)
  | fuel + 1, digits =>
    match (digits.take 5).mapM fun c => digits85.toList.idxOf? c with
    | none => ([], false)
    | some values =>
      let n := values.foldl (fun n d => 85 * n + d) 0
      if values.length < 5 || 4294967295 < n then ([], false)
      else
        let bytes := [24, 16, 8, 0].map fun shift => Char.ofNat ((n >>> shift) % 256)
        let (more, isRight) := decode85 fuel (digits.drop 5)
        (bytes ++ more, isRight)

/-! ## The programs -/

/-- A way to write bytes that can be asked for. -/
inductive Coding
  | digits (base : ByteBase)
  | digits85
  deriving Repr, DecidableEq

namespace Coding

/-- The characters with which bytes are written. -/
def alphabet : Coding → List Char
  | .digits base => base.digits.toList
  | .digits85 => Shell.digits85.toList

/-- Write bytes; nothing comes of a number of them that cannot be written. -/
def encode? (coding : Coding) (bytes : List Char) : Option (List Char) :=
  match coding with
  | .digits base => some (base.encode (bytes.length + 1) bytes)
  | .digits85 => if bytes.length % 4 = 0 then some (encode85 (bytes.length + 1) bytes) else none

/-- Read bytes, as far as what is read is right, and see whether it is. -/
def decode (coding : Coding) (text : List Char) : List Char × Bool :=
  match coding with
  | .digits base => base.decode (text.length + 1) text
  | .digits85 => decode85 (text.length + 1) text

end Coding

/-- A text in rows of some characters, with an end behind each; all of it without one if there are to be no
rows.  The number bounds how many rows there are. -/
def inRows (width : Nat) : Nat → List Char → List Char
  | 0, text => text
  | fuel + 1, text =>
    if width = 0 || text.isEmpty then text
    else text.take width ++ '\n' :: inRows width fuel (text.drop width)

/-- The long names of the options of programs that write bytes with digits. -/
def codingNames : List (String × Char) :=
  [("decode", 'd'), ("wrap", 'w'), ("ignore-garbage", 'i')]

/-- The long names of the ways to write bytes. -/
def codings : List (String × Char × Coding) :=
  [("base64", 'α', .digits .base64), ("base64url", 'β', .digits .base64url),
    ("base32", 'γ', .digits .base32), ("base32hex", 'δ', .digits .base32hex),
    ("base16", 'ε', .digits .base16), ("base2msbf", 'ζ', .digits (.base2 false)),
    ("base2lsbf", 'η', .digits (.base2 true)), ("z85", 'θ', .digits85)]

/-- The width of rows that an option asks for. -/
def codingWidth (g : Given) : Except String Nat :=
  match g.get? 'w' with
  | none => .ok 76
  | some text =>
    match if text.toList.all Char.isDigit then text.toNat? else none with
    | some n => .ok (if 9223372036854775807 < n then 0 else n)
    | none => .error ("invalid wrap size: " ++ quoted text)

/-- Write the bytes of a file with digits, or read them back. -/
def recode (coding : Coding) (g : Given) (width : Nat) (name : String) : Effect Nat := do
  match ← readOperand? name with
  | .error .isDirectory => failed "read error: Is a directory" 1
  | .error fault => failed (nameAndFault name fault) 1
  | .ok text =>
    if g.has 'd' then
      let isKept (c : Char) : Bool :=
        c != '\n' && (!g.has 'i' || coding.alphabet.contains c || c == '=')
      let digits := text.toList.filter isKept
      let (bytes, isRight) := coding.decode digits
      say (String.ofList bytes)
      if isRight then pure 0 else failed "invalid input" 1
    else
      match coding.encode? text.toList with
      | some digits =>
        say (String.ofList (inRows width (digits.length + 1) digits))
        pure 0
      | none => failed "invalid input (length must be multiple of 4 characters)" 1

/-- Go on with the file that is to be written with digits. -/
def recodeOperand (coding : Coding) (g : Given) : Effect Nat := do
  match codingWidth g, g.operands with
  | .error message, _ => failed message 1
  | .ok _, _ :: extra :: _ => misused ("extra operand " ++ quoted extra) 1
  | .ok width, operands => recode coding g width (operands.headD "-")

/-- Write bytes with digits of one base. -/
def baseProgram (base : ByteBase) (arguments : List String) : Effect Nat :=
  withGiven "diw:" codingNames 1 arguments fun g => recodeOperand (.digits base) g

/-- Write bytes with digits of a base that is asked for. -/
def basencProgram (arguments : List String) : Effect Nat :=
  let names := codingNames ++ codings.map fun (name, letter, _) => (name, letter)
  withGiven "diw:αβγδεζηθ" names 1 arguments fun g => do
    let letters := codings.map fun (_, letter, _) => letter
    let wanted := (g.last? letters).bind fun letter => codings.findSome? fun (_, other, coding) =>
      if other == letter then some coding else none
    match codingWidth g, wanted with
    | .error message, _ => failed message 1
    | .ok _, none => misused "missing encoding type" 1
    | .ok _, some coding => recodeOperand coding g

end Conformance.Shell
