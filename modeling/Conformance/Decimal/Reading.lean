import Conformance.Decimal.Binary64
import Conformance.Text.Character
import Conformance.Text.Printable

/-!
# Reading numbers

Integers and doubles read from text.  Blanks around the number, digits of any script and single low
lines between digits are accepted.
-/

namespace Conformance.Decimal

open Conformance.Text

/-- Why a text is no number. -/
inductive ReadingError
  /-- The text is not written as an integer in a base. -/
  | notInteger (base : Nat) (text : Text)
  /-- The text is not written as a number. -/
  | notNumber (text : Text)
  /-- The text has more digits than an integer may have. -/
  | tooManyDigits (count : Nat)
  deriving Repr, DecidableEq

/-- The largest number of digits of an integer that is read or written. -/
def digitLimit : Nat := 4300

/-- How many characters of a text that is no integer are shown. -/
def shownLiteral : Nat := 200

/-- The text of a reading error. -/
def ReadingError.message : ReadingError → Text
  | .notInteger base text =>
    s!"invalid literal for int() with base {base}: " ++ .ofList ((quoted text).toList.take shownLiteral)
  | .notNumber text => "could not convert string to float: " ++ quoted text
  | .tooManyDigits count =>
    s!"Exceeds the limit ({digitLimit} digits) for integer string conversion: value has {count} " ++
      "digits; use sys.set_int_max_str_digits() to increase the limit"

/-- Whether a blank may stand around a number: the separators of ASCII other than the four information
separators, and the blanks of other scripts. -/
def isMargin (c : CodePoint) : Bool :=
  if c.toNat < 128 then (9 ≤ c.toNat && c.toNat ≤ 13) || c.toNat == 32 else isBlank c

/-- The character that a number is read from for a code point: digits are written in ASCII, and what is no
character cannot stand in a number. -/
def plainChar (c : CodePoint) : Char :=
  match digitValue? c with
  | some value => Nat.digitChar value
  | none => c.char?.getD '?'

/-- A text with its digits written in ASCII and without blanks around it. -/
def normalised (text : Text) : List Char :=
  (trim isMargin text.toList).map plainChar

/-- Split off a sign; the flag is set for a minus. -/
def splitSign : List Char → Bool × List Char
  | '-' :: rest => (true, rest)
  | '+' :: rest => (false, rest)
  | text => (false, text)

/-- Whether every low line stands between two digits. -/
def lowLinesBetween (isDigit : Char → Bool) : Bool → List Char → Bool
  | _, [] => true
  | before, '_' :: rest =>
    before && (match rest with | c :: _ => isDigit c | [] => false) &&
      lowLinesBetween isDigit false rest
  | _, c :: rest => lowLinesBetween isDigit (isDigit c) rest

/-- A text without low lines. -/
def withoutLowLines (text : List Char) : List Char :=
  text.filter (· != '_')

/-- The number that ASCII digits stand for. -/
def digitsValue (text : List Char) : Nat :=
  text.foldl (fun n c => n * 10 + (c.toNat - '0'.toNat)) 0

/-- An integer with a sign. -/
def signedInt (negative : Bool) (n : Nat) : Int :=
  if negative then -(n : Int) else n

/-! ## Integers -/

/-- The value of a digit in a base up to sixteen. -/
def digitIn? (base : Nat) (c : Char) : Option Nat :=
  let value? :=
    if Char.isDigit c then some (c.toNat - '0'.toNat)
    else if 'a' ≤ c ∧ c ≤ 'f' then some (c.toNat - 'a'.toNat + 10)
    else if 'A' ≤ c ∧ c ≤ 'F' then some (c.toNat - 'A'.toNat + 10)
    else none
  value?.filter (· < base)

/-- The number that digits in a base stand for. -/
def digitsValueIn (base : Nat) (text : List Char) : Nat :=
  text.foldl (fun n c => n * base + (digitIn? base c).getD 0) 0

/-- The letter that marks a base behind a zero. -/
def baseLetter? (base : Nat) : Option Char :=
  if base = 2 then some 'b' else if base = 8 then some 'o' else if base = 16 then some 'x' else none

/-- A number without the mark of its base and a low line behind the mark. -/
def withoutBaseMark (base : Nat) : List Char → List Char
  | '0' :: letter :: rest =>
    if baseLetter? base = some letter.toLower then
      match rest with
      | '_' :: digits => digits
      | digits => digits
    else '0' :: letter :: rest
  | text => text

/-- Read an integer in a base.  A well-formed run of too many digits at the beginning is reported before
anything that follows it; in a base that is a power of two there may be any number of digits. -/
def readIntegerIn (base : Nat) (text : Text) : Except ReadingError Int :=
  let (negative, marked) := splitSign (normalised text)
  let body := withoutBaseMark base marked
  let isDigit (c : Char) : Bool := (digitIn? base c).isSome
  let run := body.takeWhile fun c => isDigit c || c == '_'
  let plain := withoutLowLines run
  if run.isEmpty || !lowLinesBetween isDigit false run then .error (.notInteger base text)
  else if (baseLetter? base).isNone && digitLimit < plain.length then
    .error (.tooManyDigits plain.length)
  else if run.length = body.length then .ok (signedInt negative (digitsValueIn base plain))
  else .error (.notInteger base text)

/-- Read an integer in base ten. -/
def readInteger (text : Text) : Except ReadingError Int :=
  readIntegerIn 10 text

/-! ## Doubles -/

/-- The names of infinity and of no number, in lower case. -/
def namedNumber? (negative : Bool) (text : List Char) : Option Float :=
  let name := text.map Char.toLower
  if name = "inf".toList ∨ name = "infinity".toList then some (infinity negative)
  else if name = "nan".toList then some notANumber
  else none

/-- The double nearest to `coefficient * 10 ^ exponent`, where the coefficient has the given number of
digits.  Exponents far outside the range of a double are cut short. -/
def ofDecimal (negative : Bool) (coefficient : Nat) (length : Nat) (exponent : Int) : Float :=
  if coefficient = 0 then ofMagnitude negative 0
  else if 400 < exponent + length then infinity negative
  else if exponent + length < -400 then ofMagnitude negative 0
  else if 0 ≤ exponent then nearest negative (coefficient * tenTo exponent.toNat) 1
  else nearest negative coefficient (tenTo (-exponent).toNat)

/-- Read the exponent part of a number, which may be absent. -/
def readExponent? : List Char → Option Int
  | [] => some 0
  | e :: rest =>
    if e = 'e' ∨ e = 'E' then
      let (negative, body) := splitSign rest
      if body.isEmpty || !body.all Char.isDigit then none
      else
        let value : Int := ((digitsValue body : Nat) : Int)
        some (if negative then -value else value)
    else none

/-- Read an unsigned decimal number: digits with at most one point and an optional exponent. -/
def readMagnitude? (negative : Bool) (text : List Char) : Option Float :=
  let whole := text.takeWhile Char.isDigit
  let rest := text.dropWhile Char.isDigit
  let (fraction, tail) :=
    match rest with
    | '.' :: more => (more.takeWhile Char.isDigit, more.dropWhile Char.isDigit)
    | _ => ([], rest)
  if whole.isEmpty && fraction.isEmpty then none
  else
    (readExponent? tail).map fun exponent =>
      let all := (whole ++ fraction).dropWhile (· == '0')
      ofDecimal negative (digitsValue all) all.length (exponent - fraction.length)

/-- Read a double. -/
def readNumber (text : Text) : Except ReadingError Float :=
  let chars := normalised text
  if !lowLinesBetween Char.isDigit false chars then .error (.notNumber text)
  else
    let (negative, body) := splitSign (withoutLowLines chars)
    match namedNumber? negative body with
    | some x => .ok x
    | none =>
      match readMagnitude? negative body with
      | some x => .ok x
      | none => .error (.notNumber text)

end Conformance.Decimal
