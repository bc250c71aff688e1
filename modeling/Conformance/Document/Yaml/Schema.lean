import Conformance.Document.Display
import Conformance.Document.Yaml.Fault
import Conformance.Document.Yaml.Tag
import Conformance.Text.Lowercase

/-!
# Values of YAML scalars

The tag of a scalar says how its text is read: as a text, a truth word, a number, a day or moment, or bytes.
A text that its tag does not fit is a fault.
-/

namespace Conformance.Yaml

open Decimal Text

/-! ## Numbers -/

/-- An integer in a base, as a part of a scalar. -/
def readIntIn (base : Nat) (digits : List CodePoint) : Except Fault Int :=
  (readIntegerIn base (.ofList digits)).mapError .integer

/-- The parts of a number in base sixty, put together. -/
def sexagesimal (parts : List Int) : Int :=
  parts.foldl (fun n part => n * 60 + part) 0

/-- Read an integer behind its sign: binary, octal, hexadecimal, in base sixty, or in base ten. -/
def readUnsigned (body : List CodePoint) : Except Fault Int :=
  match body with
  | [] => .error .empty
  | [.char '0'] => .ok 0
  | .char '0' :: .char 'b' :: digits => readIntIn 2 digits
  | .char '0' :: .char 'x' :: digits => readIntIn 16 digits
  | .char '0' :: _ => readIntIn 8 body
  | _ =>
    if body.contains (.char ':') then ((body.splitOn (.char ':')).mapM (readIntIn 10)).map sexagesimal
    else readIntIn 10 body

/-- The sign of a number, which is set for a minus, and what follows it. -/
def signOf : List CodePoint → Bool × List CodePoint
  | .char '-' :: rest => (true, rest)
  | .char '+' :: rest => (false, rest)
  | body => (false, body)

/-- A text without low lines. -/
def unlined (text : Text) : List CodePoint :=
  text.toList.filter (· != .char '_')

/-- Read an integer.  Low lines have no meaning. -/
def readInt (text : Text) : Except Fault Int :=
  let (negative, body) := signOf (unlined text)
  (readUnsigned body).map fun n => if negative then -n else n

/-- The parts of a number with a point in base sixty, put together from the last one on. -/
def sexagesimalFloat (parts : List Float) : Except Fault Float :=
  let step (sum : Float × Nat) (part : Float) : Except Fault (Float × Nat) :=
    match ofInt? sum.2 with
    | some place => .ok (sum.1 + part * place, sum.2 * 60)
    | none => .error .place
  (parts.reverse.foldlM step (0.0, 1)).map (·.1)

/-- The sign and the rest of a number with a point, in lower case and without low lines. -/
def numberWord (text : Text) : Bool × List CodePoint :=
  signOf (lower (unlined text))

/-- Whether a text is the name of no number. -/
def isNoNumber (text : Text) : Bool :=
  (numberWord text).2 == (".nan" : Text).toList

/-- Read a number with a point. -/
def readFloat (text : Text) : Except Fault Float :=
  let (negative, body) := numberWord text
  if (unlined text).isEmpty then .error .empty
  else if body = (".inf" : Text).toList then .ok (infinity negative)
  else if isNoNumber text then .ok notANumber
  else
    let parts := (body.splitOn (.char ':')).map Text.ofList
    match parts.mapM readNumber with
    | .ok [x] => .ok (if negative then -x else x)
    | .ok numbers => (sexagesimalFloat numbers).map fun x => if negative then -x else x
    | .error error => .error (.number error)

/-! ## Days and moments -/

/-- The number of days of a month. -/
def daysOfMonth (year month : Nat) : Nat :=
  if month = 2 then
    if year % 4 = 0 ∧ (year % 100 ≠ 0 ∨ year % 400 = 0) then 29 else 28
  else if [4, 6, 9, 11].contains month then 30 else 31

/-- A day that is in the calendar. -/
def checkedDay (year month day : Nat) : Except Fault Day :=
  if year = 0 then .error (.calendar "year 0 is out of range")
  else if month = 0 ∨ 12 < month then .error (.calendar "month must be in 1..12")
  else if day = 0 ∨ daysOfMonth year month < day then
    .error (.calendar "day is out of range for month")
  else .ok ⟨year, month, day⟩

/-- The digits behind the point of a second, as a number of microseconds. -/
def microseconds (fraction : List Char) : Nat :=
  let kept := fraction.take 6
  digitsValue (kept ++ List.replicate (6 - kept.length) '0')

/-- Read a day or a moment.  One line feed at the end of the text makes no difference. -/
def readTimestamp (text : Text) : Except Fault Document :=
  match text.chars?.bind fun chars => readTimestamp? (withoutLastFeed chars) with
  | none => .error .timestamp
  | some stamp =>
    match stamp.time with
    | none => (checkedDay stamp.year stamp.month stamp.day).map .date
    | some (hour, minute, second, fraction) =>
      let tooFar := stamp.offset.filter fun minutes => 1440 ≤ minutes.natAbs
      match tooFar with
      | some minutes =>
        .error (.calendar ("offset must be a timedelta strictly between -timedelta(hours=24) " ++
          s!"and timedelta(hours=24), not {Moment.distanceText minutes}."))
      | none =>
        match checkedDay stamp.year stamp.month stamp.day with
        | .error fault => .error fault
        | .ok day =>
          if 23 < hour then .error (.calendar "hour must be in 0..23")
          else if 59 < minute then .error (.calendar "minute must be in 0..59")
          else if 59 < second then .error (.calendar "second must be in 0..59")
          else .ok (.moment ⟨day, hour, minute, second, microseconds fraction, stamp.offset⟩)

/-! ## Bytes -/

/-- The value of a digit in base sixty-four. -/
def base64Value? (c : Char) : Option Nat :=
  if 'A' ≤ c ∧ c ≤ 'Z' then some (c.toNat - 'A'.toNat)
  else if 'a' ≤ c ∧ c ≤ 'z' then some (c.toNat - 'a'.toNat + 26)
  else if '0' ≤ c ∧ c ≤ '9' then some (c.toNat - '0'.toNat + 52)
  else if c = '+' then some 62
  else if c = '/' then some 63
  else none

/-- Read bytes in base sixty-four, given the place in the group of four, the bits left over, the padding
seen and the bytes so far, last first.  Other characters are skipped. -/
def readBase64? : List Char → Nat → Nat → Nat → List UInt8 → Option (List UInt8)
  | [], place, _, _, bytes => if place = 0 then some bytes.reverse else none
  | c :: rest, place, left, pads, bytes =>
    if c = '=' then
      if 2 ≤ place ∧ 4 ≤ place + pads + 1 then some bytes.reverse
      else readBase64? rest place left (pads + 1) bytes
    else
      match base64Value? c with
      | none => readBase64? rest place left pads bytes
      | some d =>
        if place = 0 then readBase64? rest 1 d 0 bytes
        else if place = 1 then
          readBase64? rest 2 (d % 16) 0 (UInt8.ofNat (left * 4 + d / 16) :: bytes)
        else if place = 2 then
          readBase64? rest 3 (d % 4) 0 (UInt8.ofNat (left * 16 + d / 4) :: bytes)
        else readBase64? rest 0 0 0 (UInt8.ofNat (left * 64 + d) :: bytes)

/-! ## Values -/

/-- The names of the common tags that scalars have. -/
def scalarTags : List String :=
  ["str", "null", "bool", "int", "float", "timestamp", "binary"]

/-- Whether a tag is one that scalars have. -/
def isScalarTag (tag : String) : Bool :=
  scalarTags.any fun name => tag == commonTag name

/-- The value of a scalar with a tag. -/
def scalarValue (tag : String) (text : Text) : Except Fault Document :=
  if tag = commonTag "str" then .ok (.text text)
  else if tag = commonTag "null" then .ok .null
  else if tag = commonTag "bool" then
    match (lowercase text).string?.bind fun word => truthWords.lookup word with
    | some value => .ok (.bool value)
    | none => .error (.truthWord (lowercase text))
  else if tag = commonTag "int" then (readInt text).map .int
  else if tag = commonTag "float" then (readFloat text).map .float
  else if tag = commonTag "timestamp" then readTimestamp text
  else if tag = commonTag "binary" then
    let ascii := text.chars?.filter (·.all (·.toNat < 128))
    match ascii.bind (readBase64? · 0 0 0 []) with
    | some bytes => .ok (.bytes bytes)
    | none => .error .malformed
  else .error .malformed

end Conformance.Yaml
