import Conformance.Decimal.Notation
import Conformance.Decimal.Reading
import Conformance.Document.Basic
import Conformance.Failure
import Conformance.Text.Printable

/-!
# The text of a value

How a value reads when it is put into a text.  On its own a text stands for itself; inside a list or a
mapping it is quoted.  An integer with too many digits has no text.
-/

namespace Conformance

open Decimal Text

/-! ## Days and moments -/

/-- A number with at least the given number of digits. -/
def paddedNumber (width n : Nat) : String :=
  String.ofList (padZeros width (digits n))

namespace Day

/-- A day as year, month and day. -/
def text (d : Day) : String :=
  s!"{paddedNumber 4 d.year}-{paddedNumber 2 d.month}-{paddedNumber 2 d.day}"

end Day

namespace Moment

/-- The distance from universal time, with its sign. -/
def offsetText : Option Int → String
  | none => ""
  | some minutes =>
    let sign := if minutes < 0 then "-" else "+"
    s!"{sign}{paddedNumber 2 (minutes.natAbs / 60)}:{paddedNumber 2 (minutes.natAbs % 60)}"

/-- A moment as day, time of day and distance from universal time. -/
def text (m : Moment) : String :=
  let fraction := if m.microsecond = 0 then "" else s!".{paddedNumber 6 m.microsecond}"
  s!"{m.day.text} {paddedNumber 2 m.hour}:{paddedNumber 2 m.minute}:{paddedNumber 2 m.second}" ++
    fraction ++ offsetText m.offset

/-- A distance in minutes as whole days and the seconds that follow. -/
def distanceText (minutes : Int) : String :=
  let days := minutes.fdiv 1440
  let seconds := minutes.fmod 1440 * 60
  let parts := (if days = 0 then [] else [s!"days={days}"]) ++
    (if seconds = 0 then [] else [s!"seconds={seconds}"])
  "datetime.timedelta(" ++ String.intercalate ", " parts ++ ")"

/-- The distance from universal time inside a list or a mapping. -/
def zoneText (minutes : Int) : String :=
  if minutes = 0 then "datetime.timezone.utc" else s!"datetime.timezone({distanceText minutes})"

/-- A moment inside a list or a mapping.  Seconds and their fraction are left out at the end when zero. -/
def nestedText (m : Moment) : String :=
  let tail :=
    if m.microsecond ≠ 0 then [m.second, m.microsecond]
    else if m.second ≠ 0 then [m.second] else []
  let numbers := [m.day.year, m.day.month, m.day.day, m.hour, m.minute] ++ tail
  let zone := match m.offset with
    | none => ""
    | some minutes => s!", tzinfo={zoneText minutes}"
  "datetime.datetime(" ++ String.intercalate ", " (numbers.map toString) ++ zone ++ ")"

end Moment

namespace Document

/-! ## Values -/

/-- A number as a value. -/
def ofNumber : Number → Document
  | .int value => .int value
  | .float value => .float value

/-- The digits of an integer, unless there are too many. -/
def intText? (i : Int) : Option Text :=
  if tenTo digitLimit ≤ i.natAbs then none else some (toString i)

/-- How a byte is written between the given quotes. -/
def byteText (quote : CodePoint) (b : UInt8) : List CodePoint :=
  let c := CodePoint.ofNat b.toNat
  if c = quote ∨ c = '\\' then ['\\', c]
  else if c = '\t' then ['\\', 't']
  else if c = '\n' then ['\\', 'n']
  else if c = '\r' then ['\\', 'r']
  else if 32 ≤ b.toNat && b.toNat < 127 then [c]
  else '\\' :: 'x' :: hexDigits 2 b.toNat

/-- Bytes between quotes. -/
def bytesText (bytes : List UInt8) : Text :=
  let quote := quoteFor (bytes.map fun b => .ofNat b.toNat)
  Text.ofList (.char 'b' :: quote :: bytes.flatMap (byteText quote) ++ [quote])

/-- The number that an integer is. -/
def integer? : Document → Option Int
  | .int value => some value
  | _ => none

/-- The numbers of a set that holds nothing but integers, in ascending order. -/
def ascending? (members : List Document) : Option (List Int) :=
  (members.mapM integer?).map (·.mergeSort (· ≤ ·))

/-- Texts between brackets, with commas between them. -/
def enclosed (opening closing : Text) (items : List Text) : Text :=
  opening ++ Text.intercalate ", " items ++ closing

mutual

/-- The text of a value inside a list or a mapping. -/
def nested? : Document → Option Text
  | .null => some "None"
  | .bool value => some (if value then "True" else "False")
  | .int value => intText? value
  | .float value => some (Decimal.text value)
  | .text value => some (quoted value)
  | .bytes value => some (bytesText value)
  | .date d => some (s!"datetime.date({d.year}, {d.month}, {d.day})" : String)
  | .moment m => some m.nestedText
  | .list items => (nestedItems? items).map (enclosed "[" "]")
  | .tuple [item] => (nested? item).map fun inner => "(" ++ inner ++ ",)"
  | .tuple items => (nestedItems? items).map (enclosed "(" ")")
  | .set [] => some "set()"
  | .set members =>
    let texts := match ascending? members with
      | some numbers => numbers.mapM intText?
      | none => nestedItems? members
    texts.map (enclosed "\x7b" "\x7d")
  | .map entries => (nestedEntries? entries).map (enclosed "\x7b" "\x7d")
  | .enclosing .list => some "[...]"
  | .enclosing .tuple => some "(...)"
  | .enclosing .map => some "\x7b...\x7d"

/-- The texts of the values of a list. -/
def nestedItems? : List Document → Option (List Text)
  | [] => some []
  | item :: rest =>
    match nested? item, nestedItems? rest with
    | some first, some others => some (first :: others)
    | _, _ => none

/-- The texts of the entries of a mapping. -/
def nestedEntries? : List (Document × Document) → Option (List Text)
  | [] => some []
  | (key, value) :: rest =>
    match nested? key, nested? value, nestedEntries? rest with
    | some k, some v, some others => some ((k ++ ": " ++ v) :: others)
    | _, _, _ => none

end

/-- The text of a value on its own. -/
def display? : Document → Option Text
  | .text value => some value
  | .date d => some d.text
  | .moment m => some m.text
  | other => nested? other

/-- Why a value has no text. -/
def displayError : Text :=
  s!"Exceeds the limit ({digitLimit} digits) for integer string conversion; " ++
    "use sys.set_int_max_str_digits() to increase the limit"

/-- The failure of a value that has no text. -/
def noText : Failure :=
  .badValue displayError

/-- The text of a value that is to be put into a text. -/
def displayed (value : Document) : Except Failure Text :=
  match value.display? with
  | some shown => .ok shown
  | none => .error noText

/-- The digits of an integer that is to be put into a text. -/
def intText (i : Int) : Except Failure Text :=
  match intText? i with
  | some digits => .ok digits
  | none => .error noText

/-- An integer on its own is its digits. -/
theorem displayed_int (i : Int) : displayed (.int i) = intText i := by
  have shown : display? (.int i) = intText? i := by
    unfold display?
    simp only [nested?]
  unfold displayed intText
  rw [shown]

end Document

end Conformance
