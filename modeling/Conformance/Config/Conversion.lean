import Conformance.Decimal.Arithmetic
import Conformance.Document.Display
import Conformance.Failure

/-!
# Settings as values

A setting is read from any value that stands for what is asked for: a text from anything, a number from a
number or from its text, a list of texts from a list or from a single text.
-/

namespace Conformance.Config

open Decimal

/-- Why a value cannot be used as a setting. -/
inductive Problem
  /-- The value is neither a text nor a list. -/
  | notTexts (kind : Text)
  | unusable (message : Text)
  /-- The number has no counterpart of the kind that is asked for. -/
  | overflow (message : Text)
  deriving Repr, DecidableEq

/-- The problem of a configuration file as a failure. -/
def Problem.failure (file : Text) : Problem → Failure
  | .notTexts kind => .configuration ("Expected a list of strings, got " ++ kind)
  | .unusable message => .configuration ("Invalid value in " ++ file ++ ": " ++ message)
  | .overflow message => .overflow message

/-- The problem of a number without a counterpart.  What is no number at all is a wrong value. -/
def Problem.ofFault (fault : ArithmeticFault) : Problem :=
  if fault.isBadValue then .unusable fault.message else .overflow fault.message

/-- The name of the kind of a value with the group that it belongs to. -/
def longKind : Document → Text
  | .date _ => "datetime.date"
  | .moment _ => "datetime.datetime"
  | other => other.kind

/-- The text of a value. -/
def readText (value : Document) : Except Problem Text :=
  match value.display? with
  | some text => .ok text
  | none => .error (.unusable Document.displayError)

/-- The text of a value, where nothing, zero and what is empty stand for an empty text. -/
def readOptionalText (value : Document) : Except Problem Text :=
  if value.isTruthy then readText value else .ok ""

/-- The text of bytes that are to be read as a number.  Only ASCII can be part of a number. -/
def asciiText (bytes : List UInt8) : Text :=
  Text.ofList (bytes.map fun b => if b < 0x80 then Char.ofNat b.toNat else '?')

/-- The problem of a text that is not the number that is asked for. -/
def numberProblem (bytes : List UInt8) : ReadingError → Problem
  | .notInteger base _ =>
    let literal := (Document.bytesText (bytes.take shownLiteral)).toList.take shownLiteral
    .unusable (s!"invalid literal for int() with base {base}: " ++ (Text.ofList literal))
  | .notNumber _ => .unusable ("could not convert string to float: " ++ (Document.bytesText bytes))
  | other => .unusable other.message

/-- The integer that a value stands for.  A double is cut toward zero. -/
def readInt : Document → Except Problem Int
  | .int value => .ok value
  | .bool value => .ok (if value then 1 else 0)
  | .float value => (truncated value).mapError Problem.ofFault
  | .text value => (readInteger value).mapError fun e => .unusable e.message
  | .bytes value => (readInteger (asciiText value)).mapError (numberProblem value)
  | other => .error (.unusable
      ("int() argument must be a string, a bytes-like object or a real number, not " ++
        "'" ++ (longKind other) ++ "'"))

/-- The double that a value stands for. -/
def readFloat : Document → Except Problem Float
  | .int value => (double value).mapError Problem.ofFault
  | .bool value => .ok (if value then 1.0 else 0.0)
  | .float value => .ok value
  | .text value => (readNumber value).mapError fun e => .unusable e.message
  | .bytes value => (readNumber (asciiText value)).mapError (numberProblem value)
  | other => .error (.unusable
      ("float() argument must be a string or a real number, not '" ++ (longKind other) ++ "'"))

/-- The texts of values. -/
def readItems : List Document → Except Problem (List Text)
  | [] => .ok []
  | item :: rest => do
    let first ← readText item
    let others ← readItems rest
    pure (first :: others)

/-- The texts that a value stands for; without a value, the given ones. -/
def readTexts (usual : List Text) : Option Document → Except Problem (List Text)
  | none | some .null => .ok usual
  | some (.text value) => .ok [value]
  | some (.list items) | some (.tuple items) => readItems items
  | some other => .error (.notTexts other.kind)

/-- Whether a value switches something on. -/
def readSwitch : Document → Except Problem Bool
  | .bool value => .ok value
  | .int value => .ok (value == 1)
  | .float value => .ok (value == 1.0)
  | .text value => .ok ((["true", "1", "yes"] : List Text).contains value)
  | .set _ => .ok false
  | value =>
    if value.isKey then .ok false
    else .error (.unusable ("unhashable type: '" ++ value.kind ++ "'"))

@[simp]
theorem readTexts_none (usual : List Text) : readTexts usual none = .ok usual :=
  rfl

@[simp]
theorem readTexts_text (usual : List Text) (value : Text) :
    readTexts usual (some (.text value)) = .ok [value] :=
  rfl

end Conformance.Config
