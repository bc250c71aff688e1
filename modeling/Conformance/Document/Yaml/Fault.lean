import Conformance.Decimal.Reading

/-!
# Faults of a YAML text

Why a text gives no document.  A text that is no YAML, or holds a tag without a meaning, is malformed; an
escape that names no character, a scalar that its tag does not fit, and collections that are too deep are
faults of their own.
-/

namespace Conformance.Yaml

open Decimal Text

/-- Why a text gives no document. -/
inductive Fault
  /-- The text is no YAML, or a node of it stands for no value. -/
  | malformed
  /-- An escape names no character. -/
  | escape (code : Nat)
  /-- The text of a scalar or of a version is no integer. -/
  | integer (error : ReadingError)
  /-- The text of a scalar is no number. -/
  | number (error : ReadingError)
  /-- A place of a number in base sixty is beyond the largest double. -/
  | place
  /-- There is nothing in the text of a number but low lines. -/
  | empty
  /-- The text is no truth word. -/
  | truthWord (text : Text)
  /-- The text names no day and no moment. -/
  | timestamp
  /-- A mapping stands where the text of a day or moment is read. -/
  | timestampMapping
  /-- A part of a day or moment is out of range. -/
  | calendar (problem : Text)
  /-- Collections stand in each other too deeply. -/
  | tooDeep
  /-- A mapping is among the values of itself. -/
  | endless
  deriving Repr, DecidableEq

namespace Fault

/-- The largest number that an escape can name at all. -/
def largestEscape : Nat := 0x7fffffff

/-- The name of the kind of a fault. -/
def typeName : Fault → Text
  | .malformed => "YAMLError"
  | .escape code => if largestEscape < code then "OverflowError" else "ValueError"
  | .integer _ | .number _ | .calendar _ => "ValueError"
  | .place => "OverflowError"
  | .empty => "IndexError"
  | .truthWord _ => "KeyError"
  | .timestamp => "AttributeError"
  | .timestampMapping => "TypeError"
  | .tooDeep | .endless => "RecursionError"

/-- The message of a fault. -/
def message : Fault → Text
  | .malformed => "not readable"
  | .escape code =>
    if largestEscape < code then "Python int too large to convert to C int"
    else "chr() arg not in range(0x110000)"
  | .integer error | .number error => error.message
  | .place => "int too large to convert to float"
  | .empty => "string index out of range"
  | .truthWord text => quoted text
  | .timestamp => "'NoneType' object has no attribute 'groupdict'"
  | .timestampMapping => "expected string or bytes-like object, got 'list'"
  | .calendar problem => problem
  | .tooDeep => "maximum recursion depth exceeded"
  | .endless => "maximum recursion depth exceeded while calling a Python object"

/-- Whether a fault comes from running out of depth. -/
def isExhausted : Fault → Bool
  | .tooDeep | .endless => true
  | _ => false

end Fault

/-- What is read, if it is there at all; a text without it is malformed. -/
def orMalformed {α : Type} : Option α → Except Fault α
  | some value => .ok value
  | none => .error .malformed

end Conformance.Yaml
