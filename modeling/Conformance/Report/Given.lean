import Conformance.Document.Operand
import Conformance.Report.Terminal

/-!
# Values on a terminal

A time, a share or a message may be given as a value of any kind.  It is shown as the number or the text that
it counts as; a value that counts as none is a failure.
-/

namespace Conformance.Terminal

open Decimal

/-- The number that a value is shown as. -/
def shownNumber (value : Document) : Except Failure Number :=
  value.comparedTo ">=" "float"

/-- The colour of a share of cases that passed. -/
def rateColorOf (value : Document) : Except Failure Text := do
  match ← shownNumber value with
  | .int rate => pure (if 100 ≤ rate then "green" else if 80 ≤ rate then "yellow" else "red")
  | .float rate => pure (rateColor rate)

/-- A time in seconds, in a unit that suits it.  An integer that is too large for a double cannot be shown. -/
def durationTextOf (value : Document) : Except Failure Text := do
  match ← shownNumber value with
  | .int seconds =>
    let seconds ← double seconds
    pure (durationText seconds)
  | .float seconds => pure (durationText seconds)

/-- The failure of a value that is to be cut and is no text, nor a list that could be cut. -/
def uncut : Document → Failure
  | .list _ => .wrongKind "can only concatenate list (not \"str\") to list"
  | .tuple _ => .wrongKind "can only concatenate tuple (not \"str\") to tuple"
  | .bytes _ => .wrongKind "can't concat str to bytes"
  | .set _ => .wrongKind "'set' object is not subscriptable"
  | _ => .wrongKind "unhashable type: 'slice'"

/-- The failure of a length that no text can be cut to. -/
def noLength : Failure :=
  .wrongKind "slice indices must be integers or None or have an __index__ method"

/-- A value that is cut, with a mark at its end, if it has too many parts.  Only a text can be cut. -/
def truncateOf (value limit : Document) : Except Failure Document := do
  let size ← value.size
  match limit.number? with
  | none => throw (Document.unordered "<=" "int" limit.kind)
  | some (.int most) =>
    match value with
    | .text message => pure (.text (truncate most message))
    | other => if size ≤ most then pure other else throw (uncut other)
  | some (.float most) =>
    if floatOfNat size ≤ most then pure value
    else
      match value with
      | .map _ | .set _ => throw (uncut value)
      | _ => throw noLength

/-- A text is cut to a whole number of code points as every message is. -/
theorem truncateOf_text (message : Text) (most : Int) :
    truncateOf (.text message) (.int most) = .ok (.text (truncate most message)) :=
  rfl

end Conformance.Terminal
