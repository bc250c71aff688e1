import Conformance.Decimal.Binary64
import Conformance.Failure

/-!
# Arithmetic that can fail

An integer becomes a double only if it is not too large for one, and so does the quotient of two integers,
however large these are; a double becomes an integer only if it is finite; and nothing is divided by zero.
What is computed from doubles alone may become infinite without a fault.
-/

namespace Conformance.Decimal

/-- Why there is no double for what is computed. -/
inductive ArithmeticFault
  | integerTooLarge
  | quotientTooLarge
  | zeroDivisor
  /-- Infinity has no integer near it. -/
  | infinite
  /-- What is no number has no integer near it. -/
  | notNumber
  deriving Repr, DecidableEq

namespace ArithmeticFault

/-- The name of the kind of failure that a fault is. -/
def typeName : ArithmeticFault → String
  | .integerTooLarge | .quotientTooLarge => "OverflowError"
  | .zeroDivisor => "ZeroDivisionError"
  | .infinite => "OverflowError"
  | .notNumber => "ValueError"

/-- The message about a fault. -/
def message : ArithmeticFault → String
  | .integerTooLarge => "int too large to convert to float"
  | .quotientTooLarge => "integer division result too large for a float"
  | .zeroDivisor => "float division by zero"
  | .infinite => "cannot convert float infinity to integer"
  | .notNumber => "cannot convert float NaN to integer"

/-- Whether a value was wrong, and not only too large. -/
def isBadValue (fault : ArithmeticFault) : Bool :=
  fault == .notNumber

/-- A fault as a failure. -/
def failure (fault : ArithmeticFault) : Failure :=
  ⟨if fault.isBadValue then .badValue else .plain, fault.typeName, fault.message⟩

end ArithmeticFault

/-- A computation that may end with a fault. -/
abbrev Computed := Except ArithmeticFault

instance : MonadLift Computed (Except Failure) :=
  ⟨Except.mapError ArithmeticFault.failure⟩

/-- The double nearest to an integer. -/
def double (i : Int) : Computed Float :=
  match ofInt? i with
  | some x => .ok x
  | none => .error .integerTooLarge

/-- The double nearest to the quotient of two integers, of which the second is not zero. -/
def quotient (num den : Int) : Computed Float :=
  match quotient? num den with
  | some x => .ok x
  | none => .error .quotientTooLarge

/-- An integer divided by a double. -/
def dividedBy (num : Int) (den : Float) : Computed Float := do
  let x ← double num
  if den == 0.0 then .error .zeroDivisor else .ok (x / den)

/-- An integer that is made of a double, if there is one. -/
def integerOr (x : Float) : Option Int → Computed Int
  | some i => .ok i
  | none => .error (if x.isNaN then .notNumber else .infinite)

/-- A double cut toward zero. -/
def truncated (x : Float) : Computed Int :=
  integerOr x (truncate? x)

/-- The integer nearest to a double. -/
def rounded (x : Float) : Computed Int :=
  integerOr x (round? x)

/-- An integer has a double unless it is too large for one. -/
theorem double_eq_ok_iff (i : Int) (x : Float) : double i = .ok x ↔ ofInt? i = some x := by
  unfold double
  cases ofInt? i <;> simp

end Conformance.Decimal
