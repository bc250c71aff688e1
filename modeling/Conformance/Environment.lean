import Conformance.Text.Utf8

/-!
# Environments

The variables that programs are given.
-/

namespace Conformance

/-- The variables of an environment. -/
abbrev Environment := List (Text × Text)

namespace Environment

/-- The value of a variable. -/
def get? (name : Text) : Environment → Option Text
  | [] => none
  | (other, value) :: rest => if other == name then some value else get? name rest

/-- Set a variable. -/
def put (name value : Text) : Environment → Environment
  | [] => [(name, value)]
  | (other, old) :: rest =>
    if other == name then (other, value) :: rest else (other, old) :: put name value rest

/-- A variable as programs read it back. -/
def asRead : Text × Text → Text × Text
  | (name, value) => (Text.asName name, Text.asName value)

/-- Set variables, one after another, as programs read them back. -/
def putAll (e : Environment) (entries : List (Text × Text)) : Environment :=
  (entries.map asRead).foldl (fun e (name, value) => put name value e) e

@[simp]
theorem get?_put_self (name value : Text) (e : Environment) :
    get? name (put name value e) = some value := by
  induction e with
  | nil => simp [put, get?]
  | cons entry rest ih =>
    rcases entry with ⟨other, old⟩
    by_cases h : other = name <;> simp [put, get?, h, ih]

end Environment

end Conformance
