import Conformance.Failure

/-!
# Signatures

What is made of given values tells which values must be there, and which may be.  Values are given under names
or one after another; a value that is not taken, or one that is not there, is a failure.
-/

namespace Conformance

/-- The values that something is made of. -/
structure Signature where
  name : Text
  /-- The names of the values that must be given. -/
  required : List Text
  /-- The names of the values that may be given. -/
  optional : List Text
  deriving Repr, DecidableEq

namespace Signature

/-- The name of what is made, under which no value can be given. -/
def selfName : Text := "self"

/-- The signature of what makes the instances of a class. -/
def ofClass (className : Text) (required optional : List Text) : Signature :=
  ⟨className ++ ".__init__", required, optional⟩

/-- Whether a value is taken under a name. -/
def takes (s : Signature) (name : Text) : Bool :=
  (s.required ++ s.optional).contains name && name != selfName

/-- The first name under which no value is taken. -/
def refused? (s : Signature) (names : List Text) : Option Text :=
  names.find? fun name => !s.takes name

/-- The names of the values that must be given and are not. -/
def missing (s : Signature) (names : List Text) : List Text :=
  s.required.filter fun name => !names.contains name

/-- Names between quotes, as they are put one after another in a sentence. -/
def listed : List Text → Text
  | [] => ""
  | [only] => quote only
  | [first, last] => quote first ++ " and " ++ quote last
  | first :: rest => Text.intercalate ", " ((first :: rest).dropLast.map quote) ++
      ", and " ++ quote ((first :: rest).getLastD "")
where
  /-- A name between quotes. -/
  quote (name : Text) : Text := "'" ++ name ++ "'"

/-- The failure of a value under a name under which none is taken. -/
def refusal (s : Signature) (name : Text) : Failure :=
  .wrongKind (s.name ++ "() got " ++
    if name = selfName then "multiple values for argument '" ++ name ++ "'"
    else "an unexpected keyword argument '" ++ name ++ "'")

/-- The failure of values that are not there. -/
def lack (s : Signature) (names : List Text) : Failure :=
  let arguments := if names.length = 1 then "argument" else "arguments"
  .wrongKind (s.name ++ s!"() missing {names.length} required positional {arguments}: " ++ listed names)

/-- The failure of too many values. -/
def excess (s : Signature) (given : Nat) : Failure :=
  let most := s.required.length + s.optional.length
  let taken := if s.optional.isEmpty then s!"{most}" else s!"from {s.required.length} to {most}"
  let arguments := if s.optional.isEmpty && most = 1 then "argument" else "arguments"
  let verb := if given = 1 then "was" else "were"
  .wrongKind (s.name ++ s!"() takes {taken} positional {arguments} but {given} {verb} given")

/-- Refuse values under the given names, unless all are taken and none is missing.  Of several that are not
taken the first one is told. -/
def check (s : Signature) (names : List Text) : Except Failure Unit :=
  match s.refused? names with
  | some name => .error (s.refusal name)
  | none => if (s.missing names).isEmpty then .ok () else .error (s.lack (s.missing names))

/-- Refuse a number of values that are given one after another, unless it is one that is taken. -/
def checkCount (s : Signature) (given : Nat) : Except Failure Unit :=
  if s.required.length + s.optional.length < given then .error (s.excess given)
  else if (s.required.drop given).isEmpty then .ok ()
  else .error (s.lack (s.required.drop given))

theorem refused?_eq_none_iff {s : Signature} {names : List Text} :
    s.refused? names = none ↔ ∀ name ∈ names, s.takes name = true := by
  simp [refused?, List.find?_eq_none]

/-- Values are taken exactly if each of them is, and all that must be given are there. -/
theorem check_eq_ok_iff {s : Signature} {names : List Text} :
    s.check names = .ok () ↔ (∀ name ∈ names, s.takes name = true) ∧ ∀ name ∈ s.required, name ∈ names := by
  rw [← refused?_eq_none_iff]
  unfold check
  cases s.refused? names with
  | some name => simp
  | none => simp [missing, List.filter_eq_nil_iff]

end Signature

end Conformance
