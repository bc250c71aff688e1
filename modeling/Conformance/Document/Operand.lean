import Conformance.Document.Display

/-!
# Values of any kind

What is asked of a value is not there for every kind of value.  The operations here take a value of any kind:
they give what is asked for, or the failure that says that values of this kind do not have it.
-/

namespace Conformance.Document

open Decimal

/-- The failure of a value that does not have what is asked of it. -/
def lacking (value : Document) (name : Text) : Failure :=
  .lacking value.kind name

/-! ## Numbers -/

/-- The number that a value counts as. -/
def number? : Document → Option Number
  | .int value => some (.int value)
  | .bool value => some (.int (if value then 1 else 0))
  | .float value => some (.float value)
  | _ => none

/-- The failure of a comparison of two kinds that have no order between them. -/
def unordered (sign left right : Text) : Failure :=
  .wrongKind ("'" ++ sign ++ "' not supported between instances of '" ++ left ++ "' and '" ++ right ++ "'")

/-- The number that stands to the left of a sign and a number of the given kind. -/
def comparedTo (value : Document) (sign kind : Text) : Except Failure Number :=
  match value.number? with
  | some number => .ok number
  | none => .error (unordered sign value.kind kind)

/-- The number that a value counts as when it is compared with zero. -/
def asNumber (value : Document) : Except Failure Number :=
  value.comparedTo "<=" "int"

/-! ## Parts -/

/-- The parts of a value, one after another: items, members, keys, or the code points of a text. -/
def parts : Document → Except Failure (List Document)
  | .text value => .ok (value.toList.map fun c => .text (.ofList [c]))
  | .list items | .tuple items | .set items => .ok items
  | .map entries => .ok (entries.map (·.1))
  | other => .error (.wrongKind ("'" ++ other.kind ++ "' object is not iterable"))

/-- The number of parts of a value. -/
def size (value : Document) : Except Failure Nat :=
  match value with
  | .bytes octets => .ok octets.length
  | _ => (value.parts.map List.length).mapError fun _ =>
    .wrongKind ("object of type '" ++ value.kind ++ "' has no len()")

/-! ## Names -/

/-- What a value stands for among the members of a kind that are known by name. -/
def oneOf {α : Type} (kind : Text) (ofText? : Text → Option α) (value : Document) : Except Failure α :=
  match value with
  | .text name =>
    match ofText? name with
    | some found => .ok found
    | none => .error (.badValue (Text.quoted name ++ " is not a valid " ++ kind))
  | other => .error (.badValue (other.nested?.getD "" ++ " is not a valid " ++ kind))

@[simp]
theorem asNumber_int (n : Int) : asNumber (.int n) = .ok (.int n) :=
  rfl

@[simp]
theorem size_list (items : List Document) : size (.list items) = .ok items.length :=
  rfl

/-- A name that is known is read as what it stands for. -/
theorem oneOf_text {α : Type} {kind name : Text} {ofText? : Text → Option α} {found : α}
    (h : ofText? name = some found) : oneOf kind ofText? (.text name) = .ok found := by
  simp only [oneOf, h]

/-! ## What stands under the names of a value

A value of a scalar or a collection has nothing under a name but what every value of its kind has there: an
operation, or, for a number, a number that it is made of.  Neither can be replaced. -/

/-- What every value of a kind has under a name. -/
inductive Member
  /-- A number that the value is made of. -/
  | part (value : Document)
  /-- Something that can be done with the value. -/
  | operation

namespace Member

/-- What can be asked of a text. -/
def questions : List Text :=
  ["count", "endswith", "find", "index", "isalnum", "isalpha", "isascii", "isdecimal", "isdigit",
    "isidentifier", "islower", "isnumeric", "isprintable", "isspace", "istitle", "isupper", "rfind",
    "rindex", "startswith"]

/-- What can be made of a text. -/
def changes : List Text :=
  ["capitalize", "casefold", "center", "encode", "expandtabs", "format", "format_map", "join", "ljust",
    "lower", "lstrip", "maketrans", "partition", "removeprefix", "removesuffix", "replace", "rjust",
    "rpartition", "rsplit", "rstrip", "split", "splitlines", "strip", "swapcase", "title", "translate",
    "upper", "zfill"]

/-- What can be done with a text. -/
def ofTexts : List Text :=
  questions ++ changes

/-- What can be done with a list. -/
def ofLists : List Text :=
  ["append", "clear", "copy", "count", "extend", "index", "insert", "pop", "remove", "reverse", "sort"]

/-- What can be done with a mapping. -/
def ofMaps : List Text :=
  ["clear", "copy", "fromkeys", "get", "items", "keys", "pop", "popitem", "setdefault", "update", "values"]

/-- What can be done with an integer. -/
def ofIntegers : List Text :=
  ["as_integer_ratio", "bit_count", "bit_length", "conjugate", "from_bytes", "to_bytes"]

/-- What can be done with a double. -/
def ofDoubles : List Text :=
  ["as_integer_ratio", "conjugate", "fromhex", "hex", "is_integer"]

/-- The operation with a name, if it is one of the given ones. -/
def operation? (known : List Text) (name : Text) : Option Member :=
  if known.contains name then some .operation else none

/-- What an integer has under a name. -/
def ofInteger? (value : Int) (name : Text) : Option Member :=
  if (["real", "numerator"] : List Text).contains name then some (.part (.int value))
  else if name == "imag" then some (.part (.int 0))
  else if name == "denominator" then some (.part (.int 1))
  else operation? ofIntegers name

end Member

/-- What a value has under a name. -/
def member? (value : Document) (name : Text) : Option Member :=
  match value with
  | .text _ => Member.operation? Member.ofTexts name
  | .list _ => Member.operation? Member.ofLists name
  | .map _ => Member.operation? Member.ofMaps name
  | .int n => Member.ofInteger? n name
  | .bool b => Member.ofInteger? (if b then 1 else 0) name
  | .float x =>
    if name == "real" then some (.part (.float x))
    else if name == "imag" then some (.part (.float 0.0))
    else Member.operation? Member.ofDoubles name
  | _ => none

/-- The failure of what cannot be replaced under a name. -/
def irreplaceable (value : Document) (name : Text) : Failure :=
  match value.member? name with
  | none => value.lacking name
  | some .operation => .fixed value.kind name
  | some (.part number) => .unwritable number.kind name

/-- Nothing stands under a name of no value. -/
@[simp]
theorem member?_null (name : Text) : member? .null name = none :=
  rfl

end Conformance.Document
