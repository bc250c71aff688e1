import Conformance.Decimal.Binary64
import Conformance.Text.Basic

/-!
# Documents

The values that configuration files, reports and events are made of: scalars, lists and mappings,
nested to any depth.  A mapping keeps the order in which its keys were first given.
-/

namespace Conformance

/-- A calendar day. -/
structure Day where
  year : Nat
  month : Nat
  day : Nat
  deriving Repr, DecidableEq

/-- The number of a day, counted on from day to day.  Years start in March, so that a leap day is the last of
its year. -/
def Day.number (d : Day) : Nat :=
  let year := if d.month ≤ 2 then d.year - 1 else d.year
  let fromMarch := (d.month + 9) % 12
  365 * year + year / 4 - year / 100 + year / 400 + (153 * fromMarch + 2) / 5 + d.day

/-- A moment: a day, a time of day and, if it is known, the distance from universal time. -/
structure Moment where
  day : Day
  hour : Nat
  minute : Nat
  second : Nat
  microsecond : Nat
  /-- Minutes ahead of universal time. -/
  offset : Option Int
  deriving Repr, DecidableEq

/-- The microsecond of a moment in universal time, if the distance from it is known. -/
def Moment.instant? (m : Moment) : Option Int :=
  m.offset.map fun offset =>
    let minutes : Int := (((m.day.number * 24 + m.hour) * 60 + m.minute : Nat) : Int) - offset
    (minutes * 60 + m.second) * 1000000 + m.microsecond

/-- The collections that can stand inside themselves. -/
inductive Enclosure
  | list
  | tuple
  | map
  deriving Repr, DecidableEq

/-- A value of a document. -/
inductive Document
  | null
  | bool (value : Bool)
  | int (value : Int)
  | float (value : Float)
  | text (value : Text)
  | bytes (value : List UInt8)
  | date (value : Day)
  | moment (value : Moment)
  | list (items : List Document)
  /-- A fixed sequence, as the members of a list of pairs are. -/
  | tuple (items : List Document)
  /-- Members without values, in the order in which they were given. -/
  | set (members : List Document)
  | map (entries : List (Document × Document))
  /-- A collection that this place is inside of, and that is not written out again here. -/
  | enclosing (collection : Enclosure)
  deriving Repr, Inhabited

namespace Document

/-- The name of the kind of a value. -/
def kind : Document → Text
  | .null => "NoneType"
  | .bool _ => "bool"
  | .int _ => "int"
  | .float _ => "float"
  | .text _ => "str"
  | .bytes _ => "bytes"
  | .date _ => "date"
  | .moment _ => "datetime"
  | .list _ => "list"
  | .tuple _ => "tuple"
  | .set _ => "set"
  | .map _ => "dict"
  | .enclosing .list => "list"
  | .enclosing .tuple => "tuple"
  | .enclosing .map => "dict"

/-- Whether a value can be the key of a mapping: it holds no list, set or mapping. -/
def isKey : Document → Bool
  | .list _ | .set _ | .map _ | .enclosing _ => false
  | .tuple items => items.attach.all fun ⟨item, _⟩ => item.isKey
  | _ => true

/-- Whether a value counts as true. -/
def isTruthy : Document → Bool
  | .null => false
  | .bool value => value
  | .int value => value != 0
  | .float value => value != 0.0
  | .text value => value != ""
  | .bytes value => !value.isEmpty
  | .list items | .tuple items | .set items => !items.isEmpty
  | .map entries => !entries.isEmpty
  | .date _ | .moment _ | .enclosing _ => true

/-! ## Mappings -/

/-- The value of a key among entries, by a test on keys. -/
def lookupBy (test : Document → Bool) : List (Document × Document) → Option Document
  | [] => none
  | (key, value) :: rest => if test key then some value else lookupBy test rest

/-- Whether a value is the given text. -/
def isText (name : Text) : Document → Bool
  | .text value => value == name
  | _ => false

/-- The value of a text key in a mapping. -/
def get? (name : Text) : Document → Option Document
  | .map entries => lookupBy (isText name) entries
  | _ => none

/-- Give a key a value.  A key that is there already keeps its place. -/
def assign {κ ν : Type} (same : κ → κ → Bool) (key : κ) (value : ν) :
    List (κ × ν) → List (κ × ν)
  | [] => [(key, value)]
  | (other, old) :: rest =>
    if same other key then (other, value) :: rest
    else (other, old) :: assign same key value rest

/-- Give a text key a value.  A key that is there already keeps its place. -/
def put (name : Text) (value : Document) (entries : List (Document × Document)) :
    List (Document × Document) :=
  assign (fun key _ => key.isText name) (.text name) value entries

/-- A mapping with text keys. -/
def record (entries : List (Text × Document)) : Document :=
  .map (entries.map fun (name, value) => (.text name, value))

/-- A list of texts. -/
def texts (items : List Text) : Document :=
  .list (items.map .text)

/-- A text or nothing. -/
def ofText? : Option Text → Document
  | some value => .text value
  | none => .null

/-- A natural number. -/
def ofNat (n : Nat) : Document :=
  .int n

@[simp]
theorem get?_record_cons_self (name : Text) (value : Document)
    (rest : List (Text × Document)) :
    (record ((name, value) :: rest)).get? name = some value := by
  simp [record, get?, lookupBy, isText]

end Document

end Conformance

namespace Conformance.Document

/-! ## Equality of keys

Two keys of a mapping are the same when their values are equal.  Numbers are equal across kinds: a truth
value counts as zero or one, and a double equals the integer that it stands for.  Moments whose distance
from universal time is known are equal when they fall together. -/

open Decimal

/-- A number as a fraction of an integer and a power of two. -/
def fraction? : Document → Option (Int × Nat)
  | .bool value => some (if value then 1 else 0, 1)
  | .int value => some (value, 1)
  | .float value =>
    match Parts.ofFloat value with
    | .finite negative m q =>
      let (num, den) := scaled m q
      some (if negative then -(num : Int) else num, den)
    | _ => none
  | _ => none

/-- Whether two moments are equal. -/
def sameMoment (a b : Moment) : Bool :=
  match a.instant?, b.instant? with
  | some x, some y => x == y
  | none, none => a == b
  | _, _ => false

/-- Whether two scalars are equal as keys. -/
def sameScalar (a b : Document) : Bool :=
  match fraction? a, fraction? b with
  | some (x, n), some (y, d) => x * d == y * n
  | some _, none | none, some _ => false
  | none, none =>
    match a, b with
    | .null, .null => true
    | .float x, .float y => x == y
    | .text x, .text y => x == y
    | .bytes x, .bytes y => x == y
    | .date x, .date y => x == y
    | .moment x, .moment y => sameMoment x y
    | _, _ => false

mutual

/-- Whether two values are the same key. -/
def sameKey : Document → Document → Bool
  | .tuple as, .tuple bs => sameKeys as bs
  | a, b => sameScalar a b
termination_by structural a => a

/-- Whether the members of two tuples are the same keys. -/
def sameKeys : List Document → List Document → Bool
  | [], [] => true
  | a :: as, b :: bs => sameKey a b && sameKeys as bs
  | _, _ => false
termination_by structural as => as

end

end Conformance.Document
