import Std.Data.HashMap
import Conformance.Shell.Awk.Value

/-!
# Tables of values

A table keeps values under keys, which are texts or whole numbers.  A program that goes over all keys sees
them in the order in which the table holds them: in rows by a hash of the text, where a key that has been
used last stands in front.  A key that was only used as a number has its place in rows of numbers, and comes
into the others when they are first needed.
-/

namespace Conformance.Shell

/-- A key of a table. -/
inductive AwkKey
  | number (n : Int)
  | text (s : String)
  deriving Repr, DecidableEq

/-- The text of a key. -/
def AwkKey.name : AwkKey → String
  | .number n => toString n
  | .text s => s

/-! ## Rows -/

/-- The hash of a text. -/
def hashOf (text : String) : UInt32 :=
  text.foldl (fun h c => (h ^^^ c.val) * 16777619) 2166136261

/-- Take an item out of a row; nothing if it is not there. -/
def takeOut? {α : Type} (isSought : α → Bool) : List α → Option (α × List α)
  | [] => none
  | a :: rest =>
    if isSought a then some (a, rest) else (takeOut? isSought rest).map fun (b, rest) => (b, a :: rest)

/-- Taking an item out of a row leaves one item less. -/
theorem length_of_takeOut? {α : Type} {isSought : α → Bool} {row : List α} {a : α} {rest : List α}
    (h : takeOut? isSought row = some (a, rest)) : rest.length + 1 = row.length := by
  induction row generalizing rest with
  | nil => simp [takeOut?] at h
  | cons b row ih =>
    unfold takeOut? at h
    split at h
    · obtain ⟨rfl, rfl⟩ := Prod.mk.inj (Option.some.inj h)
      rfl
    · obtain ⟨⟨c, left⟩, hc, heq⟩ := Option.map_eq_some_iff.mp h
      obtain ⟨rfl, rfl⟩ := Prod.mk.inj heq
      simpa using ih hc

/-- A table with rows. -/
structure AwkRows where
  /-- The values under the texts of their keys. -/
  values : Std.HashMap String AwkValue
  /-- The rows of keys that have been used as numbers. -/
  numbers : Array (List Int)
  /-- The rows of keys with their hashes. -/
  names : Array (List (UInt32 × String))
  /-- Whether all keys stand in the rows of texts. -/
  isNamed : Bool

namespace AwkRows

/-- The number of rows of a table at its beginning. -/
def firstWidth : Nat := 64

/-- How many keys a row has on average before there are more rows. -/
def rowLimit : Nat := 12

/-- A table with a number of rows and no keys. -/
def empty (width : Nat) : AwkRows :=
  ⟨∅, Array.replicate width [], Array.replicate width [], false⟩

/-- The row of a number. -/
def placeOfNumber (r : AwkRows) (n : Int) : Nat :=
  (n.emod r.numbers.size).toNat

/-- The row of a text with a hash. -/
def placeOfName (r : AwkRows) (hash : UInt32) : Nat :=
  hash.toNat % r.names.size

/-- Put a key in front of the row of its number. -/
def withNumber (r : AwkRows) (n : Int) : AwkRows :=
  { r with numbers := r.numbers.modify (r.placeOfNumber n) (n :: ·) }

/-- Put a key in front of the row of its text. -/
def withName (r : AwkRows) (hash : UInt32) (name : String) : AwkRows :=
  { r with names := r.names.modify (r.placeOfName hash) ((hash, name) :: ·) }

/-- Twice as many rows: each one is shared out, in its order. -/
def doubled (r : AwkRows) : AwkRows :=
  let width := 2 * r.names.size
  let shareNumbers (isHigh : Bool) : Array (List Int) :=
    r.numbers.mapIdx fun i row => row.filter fun n => ((n.emod width).toNat != i) == isHigh
  let shareNames (isHigh : Bool) : Array (List (UInt32 × String)) :=
    r.names.mapIdx fun i row => row.filter fun (hash, _) => (hash.toNat % width != i) == isHigh
  { r with
    numbers := shareNumbers false ++ shareNumbers true
    names := shareNames false ++ shareNames true }

/-- Make room for one more key. -/
def extended (r : AwkRows) : AwkRows :=
  if r.names.size * rowLimit < r.values.size + 1 then r.doubled else r

/-- Put the keys that are numbers into the rows of texts, row by row. -/
def named (r : AwkRows) : AwkRows :=
  if r.isNamed then r
  else
    let keys := r.numbers.foldl (fun keys row => row.foldl (fun keys n => n :: keys) keys) []
    keys.reverse.foldl (fun r n => r.withName (hashOf (toString n)) (toString n)) { r with isNamed := true }

/-- Bring a text in front of its row, and say whether it is there; a new one comes there if it is wanted. -/
def reachName (create : Bool) (name : String) (r : AwkRows) : AwkRows × Bool :=
  let r := r.named
  let hash := hashOf name
  let place := r.placeOfName hash
  let row := r.names[place]?.getD []
  match takeOut? (fun (h, s) => h == hash && s == name) row with
  | some (entry, rest) => ({ r with names := r.names.setIfInBounds place (entry :: rest) }, true)
  | none =>
    if create then
      let r := r.extended.withName hash name
      ({ r with values := r.values.insert name .unset }, true)
    else (r, false)

/-- Bring a number in front of its row, and say whether it is there; a new one comes there if it is
wanted. -/
def reachNumber (create : Bool) (n : Int) (r : AwkRows) : AwkRows × Bool :=
  let place := r.placeOfNumber n
  let row := r.numbers[place]?.getD []
  match takeOut? (· == n) row with
  | some (n, rest) => ({ r with numbers := r.numbers.setIfInBounds place (n :: rest) }, true)
  | none =>
    if r.isNamed then
      let (r, isThere) := r.reachName create (toString n)
      (if isThere then r.withNumber n else r, isThere)
    else if create then
      let r := r.extended.withNumber n
      ({ r with values := r.values.insert (toString n) .unset }, true)
    else (r, false)

/-- Bring a key in front of its row, and say whether it is there; a new one comes there if it is wanted. -/
def reach (create : Bool) (key : AwkKey) (r : AwkRows) : AwkRows × Bool :=
  match key with
  | .number n => r.reachNumber create n
  | .text s => r.reachName create s

/-- A table without a key. -/
def without (key : AwkKey) (r : AwkRows) : AwkRows :=
  let (r, isThere) := r.reach false key
  if isThere then
    let name := key.name
    let hash := hashOf name
    let numbers := match key, name.toInt? with
      | .number n, _ => r.numbers.modify (r.placeOfNumber n) (·.filter (· != n))
      | .text _, some n =>
        if toString n == name then r.numbers.modify (r.placeOfNumber n) (·.filter (· != n)) else r.numbers
      | .text _, none => r.numbers
    let names := if r.isNamed then r.names.modify (r.placeOfName hash) (·.filter (·.2 != name)) else r.names
    { r with values := r.values.erase name, numbers := numbers, names := names }
  else r

/-- The number of rows that so many keys need. -/
def widthFor (count : Nat) : Nat → Nat → Nat
  | 0, width => width
  | fuel + 1, width => if width * rowLimit < count then widthFor count fuel (2 * width) else width

/-- The table whose keys are the numbers from one on. -/
def ofValues (values : Array AwkValue) : AwkRows :=
  let start := empty (widthFor values.size values.size firstWidth)
  values.zipIdx.foldl (fun r (v, i) =>
    let n := i + 1
    { r.withNumber n with values := r.values.insert (toString n) v }) start

end AwkRows

/-! ## Tables -/

/-- A table: one without keys, one whose keys are the numbers from one on, and one with rows. -/
inductive AwkTable
  | empty
  | list (values : Array AwkValue)
  | rows (r : AwkRows)

instance : Inhabited AwkTable := ⟨.empty⟩

namespace AwkTable

/-- How many keys a table has. -/
def size : AwkTable → Nat
  | .empty => 0
  | .list values => values.size
  | .rows r => r.values.size

/-- The table that holds the values of a list. -/
def ofList (values : List AwkValue) : AwkTable :=
  if values.isEmpty then .empty else .list values.toArray

/-- The rows of a table. -/
def toRows : AwkTable → AwkRows
  | .empty => .empty AwkRows.firstWidth
  | .list values => .ofValues values
  | .rows r => r

/-- The place of a key in a list of values. -/
def listPlace? (values : Array AwkValue) : AwkKey → Option Nat
  | .number n => if 1 ≤ n && n ≤ values.size then some (n - 1).toNat else none
  | .text _ => none

/-- Whether a key is not in a table for a reason that needs no look at rows. -/
def isPlainlyAbsent (t : AwkTable) (key : AwkKey) : Bool :=
  match t, key with
  | .empty, _ => true
  | .list values, .number _ => (listPlace? values key).isNone
  | _, _ => t.size == 0

/-- The value under a key, if there is one; looking for it changes the order of the keys. -/
def find? (key : AwkKey) (t : AwkTable) : AwkTable × Option AwkValue :=
  if t.isPlainlyAbsent key then (t, none)
  else
    match t with
    | .list values =>
      match listPlace? values key with
      | some place => (.list values, values[place]?)
      | none =>
        let (r, _) := (AwkRows.ofValues values).reach false key
        (.rows r, r.values[key.name]?)
    | t =>
      let (r, _) := t.toRows.reach false key
      let found := r.values[key.name]?
      (.rows r, found)

/-- The value under a key, which is there from now on. -/
def get (key : AwkKey) (t : AwkTable) : AwkTable × AwkValue :=
  match t with
  | .list values =>
    match listPlace? values key with
    | some place => (.list values, values[place]?.getD .unset)
    | none =>
      let (r, _) := (AwkRows.ofValues values).reach true key
      let found := r.values[key.name]?.getD .unset
      (.rows r, found)
  | t =>
    let (r, _) := t.toRows.reach true key
    let found := r.values[key.name]?.getD .unset
    (.rows r, found)

/-- Put a value under a key. -/
def put (key : AwkKey) (value : AwkValue) (t : AwkTable) : AwkTable :=
  match t with
  | .list values =>
    match listPlace? values key with
    | some place => .list (values.setIfInBounds place value)
    | none =>
      let (r, _) := (AwkRows.ofValues values).reach true key
      .rows { r with values := r.values.insert key.name value }
  | t =>
    let (r, _) := t.toRows.reach true key
    .rows { r with values := r.values.insert key.name value }

/-- The table that holds values under keys, which come into it in their order. -/
def ofPairs (pairs : List (AwkKey × AwkValue)) : AwkTable :=
  pairs.foldl (fun t (key, value) => t.put key value) .empty

/-- Take a key away. -/
def delete (key : AwkKey) (t : AwkTable) : AwkTable :=
  if t.isPlainlyAbsent key then t
  else
    let r := t.toRows.without key
    if r.values.isEmpty then .empty else .rows r

/-- The keys in their order; after this, all of them stand in the rows of texts. -/
def keys (t : AwkTable) : AwkTable × List String :=
  if t.size = 0 then (t, [])
  else
    let r := t.toRows.named
    (.rows r, (r.names.toList.flatten).map Prod.snd)

/-- Nothing is found in a table without keys. -/
@[simp]
theorem find?_empty (key : AwkKey) : find? key .empty = (.empty, none) :=
  rfl

/-- A list of values has as many keys as it has values. -/
theorem size_ofList (values : List AwkValue) : (ofList values).size = values.length := by
  cases values <;> rfl

end AwkTable

end Conformance.Shell
