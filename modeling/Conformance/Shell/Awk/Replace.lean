import Conformance.Shell.Awk.Value
import Conformance.Shell.Awk.Pattern

/-!
# Parts of texts in programs over records

The part of a text between places, the place of one text in another, and texts in which matches are replaced.
-/

namespace Conformance.Shell

/-! ## Parts and places -/

/-- A number without its places, of which thirty-two bits are kept. -/
def toShortInteger (x : Float) : Int :=
  (AwkValue.toInteger x).bmod 4294967296

/-- The part of a text from a place on, of a length if one is given; places in front of the first one make it
longer. -/
def stretchOf (text : String) (start : Float) (length : Option Float) : String :=
  let start := toShortInteger start
  let length := (length.map toShortInteger).getD text.length
  let length := if start < 1 then (length - start).bmod 4294967296 else length
  String.ofList ((text.toList.drop (start - 1).toNat).take length.toNat)

/-- The place of a text in a list of characters, counted from a number on; zero if it is not there. -/
def placeIn (sought : List Char) : Nat → List Char → Nat
  | n, [] => if sought.isEmpty then n else 0
  | n, c :: rest => if sought.isPrefixOf (c :: rest) then n else placeIn sought (n + 1) rest

/-- The place of a text in another one, counted from one on; zero if it is not there. -/
def indexOf (text sought : String) : Nat :=
  if text.isEmpty && !sought.isEmpty then 0 else placeIn sought.toList 1 text.toList

/-- The empty text is found at the first place. -/
theorem placeIn_nil (n : Nat) (text : List Char) : placeIn [] n text = n := by
  cases text <;> rfl

/-! ## Replacing -/

/-- The pieces of what is put in the place of a match, where nothing stands for the match itself.  Backslashes
in front of an ampersand take its meaning away, or that of one another; the number is that of those which
have come. -/
def replacementPieces : Nat → List Char → List (Option Char)
  | slashes, '\\' :: rest => replacementPieces (slashes + 1) rest
  | slashes, '&' :: rest =>
    List.replicate (slashes / 2) (some '\\') ++
      (if slashes % 2 = 1 then some '&' else none) :: replacementPieces 0 rest
  | slashes, c :: rest => List.replicate slashes (some '\\') ++ some c :: replacementPieces 0 rest
  | slashes, [] => List.replicate slashes (some '\\')

/-- What pieces make of a match. -/
def madeOf (pieces : List (Option Char)) (found : List Char) : List Char :=
  pieces.flatMap fun
    | some c => [c]
    | none => found

/-- Replace matches from a place on.  An empty match right behind another one does not count.  The answer has
what comes of the text, and how many matches there were; the number bounds how many are tried. -/
def replaceMatches (e : Regular) (s : Regular.Subject) (isGlobal : Bool) (pieces : List (Option Char)) :
    Nat → Nat → Option Nat → List Char → Nat → List Char × Nat
  | 0, place, _, done, count => (done.reverse ++ (s.text.extract place s.text.size).toList, count)
  | fuel + 1, place, last, done, count =>
    match e.find? s place with
    | none => (done.reverse ++ (s.text.extract place s.text.size).toList, count)
    | some (start, spot) =>
      let front := (s.text.extract place start).toList.reverse ++ done
      let isRepeated := spot.place = start && last == some start
      let found := (s.text.extract start spot.place).toList
      let front := if isRepeated then front else (madeOf pieces found).reverse ++ front
      let count := if isRepeated then count else count + 1
      if !isGlobal then (front.reverse ++ (s.text.extract spot.place s.text.size).toList, count)
      else if spot.place = start then
        match s.text[start]? with
        | some c => replaceMatches e s isGlobal pieces fuel (start + 1) (some start) (c :: front) count
        | none => (front.reverse, count)
      else replaceMatches e s isGlobal pieces fuel spot.place (some spot.place) front count

/-- Replace the first match in a text or all of them; the answer has how many there were. -/
def replaceIn (e : Regular) (isGlobal : Bool) (replacement text : String) : String × Nat :=
  let pieces := replacementPieces 0 replacement.toList
  let (done, count) := replaceMatches e (AwkPattern.subject text) isGlobal pieces (text.length + 2) 0 none [] 0
  (String.ofList done, count)

/-! ## Numbers -/

/-- What is left of a number when it is divided by another one; it has the sign of the first. -/
def remainderOf (x y : Float) : Float :=
  match Decimal.Parts.ofFloat x, Decimal.Parts.ofFloat y with
  | .finite negative m p, .finite _ n q =>
    if n = 0 then Decimal.notANumber
    else
      let low := min p q
      let left := m * Decimal.twoTo (p - low).toNat % (n * Decimal.twoTo (q - low).toNat)
      let (num, den) := Decimal.scaled left low
      Decimal.nearest negative num den
  | .finite .., .infinite _ => x
  | _, _ => Decimal.notANumber

/-- A number without its places. -/
def truncated (x : Float) : Float :=
  if x < 0 then x.ceil else x.floor

/-- The point in time that numbers of a text name, in seconds since the start of 1970. -/
def madeTime? (text : String) : Option (List Int) :=
  let numbers := (text.toList.splitBy fun a b => isSpace a == isSpace b).filter fun w => !(w.all isSpace)
  let read := numbers.map fun w => (Fraction.takeSigned w).map Prod.fst
  if read.length < 6 || read.any Option.isNone then none else some (read.filterMap id)

end Conformance.Shell
