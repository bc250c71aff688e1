import Conformance.Shell.Format

/-!
# Values of programs over records

A value is a number, a text, or a text from outside that counts as a number where it is written like one.
What is not set is both zero and the empty text.  Numbers become texts, and values are put into patterns, in
the ways of the program that runs such programs.
-/

namespace Conformance.Shell

/-- A value of a program over records. -/
inductive AwkValue
  | unset
  | number (x : Float)
  | text (s : String)
  /-- A text that came from outside. -/
  | given (s : String)
  deriving Repr, Inhabited

namespace AwkValue

/-! ## Numbers -/

/-- The number for a truth value. -/
def ofBool (holds : Bool) : AwkValue :=
  .number (if holds then 1 else 0)

/-- The number for a count. -/
def ofNat (n : Nat) : AwkValue :=
  .number (UInt64.ofNat n).toFloat

/-- The number that a text begins with, or zero. -/
def numberOf (text : String) : Float :=
  match Fraction.take? text.toList with
  | some (x, _) => x.toDouble
  | none => 0

/-- Whether a character is a blank around a number from outside. -/
def isBlank (c : Char) : Bool :=
  isSpace c && c != '\n'

/-- The number that a text from outside is written like. -/
def given? (text : String) : Option Float :=
  let body := text.toList.dropWhile isBlank
  let body := (body.reverse.dropWhile isBlank).reverse
  let mayEnd (c : Char) : Bool := c.isDigit || c == '.'
  let mayBegin (c : Char) : Bool := c.isDigit || "+-.".toList.contains c
  match body.head?, body.getLast?, Fraction.take? body with
  | some first, some last, some (x, []) => if mayBegin first && mayEnd last then some x.toDouble else none
  | _, _, _ => none

/-- A value as a number. -/
def toNumber : AwkValue → Float
  | .unset => 0
  | .number x => x
  | .text s | .given s => numberOf s

/-- What a value is where it matters whether it is a number. -/
def settled : AwkValue → AwkValue
  | .given s =>
    match given? s with
    | some x => .number x
    | none => .text s
  | v => v

/-- Whether a value counts as true. -/
def isTrue (v : AwkValue) : Bool :=
  match v.settled with
  | .unset => false
  | .number x => x != 0
  | .text s | .given s => !s.isEmpty

/-! ## Whole numbers -/

/-- The least number that has more than sixty-three bits. -/
def signedLimit : Float := 9223372036854775808

/-- The least number that has more than sixty-four bits. -/
def unsignedLimit : Float := 18446744073709551616

/-- The whole number that a number is, unless it has more than sixty-four bits. -/
def whole? (x : Float) : Option Int :=
  if x < 0 then
    let n := x.toInt64
    if n.toFloat == x then some n.toInt else none
  else
    let n := x.toUInt64
    if n.toFloat == x then some (n.toNat : Int) else none

/-- A number without its places, as a number of sixty-four bits. -/
def toInteger (x : Float) : Int :=
  if x.isNaN then leastNumber
  else if signedLimit ≤ x then greatestNumber
  else if x ≤ -signedLimit then -greatestNumber
  else x.toInt64.toInt

/-- A number without its places as it is written: one that is too great loses its sign. -/
def toShownInteger (x : Float) : Int :=
  if signedLimit ≤ x then (x.toUInt64.toNat : Int) else toInteger x

/-- A number without its places, as one of sixty-four bits that has no sign. -/
def toNatural (x : Float) : Nat :=
  if unsignedLimit ≤ x then 18446744073709551615
  else if signedLimit ≤ x then x.toUInt64.toNat
  else if x ≤ -unsignedLimit then 1
  else if x.isNaN || x < -signedLimit then 9223372036854775808
  else unsignedNumber x.toInt64.toInt

/-! ## Patterns -/

/-- Why a pattern cannot be filled. -/
inductive FillFault
  /-- There are too few values. -/
  | missing
  /-- A directive, which is counted, is not known. -/
  | improper (n : Nat)
  deriving Repr, DecidableEq

/-- What comes of filling a pattern: the parts of the text, the last one first, and what is wrong. -/
structure Filled where
  parts : List String
  fault : Option FillFault

/-- The text that has been made. -/
def Filled.text (f : Filled) : String :=
  String.join f.parts.reverse

/-- A number with decimal places in a field; one that is no number has a sign. -/
def fractionText (f : Field) (letter : Char) (x : Float) : String :=
  if x.isNaN then f.fill (if letter.isUpper then "-NAN" else "-nan") else f.double letter x

/-- A whole number in a field, of which only some bits may count. -/
def integerText (f : Field) (bits : Option Nat) (x : Float) : String :=
  let n := toShownInteger x
  match bits with
  | some 64 | none => f.integer n
  | some bits =>
    let top : Int := (1 <<< bits : Nat)
    let low := n.emod top
    f.integer (if top ≤ 2 * low then low - top else low)

/-- A value as a directive asks for, in a field; nothing if the directive is not known.  Texts are made of
numbers as is given. -/
def directiveText? (textOf : AwkValue → String) (f : Field) (bits : Option Nat) (letter : Char)
    (v : AwkValue) : Option String :=
  match letter, bits with
  | 's', none => some (f.text (textOf v))
  | 'c', none =>
    match v.settled with
    | .number x => some (f.fill (String.singleton (Char.ofNat ((toInteger x).emod 256).toNat)))
    | v =>
      match (textOf v).toList with
      | [] => some (f.fill "\x00")
      | c :: _ => some (f.text (String.singleton c))
  | 'd', bits | 'i', bits => some (integerText f bits v.toNumber)
  | 'o', bits | 'x', bits | 'X', bits | 'u', bits =>
    let base := match letter with
      | 'o' => 8
      | 'u' => 10
      | _ => 16
    some (f.natural base (letter == 'X') (toNatural v.toNumber % (1 <<< bits.getD 64)))
  | 'e', none | 'g', none | 'f', none | 'E', none | 'G', none => some (fractionText f letter v.toNumber)
  | _, _ => none

/-- A width or precision at the beginning of a pattern: digits, or a star that takes a value. -/
def takeExtent (pattern : List Char) (values : List AwkValue) : Option Int × List Char × List AwkValue :=
  match pattern, values with
  | '*' :: rest, v :: values => (some (toInteger v.toNumber), rest, values)
  | '*' :: rest, [] => (none, rest, [])
  | pattern, values =>
    let (n, rest) := takeNumber 10 pattern
    (if rest.length < pattern.length then some n else none, rest, values)

/-- How many bits of a whole number count, as letters say that stand in front of a directive, and what
follows them. -/
def takeBits : List Char → Option Nat × List Char
  | 'h' :: 'h' :: rest => (some 8, rest)
  | 'h' :: rest => (some 16, rest)
  | 'l' :: 'l' :: rest => (some 64, rest)
  | 'l' :: rest => (some 64, rest)
  | rest => (none, rest)

/-- Fill a pattern from a place on, where some directives have come before.  The number bounds how many
characters there are. -/
def fillFrom (textOf : AwkValue → String) :
    Nat → List Char → List AwkValue → Nat → List String → Filled
  | 0, _, _, _, done | _ + 1, [], _, _, done => ⟨done, none⟩
  | fuel + 1, '%' :: '%' :: rest, values, count, done => fillFrom textOf fuel rest values count ("%" :: done)
  | fuel + 1, '%' :: rest, values, count, done =>
    let flags := rest.takeWhile fun c => "-+ #0'".toList.contains c
    let f := (flags.filter (· != '\'')).foldl Field.flag Field.plain
    let starless := (rest.drop flags.length).head? != some '*' || !values.isEmpty
    let (width, after, values) := takeExtent (rest.drop flags.length) values
    let f := f.withWidth (width.getD 0)
    let (f, after, values) := match after with
      | '.' :: more =>
        let (precision, after, values) := takeExtent more values
        let n := precision.getD 0
        ({ f with precision := if n < 0 then none else some n.toNat }, after, values)
      | after => (f, after, values)
    match values with
    | [] => ⟨done, some .missing⟩
    | v :: values =>
      let (bits, after) := takeBits after
      match after with
      | [] => ⟨done, some (.improper (count + 1))⟩
      | letter :: after =>
        if !starless then ⟨done, some .missing⟩
        else
          match directiveText? textOf f bits letter v with
          | some shown => fillFrom textOf fuel after values (count + 1) (shown :: done)
          | none => ⟨done, some (.improper (count + 1))⟩
  | fuel + 1, rest, values, count, done =>
    let plain := rest.takeWhile (· != '%')
    fillFrom textOf fuel (rest.drop plain.length) values count (String.ofList plain :: done)

/-- Fill a pattern with values. -/
def fillPattern (textOf : AwkValue → String) (pattern : String) (values : List AwkValue) : Filled :=
  fillFrom textOf (pattern.length + 1) pattern.toList values 0 []

/-! ## Texts -/

/-- The pattern for numbers unless there is another one. -/
def usualPattern : String := "%.6g"

/-- A number as a text, with a pattern for those that are not whole. -/
def numberText (pattern : String) (x : Float) : String :=
  match whole? x with
  | some n => toString n
  | none =>
    let plainly (x : Float) : String := fractionText { Field.plain with precision := some 6 } 'g' x
    if pattern == usualPattern then plainly x
    else
      let textOf : AwkValue → String
        | .unset => ""
        | .number x => plainly x
        | .text s | .given s => s
      (fillPattern textOf pattern [.number x]).text

/-- A value as a text, with a pattern for numbers that are not whole. -/
def toText (pattern : String) : AwkValue → String
  | .unset => ""
  | .number x => numberText pattern x
  | .text s | .given s => s

/-- What is not set is the empty text. -/
@[simp]
theorem toText_unset (pattern : String) : toText pattern .unset = "" :=
  rfl

/-- A text stays what it is. -/
@[simp]
theorem toText_text (pattern s : String) : toText pattern (.text s) = s :=
  rfl

/-! ## Comparisons -/

/-- How two numbers compare; those that do not compare count as equal. -/
def compareNumbers (x y : Float) : Ordering :=
  if x < y then .lt else if y < x then .gt else .eq

/-- How two values compare: as numbers if both can be, and as texts otherwise. -/
def compareWith (pattern : String) (a b : AwkValue) : Ordering :=
  match a.settled, b.settled with
  | .unset, .unset => .eq
  | .unset, .number _ | .number _, .unset | .number _, .number _ =>
    compareNumbers a.settled.toNumber b.settled.toNumber
  | _, _ => compareOfLessAndEq (a.toText pattern) (b.toText pattern)

end AwkValue

end Conformance.Shell
