import Conformance.Decimal.Notation
import Conformance.Shell.Octets
import Conformance.Decimal.Binary64
import Conformance.Shell.Arithmetic

/-!
# Formatted output

Escapes in texts, and patterns with directives that arguments are put into: texts, characters, whole numbers
in several bases and numbers with decimal places, each in a field with a width and a precision.
-/

namespace Conformance.Shell

/-! ## Numbers with places

A number that a text begins with, in any of the ways to write one: with a sign, decimal places and a power of
ten, in base sixteen with a power of two, or as a word.
-/

/-- A number that may have places, or be none that can be counted with. -/
inductive Fraction
  | undefined (negative : Bool)
  | infinite (negative : Bool)
  | finite (negative : Bool) (num den : Nat)
  deriving Repr, DecidableEq

namespace Fraction

/-- A whole number with a sign in front, at the beginning of a text. -/
def takeSigned (text : List Char) : Option (Int × List Char) :=
  let (negative, digits) := match text with
    | '-' :: more => (true, more)
    | '+' :: more => (false, more)
    | more => (false, more)
  let (n, after) := takeNumber 10 digits
  if after.length < digits.length then some (if negative then -(n : Int) else n, after) else none

/-- The power behind one of two letters at the beginning of a text, and what follows it. -/
def takePower (marks : List Char) (text : List Char) : Int × List Char :=
  match text with
  | c :: rest => if marks.contains c then (takeSigned rest).getD (0, text) else (0, text)
  | [] => (0, [])

/-- The greatest power that is counted with. -/
def greatestPower : Nat := 20000

/-- The digits in a base at the beginning of a text, with how many of them are places, and what follows. -/
def takeDigits? (base : Nat) (text : List Char) : Option (Nat × Nat × List Char) :=
  let isDigit (c : Char) : Bool := (digitOf? base c).isSome
  let whole := text.takeWhile isDigit
  let (places, rest) := match text.drop whole.length with
    | '.' :: more => (more.takeWhile isDigit, more.dropWhile isDigit)
    | rest => ([], rest)
  if whole.isEmpty && places.isEmpty then none
  else some ((takeNumber base (whole ++ places)).1, places.length, rest)

/-- The number that a text begins with which has no sign, and what follows it. -/
def takeBare? (negative : Bool) (text : List Char) : Option (Fraction × List Char) :=
  let isWord (word : String) : Bool := (text.take word.length).map Char.toLower == word.toList
  let scaled (n : Nat) (power : Int) (base : Nat → Nat) (rest : List Char) : Fraction × List Char :=
    (if n = 0 then .finite negative 0 1
      else if greatestPower < power then .infinite negative
      else if power < -greatestPower then .finite negative 0 1
      else .finite negative (n * base power.toNat) (base (-power).toNat), rest)
  let hex? : Option (Fraction × List Char) := do
    match text with
    | '0' :: x :: rest =>
      if x == 'x' || x == 'X' then
        let (n, places, rest) ← takeDigits? 16 rest
        let (power, rest) := takePower ['p', 'P'] rest
        pure (scaled n (power - 4 * places) (1 <<< ·) rest)
      else none
    | _ => none
  if isWord "infinity" then some (.infinite negative, text.drop 8)
  else if isWord "inf" then some (.infinite negative, text.drop 3)
  else if isWord "nan" then some (.undefined negative, text.drop 3)
  else
    hex?.or (do
      let (n, places, rest) ← takeDigits? 10 text
      let (power, rest) := takePower ['e', 'E'] rest
      pure (scaled n (power - places) Decimal.tenTo rest))

/-- The number that a text begins with, behind white space and a sign, and what follows it. -/
def take? (text : List Char) : Option (Fraction × List Char) :=
  match text.dropWhile isSpace with
  | '-' :: rest => takeBare? true rest
  | '+' :: rest => takeBare? false rest
  | rest => takeBare? false rest

/-- The nearest double. -/
def toDouble : Fraction → Float
  | .undefined negative => if negative then -Decimal.notANumber else Decimal.notANumber
  | .infinite negative => Decimal.infinity negative
  | .finite negative num den =>
    if den.log2 + 1100 < num.log2 then Decimal.infinity negative
    else if num.log2 + 1200 < den.log2 then Decimal.nearest negative 0 1
    else Decimal.nearest negative num den

/-- How two numbers that can be counted with compare, the first of which may be below zero. -/
def compareFinite (negative : Bool) (num den : Nat) (other : Bool) (num' den' : Nat) : Ordering :=
  let signed (isBelow : Bool) (n : Nat) : Int := if isBelow then -(n : Int) else n
  Ord.compare (signed negative (num * den')) (signed other (num' * den))

end Fraction

/-! ## Escapes -/

/-- The letter of an escape with the character that it stands for. -/
def letterEscapes : List (Char × Char) :=
  [('a', '\x07'), ('b', '\x08'), ('e', '\x1b'), ('f', '\x0c'), ('n', '\n'), ('r', '\r'), ('t', '\t'),
    ('v', '\x0b'), ('\\', '\\'), ('"', '"'), ('\'', '\'')]

/-- The number of up to three digits in base eight at the beginning of a text, and what follows. -/
def takeOctal (text : List Char) : Nat × List Char :=
  let digits := (text.take 3).takeWhile fun c => '0' ≤ c && c ≤ '7'
  (digits.foldl (fun n c => n * 8 + (c.toNat - 48)) 0, text.drop digits.length)

/-- The character that an escape behind a backslash stands for, and what follows. -/
def takeEscape (text : List Char) : Char × List Char :=
  match text with
  | [] => ('\\', [])
  | c :: rest =>
    if '0' ≤ c && c ≤ '7' then
      let (n, rest) := takeOctal text
      (Char.ofNat (n % 256), rest)
    else
      match letterEscapes.lookup c with
      | some d => (d, rest)
      | none => ('\\', text)

/-- A text with its escapes replaced, in which a zero may stand in front of octal digits, and whether an
escape ends all output.  The number bounds how many characters there are. -/
def unescapeFrom : Nat → List Char → List Char → List Char × Bool
  | 0, _, done => (done.reverse, false)
  | _ + 1, [], done => (done.reverse, false)
  | _ + 1, '\\' :: 'c' :: _, done => (done.reverse, true)
  | fuel + 1, '\\' :: rest, done =>
    let rest := match rest with
      | '0' :: d :: more => if '0' ≤ d && d ≤ '7' then d :: more else rest
      | _ => rest
    let (c, rest) := takeEscape rest
    unescapeFrom fuel rest (c :: done)
  | fuel + 1, c :: rest, done => unescapeFrom fuel rest (c :: done)

/-- A text with its escapes replaced, and whether an escape ends all output. -/
def unescape (text : String) : String × Bool :=
  let (cs, ended) := unescapeFrom (text.length + 1) text.toList []
  (String.ofList cs, ended)

/-- Texts with their escapes replaced and blanks between them, and whether an escape ends all output. -/
def unescapeAll : List String → String × Bool
  | [] => ("", false)
  | [last] => unescape last
  | text :: rest =>
    let (front, ended) := unescape text
    if ended then (front, true)
    else
      let (more, ended) := unescapeAll rest
      (front ++ " " ++ more, ended)

/-! ## Fields -/

/-- How a directive asks for something to be written. -/
structure Field where
  left : Bool
  signed : Bool
  spaced : Bool
  alternate : Bool
  zeros : Bool
  width : Nat
  precision : Option Nat
  deriving Repr, DecidableEq

namespace Field

/-- Nothing special is asked for. -/
def plain : Field :=
  ⟨false, false, false, false, false, 0, none⟩

/-- The field that a flag asks for. -/
def flag (f : Field) : Char → Field
  | '-' => { f with left := true }
  | '+' => { f with signed := true }
  | ' ' => { f with spaced := true }
  | '#' => { f with alternate := true }
  | _ => { f with zeros := true }

/-- A field with a width that is given as a number; one below zero asks for the left side. -/
def withWidth (f : Field) (n : Int) : Field :=
  if n < 0 then { f with left := true, width := n.natAbs } else { f with width := n.natAbs }

/-- The width from which on nothing is as wide. -/
def widthLimit : Nat := 2147483647

/-- Whether a field is wider than anything can be. -/
def isTooWide (f : Field) : Bool :=
  widthLimit ≤ f.width || f.precision.any (widthLimit ≤ ·)

/-- Fill a field with blanks. -/
def fill (f : Field) (text : String) : String :=
  let blanks := "".pushn ' ' (f.width - text.length)
  if f.left then text ++ blanks else blanks ++ text

/-- A number that is made of what stands in front of its digits, and its digits, in a field. -/
def place (f : Field) (mayFill : Bool) (front digits : String) : String :=
  if f.zeros && !f.left && mayFill then
    front ++ "".pushn '0' (f.width - front.length - digits.length) ++ digits
  else f.fill (front ++ digits)

/-- What stands in front of a number for its sign. -/
def sign (f : Field) (negative : Bool) : String :=
  if negative then "-" else if f.signed then "+" else if f.spaced then " " else ""

/-- A text in a field; a precision cuts it off. -/
def text (f : Field) (s : String) : String :=
  f.fill (match f.precision with
    | some n => String.ofList (s.toList.take n)
    | none => s)

/-- Digits with zeros in front up to the precision; zero has no digits where none are asked for. -/
def padded (f : Field) (n : Nat) (digits : List Char) : List Char :=
  match f.precision with
  | some 0 => if n = 0 then [] else digits
  | some p => Decimal.padZeros p digits
  | none => digits

/-- A whole number in base ten. -/
def integer (f : Field) (n : Int) : String :=
  f.place f.precision.isNone (f.sign (decide (n < 0)))
    (String.ofList (f.padded n.natAbs (Decimal.digits n.natAbs)))

/-- A number of sixty-four bits without a sign, in a base. -/
def natural (f : Field) (base : Nat) (upper : Bool) (n : Nat) : String :=
  let raw := Nat.toDigits base n
  let digits := f.padded n (if upper then raw.map Char.toUpper else raw)
  let digits := if f.alternate && base == 8 && digits.head? != some '0' then '0' :: digits else digits
  let front := if f.alternate && base == 16 && n != 0 then if upper then "0X" else "0x" else ""
  f.place f.precision.isNone front (String.ofList digits)

end Field

/-! ## Numbers with decimal places -/

/-- Digits with a point in front of the last few of them. -/
def withPoint (alternate : Bool) (places : Nat) (digits : List Char) : String :=
  let digits := Decimal.padZeros (places + 1) digits
  let whole := digits.take (digits.length - places)
  let fraction := digits.drop (digits.length - places)
  String.ofList (if places = 0 && !alternate then whole else whole ++ '.' :: fraction)

/-- A fraction with a number of decimal places. -/
def fixedDigits (alternate : Bool) (places num den : Nat) : String :=
  withPoint alternate places (Decimal.digits (Decimal.roundDiv (num * Decimal.tenTo places) den))

/-- The digits of a fraction above zero, of which there are one more than the places, and the power of ten
that the first of them counts.  The number bounds how far the power is from the guess. -/
def leadingDigits (places num den : Nat) : Nat → Int → Nat × Int
  | 0, e => (0, e)
  | fuel + 1, e =>
    let shift := (places : Int) - e
    let n := if 0 ≤ shift then Decimal.roundDiv (num * Decimal.tenTo shift.toNat) den
      else Decimal.roundDiv num (den * Decimal.tenTo (-shift).toNat)
    if Decimal.tenTo (places + 1) ≤ n then leadingDigits places num den fuel (e + 1)
    else if n < Decimal.tenTo places then leadingDigits places num den fuel (e - 1)
    else (n, e)

/-- A guess at the power of ten of a fraction above zero, which is not too high. -/
def powerGuess (num den : Nat) : Int :=
  ((Decimal.digits num).length : Int) - (Decimal.digits den).length - 1

/-- The digits of a fraction, and the power of ten that the first of them counts. -/
def scientific (places num den : Nat) : Nat × Int :=
  if num = 0 then (0, 0) else leadingDigits places num den 8 (powerGuess num den)

/-- A power of ten behind a number. -/
def exponentText (upper : Bool) (e : Int) : String :=
  (if upper then "E" else "e") ++ (if e < 0 then "-" else "+") ++
    String.ofList (Decimal.padZeros 2 (Decimal.digits e.natAbs))

/-- A fraction written with a power of ten. -/
def exponentDigits (alternate upper : Bool) (places num den : Nat) : String :=
  let (n, e) := scientific places num den
  withPoint alternate places (Decimal.digits n) ++ exponentText upper e

/-- A text without the zeros at the end of its decimal places, and without a point that nothing follows. -/
def withoutZeros (text : String) : String :=
  if text.toList.contains '.' then
    let cs := text.toList.reverse.dropWhile (· == '0')
    String.ofList (match cs with
      | '.' :: rest => rest
      | rest => rest).reverse
  else text

/-- A fraction with a number of digits, in the shorter of the two ways. -/
def generalDigits (alternate upper : Bool) (precision num den : Nat) : String :=
  let p := max 1 precision
  let (n, e) := scientific (p - 1) num den
  let trim := if alternate then id else withoutZeros
  if e < -4 || (p : Int) ≤ e then
    trim (withPoint alternate (p - 1) (Decimal.digits n)) ++ exponentText upper e
  else trim (fixedDigits alternate (p - 1 - e).toNat num den)

/-- A fraction in base sixteen with a power of two.  The first digit is one, or as great as it can be where it
stands for several powers; so many digits follow it as are given, or as are needed out of a usual number. -/
def hexDigits (alternate : Bool) (powers usual : Nat) (places : Option Nat) (num den : Nat) : String :=
  let shown (lead : Nat) (digits : List Char) (e : Int) : String :=
    String.ofList (Nat.toDigits 16 lead) ++ (if digits.isEmpty && !alternate then "" else ".") ++
      String.ofList digits ++ "p" ++ (if e < 0 then "-" else "+") ++ toString e.natAbs
  if num = 0 then shown 0 (List.replicate (places.getD 0) '0') 0
  else
    let scale (e : Int) : Nat × Nat :=
      (num <<< ((powers : Int) - e).toNat, den <<< (e - (powers : Int)).toNat)
    let guess : Int := (num.log2 : Int) - den.log2
    let isHigh := (scale guess).1 < (scale guess).2 <<< powers
    let e := if isHigh then guess - 1 else guess
    let most := places.getD usual
    let units := Decimal.roundDiv ((scale e).1 <<< (4 * most)) (scale e).2
    let (units, e) := if 16 <<< (4 * most) ≤ units then (units / 16, e + 4) else (units, e)
    let digits := if most = 0 then []
      else Decimal.padZeros most (Nat.toDigits 16 (units % (1 <<< (4 * most))))
    let kept := if places.isSome then digits else (digits.reverse.dropWhile (· == '0')).reverse
    shown (units >>> (4 * most)) kept (e - powers)

/-- A fraction in the way that a letter asks for, in a field; in base sixteen, the first digit stands for a
number of powers. -/
def Field.fraction (f : Field) (powers usual : Nat) (letter : Char) (negative : Bool) (num den : Nat) :
    String :=
  let upper := letter.isUpper
  let places := f.precision.getD 6
  if letter.toLower == 'a' then
    let body := hexDigits f.alternate powers usual f.precision num den
    f.place true (f.sign negative ++ if upper then "0X" else "0x") (if upper then body.toUpper else body)
  else
    let digits := match letter.toLower with
      | 'f' => fixedDigits f.alternate places num den
      | 'e' => exponentDigits f.alternate upper places num den
      | _ => generalDigits f.alternate upper places num den
    f.place true (f.sign negative) digits

/-- A double in the way that a letter asks for. -/
def Field.double (f : Field) (letter : Char) (x : Float) : String :=
  let named (text : String) : String := if letter.isUpper then text.toUpper else text
  match Decimal.Parts.ofFloat x with
  | .nan => f.place false (f.sign false) (named "nan")
  | .infinite negative => f.place false (f.sign negative) (named "inf")
  | .finite negative m q =>
    let (num, den) := Decimal.scaled m q
    f.fraction 0 13 letter negative num den

/-! ## Arguments as numbers -/

/-- A number that was read off an argument, and what is wrong with the argument. -/
abbrev Converted (α : Type) := α × Option String

/-- What is wrong with an argument of which something is left when a number has been read off it. -/
def leftover? (argument : String) (rest : List Char) : Option String :=
  if rest.isEmpty then none
  else if rest.length = argument.length then some s!"{argument}: expected numeric value"
  else some s!"{argument}: not completely converted"

/-- A whole number read off an argument, between limits.  Behind a quote stands a character whose number
is meant. -/
def argumentInteger (least greatest : Int) (argument : String) : Converted Int :=
  match argument.toList with
  | '\'' :: rest | '"' :: rest => ((rest.head?.map fun c => (c.toNat : Int)).getD 0, none)
  | cs =>
    let body := cs.dropWhile isSpace
    let (negative, body) := match body with
      | '-' :: more => (true, more)
      | '+' :: more => (false, more)
      | more => (false, more)
    match body with
    | c :: _ =>
      if Char.isDigit c then
        let (n, rest) := takeConstant body
        let value : Int := if negative then -n else n
        if value < least then (least, some s!"{argument}: Numerical result out of range")
        else if greatest < value then (greatest, some s!"{argument}: Numerical result out of range")
        else (value, leftover? argument rest)
      else (0, leftover? argument cs)
    | [] => (0, leftover? argument cs)

/-- A double read off an argument. -/
def argumentDouble (argument : String) : Converted Float :=
  match argument.toList with
  | '\'' :: rest | '"' :: rest =>
    (Decimal.nearest false ((rest.head?.map Char.toNat).getD 0) 1, none)
  | cs =>
    match Fraction.take? cs with
    | some (x, rest) => (x.toDouble, leftover? argument rest)
    | none => (0.0, leftover? argument cs)

/-! ## Patterns with directives -/

/-- What comes of putting arguments into a pattern: a text, what is wrong with arguments, why it could not
go on, and whether an escape ended it. -/
structure Formatted where
  text : String
  warnings : List String
  fault : Option String
  ended : Bool

/-- Putting arguments into a pattern: what is left of the arguments, and what has come of it so far. -/
structure Filling where
  arguments : List String
  done : Formatted

namespace Filling

/-- Add a text. -/
def add (s : Filling) (text : String) : Filling :=
  { s with done := { s.done with text := s.done.text ++ text } }

/-- Take the next argument; where there is none, an empty text stands for it. -/
def next (s : Filling) : String × Filling :=
  (s.arguments.headD "", { s with arguments := s.arguments.drop 1 })

/-- Note what is wrong with an argument. -/
def warn (s : Filling) (warning : Option String) : Filling :=
  { s with done := { s.done with warnings := s.done.warnings ++ warning.toList } }

/-- Stop because of a fault. -/
def stop (s : Filling) (fault : String) : Filling :=
  { s with done := { s.done with fault := some fault } }

/-- Take the next argument as a whole number. -/
def nextInteger (s : Filling) (least greatest : Int) : Int × Filling :=
  let (argument, s) := s.next
  let (n, warning) := argumentInteger least greatest argument
  (n, s.warn warning)

end Filling

/-- The width or precision at the beginning of a text: digits, or a star that takes an argument. -/
def takeAmount (text : List Char) (s : Filling) : Option Int × List Char × Filling :=
  match text with
  | '*' :: rest =>
    let (n, s) := s.nextInteger leastNumber greatestNumber
    (some n, rest, s)
  | text =>
    let (n, rest) := takeNumber 10 text
    (if rest.length < text.length then some n else none, rest, s)

/-- The number without a sign that has the bits of a number. -/
def unsignedNumber (n : Int) : Nat :=
  (if n < 0 then n + 18446744073709551616 else n).toNat

/-- Write the next argument as a letter asks for, in a field. -/
def fillDirective (f : Field) (letter : Char) (shown : String) (s : Filling) : Filling :=
  let unsigned (base : Nat) : Filling :=
    let (n, s) := s.nextInteger (-greatestNumber * 2) (greatestNumber * 2 + 1)
    s.add (f.natural base (letter == 'X') (unsignedNumber n))
  match letter with
  | 's' =>
    let (argument, s) := s.next
    s.add (f.text argument)
  | 'b' =>
    let (argument, s) := s.next
    let (text, ended) := unescape argument
    let s := s.add (f.text text)
    { s with done := { s.done with ended := ended } }
  | 'c' =>
    let (argument, s) := s.next
    s.add (f.fill (String.singleton (argument.toList.headD '\x00')))
  | 'd' | 'i' =>
    let (n, s) := s.nextInteger leastNumber greatestNumber
    s.add (f.integer n)
  | 'o' => unsigned 8
  | 'u' => unsigned 10
  | 'x' | 'X' => unsigned 16
  | _ =>
    if "eEfFgGaA".toList.contains letter then
      let (argument, s) := s.next
      let (x, warning) := argumentDouble argument
      (s.warn warning).add (f.double letter x)
    else s.stop s!"{shown}: invalid directive"

/-- Go once over a pattern.  The number bounds how many characters it has. -/
def fillOnce : Nat → List Char → Filling → Filling
  | 0, _, s => s
  | _ + 1, [], s => s
  | fuel + 1, '\\' :: rest, s =>
    let (c, rest) := takeEscape rest
    fillOnce fuel rest (s.add (String.singleton c))
  | fuel + 1, '%' :: '%' :: rest, s => fillOnce fuel rest (s.add "%")
  | fuel + 1, '%' :: rest, s =>
    let flags := rest.takeWhile fun c => "#-+ 0".toList.contains c
    let f := flags.foldl Field.flag Field.plain
    let (width, after, s) := takeAmount (rest.drop flags.length) s
    let f := f.withWidth (width.getD 0)
    let (f, after, s) := match after with
      | '.' :: more =>
        let (precision, after, s) := takeAmount more s
        let n := precision.getD 0
        ({ f with precision := if n < 0 then none else some n.toNat }, after, s)
      | after => (f, after, s)
    match after with
    | [] => s.stop "missing format character"
    | letter :: following =>
      let shown := String.ofList ('%' :: rest.take (rest.length - following.length))
      let s := if f.isTooWide then s.stop "xvsnprintf failed" else fillDirective f letter shown s
      if s.done.ended || s.done.fault.isSome then s else fillOnce fuel following s
  | fuel + 1, c :: rest, s => fillOnce fuel rest (s.add (String.singleton c))

/-- Go over a pattern as often as it takes to use all arguments. -/
def fillAll (pattern : List Char) : Nat → Filling → Filling
  | 0, s => s
  | fuel + 1, s =>
    let after := fillOnce (pattern.length + 1) pattern s
    if after.done.ended || after.done.fault.isSome || after.arguments.isEmpty ||
      after.arguments.length = s.arguments.length then after
    else fillAll pattern fuel after

/-- Put arguments into a pattern. -/
def format (pattern : String) (arguments : List String) : Formatted :=
  (fillAll pattern.toList (arguments.length + 1) ⟨arguments, ⟨"", [], none, false⟩⟩).done

end Conformance.Shell
