import Conformance.Decimal.Reading
import Conformance.Document.Json

/-!
# Tags of a YAML text

The tag of a scalar says what the scalar stands for.  A plain scalar is tagged by what it looks like: a
truth word, a number, a day or moment, nothing at all, or else a text.
-/

namespace Conformance.Yaml

/-- The full name of a tag of the common set. -/
def commonTag (name : String) : String :=
  "tag:yaml.org,2002:" ++ name

/-- Whether a text has only low lines and the digits of a class. -/
def allDigits (p : Char → Bool) (text : List Char) : Bool :=
  text.all fun c => p c || c == '_'

/-- A text without a sign. -/
def unsigned (text : List Char) : List Char :=
  match text with
  | '+' :: rest => rest
  | '-' :: rest => rest
  | _ => text

/-- Whether a text is a digit followed by digits and low lines. -/
def isDigits (text : List Char) : Bool :=
  match text with
  | c :: rest => Char.isDigit c && allDigits Char.isDigit rest
  | [] => false

/-- Whether a text is a number below sixty. -/
def isSexagesimal (text : List Char) : Bool :=
  match text with
  | [c] => Char.isDigit c
  | [c, d] => '0' ≤ c && c ≤ '5' && Char.isDigit d
  | _ => false

/-- Whether a plain text is an integer: decimal, binary, octal, hexadecimal, or in base sixty. -/
def isInteger (text : List Char) : Bool :=
  match unsigned text with
  | '0' :: 'b' :: rest => !rest.isEmpty && allDigits (fun c => c == '0' || c == '1') rest
  | '0' :: 'x' :: rest => !rest.isEmpty && allDigits (fun c => (Json.hexValue? c).isSome) rest
  | ['0'] => true
  | '0' :: rest => allDigits (fun c => '0' ≤ c && c ≤ '7') rest
  | body =>
    match body.splitOn ':' with
    | first :: rest => isDigits first && rest.all isSexagesimal
    | [] => false

/-- Whether a text is an exponent with a sign. -/
def isExponent (text : List Char) : Bool :=
  match text with
  | e :: sign :: rest =>
    (e == 'e' || e == 'E') && (sign == '+' || sign == '-') && !rest.isEmpty &&
      rest.all Char.isDigit
  | _ => false

/-- Whether a text is the part of a number behind its point. -/
def isFraction (text : List Char) : Bool :=
  let rest := text.dropWhile fun c => Char.isDigit c || c == '_'
  rest.isEmpty || isExponent rest

/-- Whether a plain text is a number with a point, or a name of infinity or of no number. -/
def isFloat (text : List Char) : Bool :=
  let body := unsigned text
  let whole := body.takeWhile (· != '.')
  let fraction := (body.dropWhile (· != '.')).drop 1
  let signed := body.length != text.length
  let name := String.ofList body
  [".inf", ".Inf", ".INF"].contains name ||
    (!signed && [".nan", ".NaN", ".NAN"].contains name) ||
    (body.contains '.' &&
      ((isDigits whole && isFraction fraction) ||
        (!signed && whole.isEmpty && (fraction.head?.map Char.isDigit).getD false &&
          isFraction fraction) ||
        (match whole.splitOn ':' with
          | first :: more =>
            !more.isEmpty && isDigits first && more.all isSexagesimal &&
              allDigits Char.isDigit fraction
          | [] => false)))

/-- Split off between `least` and `most` digits. -/
def digitsPart? (least most : Nat) (text : List Char) : Option (Nat × List Char) :=
  let word := (text.takeWhile Char.isDigit).take most
  if word.length < least then none else some (Decimal.digitsValue word, text.drop word.length)

/-- The parts of a text that names a moment or a day. -/
structure Timestamp where
  year : Nat
  month : Nat
  day : Nat
  /-- Hour, minute, second and the digits behind the point. -/
  time : Option (Nat × Nat × Nat × List Char)
  /-- Minutes ahead of universal time. -/
  offset : Option Int
  /-- Whether month and day have two digits each. -/
  padded : Bool
  deriving Repr

/-- Read a distance from universal time, if there is one. -/
def readOffset? (text : List Char) : Option (Option Int) :=
  match text.dropWhile fun c => c == ' ' || c == '\t' with
  | [] => if text.isEmpty then some none else none
  | ['Z'] => some (some 0)
  | sign :: rest =>
    if sign != '+' && sign != '-' then none
    else
      match digitsPart? 1 2 rest with
      | some (hours, rest) =>
        let minutes? : Option Nat := match rest with
          | [] => some 0
          | ':' :: rest =>
            match digitsPart? 2 2 rest with
            | some (minutes, []) => some minutes
            | _ => none
          | _ => none
        minutes?.map fun minutes =>
          let distance : Int := ((hours * 60 + minutes : Nat) : Int)
          some (if sign = '-' then -distance else distance)
      | none => none

/-- Read a time of day and a distance from universal time. -/
def readTime? (text : List Char) : Option ((Nat × Nat × Nat × List Char) × Option Int) :=
  match digitsPart? 1 2 text with
  | some (hour, ':' :: rest) =>
    match digitsPart? 2 2 rest with
    | some (minute, ':' :: rest) =>
      match digitsPart? 2 2 rest with
      | some (second, rest) =>
        let (fraction, rest) := match rest with
          | '.' :: more => (more.takeWhile Char.isDigit, more.dropWhile Char.isDigit)
          | _ => ([], rest)
        (readOffset? rest).map fun offset => ((hour, minute, second, fraction), offset)
      | none => none
    | _ => none
  | _ => none

/-- Read a text that names a moment or a day. -/
def readTimestamp? (text : List Char) : Option Timestamp :=
  match digitsPart? 4 4 text with
  | some (year, '-' :: rest) =>
    match digitsPart? 1 2 rest with
    | some (month, '-' :: rest') =>
      match digitsPart? 1 2 rest' with
      | some (day, tail) =>
        let padded := rest.length - rest'.length == 3 && rest'.length - tail.length == 2
        let make time offset : Timestamp := ⟨year, month, day, time, offset, padded⟩
        match tail with
        | [] => some (make none none)
        | 'T' :: rest | 't' :: rest =>
          (readTime? rest).map fun (time, offset) => make (some time) offset
        | c :: _ =>
          if c == ' ' || c == '\t' then
            (readTime? (tail.dropWhile fun c => c == ' ' || c == '\t')).map fun (time, offset) =>
              make (some time) offset
          else none
      | none => none
    | _ => none
  | _ => none

/-- Whether a plain text is a moment or a day.  A day alone needs two digits for month and day. -/
def isTimestamp (text : List Char) : Bool :=
  match readTimestamp? text with
  | some stamp => stamp.padded || stamp.time.isSome
  | none => false

/-- The words that stand for truth and falsehood, in lower case. -/
def truthWords : List (String × Bool) :=
  [("yes", true), ("no", false), ("true", true), ("false", false), ("on", true), ("off", false)]

/-- Whether a plain text is a truth word in lower case, capitalised or in capitals. -/
def isTruthWord (text : List Char) : Bool :=
  truthWords.any fun (word, _) =>
    let letters := word.toList
    let capitals := letters.map Char.toUpper
    text == letters || text == capitals || text == capitals.take 1 ++ letters.drop 1

/-- A text without one line feed at its end.  A line feed on its own stays. -/
def withoutLastFeed (text : List Char) : List Char :=
  match text.reverse with
  | '\n' :: c :: rest => (c :: rest).reverse
  | _ => text

/-- The tag of a plain scalar of characters.  One line feed at the end of the text makes no difference. -/
def plainTagOf (text : List Char) : String :=
  let chars := withoutLastFeed text
  let word := String.ofList chars
  let name :=
    if isTruthWord chars then "bool"
    else if isFloat chars then "float"
    else if isInteger chars then "int"
    else if word == "<<" then "merge"
    else if ["", "~", "null", "Null", "NULL"].contains word then "null"
    else if isTimestamp chars then "timestamp"
    else if word == "=" then "value"
    else if ["!", "&", "*"].contains word then "yaml"
    else "str"
  commonTag name

/-- The tag of a plain scalar. -/
def plainTag (text : Text) : String :=
  match text.chars? with
  | some chars => plainTagOf chars
  | none => commonTag "str"

end Conformance.Yaml
