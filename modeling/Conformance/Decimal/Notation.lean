import Conformance.Decimal.Binary64

/-!
# Written numbers

How a number is written as text: a double with the fewest digits that read back or with a fixed number of decimal
places, and a setting as it was given.
-/

namespace Conformance.Decimal

/-! ## Shortest decimal

The decimal number with the fewest digits that reads back as a given positive double; of several with
that many digits, the one nearest to the double. -/

/-- A decimal number `coefficient * 10 ^ exponent`. -/
structure Scaled where
  coefficient : Nat
  exponent : Int
  deriving Repr, DecidableEq

/-- The reals that round to a double `m * 2 ^ q`, in quarters of its unit. -/
structure RoundingInterval where
  low : Nat
  high : Nat
  unit : Int
  closed : Bool
  deriving Repr, DecidableEq

/-- The reals that round to `m * 2 ^ q`.  Below a power of two the neighbour is only half as far.  The ends
belong to the interval when `m` is even. -/
def roundingInterval (m : Nat) (q : Int) : RoundingInterval where
  low := if m = twoTo 52 ∧ -1074 < q then 4 * m - 1 else 4 * m - 2
  high := 4 * m + 2
  unit := q - 2
  closed := m % 2 == 0

/-- Compare `a * 10 ^ e` with `b * 2 ^ q`: both sides brought to natural numbers. -/
def onCommonScale (a : Nat) (e : Int) (b : Nat) (q : Int) : Nat × Nat :=
  let a' := if 0 ≤ e then a * tenTo e.toNat else a
  let b' := if 0 ≤ e then b else b * tenTo (-e).toNat
  if 0 ≤ q then (a', b' * twoTo q.toNat) else (a' * twoTo (-q).toNat, b')

/-- Whether a decimal number lies in the interval. -/
def RoundingInterval.contains (i : RoundingInterval) (d : Scaled) : Bool :=
  let (x, low) := onCommonScale d.coefficient d.exponent i.low i.unit
  let (y, high) := onCommonScale d.coefficient d.exponent i.high i.unit
  if i.closed then low ≤ x && y ≤ high else low < x && y < high

/-- The exponent of the first digit of `m * 2 ^ q`. -/
def leadingExponent (m : Nat) (q : Int) : Int :=
  let estimate := ((m.log2 : Int) + q) * 30103 / 100000
  let reaches (e : Int) : Bool := let (x, y) := onCommonScale 1 e m q; x ≤ y
  if reaches (estimate + 1) then estimate + 1
  else if reaches estimate then estimate
  else estimate - 1

/-- The point of the grid `10 ^ e` that lies in the interval, if there is one; of two the nearer to
`m * 2 ^ q`, and the even one if both are equally near. -/
def gridPoint? (m : Nat) (q : Int) (e : Int) : Option Scaled :=
  let (unit, value) := onCommonScale 1 e m q
  let below := value / unit
  let interval := roundingInterval m q
  let low : Scaled := ⟨below, e⟩
  let high : Scaled := ⟨below + 1, e⟩
  match interval.contains low && below != 0, interval.contains high with
  | true, true => some (if roundDiv value unit = below then low else high)
  | true, false => some low
  | false, true => some high
  | false, false => none

/-- Try grids of more and more digits, from the given one on. -/
def shortestFrom (m : Nat) (q : Int) (lead : Int) : Nat → Nat → Scaled
  | 0, _ => ⟨m, 0⟩
  | fuel + 1, places =>
    match gridPoint? m q (lead - places) with
    | some d => d
    | none => shortestFrom m q lead fuel (places + 1)

/-- The shortest decimal that reads back as the positive double `m * 2 ^ q`.  Seventeen digits always
suffice. -/
def shortest (m : Nat) (q : Int) : Scaled :=
  shortestFrom m q (leadingExponent m q) 18 0

/-! ## Written doubles

How a double is written as text: with the fewest digits that read back, or with a fixed number of
decimal places. -/

/-! ### Fewest digits -/

/-- Drop the zeros at the end of a coefficient. -/
def trimZeros (text : List Char) : List Char :=
  (text.reverse.dropWhile (· == '0')).reverse

/-- Digits with a decimal point after the given number of them, zeros filling either side. -/
def placePoint (text : List Char) (point : Int) : List Char :=
  if point ≤ 0 then '0' :: '.' :: (List.replicate (-point).toNat '0' ++ text)
  else if (text.length : Int) ≤ point then
    text ++ List.replicate (point.toNat - text.length) '0' ++ ['.', '0']
  else text.take point.toNat ++ '.' :: text.drop point.toNat

/-- An exponent with its sign and at least two digits. -/
def writtenExponent (e : Int) : List Char :=
  (if e < 0 then '-' else '+') :: padZeros 2 (digits e.natAbs)

/-- The text of a positive decimal: positional while the first digit stands for at least a ten-thousandth
and less than ten to the sixteenth, with an exponent otherwise. -/
def written (d : Scaled) : List Char :=
  let all := digits d.coefficient
  let lead : Int := d.exponent + all.length - 1
  let text := trimZeros all
  if -4 ≤ lead ∧ lead < 16 then placePoint text (lead + 1)
  else
    match text with
    | [] => []
    | [c] => c :: 'e' :: writtenExponent lead
    | c :: rest => c :: '.' :: (rest ++ 'e' :: writtenExponent lead)

/-- The text of a double: the fewest digits that read back, with a point or an exponent. -/
def text (x : Float) : String :=
  match Parts.ofFloat x with
  | .nan => "nan"
  | .infinite negative => if negative then "-inf" else "inf"
  | .finite negative m q =>
    let magnitude := if m = 0 then ['0', '.', '0'] else written (shortest m q)
    String.ofList (if negative then '-' :: magnitude else magnitude)

/-! ### Fixed places -/

/-- A comma before every third digit of a number written backwards. -/
def groupReversed : List Char → List Char
  | a :: b :: c :: d :: rest => a :: b :: c :: ',' :: groupReversed (d :: rest)
  | short => short

/-- A comma between groups of three digits, counted from the end. -/
def groupThousands (text : List Char) : List Char :=
  (groupReversed text.reverse).reverse

/-- A double with a fixed number of decimal places, rounded to nearest with a half going to the even
neighbour. -/
def fixedWith (whole : List Char → List Char) (places : Nat) (x : Float) : String :=
  match Parts.ofFloat x with
  | .nan => "nan"
  | .infinite negative => if negative then "-inf" else "inf"
  | .finite negative m q =>
    let (num, den) := scaled m q
    let unit := tenTo places
    let n := roundDiv (num * unit) den
    let fraction := if places = 0 then [] else '.' :: padZeros places (digits (n % unit))
    let magnitude := whole (digits (n / unit)) ++ fraction
    String.ofList (if negative then '-' :: magnitude else magnitude)

/-- A double with a fixed number of decimal places. -/
def fixed (places : Nat) (x : Float) : String :=
  fixedWith id places x

/-- A double without decimal places, its thousands separated by commas. -/
def grouped (x : Float) : String :=
  fixedWith groupThousands 0 x

/-- The double nearest to a double rounded to a number of decimal places. -/
def roundPlaces (places : Nat) (x : Float) : Float :=
  match Parts.ofFloat x with
  | .finite negative m q =>
    let (num, den) := scaled m q
    nearest negative (roundDiv (num * tenTo places) den) (tenTo places)
  | _ => x

/-! ## Numbers as they were given

A setting such as a time limit may be given as an integer or with a point, and is shown as it was given. -/

/-- A number as it was given. -/
inductive Number
  | int (value : Int)
  | float (value : Float)
  deriving Repr

namespace Number

/-- The text of a number. -/
def text : Number → String
  | .int value => toString value
  | .float value => Decimal.text value

/-- Whether a number is zero or less.  What is no number is not. -/
def isNotPositive : Number → Bool
  | .int value => decide (value ≤ 0)
  | .float value => value ≤ 0.0

/-- Whether a natural number is less than a number. -/
def exceeds (n : Nat) : Number → Bool
  | .int value => decide ((n : Int) < value)
  | .float value => nearest false n 1 < value

end Number

end Conformance.Decimal
