/-!
# Double precision numbers

Powers of the two bases, quotients rounded to the nearest integer, and with them the doubles as exact fractions.
-/

namespace Conformance.Decimal

/-! ## Powers

The powers of the two bases in which numbers are held and written. -/

/-- A power of two. -/
def twoTo (n : Nat) : Nat :=
  Nat.pow 2 n

/-- A power of ten. -/
def tenTo (n : Nat) : Nat :=
  Nat.pow 10 n

@[simp]
theorem twoTo_zero : twoTo 0 = 1 :=
  rfl

theorem twoTo_succ (n : Nat) : twoTo (n + 1) = 2 * twoTo n :=
  Nat.mul_comm (twoTo n) 2

@[simp]
theorem tenTo_zero : tenTo 0 = 1 :=
  rfl

theorem tenTo_succ (n : Nat) : tenTo (n + 1) = 10 * tenTo n :=
  Nat.mul_comm (tenTo n) 10

theorem twoTo_pos (n : Nat) : 0 < twoTo n :=
  Nat.pow_pos (by decide)

theorem tenTo_pos (n : Nat) : 0 < tenTo n :=
  Nat.pow_pos (by decide)

/-! ## Rounding to the nearest integer

A quotient of natural numbers rounded to the nearest integer, a half going to the even neighbour, and
the digits of a number cut into a whole part and decimal places. -/

/-- The integer nearest to `num / den`; of two equally near integers the even one. -/
def roundDiv (num den : Nat) : Nat :=
  let whole := num / den
  let twice := 2 * (num % den)
  if twice < den then whole
  else if den < twice then whole + 1
  else whole + whole % 2

/-- A multiple of the divisor is not rounded at all. -/
theorem roundDiv_mul (n den : Nat) (h : 0 < den) : roundDiv (n * den) den = n := by
  simp [roundDiv, h, Nat.mul_div_cancel n h]

/-- The rounded quotient is within half a unit of the exact one. -/
theorem roundDiv_within (num den : Nat) (h : 0 < den) :
    2 * num ≤ (2 * roundDiv num den + 1) * den ∧ (2 * roundDiv num den) * den ≤ 2 * num + den := by
  have hsplit := Nat.div_add_mod num den
  have hmod := Nat.mod_lt num h
  have hcomm : den * (num / den) = (num / den) * den := Nat.mul_comm _ _
  have hparity := Nat.mod_two_eq_zero_or_one (num / den)
  unfold roundDiv
  simp only []
  generalize num / den = whole at *
  generalize num % den = rest at *
  have e1 : (2 * whole + 1) * den = 2 * (whole * den) + den := by
    rw [Nat.add_mul, Nat.mul_assoc, Nat.one_mul]
  have e2 : 2 * whole * den = 2 * (whole * den) := Nat.mul_assoc _ _ _
  have e3 : (2 * (whole + 1) + 1) * den = 2 * (whole * den) + 3 * den := by
    rw [show 2 * (whole + 1) + 1 = 2 * whole + 3 by omega, Nat.add_mul, Nat.mul_assoc]
  have e4 : 2 * (whole + 1) * den = 2 * (whole * den) + 2 * den := by
    rw [show 2 * (whole + 1) = 2 * whole + 2 by omega, Nat.add_mul, Nat.mul_assoc]
  split
  · constructor <;> omega
  · split
    · constructor <;> omega
    · rcases hparity with h0 | h1
      · simp only [h0, Nat.add_zero]; constructor <;> omega
      · simp only [h1]; constructor <;> omega

/-- The decimal digits of a natural number. -/
def digits (n : Nat) : List Char :=
  Nat.toDigits 10 n

/-- Digits with zeros in front up to a width. -/
def padZeros (width : Nat) (text : List Char) : List Char :=
  List.replicate (width - text.length) '0' ++ text

/-! ## Double precision numbers as exact fractions

A finite double is `m * 2 ^ q` with natural `m`.  Reading a double into that form and rounding a
fraction to the nearest double are all that decimal input and output need. -/

/-- A double taken apart. -/
inductive Parts
  /-- No number. -/
  | nan
  /-- An infinity, negative or positive. -/
  | infinite (negative : Bool)
  /-- The number `mantissa * 2 ^ exponent`, negated if so marked. -/
  | finite (negative : Bool) (mantissa : Nat) (exponent : Int)
  deriving Repr, DecidableEq

/-- Take a bit pattern apart: a sign, eleven exponent bits and fifty-two fraction bits. -/
def Parts.ofBits (bits : Nat) : Parts :=
  let negative := decide (twoTo 63 ≤ bits)
  let field : Nat := bits / twoTo 52 % twoTo 11
  let fraction : Nat := bits % twoTo 52
  if field = 2047 then
    if fraction = 0 then .infinite negative else .nan
  else if field = 0 then .finite negative fraction (-1074)
  else .finite negative (twoTo 52 + fraction) ((field : Int) - 1075)

/-- Take a double apart. -/
def Parts.ofFloat (x : Float) : Parts :=
  .ofBits x.toBits.toNat

/-- The fraction `m * 2 ^ q` in natural numbers. -/
def scaled (m : Nat) (q : Int) : Nat × Nat :=
  if 0 ≤ q then (m * twoTo q.toNat, 1) else (m, twoTo (-q).toNat)

/-- The exponent `q` for which `num / den` lies between `2 ^ 52` and `2 ^ 53` units of `2 ^ q`, not below
the smallest unit of a double. -/
def unitExponent (num den : Nat) : Int :=
  let guess : Int := (num.log2 : Int) - (den.log2 : Int) - 52
  let (n, d) := if 0 ≤ guess then (num, den * twoTo guess.toNat) else (num * twoTo (-guess).toNat, den)
  max (-1074) (if n < twoTo 52 * d then guess - 1 else guess)

/-- The bits of the double nearest to `num / den`, if it is finite. -/
def nearestBits? (num den : Nat) : Option Nat :=
  if num = 0 then some 0
  else
    let q := unitExponent num den
    let m := if 0 ≤ q then roundDiv num (den * twoTo q.toNat) else roundDiv (num * twoTo (-q).toNat) den
    let bits := (q + 1074).toNat * twoTo 52 + m
    if bits < 2047 * twoTo 52 then some bits else none

/-- The double with a sign and the bits of its magnitude. -/
def ofMagnitude (negative : Bool) (bits : Nat) : Float :=
  Float.ofBits (UInt64.ofNat (if negative then bits + twoTo 63 else bits))

/-- Infinity with a sign. -/
def infinity (negative : Bool) : Float :=
  ofMagnitude negative (2047 * twoTo 52)

/-- The one NaN that decimal input gives. -/
def notANumber : Float :=
  Float.ofBits 0x7FF8000000000000

/-- The double nearest to a fraction, if it is finite. -/
def nearest? (negative : Bool) (num den : Nat) : Option Float :=
  (nearestBits? num den).map (ofMagnitude negative)

/-- The double nearest to a fraction, infinite beyond the largest double. -/
def nearest (negative : Bool) (num den : Nat) : Float :=
  (nearest? negative num den).getD (infinity negative)

/-- The double nearest to an integer, if it is finite. -/
def ofInt? (i : Int) : Option Float :=
  nearest? (decide (i < 0)) i.natAbs 1

/-- The double nearest to the quotient of two integers, if it is finite. -/
def quotient? (num den : Int) : Option Float :=
  nearest? (decide (num < 0) != decide (den < 0)) num.natAbs den.natAbs

/-- The integer part of a finite double, cut toward zero. -/
def truncate? (x : Float) : Option Int :=
  match Parts.ofFloat x with
  | .finite negative m q =>
    let (num, den) := scaled m q
    let whole : Int := ((num / den : Nat) : Int)
    some (if negative then -whole else whole)
  | _ => none

/-- The integer nearest to a finite double, a half going to the even neighbour. -/
def round? (x : Float) : Option Int :=
  match Parts.ofFloat x with
  | .finite negative m q =>
    let (num, den) := scaled m q
    let whole : Int := ((roundDiv num den : Nat) : Int)
    some (if negative then -whole else whole)
  | _ => none

end Conformance.Decimal
