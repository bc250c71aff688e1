import Conformance.Decimal.Arithmetic
import Mathlib.Algebra.Group.Nat.Defs

/-!
# Doubles as unpacked numbers

Arithmetic unpacks doubles into numbers with a sign, a mantissa and an exponent, and packs its results again.
The parts of a double are read off its bits.  Both say the same of a double.

Main results:

- `Parts.ofFloat_eq`: the parts of a double are those of the number that it is unpacked to.
- `Parts.ofFloat_pack`: a number that is packed keeps its parts, unless it is too large for a double.
- `held_of_parts`: what the mantissa and the exponent of a double can be.
- `truncated_eq_error_iff`: which doubles cannot be cut to an integer.
-/

namespace Conformance.Decimal

open Float.Model (UnpackedFloat Format)
open Float.Model.UnpackedFloat (Sign packComponents unpackMantissa unpackExponent unpackSign)

variable {s : Sign} {m : Nat} {e : Int}

/-! ## Bits -/

theorem toNat_unpackMantissa (bits : BitVec 64) :
    (@unpackMantissa .binary64 bits).toNat = bits.toNat % 2 ^ 52 := by
  simp [unpackMantissa, BitVec.extractLsb_toNat]

theorem toNat_unpackExponent (bits : BitVec 64) :
    (@unpackExponent .binary64 bits).toNat = bits.toNat / 2 ^ 52 % 2 ^ 11 := by
  simp [unpackExponent, BitVec.extractLsb_toNat, Nat.shiftRight_eq_div_pow]

theorem toNat_unpackSign (bits : BitVec 64) :
    (@unpackSign .binary64 bits).toNat = bits.toNat / 2 ^ 63 := by
  change (bits.extractLsb 63 63).toNat = _
  have := bits.isLt
  rw [BitVec.extractLsb_toNat, Nat.shiftRight_eq_div_pow]
  omega

theorem toNat_append {n k : Nat} (a : BitVec n) (b : BitVec k) :
    (a ++ b).toNat = a.toNat * 2 ^ k + b.toNat := by
  rw [BitVec.toNat_append, ← Nat.shiftLeft_add_eq_or_of_lt b.isLt, Nat.shiftLeft_eq]

theorem toNat_packComponents (exponent : BitVec 11) (mantissa : BitVec 52) :
    (packComponents .binary64 s exponent mantissa).toNat =
      s.toBitVec.toNat * 2 ^ 63 + exponent.toNat * 2 ^ 52 + mantissa.toNat := by
  unfold packComponents
  rw [toNat_append, toNat_append]
  omega

/-! ## Parts -/

/-- Whether a sign is negative. -/
def isNegative : Sign → Bool
  | .negative => true
  | .positive => false

/-- An unpacked number taken apart. -/
def Parts.ofUnpacked : UnpackedFloat → Parts
  | .infinity s => .infinite (isNegative s)
  | .notANumber => .nan
  | .zero s => .finite (isNegative s) 0 (-1074)
  | .finite s m e _ => .finite (isNegative s) m e

theorem isNegative_ofBitVec (v : BitVec 1) : isNegative (.ofBitVec v) = decide (1 ≤ v.toNat) := by
  revert v
  decide

/-- The parts of a bit pattern are those of the number that it is unpacked to. -/
theorem Parts.ofUnpacked_unpack (bits : BitVec 64) :
    ofUnpacked (.unpack .binary64 bits) = .ofBits bits.toNat := by
  have hfield := toNat_unpackExponent bits
  have hfraction := toNat_unpackMantissa bits
  have hsign : isNegative (.ofBitVec (@unpackSign .binary64 bits)) =
      decide (2 ^ 63 ≤ bits.toNat) := by
    rw [isNegative_ofBitVec, toNat_unpackSign, decide_eq_decide]
    omega
  have hlargest : @unpackExponent .binary64 bits = -BitVec.ofNat _ 1 ↔
      bits.toNat / 2 ^ 52 % 2 ^ 11 = 2047 := by
    rw [← hfield]
    exact BitVec.toNat_inj.symm
  have hsmallest : @unpackExponent .binary64 bits = BitVec.ofNat _ 0 ↔
      bits.toNat / 2 ^ 52 % 2 ^ 11 = 0 := by
    rw [← hfield]
    exact BitVec.toNat_inj.symm
  have hzero : @unpackMantissa .binary64 bits = BitVec.ofNat _ 0 ↔
      bits.toNat % 2 ^ 52 = 0 := by
    rw [← hfraction]
    exact BitVec.toNat_inj.symm
  unfold Parts.ofBits twoTo UnpackedFloat.unpack
  dsimp only [Nat.pow_eq]
  rw [← hsign]
  by_cases hinfinite : bits.toNat / 2 ^ 52 % 2 ^ 11 = 2047
  · rw [if_pos (hlargest.mpr hinfinite), if_pos hinfinite]
    by_cases hnumber : bits.toNat % 2 ^ 52 = 0
    · rw [if_pos (hzero.mpr hnumber), if_pos hnumber]
      rfl
    · rw [if_neg (mt hzero.mp hnumber), if_neg hnumber]
      rfl
  · rw [if_neg (mt hlargest.mp hinfinite), if_neg hinfinite]
    by_cases htiny : bits.toNat / 2 ^ 52 % 2 ^ 11 = 0
    · rw [if_pos (hsmallest.mpr htiny), if_pos htiny]
      by_cases hnumber : bits.toNat % 2 ^ 52 = 0
      · rw [dif_pos (hzero.mpr hnumber), hnumber]
        rfl
      · rw [dif_neg (mt hzero.mp hnumber)]
        change Parts.finite _ (@unpackMantissa .binary64 bits).toNat _ = _
        rw [hfraction, hfield, htiny]
        rfl
    · rw [if_neg (mt hsmallest.mp htiny), if_neg htiny]
      have happend := toNat_append 1#1 (@unpackMantissa .binary64 bits)
      rw [hfraction] at happend
      change Parts.finite _ (1#1 ++ @unpackMantissa .binary64 bits).toNat
        (((@unpackExponent .binary64 bits).toNat : Int) - 1075) = _
      rw [hfield]
      exact congrArg (Parts.finite _ · _) happend

/-! ## Packing -/

/-- A mantissa and an exponent as a double holds them: with fifty-three bits, or with the smallest
exponent. -/
structure Held (m : Nat) (e : Int) : Prop where
  positive : 0 < m
  below : m < 2 ^ 53
  smallest : -1074 ≤ e
  full : 2 ^ 52 ≤ m ∨ e = -1074

/-- The parts of a bit pattern that is made of a sign, an exponent and a fraction. -/
theorem Parts.ofBits_packComponents (s : Sign) (exponent : BitVec 11) (fraction : BitVec 52) :
    Parts.ofBits (packComponents .binary64 s exponent fraction).toNat =
      if exponent.toNat = 2047 then
        if fraction.toNat = 0 then .infinite (isNegative s) else .nan
      else if exponent.toNat = 0 then .finite (isNegative s) fraction.toNat (-1074)
      else .finite (isNegative s) (2 ^ 52 + fraction.toNat) ((exponent.toNat : Int) - 1075) := by
  have hexponent := exponent.isLt
  have hfraction := fraction.isLt
  rw [toNat_packComponents]
  generalize exponent.toNat = x at *
  generalize fraction.toNat = f at *
  have hsign : decide (2 ^ 63 ≤ s.toBitVec.toNat * 2 ^ 63 + x * 2 ^ 52 + f) = isNegative s := by
    cases s with
    | negative => exact decide_eq_true (by change _ ≤ 1 * 2 ^ 63 + _ + _; omega)
    | positive => exact decide_eq_false (by change ¬_ ≤ 0 * 2 ^ 63 + _ + _; omega)
  have hfield : (s.toBitVec.toNat * 2 ^ 63 + x * 2 ^ 52 + f) / 2 ^ 52 % 2 ^ 11 = x := by omega
  have hrest : (s.toBitVec.toNat * 2 ^ 63 + x * 2 ^ 52 + f) % 2 ^ 52 = f := by omega
  unfold Parts.ofBits twoTo
  dsimp only [Nat.pow_eq]
  rw [hsign, hfield, hrest]

/-- What is packed as a double keeps its parts, unless it is too large for a double. -/
theorem Parts.ofBits_pack (h : Held m e) :
    Parts.ofBits (UnpackedFloat.pack .binary64 (.finite s m e h.positive)).toNat =
      if e ≤ 971 then .finite (isNegative s) m e else .infinite (isNegative s) := by
  obtain ⟨hpositive, hbelow, hsmallest, hfull⟩ := h
  have hbias : e + (Format.binary64.exponentBias : Int) + (Format.binary64.mantissaBitsWithoutImplicit : Int) =
      e + 1075 := by
    change e + 1023 + 52 = _
    omega
  unfold UnpackedFloat.pack
  dsimp only
  rw [hbias]
  change Parts.ofBits
    (if 2048 ≤ (e + 1075).toNat + 1 then _ else if m.log2 + 1 = 53 then _ else _ : BitVec 64).toNat = _
  by_cases he : e ≤ 971
  · rw [if_neg (by omega), if_pos he]
    by_cases hm : 2 ^ 52 ≤ m
    · have hlog : m.log2 + 1 = 53 := congrArg (· + 1) ((Nat.log2_eq_iff (by omega)).mpr ⟨hm, hbelow⟩)
      have hfield : (e + 1075).toNat % 2 ^ 11 = (e + 1075).toNat := Nat.mod_eq_of_lt (by omega)
      have hrest : 2 ^ 52 + m % 2 ^ 52 = m := by omega
      rw [if_pos hlog]
      refine (Parts.ofBits_packComponents s _ _).trans ?_
      rw [BitVec.toNat_ofNat, BitVec.toNat_ofNat, hfield, hrest, if_neg (by omega), if_neg (by omega)]
      exact congrArg (Parts.finite _ m) (by omega)
    · have hlog : m.log2 < 52 := (Nat.log2_lt (Nat.pos_iff_ne_zero.mp hpositive)).mpr (by omega)
      have hrest : (BitVec.ofNat 52 m).toNat = m := by
        rw [BitVec.toNat_ofNat]
        exact Nat.mod_eq_of_lt (by omega)
      rw [if_neg (by omega)]
      refine (Parts.ofBits_packComponents s _ _).trans ?_
      rw [hrest, if_neg (by decide), if_pos (by decide)]
      exact congrArg (Parts.finite _ m) (by omega)
  · rw [if_pos (by omega), if_neg he]
    exact Parts.ofBits_packComponents s (-1#11) 0

/-! ## Doubles -/

/-- The parts of a double are those of the number that it is unpacked to. -/
theorem Parts.ofFloat_eq (x : Float) : Parts.ofFloat x = .ofUnpacked x.toModel.unpack :=
  (Parts.ofUnpacked_unpack x.toModel.toBits.toBitVec).symm

/-- The parts of a number that is packed as a double. -/
theorem Parts.ofFloat_pack (h : Held m e) :
    Parts.ofFloat ⟨Float.Model.pack (.finite s m e h.positive)⟩ =
      if e ≤ 971 then .finite (isNegative s) m e else .infinite (isNegative s) :=
  Parts.ofBits_pack h

theorem Parts.ofFloat_pack_zero (s : Sign) :
    Parts.ofFloat ⟨Float.Model.pack (.zero s)⟩ = .finite (isNegative s) 0 (-1074) := by
  cases s <;> decide +kernel

theorem Parts.ofFloat_pack_infinity (s : Sign) :
    Parts.ofFloat ⟨Float.Model.pack (.infinity s)⟩ = .infinite (isNegative s) := by
  cases s <;> decide +kernel

/-- What the mantissa and the exponent of a bit pattern can be. -/
theorem held_of_ofBits {bits : Nat} {negative : Bool} (hm : 0 < m)
    (h : Parts.ofBits bits = .finite negative m e) : Held m e ∧ e ≤ 971 := by
  unfold Parts.ofBits twoTo at h
  dsimp only [Nat.pow_eq] at h
  generalize hfield : bits / 2 ^ 52 % 2 ^ 11 = field at h
  split at h
  · split at h <;> cases h
  · split at h
    · cases h
      exact ⟨⟨hm, by omega, by omega, .inr rfl⟩, by omega⟩
    · cases h
      exact ⟨⟨hm, by omega, by omega, .inl (by omega)⟩, by omega⟩

/-- The bits that a double is made of have its parts. -/
theorem Parts.ofFloat_ofBits (bits : UInt64) : Parts.ofFloat (.ofBits bits) = .ofBits bits.toNat := by
  have hbits := Parts.ofUnpacked_unpack bits.toBitVec
  change Parts.ofFloat ⟨Float.Model.pack (.unpack .binary64 bits.toBitVec)⟩ = .ofBits bits.toBitVec.toNat
  cases hunpack : UnpackedFloat.unpack .binary64 bits.toBitVec with
  | infinity s =>
      rw [hunpack] at hbits
      exact (ofFloat_pack_infinity s).trans hbits
  | notANumber =>
      rw [hunpack] at hbits
      exact Eq.trans (by decide +kernel) hbits
  | zero s =>
      rw [hunpack] at hbits
      exact (ofFloat_pack_zero s).trans hbits
  | finite s m e hm =>
      rw [hunpack] at hbits
      obtain ⟨held, he⟩ := held_of_ofBits hm hbits.symm
      rw [ofFloat_pack held, if_pos he]
      exact hbits

/-! ## What a double is unpacked to -/

theorem held_of_parts {x : Float} {negative : Bool} (hm : 0 < m)
    (h : Parts.ofFloat x = .finite negative m e) : Held m e ∧ e ≤ 971 :=
  held_of_ofBits hm h

theorem exists_unpack_of_parts {x : Float} {negative : Bool} (hm : 0 < m)
    (h : Parts.ofFloat x = .finite negative m e) :
    ∃ s, x.toModel.unpack = .finite s m e hm ∧ isNegative s = negative := by
  rw [Parts.ofFloat_eq] at h
  cases hx : x.toModel.unpack with
  | infinity s => rw [hx] at h; cases h
  | notANumber => rw [hx] at h; cases h
  | zero s => rw [hx] at h; cases h; cases hm
  | finite s m' e' hm' => rw [hx] at h; cases h; exact ⟨s, rfl, rfl⟩

theorem exists_unpack_of_zero {x : Float} {negative : Bool} (h : Parts.ofFloat x = .finite negative 0 e) :
    ∃ s, x.toModel.unpack = .zero s ∧ isNegative s = negative := by
  rw [Parts.ofFloat_eq] at h
  cases hx : x.toModel.unpack with
  | infinity s => rw [hx] at h; cases h
  | notANumber => rw [hx] at h; cases h
  | zero s => rw [hx] at h; cases h; exact ⟨s, rfl, rfl⟩
  | finite s m' e' hm' => rw [hx] at h; cases h; cases hm'

theorem exists_unpack_of_infinite {x : Float} {negative : Bool} (h : Parts.ofFloat x = .infinite negative) :
    ∃ s, x.toModel.unpack = .infinity s := by
  rw [Parts.ofFloat_eq] at h
  cases hx : x.toModel.unpack with
  | infinity s => exact ⟨s, rfl⟩
  | notANumber => rw [hx] at h; cases h
  | zero s => rw [hx] at h; cases h
  | finite s m e hm => rw [hx] at h; cases h

/-! ## Integers made of doubles -/

theorem isNaN_iff {x : Float} : x.isNaN = true ↔ Parts.ofFloat x = .nan := by
  rw [Parts.ofFloat_eq]
  change x.toModel.unpack.isNaN = true ↔ _
  cases x.toModel.unpack with
  | notANumber => exact iff_of_true rfl rfl
  | infinity s => exact iff_of_false Bool.false_ne_true fun h => by cases h
  | zero s => exact iff_of_false Bool.false_ne_true fun h => by cases h
  | finite s m e hm => exact iff_of_false Bool.false_ne_true fun h => by cases h

theorem integerOr_none_of_nan {x : Float} (h : Parts.ofFloat x = .nan) : integerOr x none = .error .notNumber := by
  rw [integerOr, if_pos (isNaN_iff.mpr h)]

theorem integerOr_none_of_infinite {x : Float} {negative : Bool} (h : Parts.ofFloat x = .infinite negative) :
    integerOr x none = .error .infinite := by
  rw [integerOr, if_neg]
  rw [isNaN_iff, h]
  exact Parts.noConfusion

/-- What makes a double impossible to cut: that it is no number, or that it is infinite. -/
theorem truncated_eq_error_iff {x : Float} {fault : ArithmeticFault} :
    truncated x = .error fault ↔
      Parts.ofFloat x = .nan ∧ fault = .notNumber ∨
        (∃ negative, Parts.ofFloat x = .infinite negative) ∧ fault = .infinite := by
  rw [truncated, truncate?]
  cases hx : Parts.ofFloat x with
  | nan =>
      have hcut : integerOr x none = .error .notNumber := integerOr_none_of_nan hx
      simp [hcut, eq_comm]
  | infinite negative =>
      have hcut : integerOr x none = .error .infinite := integerOr_none_of_infinite hx
      simp [hcut, eq_comm]
  | finite negative m q => simp [integerOr]

end Conformance.Decimal
