import Conformance.Proofs.Decimal.Binary64
import Conformance.Proofs.Decimal.Unpacked

/-!
# Products and quotients of doubles

Arithmetic brings an exact result to the exponent at which fifty-three bits of it are left, and rounds what
is left then.

Main results:

- `roundWithAccuracy_cases`: a number is rounded to what is left of it at its exponent, or a little more.
- `rounds_mul`, `rounds_div`: a product or a quotient of doubles is rounded once.
- `rounded_of_parts`: the integer near a double that is small enough.
-/

namespace Conformance.Decimal

open Float.Model (UnpackedFloat Format totalExponent)
open Float.Model.UnpackedFloat (Sign ExtendedMantissa Accuracy accuracyOfFraction shiftToTargetExponent
  roundWithAccuracy)

variable {s : Sign} {m : Nat} {e : Int} {accuracy : Accuracy}

/-! ## Shifting -/

/-- The exponent that a number is brought to before it is rounded, so that fifty-three bits of it are left. -/
def targetOf (m : Nat) (e : Int) : Int :=
  max ((m.log2 : Int) + e - 52) (-1074)

theorem targetExponent_eq (m : Nat) (e : Int) :
    Format.binary64.targetExponent (totalExponent m e) = targetOf m e := by
  unfold Format.targetExponent totalExponent targetOf
  change max ((m.log2 : Int) + 1 + e - 53) (-1074) = _
  omega

/-- The bits that are dropped when a number is brought to that exponent. -/
def droppedBits (m : Nat) (e : Int) : Nat :=
  (targetOf m e - e).toNat

theorem mantissa_shift (x : ExtendedMantissa) (n : Nat) : (x >>> n).mantissa = x.mantissa / 2 ^ n := by
  induction n with
  | zero => exact (Nat.div_one _).symm
  | succ n ih =>
      change (x >>> n).mantissa / 2 = _
      rw [ih, Nat.div_div_eq_div_mul, Nat.pow_succ]

theorem mantissa_ofMantissaAndAccuracy (m : Nat) (accuracy : Accuracy) :
    (ExtendedMantissa.ofMantissaAndAccuracy m accuracy).mantissa = m := by
  cases accuracy with
  | exact => rfl
  | inexact order => cases order <;> rfl

/-- A number keeps its leading bits when it is brought to its exponent. -/
theorem mantissa_shiftToTargetExponent (m : Nat) (e : Int) (accuracy : Accuracy) :
    (shiftToTargetExponent .binary64 m e accuracy).1.mantissa = m / 2 ^ droppedBits m e := by
  unfold shiftToTargetExponent Float.Model.UnpackedFloat.shiftToExponent
  dsimp only
  rw [mantissa_shift, mantissa_ofMantissaAndAccuracy, targetExponent_eq]
  rfl

theorem exponent_shiftToTargetExponent (m : Nat) (e : Int) (accuracy : Accuracy) :
    (shiftToTargetExponent .binary64 m e accuracy).2 = e + droppedBits m e := by
  unfold shiftToTargetExponent Float.Model.UnpackedFloat.shiftToExponent
  dsimp only
  rw [targetExponent_eq]
  rfl

/-- A mantissa is rounded down, or up to the next one. -/
theorem roundedMantissa_bounds (x : ExtendedMantissa) :
    x.mantissa ≤ x.roundedMantissa ∧ x.roundedMantissa ≤ x.mantissa + 1 := by
  rcases x with ⟨mantissa, round, sticky⟩
  unfold ExtendedMantissa.roundedMantissa
  cases round <;> cases sticky <;>
    simp only [ExtendedMantissa.accuracy, Accuracy.roundToNearestEven] <;> omega

/-- What is left of a number at its exponent fits into a double. -/
theorem div_lt (m : Nat) (e : Int) : m / 2 ^ droppedBits m e < 2 ^ 53 := by
  rw [Nat.div_lt_iff_lt_mul (Nat.two_pow_pos _), ← Nat.pow_add]
  refine Nat.lt_of_lt_of_le Nat.lt_log2_self (Nat.pow_le_pow_right (by decide) ?_)
  unfold droppedBits targetOf
  omega

/-! ## Rounding -/

/-- Nothing is dropped of a number that fits into a double. -/
theorem droppedBits_eq_zero (hm : m < 2 ^ 53) (he : -1074 ≤ e) : droppedBits m e = 0 := by
  have hlog : m.log2 ≤ 52 := by
    by_cases hzero : m = 0
    · rw [hzero]
      decide
    · exact Nat.lt_succ_iff.mp ((Nat.log2_lt hzero).mpr hm)
  unfold droppedBits targetOf
  omega

/-- A number with many bits is brought to its exponent without gaining any. -/
theorem add_droppedBits (h : 2 ^ 52 ≤ m ∨ e ≤ -1074) : e + droppedBits m e = targetOf m e := by
  have hlog : 52 ≤ m.log2 ∨ e ≤ -1074 := h.imp_left fun hm => by
    exact (Nat.le_log2 (by omega)).mpr hm
  unfold droppedBits targetOf
  omega

/-- What is left of a number at its exponent fills a double, unless this is the smallest exponent. -/
theorem le_div_or_targetOf_eq (h : 2 ^ 52 ≤ m ∨ e ≤ -1074) :
    2 ^ 52 ≤ m / 2 ^ droppedBits m e ∨ targetOf m e = -1074 := by
  by_cases htarget : targetOf m e = -1074
  · exact .inr htarget
  · have hlog : 52 ≤ m.log2 := by
      rcases h with hm | he
      · exact (Nat.le_log2 (by omega)).mpr hm
      · unfold targetOf at htarget
        omega
    have hdropped : 52 + droppedBits m e = m.log2 := by
      unfold droppedBits targetOf at *
      omega
    have hm : m ≠ 0 := by
      intro hm
      rw [hm] at hlog
      exact absurd hlog (by decide)
    refine .inl ?_
    rw [Nat.le_div_iff_mul_le (Nat.two_pow_pos _), ← Nat.pow_add, hdropped]
    exact Nat.log2_self_le hm

/-- A number that fits is left as it is. -/
theorem shiftToTargetExponent_of_lt (hm : m < 2 ^ 53) (he : -1074 ≤ e) :
    (shiftToTargetExponent .binary64 m e .exact).1.mantissa = m ∧
      (shiftToTargetExponent .binary64 m e .exact).2 = e := by
  rw [mantissa_shiftToTargetExponent, exponent_shiftToTargetExponent, droppedBits_eq_zero hm he]
  exact ⟨Nat.div_one m, Int.add_zero e⟩

/-- A mantissa that was rounded up to one bit more is halved. -/
theorem shiftToTargetExponent_carry (he : -1074 ≤ e) :
    (shiftToTargetExponent .binary64 (2 ^ 53) e .exact).1.mantissa = 2 ^ 52 ∧
      (shiftToTargetExponent .binary64 (2 ^ 53) e .exact).2 = e + 1 := by
  have hdropped : droppedBits (2 ^ 53) e = 1 := by
    unfold droppedBits targetOf
    rw [Nat.log2_two_pow]
    omega
  rw [mantissa_shiftToTargetExponent, exponent_shiftToTargetExponent, hdropped]
  exact ⟨rfl, rfl⟩

theorem finite_congr (s : Sign) {n : Nat} {f : Int} {hm : 0 < m} {hn : 0 < n} (hmantissa : m = n)
    (hexponent : e = f) : UnpackedFloat.finite s m e hm = .finite s n f hn := by
  subst hmantissa hexponent
  rfl

/-- A number is rounded to zero if nothing of it is left at its exponent, and otherwise to what is left or a
little more. -/
theorem roundWithAccuracy_cases (s : Sign) (accuracy : Accuracy) (h : 2 ^ 52 ≤ m ∨ e ≤ -1074) :
    (m / 2 ^ droppedBits m e = 0 ∧ roundWithAccuracy .binary64 s m e accuracy = .zero s) ∨
      ∃ r t, ∃ held : Held r t,
        roundWithAccuracy .binary64 s m e accuracy = .finite s r t held.positive ∧
          (m / 2 ^ droppedBits m e ≤ r ∨ r = 2 ^ 52) ∧ t ≤ targetOf m e + 1 ∧
          targetOf m e ≤ t ∧ r * 2 ^ (t - targetOf m e).toNat ≤ m / 2 ^ droppedBits m e + 1 := by
  have hbelow := div_lt m e
  have hfull := le_div_or_targetOf_eq h
  have hsmallest : -1074 ≤ targetOf m e := by
    unfold targetOf
    omega
  have hmantissa := mantissa_shiftToTargetExponent m e accuracy
  have hexponent := (exponent_shiftToTargetExponent m e accuracy).trans (add_droppedBits h)
  unfold roundWithAccuracy
  generalize shiftToTargetExponent .binary64 m e accuracy = first at *
  obtain ⟨x, t⟩ := first
  dsimp only at *
  obtain ⟨hlower, hupper⟩ := roundedMantissa_bounds x
  rw [hmantissa] at hlower hupper
  rw [← hexponent] at hfull hsmallest ⊢
  generalize x.roundedMantissa = r at *
  by_cases hr : r < 2 ^ 53
  · obtain ⟨hmantissa', hexponent'⟩ := shiftToTargetExponent_of_lt hr hsmallest
    by_cases hzero : r = 0
    · refine .inl ⟨by omega, ?_⟩
      rw [dif_pos (hmantissa'.trans hzero)]
    · refine .inr ⟨r, t, ⟨by omega, hr, hsmallest, by omega⟩, ?_, .inl hlower, by omega, Int.le_refl t, ?_⟩
      case refine_2 =>
        rw [Int.sub_self]
        exact Nat.le_trans (Nat.le_of_eq (Nat.mul_one r)) hupper
      rw [dif_neg (by rw [hmantissa']; exact hzero)]
      exact finite_congr s hmantissa' hexponent'
  · obtain rfl : r = 2 ^ 53 := by omega
    obtain ⟨hmantissa', hexponent'⟩ := shiftToTargetExponent_carry hsmallest
    have hheld : Held (2 ^ 52) (t + 1) := ⟨by decide, by decide, by omega, .inl (Nat.le_refl _)⟩
    have hcarry : (t + 1 - t).toNat = 1 := by omega
    refine .inr ⟨2 ^ 52, t + 1, hheld, ?_, .inr rfl, by omega, by omega, ?_⟩
    case refine_2 =>
      rw [hcarry]
      omega
    rw [dif_neg (by rw [hmantissa']; decide)]
    exact finite_congr s hmantissa' hexponent'

/-- A number that is a multiple of the smallest unit does not vanish. -/
theorem div_pos_of_held (hm : 0 < m) (he : -1074 ≤ e) : 0 < m / 2 ^ droppedBits m e := by
  by_cases hlarge : m < 2 ^ 53
  · rw [droppedBits_eq_zero hlarge he]
    omega
  · rcases le_div_or_targetOf_eq (e := e) (.inl (show 2 ^ 52 ≤ m by omega)) with hdiv | htarget
    · omega
    · have hdropped : droppedBits m e = 0 := by
        unfold droppedBits
        omega
      rw [hdropped]
      omega

/-! ## Comparing with zero -/

/-- A double that is equal to zero is zero. -/
theorem parts_of_beq_zero {x : Float} (h : (x == 0.0) = true) :
    ∃ negative, Parts.ofFloat x = .finite negative 0 (-1074) := by
  have hcompare : x.toModel.unpack.beq (.zero .positive) = true := h
  rw [Parts.ofFloat_eq]
  cases hx : x.toModel.unpack with
  | zero s => exact ⟨isNegative s, rfl⟩
  | notANumber => rw [hx] at hcompare; cases hcompare
  | infinity s => rw [hx] at hcompare; cases s <;> cases hcompare
  | finite s m e hm => rw [hx] at hcompare; cases s <;> cases hcompare

/-- Zero is not positive. -/
theorem le_zero_of_parts {x : Float} {a : Bool} {e : Int} (h : Parts.ofFloat x = .finite a 0 e) :
    x ≤ 0.0 := by
  rw [Parts.ofFloat_eq] at h
  cases hx : x.toModel.unpack with
  | zero s =>
      have hle : x.toModel ≤ (0.0 : Float).toModel := by
        change x.toModel.unpack.le (.zero .positive) = true
        rw [hx]
        rfl
      exact decide_eq_true hle
  | notANumber => rw [hx] at h; cases h
  | infinity s => rw [hx] at h; cases h
  | finite s m e hm => rw [hx] at h; cases h; cases hm

/-! ## Products and quotients -/

variable {x y : Float} {a b : Bool} {n : Nat} {f : Int}

theorem isNegative_mul (s t : Sign) : isNegative (s * t) = (isNegative s != isNegative t) := by
  cases s <;> cases t <;> rfl

theorem isNegative_div (s t : Sign) : isNegative (s / t) = (isNegative s != isNegative t) := by
  cases s <;> cases t <;> rfl

/-- What arithmetic makes of an exact number `m * 2 ^ e`, in parts: zero if nothing of it is left, infinity
if it is too large, and otherwise what is left of it or a little more. -/
inductive Rounds (negative : Bool) (m : Nat) (e : Int) : Parts → Prop
  | vanishes : m / 2 ^ droppedBits m e = 0 → Rounds negative m e (.finite negative 0 (-1074))
  | holds {r : Nat} {t : Int} : Held r t → (m / 2 ^ droppedBits m e ≤ r ∨ r = 2 ^ 52) →
      t ≤ targetOf m e + 1 → t ≤ 971 → Rounds negative m e (.finite negative r t)
  | overflows : 971 ≤ targetOf m e → Rounds negative m e (.infinite negative)

/-- A number is packed as it is rounded. -/
theorem rounds_pack (s : Sign) (accuracy : Accuracy) (h : 2 ^ 52 ≤ m ∨ e ≤ -1074) :
    Rounds (isNegative s) m e
      (.ofFloat ⟨Float.Model.pack (roundWithAccuracy .binary64 s m e accuracy)⟩) := by
  rcases roundWithAccuracy_cases s accuracy h with
    ⟨hnone, hround⟩ | ⟨r, t, held, hround, hlower, hupper, -⟩
  · rw [hround, Parts.ofFloat_pack_zero]
    exact .vanishes hnone
  · rw [hround, Parts.ofFloat_pack held]
    by_cases ht : t ≤ 971
    · rw [if_pos ht]
      exact .holds held hlower hupper ht
    · rw [if_neg ht]
      exact .overflows (by omega)

/-- A product of two numbers is the exact product, rounded once. -/
theorem exists_mul_eq (hm : 0 < m) (hn : 0 < n) (hx : Parts.ofFloat x = .finite a m e)
    (hy : Parts.ofFloat y = .finite b n f) :
    ∃ s, isNegative s = (a != b) ∧
      x * y = ⟨Float.Model.pack (roundWithAccuracy .binary64 s (m * n) (e + f) .exact)⟩ := by
  obtain ⟨s, hs, rfl⟩ := exists_unpack_of_parts hm hx
  obtain ⟨t, ht, rfl⟩ := exists_unpack_of_parts hn hy
  refine ⟨s * t, isNegative_mul s t, ?_⟩
  change Float.ofModel (Float.Model.pack (.mul .binary64 x.toModel.unpack y.toModel.unpack)) = _
  rw [hs, ht]
  rfl

/-- A product of two numbers is rounded once. -/
theorem rounds_mul (hm : 0 < m) (hn : 2 ^ 52 ≤ n) (hx : Parts.ofFloat x = .finite a m e)
    (hy : Parts.ofFloat y = .finite b n f) : Rounds (a != b) (m * n) (e + f) (.ofFloat (x * y)) := by
  obtain ⟨s, hsign, hproduct⟩ := exists_mul_eq hm (by omega) hx hy
  rw [hproduct, ← hsign]
  exact rounds_pack _ _ (.inl (Nat.le_trans hn (Nat.le_mul_of_pos_left n hm)))

/-- A product of two numbers that is not too large is zero, or has at most one unit of its exponent more than is left of
the exact product. -/
theorem exists_parts_mul (hm : 0 < m) (hn : 2 ^ 52 ≤ n) (hx : Parts.ofFloat x = .finite a m e)
    (hy : Parts.ofFloat y = .finite b n f) (hsmall : targetOf (m * n) (e + f) < 971) :
    ∃ r t, Parts.ofFloat (x * y) = .finite (a != b) r t ∧ t ≤ targetOf (m * n) (e + f) + 1 ∧
      (r = 0 ∨ targetOf (m * n) (e + f) ≤ t ∧
        r * 2 ^ (t - targetOf (m * n) (e + f)).toNat ≤ m * n / 2 ^ droppedBits (m * n) (e + f) + 1) := by
  obtain ⟨s, hsign, hproduct⟩ := exists_mul_eq hm (by omega) hx hy
  have hlarge : 2 ^ 52 ≤ m * n := Nat.le_trans hn (Nat.le_mul_of_pos_left n hm)
  rw [hproduct, ← hsign]
  rcases roundWithAccuracy_cases s .exact (.inl hlarge) with
    ⟨-, hround⟩ | ⟨r, t, held, hround, -, hupper, hlower, hunits⟩
  · rw [hround, Parts.ofFloat_pack_zero]
    refine ⟨0, -1074, rfl, ?_, .inl rfl⟩
    unfold targetOf
    omega
  · rw [hround, Parts.ofFloat_pack held, if_pos (by omega)]
    exact ⟨r, t, rfl, hupper, .inr ⟨hlower, hunits⟩⟩

/-- The exponent of a quotient before it is rounded. -/
def quotientExponent (m : Nat) (e : Int) (n : Nat) (f : Int) : Int :=
  min (e - f) (max ((m.log2 : Int) + e - n.log2 - f - 53) (-1074))

/-- The mantissa of a quotient before it is rounded. -/
def quotientMantissa (m : Nat) (e : Int) (n : Nat) (f : Int) : Nat :=
  m * 2 ^ (e - f - quotientExponent m e n f).toNat / n

/-- A quotient has enough bits before it is rounded. -/
theorem le_quotientMantissa (hm : 0 < m) (hn : 0 < n) :
    2 ^ 52 ≤ quotientMantissa m e n f ∨ quotientExponent m e n f ≤ -1074 := by
  by_cases hsmall : quotientExponent m e n f ≤ -1074
  · exact .inr hsmall
  · refine .inl ((Nat.le_div_iff_mul_le hn).mpr ?_)
    have hbits : n.log2 + 53 ≤ m.log2 + (e - f - quotientExponent m e n f).toNat := by
      unfold quotientExponent at *
      omega
    calc 2 ^ 52 * n ≤ 2 ^ 52 * 2 ^ (n.log2 + 1) := Nat.mul_le_mul_left _ (Nat.le_of_lt Nat.lt_log2_self)
      _ = 2 ^ (n.log2 + 53) := by rw [← Nat.pow_add]; congr 1; omega
      _ ≤ 2 ^ (m.log2 + (e - f - quotientExponent m e n f).toNat) := Nat.pow_le_pow_right (by decide) hbits
      _ ≤ m * 2 ^ (e - f - quotientExponent m e n f).toNat := by
          rw [Nat.pow_add]
          exact Nat.mul_le_mul_right _ (Nat.log2_self_le (Nat.pos_iff_ne_zero.mp hm))

/-- A quotient of two numbers is rounded once. -/
theorem rounds_div (hm : 0 < m) (hn : 0 < n) (hx : Parts.ofFloat x = .finite a m e)
    (hy : Parts.ofFloat y = .finite b n f) :
    Rounds (a != b) (quotientMantissa m e n f) (quotientExponent m e n f) (.ofFloat (x / y)) := by
  obtain ⟨s, hs, rfl⟩ := exists_unpack_of_parts hm hx
  obtain ⟨t, ht, rfl⟩ := exists_unpack_of_parts hn hy
  have htarget : min (e - f) (Format.binary64.targetExponent (totalExponent m e - totalExponent n f)) =
      quotientExponent m e n f := by
    unfold Format.targetExponent totalExponent quotientExponent
    change min (e - f) (max ((m.log2 : Int) + 1 + e - (n.log2 + 1 + f) - 53) (-1074)) = _
    omega
  have hquotient : x / y = ⟨Float.Model.pack (roundWithAccuracy .binary64 (s / t)
      (quotientMantissa m e n f) (quotientExponent m e n f)
      (accuracyOfFraction (m * 2 ^ (e - f - quotientExponent m e n f).toNat % n) n))⟩ := by
    change Float.ofModel (Float.Model.pack (.div .binary64 x.toModel.unpack y.toModel.unpack)) = _
    rw [hs, ht]
    unfold UnpackedFloat.div Float.Model.UnpackedFloat.divCore quotientMantissa
    dsimp only
    rw [htarget, Nat.shiftLeft_eq]
  rw [hquotient, ← isNegative_div]
  exact rounds_pack _ _ (le_quotientMantissa hm hn)

/-! ## Integers -/

/-- The integer near a double without decimal places beyond its exponent. -/
theorem rounded_of_parts (hx : Parts.ofFloat x = .finite false m e) (he : e ≤ 0) :
    rounded x = .ok (roundDiv m (twoTo (-e).toNat)) := by
  have hscaled : scaled m e = (m, twoTo (-e).toNat) := by
    unfold scaled
    by_cases hzero : e = 0
    · rw [hzero]
      exact congrArg (·, 1) (Nat.mul_one m)
    · exact if_neg (by omega)
  unfold rounded round?
  rw [hx]
  dsimp only
  rw [hscaled]
  rfl

end Conformance.Decimal
