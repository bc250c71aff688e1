import Conformance.Proofs.Decimal.Arithmetic

/-!
# Shares of a width

A share of a whole is a double that is at most one, and a width that memory can hold is a double without loss.  Their
product, rounded to an integer, is a part of the width.

Main results:

- `exists_quotient_parts`: a share of a whole is at most one.
- `exists_double_parts`: an integer with few bits is kept as it is.
- `exists_rounded_mul_le`: a share of a width is rounded to at most the width.
-/

namespace Conformance.Decimal

variable {num den m n : Nat} {x y : Float} {e f : Int}

/-! ## Rounding -/

/-- A quotient that is less than half a unit beyond an integer is not rounded beyond it. -/
theorem roundDiv_le_of_lt (hden : 0 < den) (h : 2 * num < (2 * n + 1) * den) : roundDiv num den ≤ n := by
  obtain ⟨-, hwithin⟩ := roundDiv_within num den hden
  have hbelow : 2 * roundDiv num den * den < (2 * n + 2) * den := by
    calc 2 * roundDiv num den * den ≤ 2 * num + den := hwithin
      _ < (2 * n + 1) * den + den := by omega
      _ = (2 * n + 2) * den := by rw [← Nat.succ_mul]
  have := Nat.lt_of_mul_lt_mul_right hbelow
  omega

/-! ## Shares -/

/-- In its unit, a share of a whole has at most fifty-three bits. -/
theorem share_lt_unit (hnum : num ≠ 0) (hle : num ≤ den) :
    unitExponent num den ≤ -52 ∧ num * twoTo (-unitExponent num den).toNat < twoTo 53 * den := by
  have hden : den ≠ 0 := by omega
  have hlog : num.log2 < den.log2 + 1 := (Nat.log2_lt hnum).mpr (Nat.lt_of_le_of_lt hle (lt_twoTo_log2 den))
  have hguess : ¬0 ≤ (num.log2 : Int) - den.log2 - 52 := by omega
  unfold unitExponent
  dsimp only
  rw [if_neg hguess]
  by_cases hbelow : num * twoTo (-((num.log2 : Int) - den.log2 - 52)).toNat < twoTo 52 * den
  · rw [if_pos hbelow]
    refine ⟨by omega, ?_⟩
    calc num * twoTo (-max (-1074) ((num.log2 : Int) - den.log2 - 52 - 1)).toNat
        ≤ num * twoTo ((-((num.log2 : Int) - den.log2 - 52)).toNat + 1) :=
          Nat.mul_le_mul_left _ (twoTo_le_twoTo (by omega))
      _ = 2 * (num * twoTo (-((num.log2 : Int) - den.log2 - 52)).toNat) := by
          rw [twoTo_succ, Nat.mul_left_comm]
      _ < 2 * (twoTo 52 * den) := by omega
      _ = twoTo 53 * den := by rw [← Nat.mul_assoc, ← twoTo_succ]
  · rw [if_neg hbelow]
    refine ⟨by omega, ?_⟩
    calc num * twoTo (-max (-1074) ((num.log2 : Int) - den.log2 - 52)).toNat
        ≤ num * twoTo (-((num.log2 : Int) - den.log2 - 52)).toNat :=
          Nat.mul_le_mul_left _ (twoTo_le_twoTo (by omega))
      _ < twoTo (num.log2 + 1) * twoTo (-((num.log2 : Int) - den.log2 - 52)).toNat :=
          Nat.mul_lt_mul_of_pos_right (lt_twoTo_log2 num) (twoTo_pos _)
      _ = twoTo (53 + den.log2) := by
          rw [← twoTo_add]
          congr 1
          omega
      _ = twoTo 53 * twoTo den.log2 := twoTo_add _ _
      _ ≤ twoTo 53 * den := Nat.mul_le_mul_left _ (twoTo_log2_le hden)

/-- A share of a whole is at most one. -/
theorem exists_nearestBits?_share (hden : 0 < den) (hle : num ≤ den) :
    ∃ bits, nearestBits? num den = some bits ∧ bits ≤ 1023 * twoTo 52 := by
  unfold nearestBits?
  by_cases hnum : num = 0
  · exact ⟨0, if_pos hnum, Nat.zero_le _⟩
  · obtain ⟨hexponent, hbelow⟩ := share_lt_unit hnum hle
    obtain ⟨hsmallest, -, -⟩ := unitExponent_bounds num den
    rw [if_neg hnum]
    dsimp only
    generalize unitExponent num den = q at hexponent hbelow hsmallest
    have hq : ¬0 ≤ q := by omega
    rw [if_neg hq]
    have hbits : (q + 1074).toNat * twoTo 52 + roundDiv (num * twoTo (-q).toNat) den ≤ 1023 * twoTo 52 := by
      rcases Int.lt_or_eq_of_le hexponent with hless | rfl
      · have hunits : roundDiv (num * twoTo (-q).toNat) den ≤ 2 * twoTo 52 :=
          roundDiv_le hden (Nat.le_of_lt hbelow)
        have hplaces : (q + 1074).toNat * twoTo 52 ≤ 1021 * twoTo 52 := Nat.mul_le_mul_right _ (by omega)
        omega
      · have hunits : roundDiv (num * twoTo 52) den ≤ twoTo 52 :=
          roundDiv_le hden (Nat.mul_comm num _ ▸ Nat.mul_le_mul_left _ hle)
        have hplaces : ((-52 : Int) + 1074).toNat * twoTo 52 = 1022 * twoTo 52 := rfl
        change ((-52 : Int) + 1074).toNat * twoTo 52 + roundDiv (num * twoTo 52) den ≤ _
        omega
    have hpositive := twoTo_pos 52
    exact ⟨_, if_pos (by omega), hbits⟩

/-- What a double that is not too large is made of. -/
theorem parts_ofMagnitude {bits : Nat} (h : bits < 2047 * 2 ^ 52) :
    Parts.ofFloat (ofMagnitude false bits) =
      if bits / 2 ^ 52 = 0 then .finite false bits (-1074)
      else .finite false (2 ^ 52 + bits % 2 ^ 52) (((bits / 2 ^ 52 : Nat) : Int) - 1075) := by
  have hnat : (UInt64.ofNat bits).toNat = bits := by
    rw [UInt64.toNat_ofNat']
    exact Nat.mod_eq_of_lt (by omega)
  have hparts : Parts.ofFloat (ofMagnitude false bits) = .ofBits bits := by
    change Parts.ofFloat (.ofBits (UInt64.ofNat bits)) = _
    rw [Parts.ofFloat_ofBits, hnat]
  have hsign : decide (2 ^ 63 ≤ bits) = false := decide_eq_false (by omega)
  have hfield : bits / 2 ^ 52 % 2 ^ 11 = bits / 2 ^ 52 := Nat.mod_eq_of_lt (by omega)
  rw [hparts]
  unfold Parts.ofBits twoTo
  dsimp only [Nat.pow_eq]
  rw [hsign, hfield, if_neg (by omega)]
  by_cases hzero : bits / 2 ^ 52 = 0
  · have hfraction : bits % 2 ^ 52 = bits := by omega
    rw [if_pos hzero, if_pos hzero, hfraction]
  · rw [if_neg hzero, if_neg hzero]

/-- What a double that is at most one is made of. -/
theorem exists_parts_of_le_one {bits : Nat} (h : bits ≤ 1023 * 2 ^ 52) :
    ∃ m e, Parts.ofFloat (ofMagnitude false bits) = .finite false m e ∧ e ≤ -52 ∧ m ≤ twoTo (-e).toNat := by
  rw [parts_ofMagnitude (by omega)]
  by_cases hzero : bits / 2 ^ 52 = 0
  · rw [if_pos hzero]
    refine ⟨_, _, rfl, by decide, ?_⟩
    calc bits ≤ twoTo 52 := by
          change bits ≤ 2 ^ 52
          omega
      _ ≤ twoTo (-(-1074 : Int)).toNat := twoTo_le_twoTo (by decide)
  · rw [if_neg hzero]
    rcases Nat.lt_or_eq_of_le (show bits / 2 ^ 52 ≤ 1023 by omega) with hless | hone
    · refine ⟨_, _, rfl, by omega, ?_⟩
      calc 2 ^ 52 + bits % 2 ^ 52 ≤ twoTo 53 := by
            change _ ≤ 2 ^ 53
            omega
        _ ≤ twoTo (-(((bits / 2 ^ 52 : Nat) : Int) - 1075)).toNat := twoTo_le_twoTo (by omega)
    · have hfraction : bits % 2 ^ 52 = 0 := by omega
      rw [hone, hfraction]
      exact ⟨_, _, rfl, by decide, by decide⟩

/-- A share of a whole is a double that is at most one. -/
theorem exists_quotient_parts {part whole : Nat} (hwhole : 0 < whole) (h : part ≤ whole) :
    ∃ x m e, quotient part whole = .ok x ∧ Parts.ofFloat x = .finite false m e ∧ e ≤ -52 ∧ m ≤ twoTo (-e).toNat := by
  obtain ⟨bits, hbits, hsmall⟩ := exists_nearestBits?_share hwhole h
  obtain ⟨m, e, hparts, he, hm⟩ := exists_parts_of_le_one hsmall
  have hquotient : quotient? part whole = some (ofMagnitude false bits) := by
    change (nearestBits? part whole).map (ofMagnitude false) = _
    rw [hbits]
    rfl
  refine ⟨_, m, e, ?_, hparts, he, hm⟩
  unfold quotient
  rw [hquotient]

/-! ## Widths -/

/-- The bits of an integer with few bits are filled up with zeros. -/
theorem nearestBits?_one_eq {width : Nat} (hpositive : 0 < width) (hlog : width.log2 < 52) :
    nearestBits? width 1 = some ((width.log2 + 1022) * 2 ^ 52 + width * 2 ^ (52 - width.log2)) ∧
      2 ^ 52 ≤ width * 2 ^ (52 - width.log2) ∧ width * 2 ^ (52 - width.log2) < 2 ^ 53 := by
  have hne : width ≠ 0 := by omega
  have hlower : 2 ^ 52 ≤ width * 2 ^ (52 - width.log2) := by
    calc 2 ^ 52 = 2 ^ width.log2 * 2 ^ (52 - width.log2) := by
          rw [← Nat.pow_add]
          congr 1
          omega
      _ ≤ width * 2 ^ (52 - width.log2) := Nat.mul_le_mul_right _ (Nat.log2_self_le hne)
  have hupper : width * 2 ^ (52 - width.log2) < 2 ^ 53 := by
    calc width * 2 ^ (52 - width.log2) < 2 ^ (width.log2 + 1) * 2 ^ (52 - width.log2) :=
          Nat.mul_lt_mul_of_pos_right Nat.lt_log2_self (Nat.two_pow_pos _)
      _ = 2 ^ 53 := by
          rw [← Nat.pow_add]
          congr 1
          omega
  refine ⟨?_, hlower, hupper⟩
  have hplaces : ((width.log2 : Int) - 52 + 1074).toNat = width.log2 + 1022 := by omega
  have hunits : roundDiv (width * twoTo (-((width.log2 : Int) - 52)).toNat) 1 = width * 2 ^ (52 - width.log2) := by
    have hexponent : (-((width.log2 : Int) - 52)).toNat = 52 - width.log2 := by omega
    rw [hexponent]
    exact (congrArg (roundDiv · 1) (Nat.mul_one _).symm).trans (roundDiv_mul _ 1 Nat.one_pos)
  have hexponent : ¬0 ≤ (width.log2 : Int) - 52 := by omega
  unfold nearestBits?
  rw [if_neg hne]
  dsimp only
  rw [unitExponent_one hne, if_neg hexponent, hplaces, hunits]
  refine if_pos ?_
  change (width.log2 + 1022) * 2 ^ 52 + _ < 2047 * 2 ^ 52
  omega

/-- An integer with few bits is a double without loss. -/
theorem exists_double_parts {width : Nat} (hpositive : 0 < width) (hsmall : width < 2 ^ 52) :
    ∃ x, double width = .ok x ∧
      Parts.ofFloat x = .finite false (width * 2 ^ (52 - width.log2)) ((width.log2 : Int) - 52) := by
  have hlog : width.log2 < 52 := (Nat.log2_lt (by omega)).mpr hsmall
  obtain ⟨hbits, hlower, hupper⟩ := nearestBits?_one_eq hpositive hlog
  have hdouble : ofInt? width =
      some (ofMagnitude false ((width.log2 + 1022) * 2 ^ 52 + width * 2 ^ (52 - width.log2))) := by
    change (nearestBits? width 1).map (ofMagnitude false) = _
    rw [hbits]
    rfl
  refine ⟨_, (double_eq_ok_iff _ _).mpr hdouble, ?_⟩
  rw [parts_ofMagnitude (by omega), if_neg (by omega)]
  congr 1
  · omega
  · omega

theorem lt_of_nearestBits? {bits : Nat} (h : nearestBits? num den = some bits) : bits < 2047 * 2 ^ 52 := by
  unfold nearestBits? at h
  by_cases hzero : num = 0
  · rw [if_pos hzero] at h
    cases h
    decide
  · rw [if_neg hzero] at h
    obtain ⟨hsmall, hbits⟩ := Option.ite_none_right_eq_some.mp h
    cases hbits
    exact hsmall

/-- A natural number that has a double has one that is finite and not negative. -/
theorem exists_parts_of_double {n : Nat} (h : double n = .ok x) : ∃ m e, Parts.ofFloat x = .finite false m e := by
  obtain ⟨bits, hbits, rfl⟩ := Option.map_eq_some_iff.mp ((double_eq_ok_iff _ _).mp h)
  have hsmall : bits < 2047 * 2 ^ 52 := lt_of_nearestBits? hbits
  change ∃ m e, Parts.ofFloat (ofMagnitude false bits) = _
  rw [parts_ofMagnitude hsmall]
  by_cases hzero : bits / 2 ^ 52 = 0
  · rw [if_pos hzero]
    exact ⟨_, _, rfl⟩
  · rw [if_neg hzero]
    exact ⟨_, _, rfl⟩

/-! ## Products -/

/-- Zero times a number is zero. -/
theorem parts_zero_mul {negative : Bool} (hx : Parts.ofFloat x = .finite false 0 e)
    (hy : Parts.ofFloat y = .finite negative n f) : Parts.ofFloat (x * y) = .finite negative 0 (-1074) := by
  obtain ⟨s, hs, hsign⟩ := exists_unpack_of_zero hx
  have hproduct : ∃ t, isNegative t = negative ∧ x * y = ⟨Float.Model.pack (.zero (s * t))⟩ := by
    by_cases hn : n = 0
    · subst hn
      obtain ⟨t, ht, htsign⟩ := exists_unpack_of_zero hy
      refine ⟨t, htsign, ?_⟩
      change Float.ofModel (Float.Model.pack (.mul .binary64 x.toModel.unpack y.toModel.unpack)) = _
      rw [hs, ht]
      rfl
    · obtain ⟨t, ht, htsign⟩ := exists_unpack_of_parts (Nat.pos_of_ne_zero hn) hy
      refine ⟨t, htsign, ?_⟩
      change Float.ofModel (Float.Model.pack (.mul .binary64 x.toModel.unpack y.toModel.unpack)) = _
      rw [hs, ht]
      rfl
  obtain ⟨t, htsign, hproduct⟩ := hproduct
  rw [hproduct, Parts.ofFloat_pack_zero, isNegative_mul, hsign, htsign, Bool.false_bne]

/-- Nothing of a width is no cells. -/
theorem rounded_zero_mul (hx : Parts.ofFloat x = .finite false 0 e) (hy : Parts.ofFloat y = .finite false n f) :
    rounded (x * y) = .ok 0 := by
  have hnone : roundDiv 0 (twoTo (-(-1074 : Int)).toNat) = 0 :=
    Nat.le_zero.mp (roundDiv_le (twoTo_pos _) (Nat.zero_le _))
  rw [rounded_of_parts (parts_zero_mul hx hy) (by decide), hnone]
  rfl

/-- A share of a width is rounded to at most the width. -/
theorem exists_rounded_mul_le {width : Nat} (hpositive : 0 < width) (hsmall : width < 2 ^ 40)
    (hx : Parts.ofFloat x = .finite false m e) (he : e ≤ -52) (hm : m ≤ twoTo (-e).toNat)
    (hy : Parts.ofFloat y = .finite false (width * 2 ^ (52 - width.log2)) ((width.log2 : Int) - 52)) :
    ∃ cells : Nat, rounded (x * y) = .ok (cells : Int) ∧ cells ≤ width := by
  have hlog : width.log2 < 40 := (Nat.log2_lt (by omega)).mpr hsmall
  have hlower := (nearestBits?_one_eq hpositive (by omega)).2.1
  by_cases hzero : m = 0
  · subst hzero
    exact ⟨0, rounded_zero_mul hx hy, Nat.zero_le _⟩
  · generalize hexponent : e + ((width.log2 : Int) - 52) = exponent
    have hexact : m * (width * 2 ^ (52 - width.log2)) ≤ width * 2 ^ (-exponent).toNat := by
      have hsum : (-exponent).toNat = (-e).toNat + (52 - width.log2) := by omega
      calc m * (width * 2 ^ (52 - width.log2)) ≤ 2 ^ (-e).toNat * (width * 2 ^ (52 - width.log2)) :=
            Nat.mul_le_mul_right _ hm
        _ = width * 2 ^ (-exponent).toNat := by rw [hsum, Nat.pow_add, Nat.mul_left_comm]
    have hproduct : 2 ^ 52 ≤ m * (width * 2 ^ (52 - width.log2)) :=
      Nat.le_trans hlower (Nat.le_mul_of_pos_left _ (Nat.pos_of_ne_zero hzero))
    have hparts := exists_parts_mul (Nat.pos_of_ne_zero hzero) hlower hx hy
    rw [hexponent] at hparts
    generalize m * (width * 2 ^ (52 - width.log2)) = product at hexact hproduct hparts
    have htarget : targetOf product exponent ≤ -13 := by
      have hbits : product.log2 < 40 + (-exponent).toNat := by
        refine (Nat.log2_lt (by omega)).mpr (Nat.lt_of_le_of_lt hexact ?_)
        rw [Nat.pow_add]
        exact Nat.mul_lt_mul_of_pos_right hsmall (Nat.two_pow_pos _)
      unfold targetOf
      omega
    have hdropped := add_droppedBits (e := exponent) (.inl hproduct)
    obtain ⟨r, t, hparts, hupper, hunits⟩ := hparts (by omega)
    refine ⟨_, rounded_of_parts hparts (by omega), ?_⟩
    rcases hunits with rfl | ⟨hreach, hunits⟩
    · exact roundDiv_le (twoTo_pos _) (Nat.zero_le _)
    · refine roundDiv_le_of_lt (twoTo_pos _) ?_
      change 2 * r < (2 * width + 1) * 2 ^ (-t).toNat
      generalize targetOf product exponent = target at *
      have hwhole : product / 2 ^ droppedBits product exponent ≤ width * 2 ^ (-target).toNat := by
        refine Nat.div_le_of_le_mul (Nat.le_trans hexact (Nat.le_of_eq ?_))
        have hsum : (-exponent).toNat = droppedBits product exponent + (-target).toNat := by omega
        rw [hsum, Nat.pow_add, Nat.mul_left_comm]
      have hfew : 2 ^ 12 ≤ 2 ^ (-t).toNat := Nat.pow_le_pow_right (by decide) (by omega)
      have hsplit : (2 * width + 1) * 2 ^ (-t).toNat = 2 * (width * 2 ^ (-t).toNat) + 2 ^ (-t).toNat := by
        rw [Nat.add_mul, Nat.mul_assoc, Nat.one_mul]
      rcases Int.lt_or_eq_of_le hreach with hcarry | rfl
      · -- the mantissa was halved
        obtain rfl : t = target + 1 := by omega
        have hone : (target + 1 - target).toNat = 1 := by omega
        have hdouble : 2 ^ (-target).toNat = 2 * 2 ^ (-(target + 1)).toNat := by
          rw [← Nat.pow_succ']
          congr 1
          omega
        rw [hone, Nat.pow_one] at hunits
        rw [hdouble, Nat.mul_left_comm] at hwhole
        omega
      · rw [Int.sub_self] at hunits
        change r * 1 ≤ _ at hunits
        omega

end Conformance.Decimal
