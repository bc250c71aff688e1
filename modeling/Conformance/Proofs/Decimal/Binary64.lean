import Conformance.Decimal.Arithmetic

/-!
# Quotients that have a double

A quotient has a double near it unless it is nearly as large as the largest double.  For integers the limit is
exact.

Main results:

- `roundDiv_le`: a quotient is not rounded beyond an integer that it does not exceed.
- `exists_nearestBits?_eq_some`: a quotient that is not too large has a double near it.
- `double_eq_error_iff`: which integers are too large for a double.
-/

namespace Conformance.Decimal

variable {num den : Nat}

/-- A quotient is not rounded beyond an integer that it does not exceed. -/
theorem roundDiv_le {n : Nat} (hden : 0 < den) (h : num ≤ n * den) : roundDiv num den ≤ n := by
  obtain ⟨-, hwithin⟩ := roundDiv_within num den hden
  have hbelow : 2 * roundDiv num den * den < (2 * n + 2) * den := by
    calc 2 * roundDiv num den * den ≤ 2 * num + den := hwithin
      _ ≤ 2 * (n * den) + den := by omega
      _ < 2 * (n * den) + 2 * den := by omega
      _ = (2 * n + 2) * den := by rw [Nat.add_mul, Nat.mul_assoc]
  have := Nat.lt_of_mul_lt_mul_right hbelow
  omega

theorem twoTo_add (m n : Nat) : twoTo (m + n) = twoTo m * twoTo n :=
  Nat.pow_add 2 m n

theorem twoTo_le_twoTo {m n : Nat} (h : m ≤ n) : twoTo m ≤ twoTo n :=
  Nat.pow_le_pow_right (by decide) h

theorem lt_twoTo_log2 (n : Nat) : n < twoTo (n.log2 + 1) :=
  Nat.lt_log2_self

theorem twoTo_log2_le (h : num ≠ 0) : twoTo num.log2 ≤ num :=
  Nat.log2_self_le h

/-- The exponent of a quotient is close to what its parts make expect. -/
theorem unitExponent_bounds (num den : Nat) :
    -1074 ≤ unitExponent num den ∧
      (num.log2 : Int) - den.log2 - 53 ≤ unitExponent num den ∧
      unitExponent num den ≤ max (-1074) ((num.log2 : Int) - den.log2 - 52) := by
  unfold unitExponent
  dsimp only
  split
  · split <;> omega
  · split <;> omega

/-- In its unit, a quotient is rounded to a number of at most fifty-five bits. -/
theorem roundDiv_unit_le (num : Nat) (hden : 0 < den) :
    (if 0 ≤ unitExponent num den then roundDiv num (den * twoTo (unitExponent num den).toNat)
      else roundDiv (num * twoTo (-unitExponent num den).toNat) den) ≤ twoTo 54 := by
  obtain ⟨-, hlower, -⟩ := unitExponent_bounds num den
  generalize unitExponent num den = q at hlower
  have hnum := lt_twoTo_log2 num
  have hden' := twoTo_log2_le (Nat.pos_iff_ne_zero.mp hden)
  split
  next hq =>
    refine roundDiv_le (Nat.mul_pos hden (twoTo_pos _)) ?_
    calc num ≤ twoTo (num.log2 + 1) := Nat.le_of_lt hnum
      _ ≤ twoTo (54 + (den.log2 + q.toNat)) := twoTo_le_twoTo (by omega)
      _ = twoTo 54 * (twoTo den.log2 * twoTo q.toNat) := by rw [twoTo_add, twoTo_add]
      _ ≤ twoTo 54 * (den * twoTo q.toNat) :=
          Nat.mul_le_mul_left _ (Nat.mul_le_mul_right _ hden')
  next hq =>
    refine roundDiv_le hden ?_
    calc num * twoTo (-q).toNat ≤ twoTo (num.log2 + 1) * twoTo (-q).toNat :=
          Nat.mul_le_mul_right _ (Nat.le_of_lt hnum)
      _ = twoTo (num.log2 + 1 + (-q).toNat) := (twoTo_add _ _).symm
      _ ≤ twoTo (54 + den.log2) := twoTo_le_twoTo (by omega)
      _ = twoTo 54 * twoTo den.log2 := twoTo_add _ _
      _ ≤ twoTo 54 * den := Nat.mul_le_mul_left _ hden'

/-- A quotient that is not too large has a double near it, which is not too large either. -/
theorem exists_nearestBits?_eq_some {k : Nat} (hden : 0 < den) (hk : k ≤ 1000) (h : num ≤ den * twoTo k) :
    ∃ bits, nearestBits? num den = some bits ∧ bits ≤ (1026 + k) * twoTo 52 := by
  unfold nearestBits?
  by_cases hnum : num = 0
  · exact ⟨0, if_pos hnum, Nat.zero_le _⟩
  · have hlog : num.log2 < den.log2 + 1 + k := by
      refine (Nat.log2_lt hnum).mpr ?_
      calc num ≤ den * twoTo k := h
        _ < twoTo (den.log2 + 1) * twoTo k := Nat.mul_lt_mul_of_pos_right (lt_twoTo_log2 den) (twoTo_pos k)
        _ = twoTo (den.log2 + 1 + k) := (twoTo_add _ _).symm
    obtain ⟨hsmallest, -, hupper⟩ := unitExponent_bounds num den
    have hunit := roundDiv_unit_le num hden
    rw [if_neg hnum]
    dsimp only
    generalize unitExponent num den = q at hsmallest hupper hunit
    generalize (if 0 ≤ q then roundDiv num (den * twoTo q.toNat)
      else roundDiv (num * twoTo (-q).toNat) den) = m at hunit
    have hbits : (q + 1074).toNat * twoTo 52 + m ≤ (1026 + k) * twoTo 52 := by
      calc (q + 1074).toNat * twoTo 52 + m ≤ (1022 + k) * twoTo 52 + 4 * twoTo 52 := by
            refine Nat.add_le_add (Nat.mul_le_mul_right _ (by omega)) (Nat.le_trans hunit ?_)
            decide
        _ = (1026 + k) * twoTo 52 := by
            rw [← Nat.add_mul]
            exact congrArg (· * twoTo 52) (by omega)
    have hlarge : (1026 + k) * twoTo 52 < 2047 * twoTo 52 :=
      Nat.mul_lt_mul_of_pos_right (by omega) (twoTo_pos 52)
    exact ⟨_, if_pos (by omega), hbits⟩

/-! ## Doubles that are there -/

theorem exists_nearest?_eq_some {k : Nat} (negative : Bool) (hden : 0 < den) (hk : k ≤ 1000)
    (h : num ≤ den * twoTo k) :
    ∃ bits, nearest? negative num den = some (ofMagnitude negative bits) ∧ bits ≤ (1026 + k) * twoTo 52 := by
  obtain ⟨bits, hbits, hsmall⟩ := exists_nearestBits?_eq_some hden hk h
  refine ⟨bits, ?_, hsmall⟩
  unfold nearest?
  rw [hbits]
  rfl

/-- A number that is not too large has a double near it. -/
theorem exists_double_eq_ok {n : Nat} (h : n ≤ twoTo 1000) : ∃ x, double n = .ok x := by
  obtain ⟨bits, hbits, -⟩ := exists_nearest?_eq_some false Nat.one_pos (Nat.le_refl 1000)
    (Nat.le_trans h (Nat.le_of_eq (Nat.one_mul _).symm))
  exact ⟨_, (double_eq_ok_iff _ _).mpr hbits⟩

/-- A share of a whole has a double near it, which is not too large. -/
theorem exists_quotient_eq_ok {part whole : Nat} (hwhole : 0 < whole) (h : part ≤ whole) :
    ∃ bits, quotient part whole = .ok (ofMagnitude false bits) ∧ bits ≤ 1026 * twoTo 52 := by
  obtain ⟨bits, hbits, hsmall⟩ := exists_nearest?_eq_some (k := 0) false hwhole (Nat.zero_le _)
    (Nat.le_trans h (Nat.le_of_eq (Nat.mul_one _).symm))
  refine ⟨bits, ?_, hsmall⟩
  have hquotient : quotient? part whole = some (ofMagnitude false bits) := hbits
  unfold quotient
  rw [hquotient]

/-! ## Integers that are too large -/

/-- A quotient that reaches an integer is not rounded below it. -/
theorem le_roundDiv {n : Nat} (hden : 0 < den) (h : n * den ≤ num) : n ≤ roundDiv num den := by
  obtain ⟨hwithin, -⟩ := roundDiv_within num den hden
  have habove : 2 * n * den < (2 * roundDiv num den + 2) * den := by
    calc 2 * n * den = 2 * (n * den) := Nat.mul_assoc ..
      _ ≤ (2 * roundDiv num den + 1) * den := by omega
      _ < (2 * roundDiv num den + 2) * den := Nat.mul_lt_mul_of_pos_right (by omega) hden
  have := Nat.lt_of_mul_lt_mul_right habove
  omega

/-- A quotient is rounded beyond an odd integer exactly if it is at least half a unit beyond it. -/
theorem odd_lt_roundDiv_iff {n : Nat} (hden : 0 < den) (hodd : n % 2 = 1) :
    n < roundDiv num den ↔ (2 * n + 1) * den ≤ 2 * num := by
  constructor
  · intro h
    obtain ⟨-, hwithin⟩ := roundDiv_within num den hden
    have hmul : (2 * n + 2) * den ≤ 2 * roundDiv num den * den := Nat.mul_le_mul_right _ (by omega)
    have hsplit : (2 * n + 2) * den = (2 * n + 1) * den + den := Nat.succ_mul ..
    omega
  · intro h
    rcases Nat.lt_or_ge n (num / den) with hbeyond | hwhole
    · exact Nat.lt_of_lt_of_le hbeyond (le_roundDiv hden (Nat.div_mul_le_self num den))
    · -- the quotient lies half a unit beyond the odd integer or more, but not a unit
      have hsplit := Nat.div_add_mod num den
      have hmod := Nat.mod_lt num hden
      have hreach : n ≤ num / den := (Nat.le_div_iff_mul_le hden).mpr (by
        have : (2 * n + 1) * den = 2 * (n * den) + den := by rw [Nat.add_mul, Nat.mul_assoc, Nat.one_mul]
        omega)
      obtain rfl : n = num / den := Nat.le_antisymm hreach hwhole
      have hhalf : den ≤ 2 * (num % den) := by
        have : (2 * (num / den) + 1) * den = 2 * (den * (num / den)) + den := by
          rw [Nat.add_mul, Nat.mul_assoc, Nat.one_mul, Nat.mul_comm (num / den)]
        omega
      unfold roundDiv
      dsimp only
      rw [if_neg (by omega), hodd]
      split <;> omega

/-- The exponent of an integer follows from its size alone. -/
theorem unitExponent_one (h : num ≠ 0) : unitExponent num 1 = (num.log2 : Int) - 52 := by
  have hlog := twoTo_log2_le h
  have hone : (1 : Nat).log2 = 0 := by decide
  unfold unitExponent
  dsimp only
  rw [hone, if_neg]
  · omega
  · split
    next hguess =>
      have hsum : 52 + ((num.log2 : Int) - (0 : Nat) - 52).toNat = num.log2 := by omega
      rw [Nat.one_mul, ← twoTo_add, hsum]
      omega
    next hguess =>
      have hsum : num.log2 + (-((num.log2 : Int) - (0 : Nat) - 52)).toNat = 52 := by omega
      have hmul := Nat.mul_le_mul_right (twoTo (-((num.log2 : Int) - (0 : Nat) - 52)).toNat) hlog
      rw [← twoTo_add, hsum] at hmul
      omega

/-- In its unit, an integer is rounded to a number of fifty-three bits, or to the one above them. -/
theorem roundDiv_unit_one_bounds (h : num ≠ 0) :
    twoTo 52 ≤ (if 0 ≤ unitExponent num 1 then roundDiv num (1 * twoTo (unitExponent num 1).toNat)
      else roundDiv (num * twoTo (-unitExponent num 1).toNat) 1) ∧
    (if 0 ≤ unitExponent num 1 then roundDiv num (1 * twoTo (unitExponent num 1).toNat)
      else roundDiv (num * twoTo (-unitExponent num 1).toNat) 1) ≤ twoTo 53 := by
  have hlower := twoTo_log2_le h
  have hupper := lt_twoTo_log2 num
  rw [unitExponent_one h]
  split
  next hq =>
    rw [Nat.one_mul]
    have hsum : 52 + ((num.log2 : Int) - 52).toNat = num.log2 := by omega
    have hsum' : 53 + ((num.log2 : Int) - 52).toNat = num.log2 + 1 := by omega
    refine ⟨le_roundDiv (twoTo_pos _) ?_, roundDiv_le (twoTo_pos _) ?_⟩
    · rw [← twoTo_add, hsum]
      exact hlower
    · rw [← twoTo_add, hsum']
      exact Nat.le_of_lt hupper
  next hq =>
    have hsum : num.log2 + (-((num.log2 : Int) - 52)).toNat = 52 := by omega
    have hsum' : num.log2 + 1 + (-((num.log2 : Int) - 52)).toNat = 53 := by omega
    refine ⟨le_roundDiv Nat.one_pos ?_, roundDiv_le Nat.one_pos ?_⟩
    · rw [Nat.mul_one, ← hsum, twoTo_add]
      exact Nat.mul_le_mul_right _ hlower
    · rw [Nat.mul_one, ← hsum', twoTo_add]
      exact Nat.mul_le_mul_right _ (Nat.le_of_lt hupper)

/-- There is no double for a natural number exactly if it is at least as near to the number that would come
after the largest double as to this one. -/
theorem nearestBits?_one_eq_none_iff : nearestBits? num 1 = none ↔ twoTo 1024 ≤ num + twoTo 970 := by
  have hlargest : twoTo 1024 = 2 * twoTo 1023 := twoTo_succ 1023
  have hsecond : twoTo 1023 = 2 * twoTo 1022 := twoTo_succ 1022
  have hhalf : twoTo 970 ≤ twoTo 1022 := twoTo_le_twoTo (by decide)
  have hpositive := twoTo_pos 1022
  by_cases h : num = 0
  · have hsome : nearestBits? num 1 = some 0 := if_pos h
    rw [hsome]
    exact iff_of_false (Option.some_ne_none 0) (by omega)
  · obtain ⟨hleast, hmost⟩ := roundDiv_unit_one_bounds h
    have hlower := twoTo_log2_le h
    have hupper := lt_twoTo_log2 num
    have hunit : twoTo 53 = 2 * twoTo 52 := twoTo_succ 52
    have hplace : ((num.log2 : Int) - 52 + 1074).toNat = num.log2 + 1022 := by omega
    unfold nearestBits?
    rw [if_neg h]
    dsimp only
    rw [unitExponent_one h] at hleast hmost ⊢
    rw [hplace, ite_eq_right_iff, imp_iff_not (Option.some_ne_none _), Nat.not_lt]
    rcases Nat.lt_trichotomy num.log2 1023 with hsmall | hlast | hlarge
    · -- the number is less than half of what would be too large
      have hnum : twoTo (num.log2 + 1) ≤ twoTo 1023 := twoTo_le_twoTo (by omega)
      have hplaces : (num.log2 + 1022) * twoTo 52 ≤ 2044 * twoTo 52 := Nat.mul_le_mul_right _ (by omega)
      have := twoTo_pos 52
      exact iff_of_false (by omega) (by omega)
    · -- the number has the places of the largest double, so it depends on how it is rounded
      have hq : ((num.log2 : Int) - 52).toNat = 971 := by omega
      have hodd : (2 * twoTo 52 - 1) % 2 = 1 := by
        have := twoTo_pos 52
        omega
      have hround : 2 * twoTo 52 - 1 < roundDiv num (twoTo 971) ↔
          (2 * (2 * twoTo 52 - 1) + 1) * twoTo 971 ≤ 2 * num := odd_lt_roundDiv_iff (twoTo_pos 971) hodd
      have hwhole : 4 * twoTo 52 * twoTo 971 = 2 * twoTo 1024 := by
        have : 4 * twoTo 52 = twoTo 54 := rfl
        rw [this, ← twoTo_add, ← twoTo_succ]
      have hunit' : twoTo 971 = 2 * twoTo 970 := twoTo_succ 970
      have hscale : (2 * (2 * twoTo 52 - 1) + 1) * twoTo 971 + twoTo 971 = 4 * twoTo 52 * twoTo 971 := by
        rw [← Nat.succ_mul]
        exact congrArg (· * twoTo 971) (by omega)
      rw [if_pos (by omega), hq, Nat.one_mul, hlast]
      omega
    · have hnum : twoTo 1024 ≤ twoTo num.log2 := twoTo_le_twoTo hlarge
      have hplaces : 2046 * twoTo 52 ≤ (num.log2 + 1022) * twoTo 52 := Nat.mul_le_mul_right _ (by omega)
      exact iff_of_true (by omega) (by omega)

/-- An integer is too large for a double from half a unit beyond the largest one on. -/
theorem double_eq_error_iff {i : Int} :
    double i = .error .integerTooLarge ↔ twoTo 1024 ≤ i.natAbs + twoTo 970 := by
  rw [← nearestBits?_one_eq_none_iff]
  unfold double ofInt? nearest?
  cases nearestBits? i.natAbs 1 <;> simp

end Conformance.Decimal
