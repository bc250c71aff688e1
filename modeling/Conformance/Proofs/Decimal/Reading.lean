import Conformance.Decimal.Notation
import Conformance.Decimal.Reading
import Mathlib.Data.List.TakeWhile
import Mathlib.Data.List.Basic

/-!
# Reading numbers

A text of decimal digits, of whatever scripts, is an integer, unless there are more digits than an integer may
have.

The fewest digits of a finite double are written with a point or with an exponent, or with both.  A number of this
form can be read.

Main results:

- `exists_plainChar_of_isDigit`: every digit is read as one of ten characters.
- `readInteger_of_digits`: what is read of a text of digits.
- `readInteger_eq_numberOf`: it is the number that the digits stand for.
- `numberOf_toDigits`: the digits of a number stand for it.
- `written_hasForm`: a positive decimal is written in this form.
- `text_of_finite`: a finite double is written in this form, with a sign if it is negative.
- `exists_readMagnitude?`: a text of this form can be read as a number.
-/

namespace Conformance.Decimal

/-! ## Integers of digits -/

section Integers

open Text

variable {c : CodePoint} {digits : List CodePoint} {body : List Char}

/-! ### Digits -/

/-- The number of a digit is one of ten that begin with that of a zero. -/
theorem exists_run_of_isDigit (h : isDigit c = true) :
    ∃ first ∈ digitZeros.toList, first ≤ c.toNat ∧ c.toNat < first + 10 ∧ digitValue? c = some (c.toNat - first) := by
  unfold isDigit digitValue? at *
  split at h
  · rename_i hascii
    have hlow : 0x30 ≤ c.toNat := hascii.1
    have hhigh : c.toNat ≤ 0x39 := hascii.2
    exact ⟨0x30, by decide, hlow, by omega, if_pos hascii⟩
  · rename_i hascii
    split at h
    · cases h
    · rename_i hwide
      rw [if_neg hascii, if_neg hwide]
      cases hfind : digitZeros.find? fun start => start ≤ c.toNat && c.toNat < start + 10 with
      | none =>
          rw [hfind] at h
          cases h
      | some first =>
          have hinside := Array.find?_some hfind
          simp only [Bool.and_eq_true, decide_eq_true_eq] at hinside
          exact ⟨first, (Array.mem_of_find?_eq_some hfind).val, hinside.1, hinside.2, rfl⟩

/-- A digit is read as one of the ten characters for digits. -/
theorem exists_plainChar_of_isDigit (h : isDigit c = true) : ∃ value < 10, plainChar c = Nat.digitChar value := by
  obtain ⟨first, -, hlow, hhigh, hvalue⟩ := exists_run_of_isDigit h
  refine ⟨c.toNat - first, by omega, ?_⟩
  unfold plainChar
  rw [hvalue]

/-- A digit is no blank: the blanks stand outside the runs of digits. -/
theorem isBlank_of_isDigit (h : isDigit c = true) : isBlank c = false := by
  have hlow : ∀ first ∈ digitZeros.toList, 0x30 ≤ first := by decide
  have hapart : ∀ first ∈ digitZeros.toList, ∀ range ∈ blankRanges.toList,
      first + 10 ≤ range.1 ∨ range.2 < first := by decide
  obtain ⟨first, hfirst, hfrom, hto, -⟩ := exists_run_of_isDigit h
  have hzero := hlow first hfirst
  unfold isBlank
  split
  · simp only [Bool.or_eq_false_iff, Bool.and_eq_false_iff, decide_eq_false_iff_not]
    omega
  · rw [Bool.eq_false_iff]
    intro hblank
    obtain ⟨range, hrange, hbegin, hend⟩ := (Ranges.holds_iff blankRanges c).mp hblank
    have := hapart first hfirst range hrange.val
    omega

theorem isMargin_of_isDigit (h : isDigit c = true) : isMargin c = false := by
  have hblank := isBlank_of_isDigit h
  unfold isMargin
  split
  · rename_i hnarrow
    rw [isBlank, if_pos hnarrow] at hblank
    simp only [Bool.or_eq_false_iff, Bool.and_eq_false_iff, decide_eq_false_iff_not, beq_eq_false_iff_ne] at hblank ⊢
    omega
  · exact hblank

/-! ### Integers -/

/-- All characters are ASCII digits. -/
def AllDigits (body : List Char) : Prop :=
  ∀ c ∈ body, ∃ value < 10, c = Nat.digitChar value

theorem allDigits_map_plainChar (h : ∀ c ∈ digits, isDigit c = true) : AllDigits (digits.map plainChar) := by
  intro c hc
  obtain ⟨digit, hdigit, rfl⟩ := List.mem_map.mp hc
  exact exists_plainChar_of_isDigit (h digit hdigit)

theorem normalised_of_digits (h : ∀ c ∈ digits, isDigit c = true) :
    normalised (.ofList digits) = digits.map plainChar := by
  have hfront : digits.dropWhile isMargin = digits := by
    cases digits with
    | nil => rfl
    | cons c rest => exact List.dropWhile_cons_of_neg (by simp [isMargin_of_isDigit (h c List.mem_cons_self)])
  have hback : digits.reverse.dropWhile isMargin = digits.reverse := by
    cases hreverse : digits.reverse with
    | nil => rfl
    | cons c rest =>
        have hc : c ∈ digits := List.mem_reverse.mp (hreverse ▸ List.mem_cons_self)
        exact List.dropWhile_cons_of_neg (by simp [isMargin_of_isDigit (h c hc)])
  unfold normalised trim trimEnd
  rw [hfront, hback, List.reverse_reverse]

theorem AllDigits.isSome_digitIn? (h : AllDigits body) {c : Char} (hc : c ∈ body) : (digitIn? 10 c).isSome = true := by
  have hdigits : ∀ value < 10, (Decimal.digitIn? 10 (Nat.digitChar value)).isSome = true := by decide
  obtain ⟨value, hvalue, rfl⟩ := h c hc
  exact hdigits value hvalue

theorem AllDigits.lowLine_notMem (h : AllDigits body) : '_' ∉ body := by
  have hdigits : ∀ value < 10, '_' ≠ Nat.digitChar value := by decide
  intro hmem
  obtain ⟨value, hvalue, heq⟩ := h '_' hmem
  exact hdigits value hvalue heq

theorem AllDigits.splitSign_eq (h : AllDigits body) : splitSign body = (false, body) := by
  have hsigns : ∀ value < 10, '-' ≠ Nat.digitChar value ∧ '+' ≠ Nat.digitChar value := by decide
  unfold Decimal.splitSign
  split
  · obtain ⟨value, hvalue, heq⟩ := h _ List.mem_cons_self
    exact absurd heq (hsigns value hvalue).1
  · obtain ⟨value, hvalue, heq⟩ := h _ List.mem_cons_self
    exact absurd heq (hsigns value hvalue).2
  · rfl

theorem withoutBaseMark_ten (body : List Char) : withoutBaseMark 10 body = body := by
  unfold withoutBaseMark
  split
  · exact if_neg nofun
  · rfl

/-- A text without low lines has none at a wrong place. -/
theorem lowLinesBetween_of_notMem {isDigit : Char → Bool} {before : Bool} (h : '_' ∉ body) :
    lowLinesBetween isDigit before body = true := by
  induction body generalizing before with
  | nil => rfl
  | cons c rest ih =>
      have hc : c ≠ '_' := fun heq => h (heq ▸ List.mem_cons_self)
      have hrest : '_' ∉ rest := fun hmem => h (List.mem_cons_of_mem _ hmem)
      unfold lowLinesBetween
      split
      · rfl
      · rename_i heq
        exact absurd (List.cons.inj heq).1 hc
      · rename_i heq
        obtain ⟨rfl, rfl⟩ := List.cons.inj heq
        exact ih hrest

/-- A text of digits is an integer if there are not too many of them. -/
theorem readInteger_of_digits (hne : digits ≠ []) (h : ∀ c ∈ digits, isDigit c = true) :
    readInteger (.ofList digits) =
      if digitLimit < digits.length then .error (.tooManyDigits digits.length)
      else .ok (digitsValueIn 10 (digits.map plainChar)) := by
  have hall : AllDigits (digits.map plainChar) := allDigits_map_plainChar h
  have hrun : (digits.map plainChar).takeWhile (fun c => (digitIn? 10 c).isSome || c == '_') =
      digits.map plainChar :=
    List.takeWhile_eq_self_iff.mpr fun c hc => by rw [hall.isSome_digitIn? hc, Bool.true_or]
  have hplain : withoutLowLines (digits.map plainChar) = digits.map plainChar :=
    List.filter_eq_self.mpr fun c hc => bne_iff_ne.mpr fun heq => hall.lowLine_notMem (heq ▸ hc)
  have hlines : lowLinesBetween (fun c => (digitIn? 10 c).isSome) false (digits.map plainChar) = true :=
    lowLinesBetween_of_notMem hall.lowLine_notMem
  have hsome : (digits.map plainChar).isEmpty = false := by simpa using hne
  unfold readInteger readIntegerIn
  simp only [normalised_of_digits h, hall.splitSign_eq, withoutBaseMark_ten, hrun, hplain, hlines, hsome]
  simp [signedInt, baseLetter?]

/-! ### Numbers -/

/-- The number that digits of whatever scripts stand for. -/
def numberOf (digits : List CodePoint) : Nat :=
  digits.foldl (fun n c => 10 * n + (digitValue? c).getD 0) 0

theorem digitIn?_plainChar (h : isDigit c = true) : digitIn? 10 (plainChar c) = digitValue? c := by
  have hdigits : ∀ value < 10, Decimal.digitIn? 10 (Nat.digitChar value) = some value := by decide
  obtain ⟨first, -, hlow, hhigh, hvalue⟩ := exists_run_of_isDigit h
  rw [plainChar, hvalue]
  exact hdigits _ (by omega)

theorem digitsValueIn_map_plainChar (h : ∀ c ∈ digits, isDigit c = true) :
    digitsValueIn 10 (digits.map plainChar) = numberOf digits := by
  unfold digitsValueIn numberOf
  rw [List.foldl_map]
  refine List.foldl_ext _ _ 0 fun n c hc => ?_
  rw [digitIn?_plainChar (h c hc), Nat.mul_comm]

/-- A text of digits is the number that they stand for, if there are not too many of them. -/
theorem readInteger_eq_numberOf (hne : digits ≠ []) (h : ∀ c ∈ digits, isDigit c = true)
    (hlength : digits.length ≤ digitLimit) : readInteger (.ofList digits) = .ok (numberOf digits : Int) := by
  rw [readInteger_of_digits hne h, if_neg (Nat.not_lt.mpr hlength), digitsValueIn_map_plainChar h]

/-- The value of an ASCII digit. -/
theorem digitValue?_char {d : Char} (h : d.isDigit = true) : digitValue? (.char d) = some (d.toNat - '0'.toNat) := by
  simp only [Char.isDigit, Bool.and_eq_true, decide_eq_true_eq] at h
  have hascii : CodePoint.char '0' ≤ .char d ∧ CodePoint.char d ≤ .char '9' := h
  rw [digitValue?, if_pos hascii]
  rfl

/-- The digits of a number stand for it. -/
theorem numberOf_toDigits (n : Nat) : numberOf ((Nat.toDigits 10 n).map .char) = n := by
  calc numberOf ((Nat.toDigits 10 n).map .char)
      = Nat.ofDigitChars 10 (Nat.toDigits 10 n) 0 := by
        unfold numberOf Nat.ofDigitChars
        rw [List.foldl_map]
        refine List.foldl_ext _ _ 0 fun m d hd => ?_
        rw [digitValue?_char (Nat.isDigit_of_mem_toDigits (by decide) (by decide) hd), Option.getD_some]
    _ = n := Nat.ofDigitChars_ten_toDigits

end Integers

/-! ## Doubles that were written -/

variable {text body rest : List Char} {m : Nat} {q : Int}

/-! ### Forms -/

/-- There are only digits among some characters. -/
def Digits (text : List Char) : Prop :=
  ∀ c ∈ text, c.isDigit = true

/-- A number without a sign: digits, then a point with digits behind it, an exponent, or both. -/
structure HasForm (body whole fraction exponent : List Char) : Prop where
  parts : body = whole ++ fraction ++ exponent
  whole_ne_nil : whole ≠ []
  digits_whole : Digits whole
  places : fraction = [] ∨ ∃ digits, fraction = '.' :: digits ∧ Digits digits
  power : exponent = [] ∨
    ∃ sign digits, exponent = 'e' :: sign :: digits ∧ (sign = '-' ∨ sign = '+') ∧ digits ≠ [] ∧ Digits digits
  marked : fraction ≠ [] ∨ exponent ≠ []

theorem Digits.append {more : List Char} (h : Digits text) (hmore : Digits more) : Digits (text ++ more) := by
  intro c hc
  rcases List.mem_append.mp hc with hc | hc
  · exact h c hc
  · exact hmore c hc

theorem Digits.of_subset {part : List Char} (h : Digits text) (hpart : part ⊆ text) : Digits part :=
  fun c hc => h c (hpart hc)

theorem digits_replicate (n : Nat) : Digits (List.replicate n '0') := by
  intro c hc
  rw [List.eq_of_mem_replicate hc]
  decide

theorem digits_digits (n : Nat) : Digits (digits n) := by
  intro c hc
  exact Nat.isDigit_of_mem_toDigits (by decide) (by decide) hc

theorem digits_ne_nil (n : Nat) : digits n ≠ [] :=
  Nat.toDigits_ne_nil

theorem digits_padZeros (width n : Nat) : Digits (padZeros width (digits n)) :=
  (digits_replicate _).append (digits_digits n)

/-! ### Writing -/

/-- The digits of a positive number are not all zero. -/
theorem trimZeros_ne_nil (hm : 0 < m) : trimZeros (digits m) ≠ [] := by
  intro hnil
  have hzeros : ∀ c ∈ digits m, c = '0' := by
    intro c hc
    have hall := List.dropWhile_eq_nil_iff.mp (List.reverse_eq_nil_iff.mp hnil)
    simpa using hall c (List.mem_reverse.mpr hc)
  have hvalue : Nat.ofDigitChars 10 (digits m) 0 = m := Nat.ofDigitChars_ten_toDigits
  have hzero (text : List Char) (h : ∀ c ∈ text, c = '0') : Nat.ofDigitChars 10 text 0 = 0 := by
    induction text with
    | nil => rfl
    | cons c text ih =>
        obtain ⟨rfl, htext⟩ := List.forall_mem_cons.mp h
        exact ih htext
  rw [hzero _ hzeros] at hvalue
  omega

theorem digits_trimZeros (m : Nat) : Digits (trimZeros (digits m)) := by
  apply (digits_digits m).of_subset
  intro c hc
  exact List.mem_reverse.mp ((List.dropWhile_sublist _).subset (List.mem_reverse.mp hc))

/-- Digits with a point among them, before them or behind them. -/
theorem placePoint_hasForm (hne : text ≠ []) (h : Digits text) (point : Int) :
    ∃ whole fraction, HasForm (placePoint text point) whole fraction [] := by
  unfold placePoint
  by_cases hsmall : point ≤ 0
  · rw [if_pos hsmall]
    refine ⟨['0'], '.' :: (List.replicate (-point).toNat '0' ++ text), by simp, by simp, ?_, ?_, .inl rfl, by simp⟩
    · exact digits_replicate 1
    · exact .inr ⟨_, rfl, (digits_replicate _).append h⟩
  · rw [if_neg hsmall]
    by_cases hlarge : (text.length : Int) ≤ point
    · rw [if_pos hlarge]
      refine ⟨text ++ List.replicate (point.toNat - text.length) '0', ['.', '0'], by simp, by simp [hne], ?_, ?_,
        .inl rfl, by simp⟩
      · exact h.append (digits_replicate _)
      · exact .inr ⟨_, rfl, digits_replicate 1⟩
    · rw [if_neg hlarge]
      refine ⟨text.take point.toNat, '.' :: text.drop point.toNat, by simp, ?_, ?_, ?_, .inl rfl, by simp⟩
      · simp only [ne_eq, List.take_eq_nil_iff, hne, or_false]
        omega
      · exact h.of_subset (List.take_subset _ _)
      · exact .inr ⟨_, rfl, h.of_subset (List.drop_subset _ _)⟩

theorem writtenExponent_hasForm (e : Int) :
    ∃ sign power, writtenExponent e = sign :: power ∧ (sign = '-' ∨ sign = '+') ∧ power ≠ [] ∧ Digits power := by
  refine ⟨_, _, rfl, ?_, ?_, digits_padZeros 2 _⟩
  · by_cases he : e < 0 <;> simp [he]
  · simp [padZeros, digits_ne_nil]

/-- A positive decimal is written with a point or with an exponent, or with both. -/
theorem written_hasForm {d : Scaled} (h : 0 < d.coefficient) :
    ∃ whole fraction exponent, HasForm (written d) whole fraction exponent := by
  have hne := trimZeros_ne_nil h
  have hdigits := digits_trimZeros d.coefficient
  unfold written
  dsimp only
  split
  · obtain ⟨whole, fraction, hform⟩ := placePoint_hasForm hne hdigits (d.exponent + (digits d.coefficient).length - 1 + 1)
    exact ⟨whole, fraction, [], hform⟩
  · obtain ⟨sign, power, hexponent, hsign, hpower, hall⟩ :=
      writtenExponent_hasForm (d.exponent + (digits d.coefficient).length - 1)
    rw [hexponent]
    cases htext : trimZeros (digits d.coefficient) with
    | nil => exact absurd htext hne
    | cons c more =>
        rw [htext] at hdigits
        have hc : Digits [c] := hdigits.of_subset (by simp)
        cases more with
        | nil =>
            exact ⟨[c], [], 'e' :: sign :: power, rfl, by simp, hc, .inl rfl,
              .inr ⟨sign, power, rfl, hsign, hpower, hall⟩, by simp⟩
        | cons d more =>
            exact ⟨[c], '.' :: d :: more, 'e' :: sign :: power, rfl, by simp, hc,
              .inr ⟨_, rfl, hdigits.of_subset (by simp)⟩, .inr ⟨sign, power, rfl, hsign, hpower, hall⟩, by simp⟩

/-- The shortest decimal of a positive double is positive. -/
theorem shortest_pos (hm : 0 < m) (q : Int) : 0 < (shortest m q).coefficient := by
  have hpoint (e : Int) (d : Scaled) (h : gridPoint? m q e = some d) : 0 < d.coefficient := by
    unfold gridPoint? at h
    dsimp only at h
    split at h
    · rename_i hlow hhigh
      simp only [Bool.and_eq_true, bne_iff_ne, ne_eq] at hlow
      cases h
      split
      · exact Nat.pos_of_ne_zero hlow.2
      · exact Nat.succ_pos _
    · rename_i hlow hhigh
      simp only [Bool.and_eq_true, bne_iff_ne, ne_eq] at hlow
      cases h
      exact Nat.pos_of_ne_zero hlow.2
    · cases h
      exact Nat.succ_pos _
    · cases h
  have hfrom (lead : Int) (fuel places : Nat) : 0 < (shortestFrom m q lead fuel places).coefficient := by
    induction fuel generalizing places with
    | zero => exact hm
    | succ fuel ih =>
        unfold shortestFrom
        cases hgrid : gridPoint? m q (lead - places) with
        | none => exact ih (places + 1)
        | some d => exact hpoint _ d hgrid
  exact hfrom _ _ _

/-- A finite double is written with a point or with an exponent, or with both, behind its sign. -/
theorem text_of_finite {x : Float} {negative : Bool} (h : Parts.ofFloat x = .finite negative m q) :
    ∃ body whole fraction exponent, HasForm body whole fraction exponent ∧
      (Decimal.text x).toList = if negative then '-' :: body else body := by
  have hzero : HasForm ['0', '.', '0'] ['0'] ['.', '0'] [] :=
    ⟨rfl, by simp, digits_replicate 1, .inr ⟨_, rfl, digits_replicate 1⟩, .inl rfl, by simp⟩
  unfold Decimal.text
  rw [h]
  by_cases hm : m = 0
  · refine ⟨_, _, _, _, hzero, ?_⟩
    cases negative <;> simp [hm]
  · obtain ⟨whole, fraction, exponent, hform⟩ := written_hasForm (shortest_pos (Nat.pos_of_ne_zero hm) q)
    refine ⟨_, _, _, _, hform, ?_⟩
    cases negative <;> simp [hm]

/-! ### Reading -/

theorem takeWhile_isDigit (h : Digits text) (hrest : ∀ c tail, rest = c :: tail → c.isDigit = false) :
    (text ++ rest).takeWhile Char.isDigit = text ∧ (text ++ rest).dropWhile Char.isDigit = rest := by
  induction text with
  | nil =>
      cases rest with
      | nil => simp
      | cons c tail => simp [hrest c tail rfl]
  | cons c text ih =>
      obtain ⟨hc, htext⟩ := List.forall_mem_cons.mp h
      simpa [hc] using ih htext

theorem splitSign_of_isDigit {c : Char} (h : c.isDigit = true) : splitSign (c :: text) = (false, c :: text) := by
  unfold splitSign
  split
  · rename_i heq
    cases heq
    exact absurd h (by decide)
  · rename_i heq
    cases heq
    exact absurd h (by decide)
  · rfl

theorem splitSign_of_sign {sign : Char} (h : sign = '-' ∨ sign = '+') : (splitSign (sign :: text)).2 = text := by
  rcases h with rfl | rfl <;> rfl

/-- An exponent can be read. -/
theorem exists_readExponent? {whole fraction exponent : List Char} (h : HasForm body whole fraction exponent) :
    ∃ e, readExponent? exponent = some e := by
  rcases h.power with rfl | ⟨sign, power, rfl, hsign, hpower, hall⟩
  · exact ⟨0, rfl⟩
  · have hdigits : power.all Char.isDigit = true := List.all_eq_true.mpr hall
    have hsplit : (splitSign (sign :: power)).2 = power := splitSign_of_sign hsign
    unfold readExponent?
    simp [hsplit, hpower, hdigits]

theorem HasForm.eq_mark_of_cons {whole fraction exponent : List Char} (h : HasForm body whole fraction exponent)
    (c : Char) (tail : List Char) (heq : exponent = c :: tail) : c = 'e' := by
  rcases h.power with hnil | ⟨sign, power, hmark, -⟩
  · simp [hnil] at heq
  · rw [heq] at hmark
    exact (List.cons.inj hmark).1

/-- A text of this form is more than digits. -/
theorem HasForm.exists_mark {whole fraction exponent : List Char} (h : HasForm body whole fraction exponent) :
    ∃ c ∈ body, c.isDigit = false := by
  rw [h.parts]
  rcases h.marked with hfraction | hexponent
  · rcases h.places with hnil | ⟨places, rfl, -⟩
    · exact absurd hnil hfraction
    · exact ⟨'.', by simp, by decide⟩
  · rcases h.power with hnil | ⟨sign, power, rfl, -⟩
    · exact absurd hnil hexponent
    · exact ⟨'e', by simp, by decide⟩

/-- A text of this form can be read as a number. -/
theorem exists_readMagnitude? {whole fraction exponent : List Char} (h : HasForm body whole fraction exponent)
    (negative : Bool) : ∃ x, readMagnitude? negative body = some x := by
  obtain ⟨e, he⟩ := exists_readExponent? h
  have hexponent : ∀ c tail, exponent = c :: tail → c.isDigit = false := by
    intro c tail heq
    rw [h.eq_mark_of_cons c tail heq]
    decide
  unfold readMagnitude?
  rcases h.places with rfl | ⟨places, rfl, hplaces⟩
  · have hbody : body = whole ++ exponent := by rw [h.parts, List.append_nil]
    obtain ⟨htake, hdrop⟩ := takeWhile_isDigit h.digits_whole hexponent
    rw [hbody, htake, hdrop]
    cases exponent with
    | nil => simp [h.whole_ne_nil, he]
    | cons c tail =>
        obtain rfl := h.eq_mark_of_cons c tail rfl
        simp [h.whole_ne_nil, he]
  · have hbody : body = whole ++ '.' :: (places ++ exponent) := by simp [h.parts]
    have hpoint : ∀ c tail, '.' :: (places ++ exponent) = c :: tail → c.isDigit = false := by
      intro c tail heq
      rw [← (List.cons.inj heq).1]
      decide
    obtain ⟨htake, hdrop⟩ := takeWhile_isDigit h.digits_whole hpoint
    obtain ⟨htake', hdrop'⟩ := takeWhile_isDigit hplaces hexponent
    rw [hbody, htake, hdrop]
    simp [htake', hdrop', h.whole_ne_nil, he]

end Conformance.Decimal
