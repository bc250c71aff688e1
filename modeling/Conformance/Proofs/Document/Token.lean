import Conformance.Proofs.Decimal.Reading
import Conformance.Proofs.Document.Json
import Mathlib.Tactic.IntervalCases

/-!
# Texts and numbers in JSON

A text is written between quotes, some of its characters as escapes, and an integer or a double by its digits.  Reading
gives the text and the integer again, and for a double some double.

Main results:

- `readText?_writeText`: a text of characters is read back.
- `readNumber?_int`: an integer is read back.
- `exists_readNumber?_float`: a double is read back as a double.
-/

namespace Conformance.Json

open Decimal Text

variable {f g : List CodePoint → List CodePoint} {chars more word rest : List Char} {c : Char} {n : Nat}

/-! ## Output

The output is kept last first. -/

/-- A function puts characters after what was written before. -/
def Adds (f : List CodePoint → List CodePoint) (chars : List Char) : Prop :=
  ∀ out, f out = (chars.map .char).reverse ++ out

theorem Adds.nil : Adds id [] :=
  fun _ => rfl

theorem Adds.comp (hg : Adds g more) (hf : Adds f chars) : Adds (fun out => g (f out)) (chars ++ more) := by
  intro out
  change g (f out) = _
  rw [hg, hf]
  simp

theorem Adds.snoc (h : Adds f chars) (c : Char) : Adds (fun out => .char c :: f out) (chars ++ [c]) := by
  intro out
  change .char c :: f out = _
  rw [h]
  simp

theorem adds_cons (c : Char) : Adds (fun out => .char c :: out) [c] :=
  fun _ => rfl

theorem adds_emit (chars : List Char) : Adds (emit (chars.map .char)) chars :=
  fun _ => rfl

/-! ## Texts -/

theorem hexValue?_digitChar (h : n < 16) : hexValue? (Nat.digitChar n) = some n := by
  interval_cases n <;> decide

/-- The four digits of an escape are read as its number. -/
theorem readUnits_unitEscape (hn : n < 0x10000) :
    ∃ chars : List Char, unitEscape n = chars.map .char ∧
      ∀ rest units, readUnits (chars ++ rest) units = readUnits rest (n :: units) := by
  refine ⟨['\\', 'u', Nat.digitChar (n / 16 / 16 / 16 % 16), Nat.digitChar (n / 16 / 16 % 16),
    Nat.digitChar (n / 16 % 16), Nat.digitChar (n % 16)], by simp [unitEscape, hexDigits], ?_⟩
  intro rest units
  have hvalue : unitValue? (Nat.digitChar (n / 16 / 16 / 16 % 16)) (Nat.digitChar (n / 16 / 16 % 16))
      (Nat.digitChar (n / 16 % 16)) (Nat.digitChar (n % 16)) = some n := by
    have hdigit (k : Nat) : hexValue? (Nat.digitChar (k % 16)) = some (k % 16) :=
      hexValue?_digitChar (Nat.mod_lt _ (by decide))
    unfold unitValue?
    simp only [hdigit]
    congr 1
    omega
  simp only [List.cons_append, List.nil_append]
  rw [readUnits, hvalue]

/-- A character that needs no escape is read as it is. -/
theorem readUnits_plain (hquote : c ≠ '"') (hescape : c ≠ '\\') (hlarge : ¬c.toNat < 32) (rest : List Char)
    (units : List Nat) : readUnits (c :: rest) units = readUnits rest (c.toNat :: units) := by
  rw [readUnits]
  · rw [if_neg hlarge]
  all_goals simp_all

/-- What is written for a character is read as its number. -/
theorem readUnits_writtenChar (c : Char) :
    ∃ chars : List Char, writtenChar false c = chars.map .char ∧
      ∀ rest units, readUnits (chars ++ rest) units = readUnits rest (c.toNat :: units) := by
  have hescape {letter : Char} (hletter : escapedChar? letter = some c) (hunit : letter ≠ 'u') :
      ∃ chars : List Char, [CodePoint.char '\\', .char letter] = chars.map .char ∧
        ∀ rest units, readUnits (chars ++ rest) units = readUnits rest (c.toNat :: units) := by
    refine ⟨['\\', letter], rfl, fun rest units => ?_⟩
    simp only [List.cons_append, List.nil_append]
    rw [readUnits, hletter]
    intro _ _ _ _ _ hletter'
    exact absurd hletter' hunit
  have hnumber {k : Nat} (hk : c.toNat = k) : c = Char.ofNat k := by rw [← hk, Char.ofNat_toNat]
  unfold writtenChar
  split
  · rename_i h
    cases h
    exact hescape rfl (by decide)
  split
  · rename_i h
    cases h
    exact hescape rfl (by decide)
  split
  · rename_i h
    cases h
    exact hescape rfl (by decide)
  split
  · rename_i h
    cases h
    exact hescape rfl (by decide)
  split
  · rename_i h
    cases h
    exact hescape rfl (by decide)
  split
  · rename_i h
    obtain rfl := hnumber h
    exact hescape rfl (by decide)
  split
  · rename_i h
    obtain rfl := hnumber h
    exact hescape rfl (by decide)
  split
  · rename_i h
    have hsmall : c.toNat < 32 := h
    exact readUnits_unitEscape (by omega)
  · rename_i hquote hbackslash _ _ _ _ _ hlarge
    refine ⟨[c], rfl, readUnits_plain ?_ ?_ hlarge⟩
    · exact fun h => hquote (congrArg CodePoint.char h)
    · exact fun h => hbackslash (congrArg CodePoint.char h)

/-- Units that are characters stand for these characters. -/
theorem joinUnits_chars (chars : List Char) (done : List CodePoint) :
    joinUnits (chars.map Char.toNat) done = (chars.map .char).reverse ++ done := by
  have hunit (c : Char) : CodePoint.ofNat c.toNat = .char c := CodePoint.ofNat_toNat (.char c)
  induction chars generalizing done with
  | nil => rfl
  | cons c rest ih =>
      cases rest with
      | nil => simp [joinUnits, hunit]
      | cons d rest =>
          have hwhole : isTrailing c.toNat = false := by
            have hvalid : c.toNat < 0xD800 ∨ 0xDFFF < c.toNat ∧ c.toNat < 0x110000 := c.valid
            simp only [isTrailing, Bool.and_eq_false_iff, decide_eq_false_iff_not]
            omega
          have hrest := ih (.char c :: done)
          simp only [List.map_cons] at hrest ⊢
          rw [joinUnits, hwhole]
          simp only [Bool.false_and, Bool.false_eq_true, if_false, hunit]
          rw [hrest]
          simp

/-- A text of characters is read back from what is written for it. -/
theorem readText?_writeText {t : Text} (h : t.Writable) :
    ∃ chars : List Char, Adds (writeText false t) ('"' :: chars ++ ['"']) ∧
      ∀ rest, readText? (chars ++ '"' :: rest) = some (t, rest) := by
  have hpoints (points : List CodePoint) (hwhole : Whole points) :
      ∃ letters chars : List Char, points = letters.map .char ∧
        Adds (points.foldl fun written c => emit (writtenChar false c) written) chars ∧
        ∀ rest units, readUnits (chars ++ rest) units =
          readUnits rest ((letters.map Char.toNat).reverse ++ units) := by
    induction points with
    | nil => exact ⟨[], [], rfl, fun _ => rfl, fun _ _ => rfl⟩
    | cons c points ih =>
        obtain ⟨hc, hpoints⟩ := List.forall_mem_cons.mp hwhole
        obtain ⟨letters, chars, rfl, hadds, hread⟩ := ih hpoints
        cases c with
        | half offset => cases hc
        | char letter =>
            obtain ⟨first, hfirst, hreads⟩ := readUnits_writtenChar letter
            refine ⟨letter :: letters, first ++ chars, rfl, ?_, ?_⟩
            · have hemit : Adds (emit (writtenChar false (.char letter))) first := by
                rw [hfirst]
                exact adds_emit first
              exact hadds.comp hemit
            · intro rest units
              rw [List.append_assoc, hreads, hread]
              simp
  obtain ⟨letters, chars, hletters, hadds, hread⟩ := hpoints t.toList h
  refine ⟨chars, ?_, ?_⟩
  · exact (hadds.comp (adds_cons '"')).snoc '"'
  · intro rest
    unfold readText?
    rw [hread, readUnits, Option.map_some, List.append_nil, ← List.map_reverse]
    simp only
    rw [joinUnits_chars, List.map_reverse, List.reverse_reverse, List.append_nil, ← hletters]

/-! ## Numbers -/

/-- No number goes on with what comes first among some characters. -/
def Stops (rest : List Char) : Prop :=
  ∀ c tail, rest = c :: tail → isNumberChar c = false

/-- A word of the characters of numbers that begins with a digit, or with a minus and a digit. -/
structure IsNumber (word : List Char) : Prop where
  chars : ∀ c ∈ word, isNumberChar c = true
  digit : ∃ c tail, (word = c :: tail ∨ word = '-' :: c :: tail) ∧ c.isDigit = true

theorem isNumberChar_of_isDigit (h : c.isDigit = true) : isNumberChar c = true := by
  simp [isNumberChar, h]

theorem takeWhile_isNumberChar (hword : ∀ c ∈ word, isNumberChar c = true) (hrest : Stops rest) :
    (word ++ rest).takeWhile isNumberChar = word ∧ (word ++ rest).dropWhile isNumberChar = rest := by
  induction word with
  | nil =>
      cases rest with
      | nil => simp
      | cons c tail => simp [hrest c tail rfl]
  | cons c word ih =>
      obtain ⟨hc, hword⟩ := List.forall_mem_cons.mp hword
      simpa [hc] using ih hword

/-- The digits of a number behind its sign. -/
def signed (negative : Bool) (body : List Char) : List Char :=
  if negative then '-' :: body else body

theorem splitSign_signed {body : List Char} (negative : Bool) (h : ∃ c tail, body = c :: tail ∧ c.isDigit = true) :
    splitSign (signed negative body) = (negative, body) := by
  obtain ⟨c, tail, rfl, hc⟩ := h
  cases negative with
  | true => rfl
  | false => exact splitSign_of_isDigit hc

theorem isNumber_signed {body : List Char} (negative : Bool) (h : ∃ c tail, body = c :: tail ∧ c.isDigit = true)
    (hbody : ∀ c ∈ body, isNumberChar c = true) : IsNumber (signed negative body) := by
  obtain ⟨c, tail, rfl, hc⟩ := h
  cases negative with
  | true => exact ⟨List.forall_mem_cons.mpr ⟨rfl, hbody⟩, c, tail, .inr rfl, hc⟩
  | false => exact ⟨hbody, c, tail, .inl rfl, hc⟩

theorem digits_begin (n : Nat) : ∃ c tail, digits n = c :: tail ∧ c.isDigit = true := by
  cases h : digits n with
  | nil => exact absurd h (digits_ne_nil n)
  | cons c tail => exact ⟨c, tail, rfl, digits_digits n c (by rw [h]; exact List.mem_cons_self)⟩

theorem digitsValue_digits (n : Nat) : digitsValue (digits n) = n := by
  have hfold (text : List Char) (init : Nat) :
      text.foldl (fun n c => n * 10 + (c.toNat - '0'.toNat)) init = Nat.ofDigitChars 10 text init := by
    induction text generalizing init with
    | nil => rfl
    | cons c text ih =>
        rw [List.foldl_cons, Nat.ofDigitChars_cons, ih, Nat.mul_comm]
  have hvalue : Nat.ofDigitChars 10 (digits n) 0 = n := Nat.ofDigitChars_ten_toDigits
  unfold digitsValue
  rw [hfold, hvalue]

theorem toList_toString_int (i : Int) :
    ∃ negative n, (toString i).toList = signed negative (digits n) ∧ i = if negative then -(n : Int) else n := by
  cases i with
  | ofNat n =>
      refine ⟨false, n, ?_, rfl⟩
      change (Nat.repr n).toList = _
      simp [signed, digits, Nat.repr]
  | negSucc n =>
      refine ⟨true, n + 1, ?_, rfl⟩
      change ("-" ++ Nat.repr (n + 1)).toList = _
      simp [signed, digits, Nat.repr]

/-- An integer is read back from its digits. -/
theorem readNumber?_int (i : Int) :
    IsNumber (toString i).toList ∧
      ∀ rest, Stops rest → readNumber? ((toString i).toList ++ rest) = some (.int i, rest) := by
  obtain ⟨negative, n, hword, hi⟩ := toList_toString_int i
  have hbegin := digits_begin n
  have hall : (digits n).all Char.isDigit = true := List.all_eq_true.mpr (digits_digits n)
  have hnumber : IsNumber (signed negative (digits n)) :=
    isNumber_signed negative hbegin fun c hc => isNumberChar_of_isDigit (digits_digits n c hc)
  rw [hword]
  refine ⟨hnumber, fun rest hrest => ?_⟩
  obtain ⟨htake, hdrop⟩ := takeWhile_isNumberChar hnumber.chars hrest
  unfold readNumber?
  simp only [htake, hdrop, splitSign_signed negative hbegin, digitsValue_digits, hall, if_true]
  rw [if_neg (by simpa using digits_ne_nil n), hi]

theorem isNumberChar_of_hasForm {body whole fraction exponent : List Char} (h : HasForm body whole fraction exponent) :
    ∀ c ∈ body, isNumberChar c = true := by
  have hdigits {text : List Char} (htext : Digits text) : ∀ c ∈ text, isNumberChar c = true :=
    fun c hc => isNumberChar_of_isDigit (htext c hc)
  rw [h.parts]
  simp only [List.forall_mem_append]
  refine ⟨⟨hdigits h.digits_whole, ?_⟩, ?_⟩
  · rcases h.places with rfl | ⟨places, rfl, hplaces⟩
    · simp
    · exact List.forall_mem_cons.mpr ⟨rfl, hdigits hplaces⟩
  · rcases h.power with rfl | ⟨sign, power, rfl, hsign, -, hpower⟩
    · simp
    · refine List.forall_mem_cons.mpr ⟨rfl, List.forall_mem_cons.mpr ⟨?_, hdigits hpower⟩⟩
      rcases hsign with rfl | rfl <;> rfl

/-- A finite double is read back as a double. -/
theorem exists_readNumber?_float {x : Float} {negative : Bool} {m : Nat} {q : Int}
    (h : Parts.ofFloat x = .finite negative m q) :
    IsNumber (Decimal.text x).toList ∧
      ∃ y, ∀ rest, Stops rest → readNumber? ((Decimal.text x).toList ++ rest) = some (.float y, rest) := by
  obtain ⟨body, whole, fraction, exponent, hform, htext⟩ := text_of_finite h
  have hbegin : ∃ c tail, body = c :: tail ∧ c.isDigit = true := by
    obtain ⟨c, tail, hwhole⟩ := List.exists_cons_of_ne_nil hform.whole_ne_nil
    refine ⟨c, tail ++ fraction ++ exponent, by rw [hform.parts, hwhole]; simp, ?_⟩
    exact hform.digits_whole c (by rw [hwhole]; exact List.mem_cons_self)
  have hsigned : (Decimal.text x).toList = signed negative body := htext
  have hnumber := isNumber_signed negative hbegin (isNumberChar_of_hasForm hform)
  rw [hsigned]
  obtain ⟨y, hy⟩ := exists_readMagnitude? hform negative
  refine ⟨hnumber, y, fun rest hrest => ?_⟩
  obtain ⟨htake, hdrop⟩ := takeWhile_isNumberChar hnumber.chars hrest
  have hmarked : body.all Char.isDigit = false := by
    rw [List.all_eq_false]
    rcases hform.exists_mark with ⟨c, hc, hmark⟩
    exact ⟨c, hc, by simp [hmark]⟩
  unfold readNumber?
  simp only [htake, hdrop, splitSign_signed negative hbegin, hmarked, Bool.false_eq_true, if_false, hy]
  obtain ⟨c, tail, rfl, -⟩ := hbegin
  rfl

end Conformance.Json
