import Conformance.Proofs.Text.Lines
import Conformance.Text.Lowercase
import Mathlib.Data.List.Forall2

/-!
# Words in letters of either case

A word is found at the front of a text whatever the case of its letters there, and the lower case of such a text is
the word again.

Main results:

- `splitWord?_eq_some_iff`: what is split off is the word up to case.
- `ToldApart.splitAnyWord?_eq`: of words with different first letters the one in front of a text is split off.
- `Spells.lower_eq`: the lower case of a text that spells a word.
- `lower_eq_iff_spells`: the texts whose lower case is a word.
- `AlikeInCase.lowercase_eq`: texts that differ only in capitals of ASCII have one lower case.
-/

namespace Conformance.Text

variable {word : List Char} {words : List (List Char)} {text found rest : List CodePoint} {letter : Char}

/-! ## Words up to case -/

/-- A text is a word up to case, where the special letters that fold to letters of the word count as them. -/
def IsWord (word : List Char) (text : List CodePoint) : Prop :=
  List.Forall₂ (fun letter c => matchesLetter letter c = true) word text

/-- A text spells a word if it is made of the letters of the word, each a capital or not. -/
def Spells (word : List Char) (text : List CodePoint) : Prop :=
  ∃ letters : List Char, letters.map Char.toLower = word ∧ text = letters.map .char

theorem spells_iff : Spells word text ↔ text.map (fun c => c.char?.map Char.toLower) = word.map some := by
  constructor
  · rintro ⟨letters, rfl, rfl⟩
    rw [List.map_map, List.map_map]
    rfl
  · intro h
    induction text generalizing word with
    | nil => exact ⟨[], (List.map_eq_nil_iff.mp h.symm).symm, rfl⟩
    | cons c text ih =>
        cases word with
        | nil => cases h
        | cons letter word =>
            obtain ⟨hfirst, hrest⟩ := List.cons.inj h
            obtain ⟨letters, rfl, rfl⟩ := ih hrest
            obtain ⟨d, hd, rfl⟩ := Option.map_eq_some_iff.mp hfirst
            cases c with
            | char e => exact ⟨e :: letters, by rw [Option.some.inj hd]; rfl, rfl⟩
            | half offset => cases hd

instance (word : List Char) (text : List CodePoint) : Decidable (Spells word text) :=
  decidable_of_iff _ spells_iff.symm

/-- What is split off the front of a text is the word up to case. -/
theorem splitWord?_eq_some_iff :
    splitWord? word text = some (found, rest) ↔ text = found ++ rest ∧ IsWord word found := by
  induction word generalizing text found with
  | nil =>
      rw [splitWord?, Option.some.injEq, Prod.mk.injEq]
      constructor
      · rintro ⟨rfl, rfl⟩
        exact ⟨rfl, .nil⟩
      · rintro ⟨rfl, ⟨⟩⟩
        exact ⟨rfl, rfl⟩
  | cons letter word ih =>
      cases text with
      | nil =>
          refine iff_of_false (fun hsplit => Option.some_ne_none _ hsplit.symm) ?_
          rintro ⟨htext, ⟨⟩⟩
          cases htext
      | cons c text =>
          rw [splitWord?]
          split
          · rename_i hletter
            rw [Option.map_eq_some_iff]
            constructor
            · rintro ⟨⟨tail, later⟩, htail, heq⟩
              obtain ⟨rfl, rfl⟩ := Prod.mk.inj heq
              obtain ⟨rfl, hword⟩ := ih.mp htail
              exact ⟨rfl, .cons hletter hword⟩
            · rintro ⟨htext, hword⟩
              cases hword with
              | cons _ hword =>
                  obtain ⟨rfl, rfl⟩ := List.cons.inj htext
                  exact ⟨_, ih.mpr ⟨rfl, hword⟩, rfl⟩
          · rename_i hletter
            refine iff_of_false (fun hsplit => Option.some_ne_none _ hsplit.symm) ?_
            rintro ⟨htext, hword⟩
            cases hword with
            | cons hfirst _ =>
                obtain ⟨rfl, rfl⟩ := List.cons.inj htext
                exact hletter hfirst

theorem Spells.isWord (h : Spells word text) : IsWord word text := by
  obtain ⟨letters, rfl, rfl⟩ := h
  induction letters with
  | nil => exact .nil
  | cons c letters ih => exact .cons (by simp [matchesLetter]) ih

theorem IsWord.exists_letter {c : CodePoint} (h : IsWord word text) (hc : c ∈ text) :
    ∃ letter ∈ word, matchesLetter letter c = true := by
  induction h with
  | nil => simp at hc
  | @cons letter d word text hmatches _ ih =>
      rcases List.mem_cons.mp hc with rfl | hlater
      · exact ⟨letter, List.mem_cons_self, hmatches⟩
      · obtain ⟨other, hother, hsame⟩ := ih hlater
        exact ⟨other, List.mem_cons_of_mem letter hother, hsame⟩

/-- A word in front of a text agrees with every part that the text begins with, as far as both go. -/
theorem IsWord.notMem_zipWith {part more : List CodePoint} (h : IsWord word text)
    (happend : text ++ rest = part ++ more) : false ∉ List.zipWith matchesLetter word part := by
  induction h generalizing part with
  | nil => simp
  | @cons letter c word text hmatches _ ih =>
      cases part with
      | nil => simp
      | cons d part =>
          obtain ⟨rfl, hrest⟩ := List.cons.inj happend
          simp [hmatches, ih hrest]

/-- A letter to which no special letter folds is matched by its own two cases only. -/
theorem exists_of_matchesLetter {c : CodePoint} (h : letter ≠ 's' ∧ letter ≠ 'k' ∧ letter ≠ 'i')
    (hc : matchesLetter letter c = true) : ∃ d : Char, c = .char d ∧ d.toLower = letter := by
  obtain ⟨hs, hk, hi⟩ := h
  cases c with
  | char d =>
      refine ⟨d, rfl, ?_⟩
      simpa [matchesLetter, beq_eq_false_iff_ne.mpr hs, beq_eq_false_iff_ne.mpr hk, beq_eq_false_iff_ne.mpr hi] using hc
  | half offset => cases hc

/-! ## One of several words -/

/-- Words are told apart by their first letters. -/
structure ToldApart (words : List (List Char)) : Prop where
  first : ∀ word ∈ words, ∃ letter letters, word = letter :: letters ∧ letter ≠ 's' ∧ letter ≠ 'k' ∧ letter ≠ 'i'
  different : ∀ word ∈ words, ∀ other ∈ words, word.head? = other.head? → word = other

/-- A text that begins with one word does not begin with another one. -/
theorem ToldApart.splitWord?_eq_none {other : List Char} (h : ToldApart words) (hword : word ∈ words)
    (hother : other ∈ words) (hne : other ≠ word) (htext : IsWord word text) :
    splitWord? other (text ++ rest) = none := by
  obtain ⟨letter, letters, rfl, hletter⟩ := h.first word hword
  obtain ⟨initial, later, rfl, hinitial⟩ := h.first other hother
  cases htext with
  | @cons _ c _ text hmatches _ =>
      rw [List.cons_append, splitWord?, if_neg]
      intro hsame
      obtain ⟨d, rfl, rfl⟩ := exists_of_matchesLetter hletter hmatches
      obtain ⟨_, ⟨⟩, rfl⟩ := exists_of_matchesLetter hinitial hsame
      exact hne (h.different _ hother _ hword rfl)

theorem splitAnyWord?_eq_some (hword : word ∈ words) (hsplit : splitWord? word text = some (found, rest))
    (hother : ∀ other ∈ words, other ≠ word → splitWord? other text = none) :
    splitAnyWord? words text = some (found, rest) := by
  unfold splitAnyWord?
  induction words with
  | nil => cases hword
  | cons first words ih =>
      by_cases hfirst : first = word
      · rw [List.findSome?_cons, hfirst, hsplit]
      · rw [List.findSome?_cons, hother first List.mem_cons_self hfirst]
        refine ih ?_ fun other h => hother other (List.mem_cons_of_mem _ h)
        exact (List.mem_cons.mp hword).resolve_left fun heq => hfirst heq.symm

/-- The word that stands in front of a text is split off. -/
theorem ToldApart.splitAnyWord?_eq (h : ToldApart words) (hword : word ∈ words) (htext : IsWord word text)
    (rest : List CodePoint) : splitAnyWord? words (text ++ rest) = some (text, rest) :=
  splitAnyWord?_eq_some hword (splitWord?_eq_some_iff.mpr ⟨rfl, htext⟩) fun _ hother hne =>
    h.splitWord?_eq_none hword hother hne htext

/-! ## Lower case -/

/-- What holds of the first 128 numbers holds of the characters of ASCII. -/
theorem forall_ascii {P : Char → Prop} (h : ∀ n < 128, P (Char.ofNat n)) {c : Char} (hc : c.toNat < 128) : P c := by
  have hn := h c.toNat hc
  rwa [Char.ofNat_toNat] at hn

theorem lowerChar_ascii {c : Char} (h : c.toNat < 128) : lowerChar (.char c) = .char c.toLower :=
  forall_ascii (P := fun c => lowerChar (.char c) = .char c.toLower) (by decide) h

theorem lowerFrom_ascii (before : List CodePoint) {letters : List Char} (h : ∀ c ∈ letters, c.toNat < 128) :
    lowerFrom before (letters.map .char) = (letters.map Char.toLower).map .char := by
  induction letters generalizing before with
  | nil => rfl
  | cons c letters ih =>
      obtain ⟨hc, hletters⟩ := List.forall_mem_cons.mp h
      have hdotted : CodePoint.char c ≠ .char 'İ' := by
        rintro ⟨⟩
        exact absurd hc (by decide)
      have hsigma : CodePoint.char c ≠ .char 'Σ' := by
        rintro ⟨⟩
        exact absurd hc (by decide)
      rw [List.map_cons, lowerFrom, if_neg hdotted, if_neg hsigma, lowerChar_ascii hc, ih _ hletters]
      rfl

theorem toNat_lt_of_isLower {c : Char} (h : c.isLower = true) : c.toNat < 128 := by
  have hletter : c.toNat ≤ 0x7a := of_decide_eq_true (Bool.and_eq_true_iff.mp h).2
  exact Nat.lt_of_le_of_lt hletter (by decide)

/-- Only letters of ASCII have small letters of ASCII. -/
theorem toNat_lt_of_toLower {c : Char} (h : c.toLower.toNat < 128) : c.toNat < 128 := by
  unfold Char.toLower at h
  split at h
  · rename_i hcapital
    exact Nat.lt_of_le_of_lt hcapital.2 (by decide)
  · exact h

/-- The lower case of a text that spells a word is the word. -/
theorem Spells.lower_eq (h : Spells word text) (hword : ∀ c ∈ word, c.toNat < 128) : lower text = word.map .char := by
  obtain ⟨letters, rfl, rfl⟩ := h
  exact lowerFrom_ascii [] fun c hc => toNat_lt_of_toLower (hword _ (List.mem_map_of_mem hc))

/-- A run of capitals with small letters outside ASCII. -/
def CaseRun.Outside (run : CaseRun) : Prop :=
  128 ≤ (run.first : Int) + run.shift ∧ (run.last : Int) + run.shift < 0xD800 ∨
    0xE000 ≤ (run.first : Int) + run.shift ∧ (run.last : Int) + run.shift < 0x110000

instance (run : CaseRun) : Decidable run.Outside :=
  inferInstanceAs (Decidable (_ ∨ _))

theorem toNat_ofNat {n : Nat} (h : n < 0x110000) : (CodePoint.ofNat n).toNat = n := by
  unfold CodePoint.ofNat
  split
  · rename_i hhalf
    exact Nat.add_sub_cancel' hhalf.1
  · rename_i hhalf
    have hvalid : n.isValidChar := by
      unfold Nat.isValidChar
      omega
    rw [CodePoint.toNat, Char.ofNat, dif_pos hvalid]
    rfl

/-- Of the capitals outside ASCII only the Kelvin sign has a small letter of ASCII. -/
theorem le_toNat_lowerChar {c : CodePoint} (hc : 128 ≤ c.toNat) (hkelvin : c ≠ .ofNat 0x212a) :
    128 ≤ (lowerChar c).toNat := by
  have hruns : ∀ run ∈ capitalRuns, run.Outside ∨ run.first = 0x212a ∧ run.last = 0x212a := by decide +kernel
  rw [lowerChar, if_neg (Nat.not_lt.mpr hc)]
  cases hfind : capitalRuns.find? (·.holds c.toNat) with
  | none => exact hc
  | some run =>
      have hmem : run ∈ capitalRuns := Array.mem_of_find?_eq_some hfind
      have hholds := Array.find?_some (p := fun run : CaseRun => run.holds c.toNat) hfind
      simp only [CaseRun.holds, Bool.and_eq_true, decide_eq_true_eq] at hholds
      obtain ⟨⟨hfirst, hlast⟩, -⟩ := hholds
      rcases hruns run hmem with houtside | ⟨hone, hother⟩
      · unfold CaseRun.Outside at houtside
        have hnumber : (((c.toNat : Int) + run.shift).toNat) < 0x110000 := by omega
        dsimp only
        rw [toNat_ofNat hnumber]
        omega
      · have hsame : c.toNat = 0x212a := by omega
        exact absurd (by rw [← hsame, CodePoint.ofNat_toNat]) hkelvin

/-- A small letter of ASCII other than that of the Kelvin sign has the two cases of ASCII only. -/
theorem exists_of_lowerChar {c : CodePoint} (hletter : letter.toNat < 128) (hk : letter ≠ 'k')
    (h : lowerChar c = .char letter) : ∃ d : Char, c = .char d ∧ d.toLower = letter := by
  have hkelvin : c ≠ .ofNat 0x212a := by
    rintro rfl
    have himage : lowerChar (.ofNat 0x212a) = .char 'k' := by decide +kernel
    exact hk (CodePoint.char.inj (h.symm.trans himage))
  have hc : c.toNat < 128 := by
    by_contra hge
    have hle := le_toNat_lowerChar (Nat.le_of_not_lt hge) hkelvin
    rw [h] at hle
    exact absurd hletter (Nat.not_lt.mpr hle)
  cases c with
  | char d => exact ⟨d, rfl, CodePoint.char.inj ((lowerChar_ascii hc).symm.trans h)⟩
  | half offset =>
      have hhalf : 0xD800 + offset.val < 128 := hc
      omega

/-- A word of ASCII without the letters that are also the lower case of special letters or a part of it. -/
def TwoCased (word : List Char) : Prop :=
  word.all (fun c => c.toNat < 128 && c != 'k' && c != 'i') = true

instance (word : List Char) : Decidable (TwoCased word) :=
  inferInstanceAs (Decidable (_ = _))

theorem twoCased_cons_iff :
    TwoCased (letter :: word) ↔ (letter.toNat < 128 ∧ letter ≠ 'k' ∧ letter ≠ 'i') ∧ TwoCased word := by
  simp [TwoCased, and_assoc]

theorem TwoCased.toNat_lt (h : TwoCased word) : ∀ c ∈ word, c.toNat < 128 := by
  induction word with
  | nil => exact List.forall_mem_nil _
  | cons letter word ih =>
      obtain ⟨⟨hletter, -⟩, hrest⟩ := twoCased_cons_iff.mp h
      exact List.forall_mem_cons.mpr ⟨hletter, ih hrest⟩

theorem spells_of_lowerFrom (before : List CodePoint) (hword : TwoCased word)
    (h : lowerFrom before text = word.map .char) : Spells word text := by
  induction text generalizing before word with
  | nil =>
      obtain rfl : word = [] := List.map_eq_nil_iff.mp h.symm
      exact ⟨[], rfl, rfl⟩
  | cons c text ih =>
      rw [lowerFrom] at h
      cases word with
      | nil =>
          have hnil := (List.append_eq_nil_iff.mp h).1
          split at hnil
          · cases hnil
          · split at hnil
            · split at hnil <;> cases hnil
            · cases hnil
      | cons letter word =>
          obtain ⟨⟨hletter, hk, hi⟩, hrest⟩ := twoCased_cons_iff.mp hword
          split at h
          · exact absurd (CodePoint.char.inj (List.cons.inj h).1).symm hi
          · -- the two small letters of the sigma stand outside ASCII
            have hsigma : 128 ≤ 'σ'.toNat ∧ 128 ≤ 'ς'.toNat := by decide
            split at h
            · split at h
              · obtain rfl := CodePoint.char.inj (List.cons.inj h).1
                exact absurd hletter (Nat.not_lt.mpr hsigma.2)
              · obtain rfl := CodePoint.char.inj (List.cons.inj h).1
                exact absurd hletter (Nat.not_lt.mpr hsigma.1)
            · obtain ⟨hfirst, hlater⟩ := List.cons.inj h
              obtain ⟨d, rfl, hd⟩ := exists_of_lowerChar hletter hk hfirst
              obtain ⟨letters, hletters, rfl⟩ := ih _ hrest hlater
              exact ⟨d :: letters, by rw [List.map_cons, hd, hletters], rfl⟩

/-- The lower case of a text is such a word exactly if the text spells the word. -/
theorem lower_eq_iff_spells (hword : TwoCased word) : lower text = word.map .char ↔ Spells word text :=
  ⟨spells_of_lowerFrom [] hword, fun h => h.lower_eq hword.toNat_lt⟩

/-- No blank is a letter, not even one of the special letters. -/
theorem isBlank_eq_false_of_matchesLetter {c : CodePoint} (hletter : letter.isLower = true)
    (h : matchesLetter letter c = true) : isBlank c = false := by
  have hall : ∀ c : Char, c.toNat < 128 → c.toLower.isLower = true → isBlank (.char c) = false := fun c =>
    forall_ascii (P := fun c => c.toLower.isLower = true → isBlank (.char c) = false) (by decide)
  cases c with
  | half offset => cases h
  | char d =>
      simp only [matchesLetter, Bool.or_eq_true, Bool.and_eq_true, beq_iff_eq] at h
      rcases h with ((hcase | ⟨-, rfl⟩) | ⟨-, rfl⟩) | ⟨-, rfl | rfl⟩
      · have hlower : d.toLower.isLower = true := by rwa [hcase]
        exact hall d (toNat_lt_of_toLower (toNat_lt_of_isLower hlower)) hlower
      · decide +kernel
      · decide +kernel
      · decide +kernel
      · decide +kernel

/-- No blank stands in a word. -/
theorem IsWord.isBlank_eq_false (h : IsWord word text) (hword : ∀ c ∈ word, c.isLower = true) :
    ∀ c ∈ text, isBlank c = false := by
  intro c hc
  obtain ⟨letter, hletter, hmatches⟩ := h.exists_letter hc
  exact isBlank_eq_false_of_matchesLetter (hword letter hletter) hmatches

theorem Spells.isBlank_eq_false (h : Spells word text) (hword : ∀ c ∈ word, c.isLower = true) :
    ∀ c ∈ text, isBlank c = false :=
  h.isWord.isBlank_eq_false hword

/-! ## Case of single letters -/

/-- A code point with the small letter in the place of a capital of ASCII. -/
def foldCase : CodePoint → CodePoint
  | .char c => .char c.toLower
  | .half offset => .half offset

/-- Two texts differ at most in which of their letters of ASCII are capitals. -/
def AlikeInCase (a b : Text) : Prop :=
  a.toList.map foldCase = b.toList.map foldCase

instance (a b : Text) : Decidable (AlikeInCase a b) :=
  inferInstanceAs (Decidable (_ = _))

/-- Only capitals of ASCII are changed. -/
theorem foldCase_cases (c : CodePoint) :
    foldCase c = c ∨ ∃ d : Char, 0x41 ≤ d.toNat ∧ d.toNat ≤ 0x5a ∧ c = .char d := by
  cases c with
  | half offset => exact .inl rfl
  | char d =>
      by_cases hcapital : d.val ≥ 'A'.val ∧ d.val ≤ 'Z'.val
      · exact .inr ⟨d, hcapital.1, hcapital.2, rfl⟩
      · have hlower : d.toLower = d := dif_neg hcapital
        exact .inl (congrArg CodePoint.char hlower)

/-- The letters of ASCII have case, and none of them is skipped. -/
theorem holds_of_letter {n : Nat} {c : CodePoint} (hn : c.toNat = n)
    (h : 0x41 ≤ n ∧ n ≤ 0x5a ∨ 0x61 ≤ n ∧ n ≤ 0x7a) :
    caseIgnorableRanges.holds c = false ∧ casedRanges.holds c = true := by
  have hapart : ∀ range ∈ caseIgnorableRanges.toList,
      range.2 < 0x41 ∨ 0x7a < range.1 ∨ 0x5a < range.1 ∧ range.2 < 0x61 := by decide +kernel
  constructor
  · rw [Bool.eq_false_iff]
    intro hskipped
    obtain ⟨range, hrange, hbegin, hend⟩ := (Ranges.holds_iff caseIgnorableRanges c).mp hskipped
    have := hapart range hrange.val
    omega
  · rw [Ranges.holds_iff]
    rcases h with h | h
    · exact ⟨(0x41, 0x5a), by simp [casedRanges], by simpa [hn] using h⟩
    · exact ⟨(0x61, 0x7a), by simp [casedRanges], by simpa [hn] using h⟩

/-- A letter counts for the letters beside it in the same way in both cases. -/
theorem holds_foldCase (c : CodePoint) :
    caseIgnorableRanges.holds (foldCase c) = caseIgnorableRanges.holds c ∧
      casedRanges.holds (foldCase c) = casedRanges.holds c ∧ lowerChar (foldCase c) = lowerChar c := by
  rcases foldCase_cases c with hsame | ⟨d, hfirst, hlast, rfl⟩
  · simp [hsame]
  · have hletter := forall_ascii (P := fun d => 0x41 ≤ d.toNat → d.toNat ≤ 0x5a →
        (foldCase (.char d)).toNat = d.toNat + 0x20 ∧ lowerChar (foldCase (.char d)) = lowerChar (.char d))
      (by decide) (show d.toNat < 128 by omega)
    obtain ⟨hsmall, hlower⟩ := hletter hfirst hlast
    obtain ⟨hskipped, hcased⟩ := holds_of_letter (c := .char d) rfl (.inl ⟨hfirst, hlast⟩)
    obtain ⟨hskipped', hcased'⟩ := holds_of_letter (c := foldCase (.char d)) hsmall (.inr (by omega))
    simp [hskipped, hskipped', hcased, hcased', hlower]

theorem foldCase_eq_char_iff {d : Char} (c : CodePoint) (hd : ¬d.toNat < 128) :
    foldCase c = .char d ↔ c = .char d := by
  rcases foldCase_cases c with hsame | ⟨e, -, hlast, rfl⟩
  · rw [hsame]
  · have hascii : e.toNat < 128 := by omega
    have hlower : e.toLower.toNat < 128 :=
      forall_ascii (P := fun e => e.toLower.toNat < 128) (by decide) hascii
    constructor
    · rintro ⟨⟩
      exact absurd hlower hd
    · rintro ⟨⟩
      exact absurd hascii hd

theorem nextIsCased_map_foldCase (text : List CodePoint) :
    nextIsCased (text.map foldCase) = nextIsCased text := by
  induction text with
  | nil => rfl
  | cons c text ih =>
      obtain ⟨hignorable, hcased, -⟩ := holds_foldCase c
      simp only [List.map_cons, nextIsCased, hignorable, hcased, ih]

theorem lowerFrom_map_foldCase (before text : List CodePoint) :
    lowerFrom (before.map foldCase) (text.map foldCase) = lowerFrom before text := by
  induction text generalizing before with
  | nil => rfl
  | cons c text ih =>
      have hrest := ih (c :: before)
      rw [List.map_cons] at hrest
      obtain ⟨-, -, hletter⟩ := holds_foldCase c
      simp only [List.map_cons, lowerFrom, foldCase_eq_char_iff c (d := 'İ') (by decide),
        foldCase_eq_char_iff c (d := 'Σ') (by decide), nextIsCased_map_foldCase, hletter, hrest]

/-- Texts that differ only in capitals of ASCII have one lower case. -/
theorem AlikeInCase.lowercase_eq {a b : Text} (h : AlikeInCase a b) : lowercase a = lowercase b := by
  have hfold (t : Text) : lower (t.toList.map foldCase) = lower t.toList := lowerFrom_map_foldCase [] t.toList
  unfold lowercase
  rw [← hfold a, ← hfold b, h]

end Conformance.Text
