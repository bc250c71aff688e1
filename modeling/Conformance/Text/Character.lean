import Conformance.Text.Basic

/-!
# Kinds of characters

A property of characters is kept as an ordered table of closed code point ranges, and is had by the characters that
lie in one of them.  Digits, letters without regard to case, blanks and line breaks are told apart here; tables that
are longer have modules of their own.
-/

namespace Conformance.Text

/-! ## Character ranges -/

/-- A table of closed ranges of code points. -/
abbrev Ranges := Array (Nat × Nat)

/-- Whether a character lies in one of the ranges of a table. -/
def Ranges.holds (table : Ranges) (c : CodePoint) : Bool :=
  table.any fun range => range.1 ≤ c.toNat && c.toNat ≤ range.2

theorem Ranges.holds_iff (table : Ranges) (c : CodePoint) :
    table.holds c = true ↔ ∃ range ∈ table, range.1 ≤ c.toNat ∧ c.toNat ≤ range.2 := by
  rw [Ranges.holds, ← Array.any_toList, List.any_eq_true]
  simp

/-! ## Decimal digits

The decimal digits of all scripts (general category Nd).  They come in runs of ten consecutive code
points, zero first, so the table holds the zeros only. -/

/-- The code points of the digit zero in every script that has decimal digits. -/
def digitZeros : Array Nat :=
  #[
    0x30, 0x660, 0x6f0, 0x7c0, 0x966, 0x9e6, 0xa66, 0xae6, 0xb66, 0xbe6,
    0xc66, 0xce6, 0xd66, 0xde6, 0xe50, 0xed0, 0xf20, 0x1040, 0x1090, 0x17e0,
    0x1810, 0x1946, 0x19d0, 0x1a80, 0x1a90, 0x1b50, 0x1bb0, 0x1c40, 0x1c50, 0xa620,
    0xa8d0, 0xa900, 0xa9d0, 0xa9f0, 0xaa50, 0xabf0, 0xff10, 0x104a0, 0x10d30, 0x11066,
    0x110f0, 0x11136, 0x111d0, 0x112f0, 0x11450, 0x114d0, 0x11650, 0x116c0, 0x11730, 0x118e0,
    0x11950, 0x11c50, 0x11d50, 0x11da0, 0x16a60, 0x16ac0, 0x16b50, 0x1d7ce, 0x1d7d8, 0x1d7e2,
    0x1d7ec, 0x1d7f6, 0x1e140, 0x1e2f0, 0x1e950, 0x1fbf0]

/-- The value of a decimal digit of any script. -/
def digitValue? (c : CodePoint) : Option Nat :=
  if '0' ≤ c ∧ c ≤ '9' then some (c.toNat - 0x30)
  else if c.toNat < 128 then none
  else (digitZeros.find? fun start => start ≤ c.toNat && c.toNat < start + 10).map (c.toNat - ·)

/-- Whether a character is a decimal digit of some script. -/
def isDigit (c : CodePoint) : Bool :=
  (digitValue? c).isSome

/-- Whether a character is one of the ten ASCII digits. -/
def isAsciiDigit (c : CodePoint) : Bool :=
  '0' ≤ c && c ≤ '9'

/-- Whether a character is an ASCII letter. -/
def isAsciiLetter (c : CodePoint) : Bool :=
  ('a' ≤ c && c ≤ 'z') || ('A' ≤ c && c ≤ 'Z')

/-- The last digits of a number in base sixteen, in lower case and padded with zeros. -/
def hexDigits : Nat → Nat → List CodePoint
  | 0, _ => []
  | width + 1, n => hexDigits width (n / 16) ++ [.char (Nat.digitChar (n % 16))]

/-! ## Letters without regard to case

A letter matches its capital, and also the three special letters of other alphabets that fold to it: the
long s, the Kelvin sign, and the dotted and dotless forms of i. -/

/-- Whether a character is a lower-case ASCII letter up to case. -/
def matchesLetter (letter : Char) : CodePoint → Bool
  | .char c =>
    c.toLower == letter ||
      (letter == 's' && c == 'ſ') ||
      (letter == 'k' && c == '\u212a') ||
      (letter == 'i' && (c == 'ı' || c == 'İ'))
  | .half _ => false

/-- Split off a word in lower case that stands at the front of a text up to case. -/
def splitWord? : List Char → List CodePoint → Option (List CodePoint × List CodePoint)
  | [], rest => some ([], rest)
  | _ :: _, [] => none
  | letter :: word, c :: rest =>
    if matchesLetter letter c then (splitWord? word rest).map fun (found, rest) => (c :: found, rest)
    else none

/-- Split off the first of several words that stands at the front of a text up to case. -/
def splitAnyWord? (words : List (List Char)) (text : List CodePoint) :
    Option (List CodePoint × List CodePoint) :=
  words.findSome? (splitWord? · text)

theorem splitWord?_append {word : List Char} {text found rest : List CodePoint}
    (h : splitWord? word text = some (found, rest)) : found ++ rest = text := by
  induction word generalizing text found with
  | nil =>
    simp only [splitWord?, Option.some.injEq, Prod.mk.injEq] at h
    simp [← h.1, ← h.2]
  | cons letter word ih =>
    cases text with
    | nil => simp [splitWord?] at h
    | cons c text =>
      simp only [splitWord?] at h
      split at h
      · obtain ⟨⟨tail, rest'⟩, htail, heq⟩ := Option.map_eq_some_iff.1 h
        obtain ⟨rfl, rfl⟩ := Prod.mk.inj heq
        simp [ih htail]
      · simp at h

/-! ## Blanks and line breaks

Three classes of characters that separate text: blanks of all scripts, the line breaks at which tool
output is cut into lines, and the trimming of either end of a text. -/

/-! ### Classes -/

/-- Blanks outside ASCII. -/
def blankRanges : Ranges :=
  #[(0x85, 0x85), (0xa0, 0xa0), (0x1680, 0x1680), (0x2000, 0x200a), (0x2028, 0x2029),
    (0x202f, 0x202f), (0x205f, 0x205f), (0x3000, 0x3000)]

/-- Whether a character is a blank: a space, tab, line break or one of the four information separators,
or a blank of another script. -/
def isBlank (c : CodePoint) : Bool :=
  if c.toNat < 128 then
    (9 ≤ c.toNat && c.toNat ≤ 13) || (28 ≤ c.toNat && c.toNat ≤ 32)
  else blankRanges.holds c

/-- Whether a character ends a line of tool output. -/
def isLineBreak (c : CodePoint) : Bool :=
  (10 ≤ c.toNat && c.toNat ≤ 13) || (28 ≤ c.toNat && c.toNat ≤ 30) ||
    c.toNat == 0x85 || c.toNat == 0x2028 || c.toNat == 0x2029

theorem isBlank_of_isWhitespace {c : Char} (h : c.isWhitespace = true) : isBlank c = true := by
  simp only [Char.isWhitespace, Bool.or_eq_true, decide_eq_true_eq] at h
  rcases h with ((rfl | rfl) | rfl) | rfl <;> decide

/-! ### Trimming -/

/-- A text without the characters of a class at its end. -/
def trimEnd {α : Type} (p : α → Bool) (text : List α) : List α :=
  (text.reverse.dropWhile p).reverse

/-- A text without the characters of a class at either end. -/
def trim {α : Type} (p : α → Bool) (text : List α) : List α :=
  trimEnd p (text.dropWhile p)

/-- A text without blanks at either end. -/
def trimBlanks (text : List CodePoint) : List CodePoint :=
  trim isBlank text

@[simp]
theorem trimEnd_nil {α : Type} (p : α → Bool) : trimEnd p [] = [] :=
  rfl

@[simp]
theorem trim_nil {α : Type} (p : α → Bool) : trim p [] = [] :=
  rfl

/-- A text whose last character is outside the class keeps its end. -/
theorem trimEnd_concat {α : Type} {p : α → Bool} {c : α} (text : List α) (h : p c = false) :
    trimEnd p (text ++ [c]) = text ++ [c] := by
  simp [trimEnd, h]

/-- Characters of the class at the end do not matter. -/
theorem trimEnd_append_all {α : Type} {p : α → Bool} (text tail : List α)
    (h : ∀ c ∈ tail, p c = true) :
    trimEnd p (text ++ tail) = trimEnd p text := by
  unfold trimEnd
  rw [List.reverse_append, List.dropWhile_append_of_pos]
  simpa using h

end Conformance.Text
