import Conformance.Text.Basic

/-!
# Searching texts

Whether a text stands somewhere inside another one, whether it holds the null character, and replacing all
occurrences of a text.
-/

namespace Conformance.Text

/-- Whether a text stands inside another one. -/
def occursIn (part : List CodePoint) : List CodePoint → Bool
  | [] => part.isEmpty
  | c :: rest => part.isPrefixOf (c :: rest) || occursIn part rest

/-- Whether a text stands inside another one. -/
def contains (text part : Text) : Bool :=
  occursIn part.toList text.toList

/-- Whether a text holds the null character. -/
def hasNull (text : Text) : Bool :=
  text.toList.contains (.char '\x00')

theorem occursIn_iff (part text : List CodePoint) :
    occursIn part text = true ↔ ∃ before after, text = before ++ part ++ after := by
  induction text with
  | nil => simp [occursIn]
  | cons c rest ih =>
    simp only [occursIn, Bool.or_eq_true, ih, List.isPrefixOf_iff_prefix]
    constructor
    · rintro (⟨after, h⟩ | ⟨before, after, h⟩)
      · exact ⟨[], after, by simp [h]⟩
      · exact ⟨c :: before, after, by simp [h]⟩
    · rintro ⟨before, after, h⟩
      cases before with
      | nil => exact .inl ⟨after, by simp [h]⟩
      | cons d before =>
        simp only [List.cons_append, List.cons.injEq] at h
        exact .inr ⟨before, after, h.2⟩

/-- Replace the occurrences of a text, from the left, given the result so far in reverse.  The number is
that of the characters to skip, which belong to the last occurrence. -/
def replaceFrom (part image : List CodePoint) :
    Nat → List CodePoint → List CodePoint → List CodePoint
  | _, [], done => done.reverse
  | skip + 1, _ :: rest, done => replaceFrom part image skip rest done
  | 0, c :: rest, done =>
    if part.isPrefixOf (c :: rest) then
      replaceFrom part image (part.length - 1) rest (image.reverse ++ done)
    else replaceFrom part image 0 rest (c :: done)

/-- A text with all occurrences of a non-empty part replaced. -/
def replaceAll (part image text : Text) : Text :=
  Text.ofList (replaceFrom part.toList image.toList 0 text.toList [])

end Conformance.Text
