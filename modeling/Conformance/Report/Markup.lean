import Conformance.Text.Basic

/-!
# Markup

Texts for a terminal carry tags between brackets, which say how they look.  A text that is not to be read as
markup has its tags escaped: the backslashes in front of a tag are doubled and one more is added.  What a
reader sees of markup is the text without the tags that are not escaped.
-/

namespace Conformance.Markup

/-- Whether a character can begin the inside of a tag. -/
def beginsTag (c : CodePoint) : Bool :=
  ('a' ≤ c && c ≤ 'z') || c == '#' || c == '/' || c == '@'

/-- The inside of a tag up to its closing bracket, and what follows, given what was read of it, last first.
There is no tag inside a tag. -/
def tagEnd? (done : List CodePoint) : List CodePoint → Option (List CodePoint × List CodePoint)
  | [] => none
  | .char ']' :: rest => some ((.char ']' :: done).reverse, rest)
  | .char '[' :: _ => none
  | c :: rest => tagEnd? (c :: done) rest

/-- The tag at the start of a text, and what follows. -/
def tag? : List CodePoint → Option (List CodePoint × List CodePoint)
  | .char '[' :: c :: rest => if beginsTag c then tagEnd? [c, '['] rest else none
  | _ => none

theorem length_of_tagEnd? {done text tag rest : List CodePoint}
    (h : tagEnd? done text = some (tag, rest)) : rest.length < text.length := by
  induction text generalizing done with
  | nil => simp [tagEnd?] at h
  | cons c text ih =>
    unfold tagEnd? at h
    split at h
    · simp at h
    · rename_i heq
      simp only [Option.some.injEq, Prod.mk.injEq] at h
      obtain ⟨-, rfl⟩ := h
      simp_all
    · simp at h
    · rename_i heq
      simp only [List.cons.injEq] at heq
      obtain ⟨-, rfl⟩ := heq
      have := ih h
      simp only [List.length_cons]
      omega

theorem length_of_tag? {text tag rest : List CodePoint} (h : tag? text = some (tag, rest)) :
    rest.length < text.length := by
  unfold tag? at h
  split at h
  · split at h
    · have := length_of_tagEnd? h
      simp only [List.length_cons]
      omega
    · simp at h
  · simp at h

/-- Escape the tags of a text, behind what has been written of it, last first, and a number of
backslashes. -/
def escapeFrom (done : List CodePoint) (slashes : Nat) : List CodePoint → List CodePoint
  | [] => (List.replicate slashes (CodePoint.char '\\') ++ done).reverse
  | c :: text =>
    match h : tag? (c :: text) with
    | some (tag, rest) =>
      have : rest.length < (c :: text).length := length_of_tag? h
      escapeFrom (tag.reverse ++ List.replicate (2 * slashes + 1) (.char '\\') ++ done) 0 rest
    | none =>
      if c = '\\' then escapeFrom done (slashes + 1) text
      else escapeFrom (c :: (List.replicate slashes (.char '\\') ++ done)) 0 text
termination_by text => text.length
decreasing_by
  · assumption
  · exact Nat.lt_succ_self _
  · exact Nat.lt_succ_self _

/-- A text that ends in one backslash gets another one, so that nothing behind it is escaped. -/
def closeEnd (text : List CodePoint) : List CodePoint :=
  match text.reverse with
  | .char '\\' :: .char '\\' :: _ => text
  | .char '\\' :: _ => text ++ [.char '\\']
  | _ => text

/-- A text that stands for itself in markup. -/
def escape (text : Text) : Text :=
  Text.ofList (closeEnd (escapeFrom [] 0 text.toList))

/-- A text between the tags of a style. -/
def styled (style text : Text) : Text :=
  "[" ++ style ++ "]" ++ text ++ "[/" ++ style ++ "]"

/-- What a reader sees of markup behind a number of backslashes.  In front of a tag two backslashes stand for
one, and a backslash that is left over makes the tag a part of the text. -/
def visibleFrom (slashes : Nat) : List CodePoint → List CodePoint
  | [] => List.replicate slashes (.char '\\')
  | c :: text =>
    match h : tag? (c :: text) with
    | some (tag, rest) =>
      have : rest.length < (c :: text).length := length_of_tag? h
      List.replicate (slashes / 2) (.char '\\') ++ (if slashes % 2 = 1 then tag else []) ++
        visibleFrom 0 rest
    | none =>
      if c = '\\' then visibleFrom (slashes + 1) text
      else List.replicate slashes (.char '\\') ++ c :: visibleFrom 0 text
termination_by text => text.length
decreasing_by
  · assumption
  · exact Nat.lt_succ_self _
  · exact Nat.lt_succ_self _

/-- What a reader sees of markup. -/
def visible (markup : Text) : Text :=
  Text.ofList (visibleFrom 0 markup.toList)

end Conformance.Markup
