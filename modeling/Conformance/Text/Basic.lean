/-!
# Texts

A text is a list of code points.  Nearly every code point is a character.  The numbers from D800 to DFFF are
those of the halves of surrogate pairs: they name no character of their own, but an escape can name them, and
a byte of a name that is no text is read as one, so a text can hold them.  Code points are ordered by their
numbers, and texts by their first difference.
-/

namespace Conformance

/-! ## Code points -/

/-- A code point: a character, or a half of a surrogate pair, counted from the first one. -/
inductive CodePoint
  | char (c : Char)
  | half (offset : Fin 0x800)
  deriving Repr, DecidableEq

namespace CodePoint

instance : Coe Char CodePoint := ⟨.char⟩

/-- The number of a code point. -/
def toNat : CodePoint → Nat
  | .char c => c.toNat
  | .half offset => 0xD800 + offset.val

/-- The code point with a number up to the last one. -/
def ofNat (number : Nat) : CodePoint :=
  if h : 0xD800 ≤ number ∧ number < 0xE000 then .half ⟨number - 0xD800, by omega⟩
  else .char (Char.ofNat number)

/-- Whether a code point is half of a surrogate pair. -/
def isHalf : CodePoint → Bool
  | .char _ => false
  | .half _ => true

/-- The character that a code point is. -/
def char? : CodePoint → Option Char
  | .char c => some c
  | .half _ => none

instance : LE CodePoint := ⟨fun a b => a.toNat ≤ b.toNat⟩

instance : LT CodePoint := ⟨fun a b => a.toNat < b.toNat⟩

instance (a b : CodePoint) : Decidable (a ≤ b) :=
  inferInstanceAs (Decidable (a.toNat ≤ b.toNat))

instance (a b : CodePoint) : Decidable (a < b) :=
  inferInstanceAs (Decidable (a.toNat < b.toNat))

theorem isHalf_iff (c : CodePoint) : c.isHalf = true ↔ 0xD800 ≤ c.toNat ∧ c.toNat < 0xE000 := by
  cases c with
  | char c =>
    have valid : c.toNat < 0xD800 ∨ 0xDFFF < c.toNat ∧ c.toNat < 0x110000 := c.valid
    simp only [isHalf, toNat, Bool.false_eq_true, false_iff]
    omega
  | half offset =>
    simp only [isHalf, toNat, true_iff]
    omega

/-- A code point is known by its number. -/
@[simp]
theorem ofNat_toNat (c : CodePoint) : ofNat c.toNat = c := by
  cases c with
  | char c =>
    have valid : c.toNat < 0xD800 ∨ 0xDFFF < c.toNat ∧ c.toNat < 0x110000 := c.valid
    have outside : ¬(0xD800 ≤ c.toNat ∧ c.toNat < 0xE000) := by omega
    unfold ofNat toNat
    rw [dif_neg outside, Char.ofNat_toNat]
  | half offset =>
    have inside : 0xD800 ≤ 0xD800 + offset.val ∧ 0xD800 + offset.val < 0xE000 := by omega
    unfold ofNat toNat
    rw [dif_pos inside]
    exact congrArg CodePoint.half (Fin.ext (Nat.add_sub_cancel_left ..))

/-- Different code points have different numbers. -/
theorem toNat_injective {a b : CodePoint} (h : a.toNat = b.toNat) : a = b := by
  rw [← ofNat_toNat a, h, ofNat_toNat]

end CodePoint

/-! ## Texts -/

/-- A text, as the list of its code points. -/
structure Text where
  ofList ::
  toList : List CodePoint
  deriving Repr, DecidableEq

namespace Text

/-- The text of characters. -/
def ofChars (chars : List Char) : Text :=
  ⟨chars.map .char⟩

/-- The text of a string. -/
def ofString (s : String) : Text :=
  ofChars s.toList

instance : Coe String Text := ⟨ofString⟩

/-- The text without code points. -/
protected def empty : Text :=
  ⟨[]⟩

instance : Inhabited Text := ⟨Text.empty⟩

/-- The number of code points. -/
protected def length (t : Text) : Nat :=
  t.toList.length

/-- Whether a text has no code points. -/
protected def isEmpty (t : Text) : Bool :=
  t.toList.isEmpty

/-- A text and another one behind it. -/
protected def append (a b : Text) : Text :=
  ⟨a.toList ++ b.toList⟩

instance : Append Text := ⟨Text.append⟩

instance : LT Text := ⟨fun a b => a.toList < b.toList⟩

instance : LE Text := ⟨fun a b => ¬b < a⟩

instance (a b : Text) : Decidable (a < b) :=
  inferInstanceAs (Decidable (a.toList < b.toList))

instance (a b : Text) : Decidable (a ≤ b) :=
  inferInstanceAs (Decidable (¬b < a))

/-- Texts, one behind another. -/
protected def join (texts : List Text) : Text :=
  ⟨texts.flatMap toList⟩

/-- Texts with a text between them. -/
protected def intercalate (between : Text) (texts : List Text) : Text :=
  ⟨between.toList.intercalate (texts.map toList)⟩

/-- The pieces of a text between the places of a code point. -/
protected def splitOn (t : Text) (c : CodePoint) : List Text :=
  (t.toList.splitOn c).map ofList

/-- The characters of a text that holds no halves. -/
def chars? (t : Text) : Option (List Char) :=
  t.toList.mapM CodePoint.char?

/-- The string that a text is, if it holds no halves. -/
def string? (t : Text) : Option String :=
  t.chars?.map String.ofList

/-! ## Small facts -/

@[simp]
theorem toList_append (a b : Text) : (a ++ b).toList = a.toList ++ b.toList :=
  rfl

theorem append_assoc (a b c : Text) : a ++ b ++ c = a ++ (b ++ c) :=
  congrArg ofList (List.append_assoc a.toList b.toList c.toList)

theorem append_empty (text : Text) : text ++ "" = text :=
  congrArg ofList (List.append_nil text.toList)

theorem intercalate_singleton (between text : Text) : Text.intercalate between [text] = text :=
  congrArg ofList List.intercalate_singleton

theorem intercalate_cons_cons (between first second : Text) (texts : List Text) :
    Text.intercalate between (first :: second :: texts) =
      first ++ between ++ Text.intercalate between (second :: texts) :=
  congrArg ofList List.intercalate_cons_cons

theorem intercalate_concat {between : Text} {texts : List Text} (h : texts ≠ []) (last : Text) :
    Text.intercalate between (texts ++ [last]) = Text.intercalate between texts ++ (between ++ last) := by
  have hlists {parts : List (List CodePoint)} (hparts : parts ≠ []) :
      between.toList.intercalate (parts ++ [last.toList]) =
        between.toList.intercalate parts ++ (between.toList ++ last.toList) := by
    induction parts with
    | nil => exact absurd rfl hparts
    | cons part rest ih =>
        cases rest with
        | nil => simp
        | cons other rest =>
            rw [List.cons_append, List.intercalate_cons_of_ne_nil (by simp), ih (by simp),
              List.intercalate_cons_cons]
            simp only [List.append_assoc]
  have hmap : texts.map toList ≠ [] := fun hnil => h (List.map_eq_nil_iff.mp hnil)
  refine congrArg ofList ?_
  rw [List.map_append]
  exact hlists hmap

@[simp]
theorem toList_ofChars (chars : List Char) : (ofChars chars).toList = chars.map .char :=
  rfl

@[simp]
theorem toList_ofString (s : String) : (ofString s).toList = s.toList.map .char :=
  rfl

@[simp]
theorem ofList_toList (t : Text) : ofList t.toList = t :=
  rfl

@[simp]
theorem chars?_ofChars (chars : List Char) : (ofChars chars).chars? = some chars := by
  unfold chars? ofChars
  induction chars with
  | nil => rfl
  | cons c rest ih =>
    rw [List.map_cons, List.mapM_cons, ih]
    rfl

/-- A string is found again in its text. -/
@[simp]
theorem string?_ofString (s : String) : (ofString s).string? = some s := by
  simp [string?, ofString]

end Text

end Conformance
