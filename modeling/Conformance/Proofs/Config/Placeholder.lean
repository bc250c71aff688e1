import Conformance.Config.Placeholder
import Mathlib.Data.List.Infix
import Mathlib.Data.List.TakeWhile

/-!
# Texts with placeholders

The environment has a say in a text only through whole placeholders.  A text is literals with placeholders between
them, and putting in variables keeps each literal and gives each placeholder its value.  A value is put in as it is:
neither what it holds nor how it meets its surroundings is looked at again.

Main results:

- `exists_written`: every text is made of literals and placeholders.
- `resolveText_written`: what becomes of a text that is made of literals and placeholders, and what is noted.
- `resolveText_of_plain`: a text without a placeholder is left alone, and nothing is noted about it.
- `get?_resolveEntries`: putting in variables keeps each value under its key.
-/

namespace Conformance.Config

open Text

variable {e : Environment}

/-! ## Placeholders -/

/-- A placeholder for the variable of a name. -/
def placeholder (name : List CodePoint) : List CodePoint :=
  .char '$' :: .char '{' :: (name ++ [.char '}'])

/-- A text without a whole placeholder in it. -/
def Plain (text : List CodePoint) : Prop :=
  ∀ name, name ≠ [] → (∀ c ∈ name, isWord c = true) → ¬placeholder name <:+: text

theorem Plain.of_suffix {text rest : List CodePoint} (h : Plain text) (hrest : rest <:+ text) : Plain rest :=
  fun name hne hword hpart => h name hne hword (hpart.trans hrest.isInfix)

/-- There is no placeholder without an opening brace. -/
theorem plain_of_not_mem {text : List CodePoint} (h : .char '{' ∉ text) : Plain text :=
  fun _ _ _ hpart => h (hpart.subset (List.mem_cons_of_mem _ List.mem_cons_self))

/-- What is found behind an opening brace is a word and a closing brace. -/
theorem eq_of_placeholderName? {text name rest : List CodePoint}
    (h : placeholderName? text = some (name, rest)) :
    name ≠ [] ∧ (∀ c ∈ name, isWord c = true) ∧ text = name ++ .char '}' :: rest := by
  unfold placeholderName? at h
  split at h
  next c word after hword hrest =>
    cases h
    refine ⟨List.cons_ne_nil c word, fun d hd => ?_, ?_⟩
    · rw [← hword] at hd
      exact List.mem_takeWhile_imp hd
    · rw [← hword, ← hrest, List.takeWhile_append_dropWhile]
  next => cases h

/-! ## The front of a text -/

/-- The name in the placeholder that a text begins with, and what follows the placeholder. -/
def placeholder? : List CodePoint → Option (List CodePoint × List CodePoint)
  | .char '$' :: .char '{' :: text => placeholderName? text
  | _ => none

/-- A placeholder that is found at the front of a text stands there. -/
theorem eq_of_placeholder? {text name rest : List CodePoint} (h : placeholder? text = some (name, rest)) :
    name ≠ [] ∧ (∀ c ∈ name, isWord c = true) ∧ text = placeholder name ++ rest := by
  unfold placeholder? at h
  split at h
  next behind =>
    obtain ⟨hne, hword, rfl⟩ := eq_of_placeholderName? h
    exact ⟨hne, hword, by simp [placeholder]⟩
  next => cases h

/-- A placeholder at the front of a text is found.  Its name ends where its closing brace stands. -/
theorem placeholder?_append {name : List CodePoint} (hne : name ≠ []) (hword : ∀ c ∈ name, isWord c = true)
    (rest : List CodePoint) : placeholder? (placeholder name ++ rest) = some (name, rest) := by
  have hbrace : isWord (.char '}') = false := by decide
  have htake : (name ++ .char '}' :: rest).takeWhile isWord = name := by
    rw [List.takeWhile_append_of_pos hword, List.takeWhile_cons_of_neg (by simp [hbrace]), List.append_nil]
  have hdrop : (name ++ .char '}' :: rest).dropWhile isWord = .char '}' :: rest := by
    rw [List.dropWhile_append_of_pos hword, List.dropWhile_cons_of_neg (by simp [hbrace])]
  have htext : placeholder name ++ rest = .char '$' :: .char '{' :: (name ++ .char '}' :: rest) := by
    simp [placeholder]
  rw [htext]
  unfold placeholder? placeholderName?
  obtain ⟨c, word, rfl⟩ := List.exists_cons_of_ne_nil hne
  simp only [htake, hdrop]

/-- A text is plain if no placeholder is found wherever one looks. -/
theorem plain_iff {text : List CodePoint} : Plain text ↔ ∀ rest ∈ text.tails, placeholder? rest = none := by
  constructor
  · intro h rest hrest
    cases hfound : placeholder? rest with
    | none => rfl
    | some found =>
        obtain ⟨hne, hword, rfl⟩ := eq_of_placeholder? hfound
        have hpart : placeholder found.1 <:+: text :=
          (List.prefix_append _ found.2).isInfix.trans ((List.mem_tails _ _).mp hrest).isInfix
        exact absurd hpart (h _ hne hword)
  · rintro h name hne hword ⟨front, behind, rfl⟩
    have hrest : placeholder name ++ behind ∈ (front ++ placeholder name ++ behind).tails := by
      rw [List.mem_tails, List.append_assoc]
      exact List.suffix_append _ _
    have hnone := h _ hrest
    rw [placeholder?_append hne hword] at hnone
    cases hnone

instance (text : List CodePoint) : Decidable (Plain text) :=
  decidable_of_iff _ plain_iff.symm

/-! ## One step -/

/-- A code point at which no placeholder begins is kept. -/
theorem resolveChars_cons {c : CodePoint} {text done : List CodePoint} {notes : List LogRecord}
    (h : placeholder? (c :: text) = none) :
    resolveChars e done notes (c :: text) = resolveChars e (c :: done) notes text := by
  by_cases hopens : ∃ rest, c = .char '$' ∧ text = .char '{' :: rest
  · -- Both characters of the opening are kept at once, which comes to the same.
    obtain ⟨rest, rfl, rfl⟩ := hopens
    have hname : placeholderName? rest = none := h
    have hbrace : resolveChars e (.char '$' :: done) notes (.char '{' :: rest) =
        resolveChars e (.char '{' :: .char '$' :: done) notes rest := by
      rw [resolveChars]
      simp
    rw [hbrace, resolveChars]
    split
    · rename_i hfound
      rw [hname] at hfound
      cases hfound
    · rfl
  · rw [resolveChars]
    intro rest hc htext
    exact hopens ⟨rest, hc, htext⟩

/-- The value of a variable, which is empty if the variable is not set. -/
def valueIn (e : Environment) (name : Text) : Text :=
  (e.get? name).getD ""

/-- What is noted about names of variables: a warning for each that is not set, in order. -/
def warnings (e : Environment) (names : List Text) : List LogRecord :=
  (names.filter fun name => (e.get? name).isNone).map unsetWarning

theorem warnings_cons (name : Text) (names : List Text) :
    warnings e (name :: names) = warnings e [name] ++ warnings e names := by
  rw [← List.singleton_append, warnings, List.filter_append, List.map_append]
  rfl

/-- A placeholder becomes the value of its variable, and what follows it is read next. -/
theorem resolveChars_placeholder {name : Text} (hne : name.toList ≠ [])
    (hword : ∀ c ∈ name.toList, isWord c = true) (done rest : List CodePoint) (notes : List LogRecord) :
    resolveChars e done notes (placeholder name.toList ++ rest) =
      resolveChars e ((valueIn e name).toList.reverse ++ done) ((warnings e [name]).reverse ++ notes) rest := by
  have hfound : placeholderName? (name.toList ++ .char '}' :: rest) = some (name.toList, rest) := by
    have hfront := placeholder?_append hne hword rest
    simpa [placeholder, placeholder?] using hfront
  have htext : placeholder name.toList ++ rest = .char '$' :: .char '{' :: (name.toList ++ .char '}' :: rest) := by
    simp [placeholder]
  rw [htext, resolveChars]
  split
  · rename_i found after hname
    rw [hfound] at hname
    cases hname
    rw [ofList_toList]
    cases hvalue : e.get? name with
    | none => simp [valueIn, warnings, hvalue, ofString, ofChars]
    | some value => simp [valueIn, warnings, hvalue]
  · rename_i hname
    rw [hfound] at hname
    cases hname

/-! ## Literals and placeholders -/

/-- No placeholder begins in a plain text and ends behind it: its name would hold a dollar sign. -/
theorem placeholder?_append_of_plain {text rest : List CodePoint} (h : Plain text) (hne : text ≠ [])
    (hrest : ∀ c ∈ rest.head?, c = .char '$') : placeholder? (text ++ rest) = none := by
  cases hfound : placeholder? (text ++ rest) with
  | none => rfl
  | some found =>
      obtain ⟨name, after⟩ := found
      obtain ⟨hname, hword, htext⟩ := eq_of_placeholder? hfound
      exfalso
      rcases List.append_eq_append_iff.mp htext with ⟨middle, hplaceholder, hmiddle⟩ | ⟨middle, rfl, -⟩
      · cases middle with
        | nil =>
            rw [List.append_nil] at hplaceholder
            exact h name hname hword (hplaceholder ▸ List.infix_rfl)
        | cons d middle =>
            have hdollar : d = .char '$' := hrest d (by simp [hmiddle])
            obtain ⟨c, text, rfl⟩ := List.exists_cons_of_ne_nil hne
            have hinside : .char '{' :: (name ++ [.char '}']) = text ++ d :: middle :=
              (List.cons.inj hplaceholder).2
            have hmem : .char '$' ∈ .char '{' :: (name ++ [.char '}']) := by
              rw [hinside, hdollar]
              simp
            have hin : .char '$' ∈ name := by simpa using hmem
            have hnot : isWord (.char '$') = false := by decide
            rw [hword _ hin] at hnot
            cases hnot
      · exact h name hname hword (List.prefix_append _ _).isInfix

/-- A plain text is kept, whatever placeholder follows it. -/
theorem resolveChars_append_of_plain {text rest : List CodePoint} (h : Plain text)
    (hrest : ∀ c ∈ rest.head?, c = .char '$') (done : List CodePoint) (notes : List LogRecord) :
    resolveChars e done notes (text ++ rest) = resolveChars e (text.reverse ++ done) notes rest := by
  induction text generalizing done with
  | nil => rfl
  | cons c text ih =>
      have hfront : placeholder? (c :: (text ++ rest)) = none :=
        placeholder?_append_of_plain h (List.cons_ne_nil c text) hrest
      have hbehind : Plain text := h.of_suffix (List.suffix_cons c text)
      rw [List.cons_append, resolveChars_cons hfront, ih hbehind]
      simp

/-- A placeholder, and the literal that stands between it and the next one. -/
structure Segment where
  name : Text
  literal : List CodePoint
  deriving Repr, DecidableEq

/-- The name of a segment is a word, and its literal has no placeholder. -/
structure Segment.IsValid (s : Segment) : Prop where
  ne_nil : s.name.toList ≠ []
  word : ∀ c ∈ s.name.toList, isWord c = true
  plain : Plain s.literal

instance (s : Segment) : Decidable s.IsValid :=
  decidable_of_iff (s.name.toList ≠ [] ∧ (∀ c ∈ s.name.toList, isWord c = true) ∧ Plain s.literal)
    ⟨fun ⟨hne, hword, hplain⟩ => ⟨hne, hword, hplain⟩, fun h => ⟨h.ne_nil, h.word, h.plain⟩⟩

/-- The text that is made of a literal and segments behind it. -/
def written (first : List CodePoint) (segments : List Segment) : List CodePoint :=
  first ++ segments.flatMap fun s => placeholder s.name.toList ++ s.literal

/-- The text with the values of the variables in the places of the placeholders. -/
def filled (e : Environment) (first : List CodePoint) (segments : List Segment) : List CodePoint :=
  first ++ segments.flatMap fun s => (valueIn e s.name).toList ++ s.literal

theorem written_cons (first : List CodePoint) (s : Segment) (segments : List Segment) :
    written first (s :: segments) = first ++ (placeholder s.name.toList ++ written s.literal segments) := by
  simp [written]

/-- Every text is made of literals and placeholders. -/
theorem exists_written (text : List CodePoint) :
    ∃ first segments, Plain first ∧ (∀ s ∈ segments, Segment.IsValid s) ∧ text = written first segments := by
  induction hlength : text.length using Nat.strong_induction_on generalizing text with
  | _ n ih =>
      subst hlength
      cases text with
      | nil => exact ⟨[], [], by decide, by simp, rfl⟩
      | cons c rest =>
          cases hfound : placeholder? (c :: rest) with
          | some found =>
              obtain ⟨name, after⟩ := found
              obtain ⟨hne, hword, htext⟩ := eq_of_placeholder? hfound
              have hshorter : after.length < (c :: rest).length := by
                rw [htext]
                simp only [placeholder, List.length_append, List.length_cons]
                omega
              obtain ⟨first, segments, hfirst, hsegments, rfl⟩ := ih _ hshorter after rfl
              refine ⟨[], ⟨.ofList name, first⟩ :: segments, by decide, ?_, ?_⟩
              · exact List.forall_mem_cons.mpr ⟨⟨hne, hword, hfirst⟩, hsegments⟩
              · rw [written_cons, htext, List.nil_append]
          | none =>
              obtain ⟨first, segments, hfirst, hsegments, rfl⟩ := ih _ (Nat.lt_succ_self _) rest rfl
              refine ⟨c :: first, segments, ?_, hsegments, rfl⟩
              -- A placeholder that begins with the code point would have been found.
              rintro name hne hword hpart
              rcases List.infix_cons_iff.mp hpart with ⟨behind, hprefix⟩ | hinside
              · have hfront : c :: written first segments = placeholder name ++
                    (behind ++ segments.flatMap fun s => placeholder s.name.toList ++ s.literal) := by
                  rw [← List.append_assoc, hprefix]
                  rfl
                rw [hfront, placeholder?_append hne hword] at hfound
                cases hfound
              · exact hfirst name hne hword hinside

/-- A text of literals and placeholders is filled behind what has been read. -/
theorem resolveChars_written {first : List CodePoint} {segments : List Segment} (hfirst : Plain first)
    (hsegments : ∀ s ∈ segments, s.IsValid) (done : List CodePoint) (notes : List LogRecord) :
    resolveChars e done notes (written first segments) =
      (done.reverse ++ filled e first segments, notes.reverse ++ warnings e (segments.map (·.name))) := by
  induction segments generalizing first done notes with
  | nil =>
      have hkept : resolveChars e done notes (first ++ []) = resolveChars e (first.reverse ++ done) notes [] :=
        resolveChars_append_of_plain hfirst (by simp) done notes
      simp only [written, filled, List.flatMap_nil, hkept, resolveChars]
      simp [warnings]
  | cons s segments ih =>
      obtain ⟨hs, hrest⟩ := List.forall_mem_cons.mp hsegments
      have hdollar : ∀ c ∈ (placeholder s.name.toList ++ written s.literal segments).head?, c = .char '$' := by
        simp [placeholder]
      rw [written_cons, resolveChars_append_of_plain hfirst hdollar,
        resolveChars_placeholder hs.ne_nil hs.word, ih hs.plain hrest, List.map_cons,
        warnings_cons s.name (segments.map (·.name))]
      simp [filled]

/-- A text of literals and placeholders is filled in one pass: each literal is kept, each placeholder becomes the value
of its variable, and each one whose variable is not set is noted. -/
theorem resolveText_written {first : List CodePoint} {segments : List Segment} (hfirst : Plain first)
    (hsegments : ∀ s ∈ segments, s.IsValid) :
    resolveText e (.ofList (written first segments)) =
      (.ofList (filled e first segments), warnings e (segments.map (·.name))) := by
  have hchars := resolveChars_written (e := e) hfirst hsegments [] []
  simp only [resolveText, hchars]
  rfl

/-- Pieces of placeholders around whole ones, and a value that looks like one. -/
theorem resolveText_written_pieces :
    Plain ("$\x7ba$" : Text).toList ∧
      (∀ s ∈ [Segment.mk "A" ("\x7d$" : Text).toList, ⟨"C", ("$\x7b" : Text).toList⟩, ⟨"C", []⟩], s.IsValid) ∧
      resolveText [("A", "$\x7bB\x7d"), ("B", "x")]
          "$\x7ba$$\x7bA\x7d\x7d$$\x7bC\x7d$\x7b$\x7bC\x7d" =
        (("$\x7ba$$\x7bB\x7d\x7d$$\x7b" : Text), [unsetWarning "C", unsetWarning "C"]) := by
  have hfirst : Plain ("$\x7ba$" : Text).toList := by decide
  have hsegments : ∀ s ∈ [Segment.mk "A" ("\x7d$" : Text).toList, ⟨"C", ("$\x7b" : Text).toList⟩, ⟨"C", []⟩],
      s.IsValid := by decide
  refine ⟨hfirst, hsegments, ?_⟩
  exact resolveText_written (e := [("A", "$\x7bB\x7d"), ("B", "x")]) hfirst hsegments

/-- A single placeholder becomes the value of its variable. -/
theorem resolveText_placeholder (name : Text) (hne : name.toList ≠ [])
    (hword : ∀ c ∈ name.toList, isWord c = true) :
    resolveText e (.ofList (placeholder name.toList)) = (valueIn e name, warnings e [name]) := by
  have hchars := resolveChars_placeholder (e := e) hne hword [] [] []
  rw [List.append_nil] at hchars
  simp [resolveText, hchars, resolveChars]

/-- A text without a placeholder is left alone, and nothing is noted about it. -/
theorem resolveText_of_plain {text : Text} (h : Plain text.toList) : resolveText e text = (text, []) := by
  have hchars : resolveChars e [] [] (written text.toList []) = (filled e text.toList [], []) :=
    resolveChars_written h (List.forall_mem_nil _) [] []
  have hwritten : written text.toList [] = text.toList := List.append_nil _
  have hfilled : filled e text.toList [] = text.toList := List.append_nil _
  rw [hwritten, hfilled] at hchars
  rw [resolveText, hchars]

/-! ## Documents -/

theorem resolve_text {text : Text} (h : Plain text.toList) : (resolve e (.text text)).1 = .text text := by
  rw [resolve, resolveText_of_plain h]

theorem resolve_texts {items : List Text} (h : ∀ text ∈ items, Plain text.toList) :
    (resolve e (.texts items)).1 = .texts items := by
  have hitem : ∀ text ∈ items, (resolveItem e (.text text)).1 = .text text := fun text htext => by
    rw [resolveItem, resolveText_of_plain (h text htext)]
  rw [Document.texts, resolve, List.map_map, List.map_map]
  exact congrArg Document.list (List.map_congr_left hitem)

theorem resolve_int (n : Int) : (resolve e (.int n)).1 = .int n :=
  rfl

theorem resolve_float (x : Float) : (resolve e (.float x)).1 = .float x :=
  rfl

theorem resolve_bool (b : Bool) : (resolve e (.bool b)).1 = .bool b :=
  rfl

theorem resolve_map (entries : List (Document × Document)) :
    (resolve e (.map entries)).1 = .map (resolveEntries e entries).1 :=
  rfl

/-- Each value of a mapping is resolved under its key. -/
theorem get?_resolveEntries (entries : List (Document × Document)) (name : Text) :
    (Document.map (resolveEntries e entries).1).get? name =
      ((Document.map entries).get? name).map fun value => (resolve e value).1 := by
  induction entries with
  | nil => simp [resolveEntries, Document.get?, Document.lookupBy]
  | cons entry rest ih =>
      obtain ⟨key, value⟩ := entry
      simp only [resolveEntries, Document.get?, Document.lookupBy] at ih ⊢
      by_cases hkey : Document.isText name key = true
      · simp only [hkey, if_true, Option.map_some]
      · simp only [hkey, Bool.false_eq_true, if_false, ih]

end Conformance.Config
