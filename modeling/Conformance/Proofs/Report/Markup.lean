import Conformance.Report.Markup

/-!
# Texts with tags

A tag stands between brackets and has no bracket inside.  A text without tags stands for itself in markup, and a text
with a tag does not: it grows when its tags are escaped, and a reader sees less of it.  What is escaped is seen as it
is.

Main results:

- `Markup.tag?_eq_some_iff`: what is read as a tag.
- `Markup.escape_eq_self_iff`: a text that does not end in a backslash is its own escape exactly if it has no tag.
- `Markup.visible_eq_self_iff`: a text is seen as it is exactly if it has no tag.
- `Markup.visible_escape`: an escaped text is seen as it is.
- `Markup.visible_styled`: the tags of a style are not seen.
- `Markup.Frames.hasTag_iff`: a tag in a frame without brackets stands in what is framed.
-/

namespace Conformance.Markup

variable {c d : CodePoint} {text tag rest done before behind : List CodePoint} {slashes : Nat}

/-! ## Tags -/

/-- Neither of the two brackets. -/
def Plain (c : CodePoint) : Prop :=
  c ≠ .char '[' ∧ c ≠ .char ']'

/-- A tag: between brackets, a character that can begin a tag, and no other brackets. -/
def IsTag (tag : List CodePoint) : Prop :=
  ∃ c inner, tag = .char '[' :: c :: (inner ++ [.char ']']) ∧ beginsTag c = true ∧ ∀ d ∈ inner, Plain d

/-- There is a tag among some code points. -/
def Tagged (text : List CodePoint) : Prop :=
  ∃ tag, IsTag tag ∧ tag <:+: text

/-- A text has a tag. -/
def HasTag (t : Text) : Prop :=
  Tagged t.toList

theorem ne_of_beginsTag (h : beginsTag c = true) : Plain c := by
  constructor
  · rintro rfl
    exact absurd h (by decide)
  · rintro rfl
    exact absurd h (by decide)

/-- A tag has its opening bracket in front, its closing bracket at the end, and none between. -/
theorem IsTag.exists_tail (h : IsTag tag) :
    ∃ tail, tag = .char '[' :: tail ∧ .char '[' ∉ tail ∧ tail.getLast? = some (.char ']') := by
  obtain ⟨c, inner, rfl, hbegins, hinner⟩ := h
  refine ⟨c :: (inner ++ [.char ']']), rfl, ?_, by rw [← List.cons_append, List.getLast?_concat]⟩
  intro hmem
  simp only [List.mem_cons, List.mem_append] at hmem
  rcases hmem with hc | hmem | hclose | hnil
  · exact (ne_of_beginsTag hbegins).1 hc.symm
  · exact (hinner _ hmem).1 rfl
  · exact absurd hclose (by decide)
  · cases hnil

theorem IsTag.ne_nil (h : IsTag tag) : tag ≠ [] := by
  obtain ⟨tail, rfl, -⟩ := h.exists_tail
  simp

theorem IsTag.open_mem (h : IsTag tag) : .char '[' ∈ tag := by
  obtain ⟨tail, rfl, -⟩ := h.exists_tail
  exact List.mem_cons_self

theorem IsTag.getLast?_eq (h : IsTag tag) : tag.getLast? = some (.char ']') := by
  obtain ⟨tail, rfl, -, hlast⟩ := h.exists_tail
  rw [List.getLast?_cons, hlast, Option.getD_some]

theorem not_tagged_nil : ¬Tagged [] := by
  rintro ⟨tag, htag, hpart⟩
  exact htag.ne_nil (List.infix_nil.mp hpart)

theorem Tagged.mono (h : Tagged text) (hpart : text <:+: rest) : Tagged rest := by
  obtain ⟨tag, htag, hinside⟩ := h
  exact ⟨tag, htag, hinside.trans hpart⟩

theorem HasTag.open_mem {t : Text} (h : HasTag t) : .char '[' ∈ t.toList := by
  obtain ⟨tag, htag, hpart⟩ := h
  exact hpart.subset htag.open_mem

/-! ## Reading tags -/

theorem tagEnd?_cons (hc : Plain c) : tagEnd? done (c :: text) = tagEnd? (c :: done) text := by
  obtain ⟨hopen, hclose⟩ := hc
  rw [tagEnd?.eq_def]
  split
  all_goals simp_all

/-- The inside of a tag ends at the first closing bracket. -/
theorem tagEnd?_append {inner : List CodePoint} (h : ∀ d ∈ inner, Plain d) :
    tagEnd? done (inner ++ .char ']' :: rest) = some (done.reverse ++ inner ++ [.char ']'], rest) := by
  induction inner generalizing done with
  | nil => simp [tagEnd?]
  | cons c inner ih =>
      obtain ⟨hc, hinner⟩ := List.forall_mem_cons.mp h
      rw [List.cons_append, tagEnd?_cons hc, ih hinner]
      simp

theorem exists_of_tagEnd? (h : tagEnd? done text = some (tag, rest)) :
    ∃ inner, (∀ d ∈ inner, Plain d) ∧ text = inner ++ .char ']' :: rest ∧
      tag = done.reverse ++ inner ++ [.char ']'] := by
  induction text generalizing done with
  | nil => cases h
  | cons c text ih =>
      by_cases hclose : c = .char ']'
      · subst hclose
        cases h
        exact ⟨[], nofun, rfl, by simp⟩
      · by_cases hopen : c = .char '['
        · subst hopen
          cases h
        · have hc : Plain c := ⟨hopen, hclose⟩
          rw [tagEnd?_cons hc] at h
          obtain ⟨inner, hinner, rfl, rfl⟩ := ih h
          exact ⟨c :: inner, List.forall_mem_cons.mpr ⟨hc, hinner⟩, rfl, by simp⟩

/-- What is read as a tag. -/
theorem tag?_eq_some_iff : tag? text = some (tag, rest) ↔ IsTag tag ∧ text = tag ++ rest := by
  constructor
  · intro h
    unfold tag? at h
    split at h
    · rename_i c more
      split at h
      · rename_i hbegins
        obtain ⟨inner, hinner, rfl, rfl⟩ := exists_of_tagEnd? h
        exact ⟨⟨c, inner, rfl, hbegins, hinner⟩, by simp⟩
      · cases h
    · cases h
  · rintro ⟨⟨c, inner, rfl, hbegins, hinner⟩, rfl⟩
    have hinside : c :: (inner ++ [.char ']']) ++ rest = c :: (inner ++ .char ']' :: rest) := by simp
    rw [List.cons_append, hinside, tag?, if_pos hbegins, tagEnd?_append hinner]
    rfl

theorem tag?_eq_none_iff : tag? text = none ↔ ∀ tag, IsTag tag → ¬tag <+: text := by
  constructor
  · rintro hnone tag htag ⟨rest, hsplit⟩
    rw [tag?_eq_some_iff.mpr ⟨htag, hsplit.symm⟩] at hnone
    cases hnone
  · intro h
    cases hread : tag? text with
    | none => rfl
    | some found =>
        obtain ⟨htag, hsplit⟩ := tag?_eq_some_iff.mp hread
        exact absurd ⟨found.2, hsplit.symm⟩ (h found.1 htag)

/-- A tag begins with its bracket. -/
theorem tag?_cons_of_ne (hc : c ≠ .char '[') : tag? (c :: text) = none := by
  refine tag?_eq_none_iff.mpr fun tag htag hprefix => hc ?_
  obtain ⟨tail, rfl, -⟩ := htag.exists_tail
  exact (List.cons_prefix_cons.mp hprefix).1.symm

/-- What is read as a tag at the start of a text is a tag of the text. -/
theorem tagged_of_tag? (h : tag? text = some (tag, rest)) : Tagged text := by
  obtain ⟨htag, rfl⟩ := tag?_eq_some_iff.mp h
  exact ⟨tag, htag, (List.prefix_append tag rest).isInfix⟩

/-- A tag that is not read at the start of a text stands behind its first code point. -/
theorem tagged_cons_iff (h : tag? (c :: text) = none) : Tagged (c :: text) ↔ Tagged text := by
  refine ⟨?_, fun htagged => htagged.mono (List.suffix_cons c text).isInfix⟩
  rintro ⟨tag, htag, hpart⟩
  rcases List.infix_cons_iff.mp hpart with hprefix | hpart
  · exact absurd hprefix (tag?_eq_none_iff.mp h tag htag)
  · exact ⟨tag, htag, hpart⟩

/-- What comes before the first opening bracket does not depend on what stands there. -/
theorem prefix_of_open_not_mem (hopen : .char '[' ∉ before) (h : before <+: text ++ .char '[' :: rest) :
    before <+: text := by
  rcases List.prefix_or_prefix_of_prefix h (List.prefix_append text _) with hshort | ⟨more, rfl⟩
  · exact hshort
  · cases more with
    | nil => simp
    | cons c more =>
        rw [List.prefix_append_right_inj, List.cons_prefix_cons] at h
        exact absurd (by simp [h.1]) hopen

/-- A text that is no tag is not made one by an opening bracket behind it. -/
theorem tag?_append_of_none (h : tag? (c :: text) = none) : tag? (c :: (text ++ .char '[' :: rest)) = none := by
  refine tag?_eq_none_iff.mpr fun tag htag hprefix => tag?_eq_none_iff.mp h tag htag ?_
  obtain ⟨tail, rfl, hopen, -⟩ := htag.exists_tail
  obtain ⟨hc, htail⟩ := List.cons_prefix_cons.mp hprefix
  exact List.cons_prefix_cons.mpr ⟨hc, prefix_of_open_not_mem hopen htail⟩

/-! ## Escapes -/

theorem escapeFrom_cons_of_none (h : tag? (c :: text) = none) (done : List CodePoint) (slashes : Nat) :
    escapeFrom done slashes (c :: text) =
      if c = .char '\\' then escapeFrom done (slashes + 1) text
      else escapeFrom (c :: (List.replicate slashes (.char '\\') ++ done)) 0 text := by
  rw [escapeFrom]
  split
  · rename_i hread
    rw [h] at hread
    cases hread
  · rfl

theorem escapeFrom_cons_of_some (h : tag? (c :: text) = some (tag, rest)) (done : List CodePoint) (slashes : Nat) :
    escapeFrom done slashes (c :: text) =
      escapeFrom (tag.reverse ++ List.replicate (2 * slashes + 1) (.char '\\') ++ done) 0 rest := by
  rw [escapeFrom]
  split
  · rename_i hread
    rw [h] at hread
    cases hread
    rfl
  · rename_i hread
    rw [h] at hread
    cases hread

/-- What has been written is not looked at again. -/
theorem escapeFrom_eq_append (done : List CodePoint) (slashes : Nat) (text : List CodePoint) :
    escapeFrom done slashes text = done.reverse ++ escapeFrom [] slashes text := by
  induction slashes, text using visibleFrom.induct generalizing done with
  | case1 slashes => simp [escapeFrom]
  | case2 slashes c text tag rest hread _ ih =>
      rw [escapeFrom_cons_of_some hread, escapeFrom_cons_of_some hread, ih, ih (_ ++ [])]
      simp
  | case3 slashes text hread ih =>
      rw [escapeFrom_cons_of_none hread, escapeFrom_cons_of_none hread, if_pos rfl, if_pos rfl, ih]
  | case4 slashes c text hread hc ih =>
      rw [escapeFrom_cons_of_none hread, escapeFrom_cons_of_none hread, if_neg hc, if_neg hc, ih, ih (c :: (_ ++ []))]
      simp

theorem escapeFrom_nil (slashes : Nat) : escapeFrom [] slashes [] = List.replicate slashes (.char '\\') := by
  simp [escapeFrom]

theorem escapeFrom_tag (h : tag? (c :: text) = some (tag, rest)) (slashes : Nat) :
    escapeFrom [] slashes (c :: text) =
      List.replicate (2 * slashes + 1) (.char '\\') ++ (tag ++ escapeFrom [] 0 rest) := by
  rw [escapeFrom_cons_of_some h, escapeFrom_eq_append]
  simp

theorem escapeFrom_slash (slashes : Nat) (text : List CodePoint) :
    escapeFrom [] slashes (.char '\\' :: text) = escapeFrom [] (slashes + 1) text := by
  rw [escapeFrom_cons_of_none (tag?_cons_of_ne (by decide)), if_pos rfl]

theorem escapeFrom_plain (h : tag? (c :: text) = none) (hc : c ≠ .char '\\') (slashes : Nat) :
    escapeFrom [] slashes (c :: text) = List.replicate slashes (.char '\\') ++ c :: escapeFrom [] 0 text := by
  rw [escapeFrom_cons_of_none h, if_neg hc, escapeFrom_eq_append]
  simp

/-- A text without tags is not changed. -/
theorem escapeFrom_of_not_tagged (h : ¬Tagged text) :
    escapeFrom [] slashes text = List.replicate slashes (.char '\\') ++ text := by
  induction slashes, text using visibleFrom.induct with
  | case1 slashes => simp [escapeFrom_nil]
  | case2 slashes c text tag rest hread _ ih => exact absurd (tagged_of_tag? hread) h
  | case3 slashes text hread ih =>
      rw [escapeFrom_slash, ih fun hrest => h ((tagged_cons_iff hread).mpr hrest), List.replicate_succ']
      simp
  | case4 slashes c text hread hc ih =>
      rw [escapeFrom_plain hread hc, ih fun hrest => h ((tagged_cons_iff hread).mpr hrest)]
      simp

/-- Nothing of a text is lost when its tags are escaped. -/
theorem length_le_escapeFrom (slashes : Nat) (text : List CodePoint) :
    slashes + text.length ≤ (escapeFrom [] slashes text).length := by
  induction slashes, text using visibleFrom.induct with
  | case1 slashes => simp [escapeFrom_nil]
  | case2 slashes c text tag rest hread _ ih =>
      rw [escapeFrom_tag hread, (tag?_eq_some_iff.mp hread).2]
      simp only [List.length_append, List.length_replicate]
      omega
  | case3 slashes text hread ih =>
      rw [escapeFrom_slash, List.length_cons]
      omega
  | case4 slashes c text hread hc ih =>
      rw [escapeFrom_plain hread hc]
      simp only [List.length_append, List.length_replicate, List.length_cons]
      omega

/-- A text with a tag grows when its tags are escaped. -/
theorem length_lt_escapeFrom (h : Tagged text) (slashes : Nat) :
    slashes + text.length < (escapeFrom [] slashes text).length := by
  induction slashes, text using visibleFrom.induct with
  | case1 slashes => exact absurd h not_tagged_nil
  | case2 slashes c text tag rest hread _ ih =>
      -- One backslash more stands in front of the first tag, whatever becomes of those behind it.
      have hrest := length_le_escapeFrom 0 rest
      rw [escapeFrom_tag hread, (tag?_eq_some_iff.mp hread).2]
      simp only [List.length_append, List.length_replicate]
      omega
  | case3 slashes text hread ih =>
      have hrest := ih ((tagged_cons_iff hread).mp h)
      rw [escapeFrom_slash, List.length_cons]
      omega
  | case4 slashes c text hread hc ih =>
      have hrest := ih ((tagged_cons_iff hread).mp h)
      rw [escapeFrom_plain hread hc]
      simp only [List.length_append, List.length_replicate, List.length_cons]
      omega

/-- A text ends as before when its tags are escaped. -/
theorem getLast?_escapeFrom (slashes : Nat) (text : List CodePoint) :
    (escapeFrom [] slashes text).getLast? = (List.replicate slashes (CodePoint.char '\\') ++ text).getLast? := by
  induction slashes, text using visibleFrom.induct with
  | case1 slashes => simp [escapeFrom_nil]
  | case2 slashes c text tag rest hread _ ih =>
      obtain ⟨htag, hsplit⟩ := tag?_eq_some_iff.mp hread
      rw [escapeFrom_tag hread, hsplit]
      simp [List.getLast?_append, ih, htag.getLast?_eq]
  | case3 slashes text hread ih =>
      rw [escapeFrom_slash, ih, List.replicate_succ']
      simp
  | case4 slashes c text hread hc ih =>
      rw [escapeFrom_plain hread hc]
      simp [List.getLast?_append, List.getLast?_cons, ih]

/-- Nothing is added to a text that does not end in a backslash. -/
theorem closeEnd_eq_self (h : text.getLast? ≠ some (.char '\\')) : closeEnd text = text := by
  rw [List.getLast?_eq_head?_reverse] at h
  unfold closeEnd
  split
  · rfl
  · rename_i hreverse
    rw [hreverse] at h
    exact absurd rfl h
  · rfl

section Escape

variable {t : Text} (hend : t.toList.getLast? ≠ some (.char '\\'))

include hend

theorem toList_escape : (escape t).toList = escapeFrom [] 0 t.toList := by
  have hlast : (escapeFrom [] 0 t.toList).getLast? ≠ some (.char '\\') := by
    rw [getLast?_escapeFrom]
    exact hend
  exact closeEnd_eq_self hlast

/-- A text that does not end in a backslash is its own escape exactly if it has no tag. -/
theorem escape_eq_self_iff : escape t = t ↔ ¬HasTag t := by
  constructor
  · intro heq htag
    have hlonger := length_lt_escapeFrom htag 0
    rw [← toList_escape hend, heq] at hlonger
    omega
  · intro htag
    refine congrArg Text.ofList ((toList_escape hend).trans ?_)
    exact escapeFrom_of_not_tagged htag

end Escape

/-! ## What is seen -/

theorem visibleFrom_nil (slashes : Nat) : visibleFrom slashes [] = List.replicate slashes (.char '\\') := by
  rw [visibleFrom]

theorem visibleFrom_tag (h : tag? (c :: text) = some (tag, rest)) (slashes : Nat) :
    visibleFrom slashes (c :: text) =
      List.replicate (slashes / 2) (.char '\\') ++ (if slashes % 2 = 1 then tag else []) ++ visibleFrom 0 rest := by
  rw [visibleFrom]
  split
  · rename_i hread
    rw [h] at hread
    cases hread
    rfl
  · rename_i hread
    rw [h] at hread
    cases hread

theorem visibleFrom_tag_append (h : IsTag tag) (slashes : Nat) (rest : List CodePoint) :
    visibleFrom slashes (tag ++ rest) =
      List.replicate (slashes / 2) (.char '\\') ++ (if slashes % 2 = 1 then tag else []) ++ visibleFrom 0 rest := by
  obtain ⟨tail, rfl, -⟩ := id h.exists_tail
  exact visibleFrom_tag (tag?_eq_some_iff.mpr ⟨h, rfl⟩) slashes

theorem visibleFrom_slash (slashes : Nat) (text : List CodePoint) :
    visibleFrom slashes (.char '\\' :: text) = visibleFrom (slashes + 1) text := by
  rw [visibleFrom]
  split
  · rename_i hread
    rw [tag?_cons_of_ne (by decide)] at hread
    cases hread
  · rfl

theorem visibleFrom_plain (h : tag? (c :: text) = none) (hc : c ≠ .char '\\') (slashes : Nat) :
    visibleFrom slashes (c :: text) = List.replicate slashes (.char '\\') ++ c :: visibleFrom 0 text := by
  rw [visibleFrom]
  split
  · rename_i hread
    rw [h] at hread
    cases hread
  · rw [if_neg hc]

theorem visibleFrom_replicate_append (slashes more : Nat) (text : List CodePoint) :
    visibleFrom slashes (List.replicate more (.char '\\') ++ text) = visibleFrom (slashes + more) text := by
  induction more generalizing slashes with
  | zero => rfl
  | succ more ih =>
      rw [List.replicate_succ, List.cons_append, visibleFrom_slash, ih, Nat.add_assoc, Nat.add_comm 1]

/-- Of a text with a tag less is seen. -/
theorem length_visibleFrom (slashes : Nat) (text : List CodePoint) :
    (visibleFrom slashes text).length ≤ slashes + text.length ∧
      (Tagged text → (visibleFrom slashes text).length < slashes + text.length) := by
  induction slashes, text using visibleFrom.induct with
  | case1 slashes => exact ⟨by simp [visibleFrom_nil], fun h => absurd h not_tagged_nil⟩
  | case2 slashes c text tag rest hread _ ih =>
      obtain ⟨htag, hsplit⟩ := tag?_eq_some_iff.mp hread
      have htaglength := List.length_pos_iff.mpr htag.ne_nil
      have hless : (visibleFrom slashes (c :: text)).length < slashes + (c :: text).length := by
        rw [visibleFrom_tag hread, hsplit]
        simp only [List.length_append, List.length_replicate]
        split
        · omega
        · simp only [List.length_nil]
          omega
      exact ⟨Nat.le_of_lt hless, fun _ => hless⟩
  | case3 slashes text hread ih =>
      rw [visibleFrom_slash, tagged_cons_iff hread, List.length_cons, Nat.add_comm text.length, ← Nat.add_assoc]
      exact ih
  | case4 slashes c text hread hc ih =>
      rw [visibleFrom_plain hread hc, tagged_cons_iff hread]
      simp only [List.length_append, List.length_replicate, List.length_cons]
      exact ⟨by omega, fun htagged => by have := ih.2 htagged; omega⟩

theorem not_prefix_replicate (hlast : before.getLast? = some (.char ']')) (n : Nat) :
    ¬before <+: List.replicate n (.char '\\') := by
  intro hprefix
  have hmem : .char ']' ∈ List.replicate n (CodePoint.char '\\') := hprefix.subset (List.mem_of_getLast? hlast)
  exact absurd (List.eq_of_mem_replicate hmem) (by decide)

/-- Escaping adds only backslashes, so what ends in a closing bracket and has no opening one stood there before. -/
theorem prefix_of_prefix_escapeFrom (hopen : .char '[' ∉ before) (hlast : before.getLast? = some (.char ']'))
    (h : before <+: escapeFrom [] slashes text) : before <+: List.replicate slashes (.char '\\') ++ text := by
  induction slashes, text using visibleFrom.induct generalizing before with
  | case1 slashes => exact absurd (escapeFrom_nil slashes ▸ h) (not_prefix_replicate hlast slashes)
  | case2 slashes c text tag rest hread _ ih =>
      obtain ⟨tail, rfl, -⟩ := (tag?_eq_some_iff.mp hread).1.exists_tail
      rw [escapeFrom_tag hread] at h
      exact absurd (prefix_of_open_not_mem hopen h) (not_prefix_replicate hlast _)
  | case3 slashes text hread ih =>
      rw [escapeFrom_slash] at h
      simpa [List.replicate_succ'] using ih hopen hlast h
  | case4 slashes c text hread hc ih =>
      rw [escapeFrom_plain hread hc] at h
      rcases List.prefix_or_prefix_of_prefix h (List.prefix_append _ _) with hshort | ⟨more, rfl⟩
      · exact absurd hshort (not_prefix_replicate hlast slashes)
      · rw [List.prefix_append_right_inj] at h ⊢
        rcases List.prefix_cons_iff.mp h with rfl | ⟨tail, rfl, htail⟩
        · exact List.nil_prefix
        · refine List.cons_prefix_cons.mpr ⟨rfl, ?_⟩
          by_cases hnil : tail = []
          · rw [hnil]
            exact List.nil_prefix
          · refine ih (fun hmem => hopen (by simp [hmem])) ?_ htail
            simpa [List.getLast?_append, List.getLast?_cons, List.getLast?_eq_some_getLast hnil] using hlast

/-- What is no tag is not made one by escaping what stands behind it. -/
theorem tag?_cons_escapeFrom (h : tag? (c :: text) = none) : tag? (c :: escapeFrom [] 0 text) = none := by
  refine tag?_eq_none_iff.mpr fun tag htag hprefix => tag?_eq_none_iff.mp h tag htag ?_
  obtain ⟨tail, rfl, hopen, hlast⟩ := htag.exists_tail
  obtain ⟨hc, htail⟩ := List.cons_prefix_cons.mp hprefix
  exact List.cons_prefix_cons.mpr ⟨hc, prefix_of_prefix_escapeFrom hopen hlast htail⟩

theorem visibleFrom_escapeFrom (slashes : Nat) (text : List CodePoint) :
    visibleFrom 0 (escapeFrom [] slashes text) = List.replicate slashes (.char '\\') ++ text := by
  induction slashes, text using visibleFrom.induct with
  | case1 slashes =>
      rw [escapeFrom_nil, ← List.append_nil (List.replicate _ _), visibleFrom_replicate_append, visibleFrom_nil]
      simp
  | case2 slashes c text tag rest hread _ ih =>
      obtain ⟨htag, hsplit⟩ := tag?_eq_some_iff.mp hread
      have hhalf : (0 + (2 * slashes + 1)) / 2 = slashes := by omega
      have hodd : (0 + (2 * slashes + 1)) % 2 = 1 := by omega
      rw [escapeFrom_tag hread, visibleFrom_replicate_append, visibleFrom_tag_append htag, hhalf, if_pos hodd, ih,
        hsplit]
      simp
  | case3 slashes text hread ih =>
      rw [escapeFrom_slash, ih, List.replicate_succ']
      simp
  | case4 slashes c text hread hc ih =>
      rw [escapeFrom_plain hread hc, visibleFrom_replicate_append, visibleFrom_plain (tag?_cons_escapeFrom hread) hc, ih]
      simp

/-- An escaped text is seen as it is. -/
theorem visible_escape {t : Text} (hend : t.toList.getLast? ≠ some (.char '\\')) : visible (escape t) = t := by
  unfold visible
  rw [toList_escape hend, visibleFrom_escapeFrom]
  rfl

/-- A text is seen as it is exactly if it has no tag. -/
theorem visible_eq_self_iff {t : Text} : visible t = t ↔ ¬HasTag t := by
  constructor
  · intro heq htag
    have hless := (length_visibleFrom 0 t.toList).2 htag
    have hlist : visibleFrom 0 t.toList = t.toList := congrArg Text.toList heq
    rw [hlist] at hless
    omega
  · intro htag
    have hsame : escapeFrom [] 0 t.toList = t.toList := escapeFrom_of_not_tagged htag
    have hseen := visibleFrom_escapeFrom 0 t.toList
    rw [hsame] at hseen
    exact congrArg Text.ofList hseen

theorem getLast?_ne_of_append {c : CodePoint} (h : (before ++ text).getLast? ≠ some c) : text.getLast? ≠ some c := by
  intro hlast
  rw [List.getLast?_append, hlast] at h
  exact h rfl

/-- Markup that ends in no backslash is seen as without the tag behind it. -/
theorem visibleFrom_append (hend : text.getLast? ≠ some (.char '\\')) (hslashes : text = [] → slashes = 0)
    (rest : List CodePoint) : visibleFrom slashes (text ++ .char '[' :: rest) =
      visibleFrom slashes text ++ visibleFrom 0 (.char '[' :: rest) := by
  induction slashes, text using visibleFrom.induct with
  | case1 slashes =>
      rw [hslashes rfl, visibleFrom_nil]
      rfl
  | case2 slashes c text tag more hread _ ih =>
      obtain ⟨htag, hsplit⟩ := tag?_eq_some_iff.mp hread
      rw [hsplit] at hend
      rw [hsplit, List.append_assoc, visibleFrom_tag_append htag, visibleFrom_tag_append htag,
        ih (getLast?_ne_of_append hend) fun _ => rfl, ← List.append_assoc]
  | case3 slashes text hread ih =>
      have hne : text ≠ [] := fun hnil => hend (by rw [hnil]; rfl)
      rw [List.cons_append, visibleFrom_slash, visibleFrom_slash]
      exact ih (getLast?_ne_of_append (show ([CodePoint.char '\\'] ++ text).getLast? ≠ _ from hend))
        fun hnil => absurd hnil hne
  | case4 slashes c text hread hc ih =>
      rw [List.cons_append, visibleFrom_plain (tag?_append_of_none hread) hc, visibleFrom_plain hread hc,
        ih (getLast?_ne_of_append (show ([c] ++ text).getLast? ≠ _ from hend)) fun _ => rfl]
      simp

/-- The tags of a style are not seen. -/
theorem visible_styled {style t : Text} (hopen : IsTag ("[" ++ style ++ "]" : Text).toList)
    (hclose : IsTag ("[/" ++ style ++ "]" : Text).toList) (hend : t.toList.getLast? ≠ some (.char '\\')) :
    visible (styled style t) = visible t := by
  have hsplit : (styled style t).toList =
      ("[" ++ style ++ "]" : Text).toList ++ (t.toList ++ ("[/" ++ style ++ "]" : Text).toList) := by
    simp [styled]
  obtain ⟨tail, htail, -⟩ := id hclose.exists_tail
  have hafter : visibleFrom 0 (.char '[' :: tail) = [] := by
    rw [← htail, ← List.append_nil (Text.toList _), visibleFrom_tag_append hclose, visibleFrom_nil]
    rfl
  unfold visible
  rw [hsplit, visibleFrom_tag_append hopen, htail, visibleFrom_append hend fun _ => rfl, hafter]
  simp

/-- A text between the tags of a style is seen as it is exactly if it has no tag. -/
theorem visible_styled_eq_self_iff {style t : Text} (hopen : IsTag ("[" ++ style ++ "]" : Text).toList)
    (hclose : IsTag ("[/" ++ style ++ "]" : Text).toList) (hend : t.toList.getLast? ≠ some (.char '\\')) :
    visible (styled style t) = t ↔ ¬HasTag t := by
  rw [visible_styled hopen hclose hend, visible_eq_self_iff]

/-- An escaped text between the tags of a style is seen as it is. -/
theorem visible_styled_escape {style t : Text} (hopen : IsTag ("[" ++ style ++ "]" : Text).toList)
    (hclose : IsTag ("[/" ++ style ++ "]" : Text).toList) (hend : t.toList.getLast? ≠ some (.char '\\')) :
    visible (styled style (escape t)) = t := by
  have hend' : (escape t).toList.getLast? ≠ some (.char '\\') := by
    rw [toList_escape hend, getLast?_escapeFrom]
    exact hend
  rw [visible_styled hopen hclose hend', visible_escape hend]

/-! ## Frames -/

/-- A text stands in a frame that adds no tag to it and does not end in a backslash. -/
def Frames (whole inside : Text) : Prop :=
  ∃ front back c, whole = front ++ inside ++ back ∧ .char '[' ∉ front.toList ∧ .char ']' ∉ back.toList ∧
    back.toList.getLast? = some c ∧ c ≠ .char '\\'

/-- A tag that is not in what stands in front of it stands behind it. -/
theorem tagged_of_tagged_append (hopen : .char '[' ∉ before) (h : Tagged (before ++ text)) : Tagged text := by
  induction before with
  | nil => exact h
  | cons c before ih =>
      have hc : c ≠ .char '[' := fun hc => hopen (by simp [hc])
      exact ih (fun hmem => hopen (List.mem_cons_of_mem c hmem)) ((tagged_cons_iff (tag?_cons_of_ne hc)).mp h)

/-- A tag that does not end in what stands behind it stands in front of it. -/
theorem tagged_of_append_tagged (hclose : .char ']' ∉ behind) (h : Tagged (text ++ behind)) : Tagged text := by
  obtain ⟨tag, htag, first, last, hsplit⟩ := h
  rcases List.append_eq_append_iff.mp hsplit with ⟨between, htext, -⟩ | ⟨between, hend, hbehind⟩
  · exact ⟨tag, htag, first, between, htext.symm⟩
  · -- A tag that reaches into what stands behind ends there, with its closing bracket.
    rcases List.eq_nil_or_concat between with rfl | ⟨start, d, rfl⟩
    · exact ⟨tag, htag, first, [], by simpa using hend⟩
    · have hlast := congrArg List.getLast? hend
      simp only [List.concat_eq_append, List.getLast?_append, htag.getLast?_eq, Option.some_or,
        List.getLast?_singleton, Option.some.injEq] at hlast
      subst hlast
      exact absurd (by simp [hbehind]) hclose

namespace Frames

variable {whole inside : Text} (h : Frames whole inside)

include h

/-- A tag in a frame stands in what is framed. -/
theorem hasTag_iff : HasTag whole ↔ HasTag inside := by
  obtain ⟨front, back, c, rfl, hfront, hback, -⟩ := h
  constructor
  · intro htagged
    exact tagged_of_tagged_append hfront (tagged_of_append_tagged hback htagged)
  · intro htagged
    exact Tagged.mono htagged ⟨front.toList, back.toList, rfl⟩

theorem getLast?_ne : whole.toList.getLast? ≠ some (.char '\\') := by
  obtain ⟨front, back, c, rfl, -, -, hlast, hc⟩ := h
  simpa [List.getLast?_append, hlast] using hc

end Frames

end Conformance.Markup
