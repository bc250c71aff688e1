import Conformance.Telemetry.Scrub

/-!
# Texts without home directories

A text is scrubbed by two substitutions.  Each reads its text once, from the left; what a rule finds at the front is
left out and something is put in its place, and a code point at which nothing is found is kept.  The names of home
directories are taken out first.

Main results:

- `substituted_substitute`: the result of a substitution, part by part.
- `Substituted.kept_front`: what stands at the front of the result without a mark stood at the front of the
  text.
- `substitute_eq_self`: a text in which a rule finds nothing stays as it is.
- `exists_of_afterHome?`, `exists_afterHome?_of_startsHome`: where a home directory is found.
- `not_hasHome_of_home`: no home directory is left when home directories are taken out.
-/

namespace Conformance.Telemetry

/-! ## Substitution -/

section Substitution

variable {after? : List CodePoint → Option (List CodePoint)} {image text out : List CodePoint}

/-- A rule finds something at the front of a text and gives what follows. -/
def Cuts (after? : List CodePoint → Option (List CodePoint)) : Prop :=
  ∀ text tail, after? text = some tail → ∃ found, found ≠ [] ∧ found ++ tail = text

/-- What a text becomes when something is put in the place of all that a rule finds. -/
inductive Substituted (after? : List CodePoint → Option (List CodePoint)) (image : List CodePoint) :
    List CodePoint → List CodePoint → Prop
  | nil : Substituted after? image [] []
  | found {c : CodePoint} {rest tail out : List CodePoint} : after? (c :: rest) = some tail →
      Substituted after? image tail out → Substituted after? image (c :: rest) (image ++ out)
  | kept {c : CodePoint} {rest out : List CodePoint} : after? (c :: rest) = none →
      Substituted after? image rest out → Substituted after? image (c :: rest) (c :: out)

/-- A substitution with enough steps for the text writes the rest of the result behind what it has written. -/
theorem exists_substituteFrom (hcuts : Cuts after?) (image : List CodePoint) {fuel : Nat}
    {text : List CodePoint} (done : List CodePoint) (hfuel : text.length < fuel) :
    ∃ out, substituteFrom after? image fuel done text = done.reverse ++ out ∧
      Substituted after? image text out := by
  induction fuel generalizing text done with
  | zero => omega
  | succ fuel ih =>
      cases text with
      | nil => exact ⟨[], (List.append_nil _).symm, .nil⟩
      | cons c rest =>
          unfold substituteFrom
          cases hafter : after? (c :: rest) with
          | none =>
              obtain ⟨out, heq, hout⟩ := ih (c :: done) (Nat.lt_of_succ_lt_succ hfuel)
              refine ⟨c :: out, ?_, .kept hafter hout⟩
              dsimp only
              rw [heq, List.reverse_cons, List.append_assoc, List.singleton_append]
          | some tail =>
              obtain ⟨found, hfound, happend⟩ := hcuts _ _ hafter
              have hlength : tail.length < fuel := by
                have htext := congrArg List.length happend
                have hpos := List.length_pos_iff.mpr hfound
                rw [List.length_append] at htext
                omega
              obtain ⟨out, heq, hout⟩ := ih (image.reverse ++ done) hlength
              refine ⟨image ++ out, ?_, .found hafter hout⟩
              dsimp only
              rw [heq, List.reverse_append, List.reverse_reverse, List.append_assoc]

/-- The result of a substitution. -/
theorem substituted_substitute (hcuts : Cuts after?) (image : Text) (text : List CodePoint) :
    Substituted after? image.toList text (substitute after? image text) := by
  obtain ⟨out, heq, hout⟩ := exists_substituteFrom hcuts image.toList [] (Nat.lt_succ_self text.length)
  unfold substitute
  rw [heq]
  exact hout

namespace Substituted

variable {mark c : CodePoint}

/-- The first code point of a result was kept, or it is the mark with which everything begins that is put in. -/
theorem cons_cases (h : Substituted after? (mark :: image) text (c :: out)) :
    (∃ rest, text = c :: rest ∧ after? text = none ∧ Substituted after? (mark :: image) rest out) ∨
    ∃ tail later, c = mark ∧ out = image ++ later ∧ after? text = some tail ∧
      Substituted after? (mark :: image) tail later := by
  generalize hresult : c :: out = result at h
  cases h with
  | nil => cases hresult
  | found hafter hlater =>
      obtain ⟨hc, hout⟩ := List.cons.inj hresult
      exact .inr ⟨_, _, hc, hout, hafter, hlater⟩
  | kept hafter hrest =>
      obtain ⟨rfl, rfl⟩ := List.cons.inj hresult
      exact .inl ⟨_, rfl, hafter, hrest⟩

/-- What stands at the front of a result without a mark stood at the front of the text. -/
theorem kept_front {front : List CodePoint} (h : Substituted after? (mark :: image) text (front ++ out))
    (hmark : mark ∉ front) :
    ∃ rest, text = front ++ rest ∧ Substituted after? (mark :: image) rest out := by
  induction front generalizing text with
  | nil => exact ⟨text, rfl, h⟩
  | cons a front ih =>
      rw [List.mem_cons, not_or] at hmark
      rcases h.cons_cases with ⟨rest, rfl, -, hrest⟩ | ⟨_, _, ha, -⟩
      · obtain ⟨rest, rfl, hout⟩ := ih hrest hmark.2
        exact ⟨rest, rfl, hout⟩
      · exact absurd ha.symm hmark.1

/-- A text in which a rule finds nothing is kept. -/
theorem eq_self (h : Substituted after? image text out) (hnone : ∀ rest, rest <:+ text → after? rest = none) :
    out = text := by
  induction h with
  | nil => rfl
  | found hafter hlater ih =>
      have hnot := hnone _ List.suffix_rfl
      cases hafter.symm.trans hnot
  | @kept c rest out hafter hrest ih =>
      have hkept : out = rest := ih fun part hpart => hnone part (hpart.trans (List.suffix_cons c rest))
      rw [hkept]

end Substituted

theorem substitute_eq_self (hcuts : Cuts after?) (image : Text)
    (hnone : ∀ rest, rest <:+ text → after? rest = none) : substitute after? image text = text :=
  (substituted_substitute hcuts image text).eq_self hnone

end Substitution

open Text

variable {text rest tail out word found : List CodePoint} {c : CodePoint}

/-! ## Home directories -/

/-- A home directory stands at the front of a text: below `/home` or `/Users`, and its name is not empty. -/
def StartsHome (text : List CodePoint) : Prop :=
  ∃ parent ∈ ([("home" : Text), "Users"]), ∃ c rest,
    text = .char '/' :: parent.toList ++ .char '/' :: c :: rest ∧ c ≠ .char '/'

/-- A home directory stands somewhere in a text. -/
def HasHome (text : List CodePoint) : Prop :=
  ∃ rest, rest <:+ text ∧ StartsHome rest

/-- A home directory begins with one of the words that are looked for. -/
theorem startsHome_iff :
    StartsHome text ↔ ∃ word ∈ homeWords, ∃ c rest, text = word ++ c :: rest ∧ c ≠ .char '/' := by
  have hwords : homeWords = ([("home" : Text), "Users"]).map fun parent =>
      .char '/' :: parent.toList ++ [.char '/'] := by decide
  rw [hwords]
  constructor
  · rintro ⟨parent, hparent, c, rest, rfl, hc⟩
    exact ⟨_, List.mem_map_of_mem hparent, c, rest, by simp, hc⟩
  · rintro ⟨word, hword, c, rest, rfl, hc⟩
    obtain ⟨parent, hparent, rfl⟩ := List.mem_map.mp hword
    exact ⟨parent, hparent, c, rest, by simp, hc⟩

/-- The words are names between slashes. -/
theorem exists_of_mem_homeWords (h : word ∈ homeWords) :
    ∃ first name, word = .char '/' :: first :: name ++ [.char '/'] ∧
      .char '/' ∉ first :: name ∧ .char '[' ∉ word ∧ first ≠ .char '~' := by
  rw [homeWords, List.mem_cons, List.mem_singleton] at h
  rcases h with rfl | rfl
  · exact ⟨.char 'h', "ome".toList.map .char, by decide⟩
  · exact ⟨.char 'U', "sers".toList.map .char, by decide⟩

theorem eq_of_prefix_homeWords {other : List CodePoint} (h : word ∈ homeWords) (hother : other ∈ homeWords)
    (hword : word <+: text) (hfront : other <+: text) : other = word := by
  have apart : ∀ a ∈ homeWords, ∀ b ∈ homeWords, a <+: b → a = b := by decide
  rcases List.prefix_or_prefix_of_prefix hfront hword with hle | hle
  · exact apart other hother word h hle
  · exact (apart word h other hother hle).symm

theorem not_startsHome_nil : ¬StartsHome [] := by
  rintro ⟨parent, -, c, rest, htext, -⟩
  cases htext

theorem hasHome_cons_iff : HasHome (c :: text) ↔ StartsHome (c :: text) ∨ HasHome text := by
  constructor
  · rintro ⟨rest, hsuffix, hstarts⟩
    rcases List.suffix_cons_iff.mp hsuffix with rfl | hrest
    · exact .inl hstarts
    · exact .inr ⟨rest, hrest, hstarts⟩
  · rintro (hstarts | ⟨rest, hsuffix, hstarts⟩)
    · exact ⟨c :: text, List.suffix_rfl, hstarts⟩
    · exact ⟨rest, hsuffix.trans (List.suffix_cons c text), hstarts⟩

theorem HasHome.of_suffix (h : HasHome rest) (hsuffix : rest <:+ text) : HasHome text := by
  obtain ⟨home, hhome, hstarts⟩ := h
  exact ⟨home, hhome.trans hsuffix, hstarts⟩

/-- A home directory begins with a slash and something other than a slash. -/
theorem StartsHome.exists_cons_cons (h : StartsHome text) :
    ∃ first rest, text = .char '/' :: first :: rest ∧ first ≠ .char '/' ∧ first ≠ .char '~' := by
  obtain ⟨word, hword, c, rest, rfl, -⟩ := startsHome_iff.mp h
  obtain ⟨first, name, rfl, hslash, -, htilde⟩ := exists_of_mem_homeWords hword
  have hfirst : first ≠ .char '/' := fun heq => hslash (heq ▸ List.mem_cons_self)
  exact ⟨first, name ++ [.char '/'] ++ c :: rest, rfl, hfirst, htilde⟩

/-- A home directory begins with a slash. -/
theorem HasHome.of_cons (h : HasHome (c :: text)) (hc : c ≠ .char '/') : HasHome text := by
  refine (hasHome_cons_iff.mp h).resolve_left fun hstarts => ?_
  obtain ⟨first, later, heq, -⟩ := hstarts.exists_cons_cons
  exact hc (List.cons.inj heq).1

theorem HasHome.of_append {front : List CodePoint} (h : HasHome (front ++ rest))
    (hslash : .char '/' ∉ front) : HasHome rest := by
  induction front with
  | nil => exact h
  | cons a front ih =>
      rw [List.mem_cons, not_or] at hslash
      exact ih (h.of_cons (Ne.symm hslash.1)) hslash.2

/-! ## The rule for home directories -/

theorem mem_and_prefix_of_find? (h : homeWords.find? (·.isPrefixOf text) = some word) :
    word ∈ homeWords ∧ word <+: text := by
  have hword := List.find?_some (p := fun word : List CodePoint => word.isPrefixOf text) h
  exact ⟨List.mem_of_find?_eq_some h, List.isPrefixOf_iff_prefix.mp hword⟩

/-- The word at the front of a text is the one that is found there. -/
theorem find?_homeWords (hword : word ∈ homeWords) (rest : List CodePoint) :
    homeWords.find? (·.isPrefixOf (word ++ rest)) = some word := by
  have hfront : word <+: word ++ rest := List.prefix_append word rest
  cases hfind : homeWords.find? (·.isPrefixOf (word ++ rest)) with
  | none => exact absurd (List.isPrefixOf_iff_prefix.mpr hfront) (List.find?_eq_none.mp hfind word hword)
  | some other =>
      obtain ⟨hmem, hother⟩ := mem_and_prefix_of_find? hfind
      rw [eq_of_prefix_homeWords hword hmem hfront hother]

/-- A home directory is found where it stands. -/
theorem exists_afterHome?_of_startsHome (h : StartsHome text) : ∃ tail, afterHome? text = some tail := by
  obtain ⟨word, hword, c, rest, rfl, hc⟩ := startsHome_iff.mp h
  unfold afterHome?
  rw [find?_homeWords hword]
  dsimp only
  rw [List.drop_left]
  split
  · contradiction
  · rename_i heq
    exact absurd (List.cons.inj heq).1 hc
  · exact ⟨_, rfl⟩

/-- What is found is a word and something other than a slash behind it. -/
theorem exists_of_afterHome? (h : afterHome? text = some tail) :
    ∃ word ∈ homeWords, ∃ c name, c ≠ .char '/' ∧ text = word ++ c :: name ++ tail := by
  unfold afterHome? at h
  split at h
  · rename_i word hfind
    obtain ⟨hword, rest, rfl⟩ := mem_and_prefix_of_find? hfind
    rw [List.drop_left] at h
    split at h
    · cases h
    · cases h
    · rename_i hnil hslash
      cases rest with
      | nil => exact absurd rfl hnil
      | cons c later =>
          have hc : c ≠ .char '/' := fun hc => hslash later (congrArg (· :: later) hc)
          have hname : (c :: later).takeWhile (· != .char '/') = c :: later.takeWhile (· != .char '/') :=
            List.takeWhile_cons_of_pos (bne_iff_ne.mpr hc)
          refine ⟨word, hword, c, later.takeWhile (· != .char '/'), hc, ?_⟩
          rw [← hname, ← Option.some.inj h, List.append_assoc, List.takeWhile_append_dropWhile]
  · cases h

theorem startsHome_of_afterHome? (h : afterHome? text = some tail) : StartsHome text := by
  obtain ⟨word, hword, c, name, hc, rfl⟩ := exists_of_afterHome? h
  exact startsHome_iff.mpr ⟨word, hword, c, name ++ tail, by simp, hc⟩

theorem cuts_afterHome? : Cuts afterHome? := by
  intro text tail h
  obtain ⟨word, -, c, name, -, rfl⟩ := exists_of_afterHome? h
  exact ⟨word ++ c :: name, List.append_ne_nil_of_right_ne_nil word (List.cons_ne_nil c name), rfl⟩

/-! ## Taking out home directories -/

/-- A home directory that stands at the front of the result stood there in the text. -/
theorem startsHome_of_kept (h : Substituted afterHome? [.char '/', .char '~'] rest out)
    (hstarts : StartsHome (c :: out)) : StartsHome (c :: rest) := by
  obtain ⟨word, hword, x, later, heq, hx⟩ := startsHome_iff.mp hstarts
  obtain ⟨first, name, rfl, hslash, -⟩ := exists_of_mem_homeWords hword
  obtain ⟨rfl, hout⟩ := List.cons.inj heq
  -- The name holds no slash, so it was kept, and what follows begins with a slash, kept or put in.
  have hfront : out = (first :: name) ++ .char '/' :: x :: later := by simpa using hout
  rw [hfront] at h
  obtain ⟨behind, rfl, hbehind⟩ := h.kept_front hslash
  suffices hnext : ∃ y last, behind = .char '/' :: y :: last ∧ y ≠ .char '/' by
    obtain ⟨y, last, rfl, hy⟩ := hnext
    exact startsHome_iff.mpr ⟨_, hword, y, last, by simp, hy⟩
  rcases hbehind.cons_cases with ⟨kept, rfl, -, hkept⟩ | ⟨tail, later', -, -, hafter, -⟩
  · rcases hkept.cons_cases with ⟨last, rfl, -⟩ | ⟨_, _, rfl, -⟩
    · exact ⟨x, last, rfl, hx⟩
    · exact absurd rfl hx
  · obtain ⟨y, last, rfl, hy, -⟩ := (startsHome_of_afterHome? hafter).exists_cons_cons
    exact ⟨y, last, rfl, hy⟩

/-- No home directory is left. -/
theorem not_hasHome_of_home (h : Substituted afterHome? [.char '/', .char '~'] text out) : ¬HasHome out := by
  induction h with
  | nil =>
      rintro ⟨rest, hsuffix, hstarts⟩
      rw [List.suffix_nil.mp hsuffix] at hstarts
      exact not_startsHome_nil hstarts
  | found _ _ ih =>
      intro hhome
      rcases hasHome_cons_iff.mp hhome with hstarts | hlater
      · obtain ⟨first, later, heq, -, htilde⟩ := hstarts.exists_cons_cons
        exact htilde (List.cons.inj (List.cons.inj heq).2).1.symm
      · exact ih (hlater.of_cons (by decide))
  | kept hafter hrest ih =>
      intro hhome
      rcases hasHome_cons_iff.mp hhome with hstarts | hlater
      · obtain ⟨tail, htail⟩ := exists_afterHome?_of_startsHome (startsHome_of_kept hrest hstarts)
        cases hafter.symm.trans htail
      · exact ih hlater

end Conformance.Telemetry
