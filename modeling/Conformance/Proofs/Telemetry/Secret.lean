import Conformance.Proofs.Telemetry.Scrub
import Conformance.Proofs.Text.Letters
import Mathlib.Data.List.Infix

/-!
# Texts without secrets

A secret is announced by a word and a sign, and what is told behind them holds no blank.  What is put in the place of
a secret neither begins such a word nor goes on with one, and a word that was kept announces nothing that it did not
announce before.  Nor does taking out secrets bring a home directory back.  So a scrubbed text is clean, and a clean
text stays as it is.

Main results:

- `afterSecret?_eq_some_iff`: where the rule for secrets finds one, and what it leaves.
- `not_hasSecret_of_substituted`: no secret is left when secrets are taken out.
- `not_hasHome_scrubText`: a scrubbed text tells no home directory.
- `scrubText_clean`: scrubbed texts tell neither home directories nor secrets, and stay as they are.
-/

namespace Conformance.Telemetry

open Text

variable {text rest tail out front part name : List CodePoint} {word : List Char} {letter : Char} {c : CodePoint}

/-! ## Secrets -/

/-- What announces a secret: one of the words, its letters of either case, and a colon or an equals sign, with blanks
around the sign or without. -/
inductive Announces : List CodePoint → Prop
  | word {word : List Char} {name before after : List CodePoint} {sign : CodePoint} : word ∈ secretWords →
      IsWord word name → (∀ c ∈ before, isBlank c = true) → sign = .char ':' ∨ sign = .char '=' →
        (∀ c ∈ after, isBlank c = true) → Announces (name ++ before ++ sign :: after)

/-- A secret: what announces it, and then what it tells, which holds no blank. -/
def IsSecret (text : List CodePoint) : Prop :=
  ∃ front told, Announces front ∧ told ≠ [] ∧ (∀ c ∈ told, isBlank c = false) ∧ text = front ++ told

/-- A secret stands somewhere in a text. -/
def HasSecret (text : List CodePoint) : Prop :=
  ∃ secret, secret <:+: text ∧ IsSecret secret

/-- A secret stands at the front of a text: something is told behind what announces it. -/
def StartsSecret (text : List CodePoint) : Prop :=
  ∃ front c rest, Announces front ∧ isBlank c = false ∧ text = front ++ c :: rest

theorem hasSecret_iff : HasSecret text ↔ ∃ rest, rest <:+ text ∧ StartsSecret rest := by
  constructor
  · rintro ⟨secret, hinfix, front, told, hfront, htold, hblank, rfl⟩
    obtain ⟨before, behind, rfl⟩ := hinfix
    obtain ⟨c, later, rfl⟩ := List.exists_cons_of_ne_nil htold
    refine ⟨front ++ c :: later ++ behind, ⟨before, by simp⟩, front, c, later ++ behind, hfront, ?_, by simp⟩
    exact hblank c List.mem_cons_self
  · rintro ⟨rest, hsuffix, front, c, later, hfront, hc, rfl⟩
    refine ⟨front ++ [c], ?_, front, [c], hfront, by simp, by simpa using hc, rfl⟩
    have hprefix : front ++ [c] <+: front ++ c :: later := ⟨later, by simp⟩
    exact hprefix.isInfix.trans hsuffix.isInfix

theorem hasSecret_cons_iff : HasSecret (c :: text) ↔ StartsSecret (c :: text) ∨ HasSecret text := by
  simp only [hasSecret_iff, List.suffix_cons_iff]
  constructor
  · rintro ⟨rest, rfl | hrest, hstarts⟩
    · exact .inl hstarts
    · exact .inr ⟨rest, hrest, hstarts⟩
  · rintro (hstarts | ⟨rest, hrest, hstarts⟩)
    · exact ⟨c :: text, .inl rfl, hstarts⟩
    · exact ⟨rest, .inr hrest, hstarts⟩

theorem not_hasSecret_nil : ¬HasSecret [] := by
  rw [hasSecret_iff]
  rintro ⟨rest, hsuffix, front, c, later, -, -, rfl⟩
  simp at hsuffix

/-! ## Words that announce secrets -/

/-- The words begin with letters of which no code point matches two. -/
theorem eq_of_matchesLetter {other : Char} (h : letter ∈ ['d', 't', 'p', 's']) (hother : other ∈ ['d', 't', 'p', 's'])
    (hletter : matchesLetter letter c = true) (hsame : matchesLetter other c = true) : letter = other := by
  have hlong : 'ſ'.toLower ∉ ['d', 't', 'p', 's'] := by decide
  -- besides its own two cases, a letter of these is matched by the long s only
  have hcase : ∀ a ∈ ['d', 't', 'p', 's'], matchesLetter a c = true →
      ∃ d : Char, c = .char d ∧ (d.toLower = a ∨ a = 's' ∧ d = 'ſ') := by
    intro a ha hmatch
    cases c with
    | half offset => simp [matchesLetter] at hmatch
    | char d =>
        have hk : a ≠ 'k' := by
          rintro rfl
          exact absurd ha (by decide)
        have hi : a ≠ 'i' := by
          rintro rfl
          exact absurd ha (by decide)
        exact ⟨d, rfl, by simpa [matchesLetter, hk, hi] using hmatch⟩
  obtain ⟨d, rfl, hd | ⟨rfl, rfl⟩⟩ := hcase letter h hletter
  · obtain ⟨_, ⟨⟩, hd' | ⟨-, rfl⟩⟩ := hcase other hother hsame
    · exact hd.symm.trans hd'
    · exact absurd (hd ▸ h) hlong
  · obtain ⟨_, ⟨⟩, hd' | ⟨rfl, -⟩⟩ := hcase other hother hsame
    · exact absurd (hd' ▸ hother) hlong
    · rfl

/-- The words begin with these letters, and no two of them with the same. -/
theorem exists_of_mem_secretWords (h : word ∈ secretWords) :
    ∃ letter letters, word = letter :: letters ∧ letter ∈ ['d', 't', 'p', 's'] := by
  simp only [secretWords, List.mem_cons, List.not_mem_nil, or_false] at h
  rcases h with rfl | rfl | rfl | rfl
  · exact ⟨'d', _, rfl, by simp⟩
  · exact ⟨'t', _, rfl, by simp⟩
  · exact ⟨'p', _, rfl, by simp⟩
  · exact ⟨'s', _, rfl, by simp⟩

/-- No letter of the words is a bracket or a slash. -/
theorem matchesLetter_eq_false_of_mem_secretWords {letter : Char} (hword : word ∈ secretWords) (hletter : letter ∈ word) :
    matchesLetter letter (.char '[') = false ∧ matchesLetter letter (.char '/') = false := by
  have hall : ∀ word ∈ secretWords,
      word.all (fun l => !matchesLetter l (.char '[') && !matchesLetter l (.char '/')) = true := by decide
  simpa using List.all_eq_true.mp (hall word hword) letter hletter

/-- A text that begins with one of the words begins with no other. -/
theorem splitWord?_eq_none_of_secretWords {other : List Char} (hword : word ∈ secretWords)
    (hother : other ∈ secretWords) (hne : other ≠ word) (hname : IsWord word name) :
    splitWord? other (name ++ rest) = none := by
  have hfirst : ∀ a ∈ secretWords, ∀ b ∈ secretWords, a.head? = b.head? → a = b := by decide
  obtain ⟨letter, letters, rfl, hletter⟩ := exists_of_mem_secretWords hword
  obtain ⟨initial, later, rfl, hinitial⟩ := exists_of_mem_secretWords hother
  cases hname with
  | @cons _ c _ name hmatches _ =>
      rw [List.cons_append, splitWord?, if_neg]
      intro hsame
      have heq : initial = letter := eq_of_matchesLetter hinitial hletter hsame hmatches
      exact hne (hfirst _ hother _ hword (congrArg some heq))

/-- The word in front of a text is split off. -/
theorem splitAnyWord?_secretWords (hword : word ∈ secretWords) (hname : IsWord word name) (rest : List CodePoint) :
    splitAnyWord? secretWords (name ++ rest) = some (name, rest) :=
  splitAnyWord?_eq_some hword (splitWord?_eq_some_iff.mpr ⟨rfl, hname⟩) fun _ hother hne =>
    splitWord?_eq_none_of_secretWords hword hother hne hname

/-! ## The rule for secrets -/

theorem isBlank_of_sign {sign : CodePoint} (h : sign = .char ':' ∨ sign = .char '=') : isBlank sign = false := by
  rcases h with rfl | rfl
  · decide
  · decide

/-- The rule finds a secret where one is announced and something is told, and leaves what stands behind the next
blank. -/
theorem afterSecret?_eq_some_iff :
    afterSecret? text = some tail ↔
      ∃ front c rest, Announces front ∧ isBlank c = false ∧ text = front ++ c :: rest ∧
        tail = rest.dropWhile fun d => !isBlank d := by
  constructor
  · intro h
    unfold afterSecret? at h
    split at h
    · rename_i name rest hsplit
      obtain ⟨word, hword, hsplit⟩ := List.exists_of_findSome?_eq_some hsplit
      obtain ⟨rfl, hname⟩ := splitWord?_eq_some_iff.mp hsplit
      have hrest := rest.takeWhile_append_dropWhile (p := isBlank)
      split at h
      · rename_i sign value hsign
        have hvalue := value.takeWhile_append_dropWhile (p := isBlank)
        split at h
        · rename_i hcolon
          split at h
          · cases h
          · rename_i hnil
            obtain ⟨c, told, htold⟩ := List.exists_cons_of_ne_nil hnil
            have hc : isBlank c = false := by
              have hhead := List.head?_dropWhile_not isBlank value
              rwa [htold] at hhead
            rw [htold, List.dropWhile_cons_of_pos (by simpa using hc)] at h
            have hblanks : ∀ l : List CodePoint, ∀ d ∈ l.takeWhile isBlank, isBlank d = true := fun l =>
              List.all_eq_true.mp List.all_takeWhile
            refine ⟨name ++ rest.takeWhile isBlank ++ sign :: value.takeWhile isBlank, c, told,
              .word hword hname (hblanks rest) hcolon (hblanks value), hc, ?_, (Option.some.inj h).symm⟩
            have htext : rest.takeWhile isBlank ++ sign :: (value.takeWhile isBlank ++ c :: told) = rest := by
              rw [← htold, hvalue, ← hsign, hrest]
            simp only [List.append_assoc, List.cons_append, htext]
        · cases h
      · cases h
    · cases h
  · rintro ⟨_, c, rest, ⟨hword, hname, hbefore, hsign, hafter⟩, hc, rfl, rfl⟩
    rename_i word name before after sign
    unfold afterSecret?
    rw [List.append_assoc, List.append_assoc, splitAnyWord?_secretWords hword hname]
    dsimp only
    rw [List.dropWhile_append_of_pos hbefore, List.cons_append,
      List.dropWhile_cons_of_neg (by simp [isBlank_of_sign hsign])]
    dsimp only
    rw [if_pos hsign, List.dropWhile_append_of_pos hafter, List.dropWhile_cons_of_neg (by simp [hc])]
    dsimp only
    rw [List.dropWhile_cons_of_pos (by simp [hc])]

theorem StartsSecret.exists_afterSecret? (h : StartsSecret text) : ∃ tail, afterSecret? text = some tail := by
  obtain ⟨front, c, rest, hfront, hc, rfl⟩ := h
  exact ⟨_, afterSecret?_eq_some_iff.mpr ⟨front, c, rest, hfront, hc, rfl, rfl⟩⟩

theorem startsSecret_of_afterSecret? (h : afterSecret? text = some tail) : StartsSecret text := by
  obtain ⟨front, c, rest, hfront, hc, rfl, -⟩ := afterSecret?_eq_some_iff.mp h
  exact ⟨front, c, rest, hfront, hc, rfl⟩

theorem cuts_afterSecret? : Cuts afterSecret? := by
  intro text tail h
  obtain ⟨front, c, rest, -, hc, rfl, rfl⟩ := afterSecret?_eq_some_iff.mp h
  have hrest := rest.takeWhile_append_dropWhile (p := fun d => !isBlank d)
  exact ⟨front ++ c :: rest.takeWhile fun d => !isBlank d, by simp, by simp [hrest]⟩

/-! ## What is put in the place of a secret -/

/-- What announces a secret does not hold the mark with which everything begins that is put in its place. -/
theorem Announces.notMem_mark (h : Announces front) : .char '[' ∉ front := by
  obtain ⟨hword, hname, hbefore, hsign, hafter⟩ := h
  rename_i word name before after sign
  have hmark : isBlank (.char '[') = false := by decide
  have hblanks : ∀ l : List CodePoint, (∀ d ∈ l, isBlank d = true) → .char '[' ∉ l := by
    intro l hl hmem
    exact Bool.false_ne_true (hmark.symm.trans (hl _ hmem))
  have hnotName : .char '[' ∉ name := by
    intro hmem
    obtain ⟨letter, hletter, hmatches⟩ := hname.exists_letter hmem
    have hnot := (matchesLetter_eq_false_of_mem_secretWords hword hletter).1
    exact Bool.false_ne_true (hnot.symm.trans hmatches)
  have hnotSign : .char '[' ≠ sign := by
    rcases hsign with rfl | rfl
    · decide
    · decide
  simp [hnotName, hblanks before hbefore, hnotSign, hblanks after hafter]

/-- What announces a secret does not begin with a blank. -/
theorem Announces.exists_cons (h : Announces front) : ∃ c rest, front = c :: rest ∧ isBlank c = false := by
  obtain ⟨hword, hname, -, -, -⟩ := h
  obtain ⟨letter, letters, rfl, hletter⟩ := exists_of_mem_secretWords hword
  have hlower : ['d', 't', 'p', 's'].all Char.isLower = true := by decide
  cases hname with
  | cons hmatches _ =>
      have hletter := List.all_eq_true.mp hlower letter hletter
      exact ⟨_, _, rfl, isBlank_eq_false_of_matchesLetter hletter hmatches⟩

/-- A secret does not begin with a slash. -/
theorem head_ne_of_afterSecret? (h : afterSecret? (c :: rest) = some tail) : c ≠ .char '/' := by
  obtain ⟨_, d, later, ⟨hword, hname, -, -, -⟩, -, heq, -⟩ := afterSecret?_eq_some_iff.mp h
  obtain ⟨letter, letters, rfl, -⟩ := exists_of_mem_secretWords hword
  cases hname with
  | cons hmatches _ =>
      obtain ⟨rfl, -⟩ := List.cons.inj heq
      rintro rfl
      have hnot := (matchesLetter_eq_false_of_mem_secretWords hword List.mem_cons_self).2
      exact Bool.false_ne_true (hnot.symm.trans hmatches)

/-- A word does not stand at the front of a text that begins with other letters. -/
theorem not_startsSecret_of_clash (h : ∀ word ∈ secretWords, false ∈ List.zipWith matchesLetter word part) :
    ¬StartsSecret (part ++ rest) := by
  rintro ⟨_, c, later, ⟨hword, hname, -, -, -⟩, -, heq⟩
  rw [List.append_assoc, List.append_assoc] at heq
  exact hname.notMem_zipWith heq.symm (h _ hword)

/-- What is put in the place of a secret begins none with what stands behind it. -/
theorem HasSecret.of_redacted (h : HasSecret (redacted.toList ++ rest)) : HasSecret rest := by
  have hclash : ∀ part ∈ redacted.toList.tails, part ≠ [] →
      ∀ word ∈ secretWords, false ∈ List.zipWith matchesLetter word part := by decide
  have hparts : ∀ part, part <:+ redacted.toList → HasSecret (part ++ rest) → HasSecret rest := by
    intro part hpart hhas
    induction part with
    | nil => exact hhas
    | cons c part ih =>
        rcases hasSecret_cons_iff.mp hhas with hstarts | hlater
        · have hnot := hclash (c :: part) ((List.mem_tails _ _).mpr hpart) (List.cons_ne_nil c part)
          exact absurd hstarts (not_startsSecret_of_clash hnot)
        · exact ih ((List.suffix_cons c part).trans hpart) hlater
  exact hparts _ List.suffix_rfl h

/-! ## Taking out secrets -/

/-- A secret that stands at the front of the result stood there in the text. -/
theorem startsSecret_of_substituted (h : Substituted afterSecret? redacted.toList (c :: rest) (c :: out))
    (hstarts : StartsSecret (c :: out)) : StartsSecret (c :: rest) := by
  have himage : redacted.toList = .char '[' :: "REDACTED]".toList.map .char := by decide
  obtain ⟨front, d, later, hfront, hd, hout⟩ := hstarts
  rw [himage, hout] at h
  -- What announces the secret holds no mark, so it was kept; and what it tells was kept, or told by another secret.
  obtain ⟨behind, htext, hbehind⟩ := h.kept_front hfront.notMem_mark
  rw [htext]
  rcases hbehind.cons_cases with ⟨last, rfl, -⟩ | ⟨tail, -, -, -, hafter, -⟩
  · exact ⟨front, d, last, hfront, hd, rfl⟩
  · obtain ⟨inner, e, last, hinner, -, rfl⟩ := startsSecret_of_afterSecret? hafter
    obtain ⟨first, next, rfl, hfirst⟩ := hinner.exists_cons
    exact ⟨front, first, next ++ e :: last, hfront, hfirst, rfl⟩

/-- No secret is left. -/
theorem not_hasSecret_of_substituted (h : Substituted afterSecret? redacted.toList text out) : ¬HasSecret out := by
  induction h with
  | nil => exact not_hasSecret_nil
  | found hafter hlater ih =>
      intro hhas
      exact ih hhas.of_redacted
  | kept hafter hrest ih =>
      intro hhas
      rcases hasSecret_cons_iff.mp hhas with hstarts | hlater
      · have hbefore := startsSecret_of_substituted (.kept hafter hrest) hstarts
        obtain ⟨tail, htail⟩ := hbefore.exists_afterSecret?
        cases hafter.symm.trans htail
      · exact ih hlater

/-! ## Home directories around secrets -/

/-- Taking out secrets brings no home directory into a text. -/
theorem not_hasHome_of_secret {image : List CodePoint}
    (h : Substituted afterSecret? (.char '[' :: image) text out) (himage : .char '/' ∉ image)
    (htext : ¬HasHome text) : ¬HasHome out := by
  induction h with
  | nil => exact htext
  | found hafter _ ih =>
      intro hhome
      obtain ⟨found, -, happend⟩ := cuts_afterSecret? _ _ hafter
      have htail : ¬HasHome _ := fun h => htext (h.of_suffix ⟨found, happend⟩)
      exact ih htail (hhome.of_append (by simp [himage]))
  | kept _ hrest ih =>
      intro hhome
      rcases hasHome_cons_iff.mp hhome with hstarts | hlater
      · obtain ⟨word, hword, x, later, heq, hx⟩ := startsHome_iff.mp hstarts
        refine htext (hasHome_cons_iff.mpr (.inl (startsHome_iff.mpr ?_)))
        obtain ⟨first, name, rfl, -, hmark, -⟩ := exists_of_mem_homeWords hword
        obtain ⟨rfl, hout⟩ := List.cons.inj heq
        subst hout
        -- The word was kept, and a secret behind it does not begin with a slash either.
        obtain ⟨behind, rfl, hbehind⟩ := hrest.kept_front fun h => hmark (List.mem_cons_of_mem _ h)
        rcases hbehind.cons_cases with ⟨last, rfl, -⟩ | ⟨tail, -, -, -, hafter, -⟩
        · exact ⟨_, hword, x, last, by simp, hx⟩
        · cases behind with
          | nil => cases hafter
          | cons y last => exact ⟨_, hword, y, last, by simp, head_ne_of_afterSecret? hafter⟩
      · exact ih (fun h => htext (hasHome_cons_iff.mpr (.inr h))) hlater

/-- A scrubbed text tells no home directory. -/
theorem not_hasHome_scrubText (text : Text) : ¬HasHome (scrubText text).toList := by
  have himage : redacted.toList = .char '[' :: "REDACTED]".toList.map .char := by decide
  have hhome : ¬HasHome (substitute afterHome? "/~" text.toList) :=
    not_hasHome_of_home (substituted_substitute cuts_afterHome? "/~" text.toList)
  have hsecret := substituted_substitute cuts_afterSecret? redacted (substitute afterHome? "/~" text.toList)
  rw [himage] at hsecret
  exact not_hasHome_of_secret hsecret (by decide) hhome

/-! ## Clean texts -/

/-- A text that tells neither a home directory nor a secret stays as it is. -/
theorem scrubText_eq_self {text : Text} (hhome : ¬HasHome text.toList) (hsecret : ¬HasSecret text.toList) :
    scrubText text = text := by
  have hnoHome : ∀ rest, rest <:+ text.toList → afterHome? rest = none := by
    intro rest hrest
    cases hafter : afterHome? rest with
    | none => rfl
    | some tail => exact absurd ⟨rest, hrest, startsHome_of_afterHome? hafter⟩ hhome
  have hnoSecret : ∀ rest, rest <:+ text.toList → afterSecret? rest = none := by
    intro rest hrest
    cases hafter : afterSecret? rest with
    | none => rfl
    | some tail => exact absurd (hasSecret_iff.mpr ⟨rest, hrest, startsSecret_of_afterSecret? hafter⟩) hsecret
  unfold scrubText
  rw [substitute_eq_self cuts_afterHome? _ hnoHome, substitute_eq_self cuts_afterSecret? _ hnoSecret, ofList_toList]

theorem not_hasSecret_scrubText (text : Text) : ¬HasSecret (scrubText text).toList :=
  not_hasSecret_of_substituted (substituted_substitute cuts_afterSecret? redacted _)

/-- A scrubbed text tells neither a home directory nor a secret, and scrubbing it once more changes nothing; and
scrubbing leaves only those texts as they are that tell neither. -/
theorem scrubText_clean (text : Text) :
    ¬HasHome (scrubText text).toList ∧ ¬HasSecret (scrubText text).toList ∧
      scrubText (scrubText text) = scrubText text ∧
        (scrubText text = text ↔ ¬HasHome text.toList ∧ ¬HasSecret text.toList) := by
  have hhome := not_hasHome_scrubText text
  have hsecret := not_hasSecret_scrubText text
  refine ⟨hhome, hsecret, scrubText_eq_self hhome hsecret, ?_, ?_⟩
  · intro heq
    rw [heq] at hhome hsecret
    exact ⟨hhome, hsecret⟩
  · rintro ⟨hnoHome, hnoSecret⟩
    exact scrubText_eq_self hnoHome hnoSecret

/-- Words glued to one another are one secret, a directory can stand inside a secret, and a slash in front of a home
directory stays. -/
example : scrubText "/home//home/x/ TOKEN =\nsecret:/Users/y dsn: " = "/home//~/ [REDACTED]" := by decide +kernel

end Conformance.Telemetry
