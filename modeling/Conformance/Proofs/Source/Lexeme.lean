import Conformance.Source.Token

/-!
# The grammar of lexemes

Which lexeme stands at the front of a source, said without cutting: every alternative is given by the texts
that it covers and by what may follow them.  Runs are as long as possible, a block comment ends at its first
closing mark, and a symbol is a character with which nothing longer begins.

Main results:

- `lexeme_cut`: what is cut off is a lexeme.
- `Lexeme.cut_eq`: no other lexeme stands there, so the grammar is unambiguous.
-/

namespace Conformance.Source

open Conformance.Text

/-! ## Runs -/

/-- A run holds all characters of a class in front of what follows it. -/
structure IsRun (p : CodePoint → Bool) (run rest : List CodePoint) : Prop where
  all : ∀ c ∈ run, p c = true
  ends : ∀ c ∈ rest.head?, p c = false

variable {p : CodePoint → Bool} {c : CodePoint} {run rest input done text : List CodePoint}

/-- The characters of a class at the front of a text are a run. -/
theorem isRun_takeWhile (p : CodePoint → Bool) (input : List CodePoint) :
    IsRun p (input.takeWhile p) (input.dropWhile p) := by
  refine ⟨?_, ?_⟩
  · exact List.all_eq_true.mp List.all_takeWhile
  · intro c hc
    have hhead := List.head?_dropWhile_not p input
    rw [Option.mem_def.mp hc] at hhead
    exact hhead

theorem IsRun.takeWhile_eq (h : IsRun p run rest) : (run ++ rest).takeWhile p = run := by
  rw [List.takeWhile_append_of_pos h.all]
  cases rest with
  | nil => simp
  | cons d more => simp [h.ends d rfl]

theorem IsRun.dropWhile_eq (h : IsRun p run rest) : (run ++ rest).dropWhile p = rest := by
  rw [List.dropWhile_append_of_pos h.all]
  cases rest with
  | nil => rfl
  | cons d more => simp [h.ends d rfl]

/-! ## Insides of strings and block comments -/

/-- A text that can stand between the quotes of a string: a backslash takes the character behind it along,
and neither a quote nor a line feed stands on its own. -/
inductive StringBody : List CodePoint → Prop
  | nil : StringBody []
  | escape (c : CodePoint) {body : List CodePoint} :
      StringBody body → StringBody (.char '\\' :: c :: body)
  | plain {c : CodePoint} {body : List CodePoint} :
      c ≠ .char '"' → c ≠ .char '\\' → c ≠ .char '\n' → StringBody body → StringBody (c :: body)

/-- A text closes a string if a quote ends the body of a string at its front. -/
def ClosesString (input : List CodePoint) : Prop :=
  ∃ body rest, StringBody body ∧ input = body ++ .char '"' :: rest

/-- A text closes a block comment if the closing mark stands somewhere in it. -/
def ClosesComment (input : List CodePoint) : Prop :=
  [.char '*', .char '/'] <:+: input

theorem not_closesComment_nil : ¬ClosesComment [] := by
  simp [ClosesComment]

/-- The closing mark stands at the front of a text or behind its first character. -/
theorem closesComment_cons :
    ClosesComment (c :: input) ↔
      (c = .char '*' ∧ ∃ rest, input = .char '/' :: rest) ∨ ClosesComment input := by
  unfold ClosesComment
  rw [List.infix_cons_iff]
  refine or_congr_left ?_
  constructor
  · rintro ⟨tail, htail⟩
    obtain ⟨rfl, rfl⟩ := List.cons.inj htail
    exact ⟨rfl, tail, rfl⟩
  · rintro ⟨rfl, tail, rfl⟩
    exact ⟨tail, rfl⟩

/-! ## Lexemes -/

/-- Something longer than one character, or a gap, begins with a character. -/
def BeginsOther (c : CodePoint) (rest : List CodePoint) : Prop :=
  c = .char '\n' ∨ isLineBlank c = true ∨ startsIdentifier c = true ∨ isAsciiDigit c = true ∨
    (c = .char '/' ∧ ∃ more, rest = .char '/' :: more ∨ rest = .char '*' :: more) ∨
    (c = .char '"' ∧ ClosesString rest)

/-- The lexeme at the front of a source: its kind, its text, and what follows it. -/
inductive Lexeme : LexemeKind → List CodePoint → List CodePoint → Prop
  | lineFeed (rest : List CodePoint) : Lexeme .gap [.char '\n'] rest
  | blanks {c : CodePoint} {run rest : List CodePoint} :
      isLineBlank c = true → IsRun isLineBlank run rest → Lexeme .gap (c :: run) rest
  /-- A line comment goes up to the next line feed, which does not belong to it. -/
  | lineComment {body rest : List CodePoint} :
      IsRun (· != .char '\n') body rest → Lexeme .gap (.char '/' :: .char '/' :: body) rest
  /-- A block comment goes up to its first closing mark, which does not overlap the opening one. -/
  | blockComment {body : List CodePoint} (rest : List CodePoint) :
      ¬ClosesComment (body ++ [.char '*']) →
        Lexeme .gap (.char '/' :: .char '*' :: (body ++ [.char '*', .char '/'])) rest
  | openComment {rest : List CodePoint} :
      ¬ClosesComment rest → Lexeme .openComment [.char '/', .char '*'] rest
  | string {body : List CodePoint} (rest : List CodePoint) :
      StringBody body → Lexeme (.token .string) (.char '"' :: (body ++ [.char '"'])) rest
  | identifier {c : CodePoint} {run rest : List CodePoint} :
      startsIdentifier c = true → IsRun inIdentifier run rest →
        Lexeme (.token .identifier) (c :: run) rest
  | number {c : CodePoint} {run rest : List CodePoint} :
      isAsciiDigit c = true → IsRun inNumber run rest → Lexeme (.token .number) (c :: run) rest
  | symbol {c : CodePoint} {rest : List CodePoint} :
      ¬BeginsOther c rest → Lexeme (.token .symbol) [c] rest

/-- A lexeme holds at least one character. -/
theorem Lexeme.exists_cons {kind : LexemeKind} (h : Lexeme kind text rest) :
    ∃ c tail, text = c :: tail := by
  cases h <;> exact ⟨_, _, rfl⟩

/-! ## Ends of comments -/

/-- Looking for the end of a block comment finds its first closing mark. -/
theorem closeComment?_eq_some_iff :
    closeComment? done input = some (text, rest) ↔
      ∃ body, text = done.reverse ++ body ++ [.char '*', .char '/'] ∧
        input = body ++ .char '*' :: .char '/' :: rest ∧ ¬ClosesComment (body ++ [.char '*']) := by
  fun_induction closeComment? done input with
  | case1 done tail =>
      constructor
      · intro h
        obtain ⟨rfl, rfl⟩ := Prod.mk.inj (Option.some.inj h)
        exact ⟨[], by simp, rfl, by simp [closesComment_cons, not_closesComment_nil]⟩
      · rintro ⟨body, rfl, hinput, hfirst⟩
        cases body with
        | nil => simp_all
        | cons d body =>
            -- a body behind which the text goes on would hold the closing mark itself
            obtain ⟨rfl, htail⟩ := List.cons.inj hinput
            refine absurd ?_ hfirst
            cases body with
            | nil => simp at htail
            | cons e body =>
                obtain ⟨rfl, -⟩ := List.cons.inj htail
                exact closesComment_cons.mpr (.inl ⟨rfl, _, rfl⟩)
  | case2 done c tail hstart ih =>
      rw [ih]
      constructor
      · rintro ⟨body, rfl, rfl, hfirst⟩
        refine ⟨c :: body, by simp, rfl, ?_⟩
        rw [List.cons_append, closesComment_cons]
        rintro (⟨rfl, more, hmore⟩ | hclose)
        · cases body with
          | nil => simp at hmore
          | cons e body =>
              obtain ⟨rfl, -⟩ := List.cons.inj hmore
              exact hstart _ rfl rfl
        · exact hfirst hclose
      · rintro ⟨body, rfl, hinput, hfirst⟩
        cases body with
        | nil =>
            obtain ⟨rfl, rfl⟩ := List.cons.inj hinput
            exact absurd rfl (hstart _ rfl)
        | cons d body =>
            obtain ⟨rfl, rfl⟩ := List.cons.inj hinput
            refine ⟨body, by simp, rfl, ?_⟩
            intro hclose
            exact hfirst (closesComment_cons.mpr (.inr hclose))
  | case3 done => simp

/-- Looking for the end of a block comment fails only if there is no closing mark. -/
theorem closeComment?_eq_none_iff : closeComment? done input = none ↔ ¬ClosesComment input := by
  fun_induction closeComment? done input with
  | case1 done tail => simp [closesComment_cons]
  | case2 done c tail hstart ih =>
      rw [ih, closesComment_cons, not_or]
      refine ⟨fun h => ⟨?_, h⟩, And.right⟩
      rintro ⟨rfl, rest, rfl⟩
      exact hstart rest rfl rfl
  | case3 done => simp [not_closesComment_nil]

/-! ## Ends of strings -/

theorem StringBody.closeString?_eq {body : List CodePoint} (h : StringBody body) :
    closeString? done (body ++ .char '"' :: rest) =
      some (done.reverse ++ body ++ [.char '"'], rest) := by
  induction h generalizing done with
  | nil => simp [closeString?]
  | escape c _ ih =>
      simp only [List.cons_append, closeString?]
      rw [ih]
      simp
  | @plain c body hquote hslash hline _ ih =>
      rw [List.cons_append, closeString?, if_neg hline, ih]
      · simp
      · exact hquote
      · rintro d tail rfl
        exact absurd rfl hslash
      · rintro rfl
        exact absurd rfl hslash

/-- Looking for the end of a string finds the quote behind a body. -/
theorem exists_stringBody_of_closeString? (h : closeString? done input = some (text, rest)) :
    ∃ body, StringBody body ∧ text = done.reverse ++ body ++ [.char '"'] ∧
      input = body ++ .char '"' :: rest := by
  fun_induction closeString? done input with
  | case1 done tail =>
      obtain ⟨rfl, rfl⟩ := Prod.mk.inj (Option.some.inj h)
      exact ⟨[], .nil, by simp, rfl⟩
  | case2 done c tail ih =>
      obtain ⟨body, hbody, rfl, rfl⟩ := ih h
      exact ⟨.char '\\' :: c :: body, .escape c hbody, by simp, rfl⟩
  | case3 => simp at h
  | case4 => simp at h
  | case5 done c tail hquote hescape hlast hline ih =>
      obtain ⟨body, hbody, rfl, rfl⟩ := ih h
      refine ⟨c :: body, .plain ?_ ?_ hline hbody, by simp, rfl⟩
      · exact hquote
      · rintro rfl
        cases body with
        | nil => exact hescape _ _ rfl rfl
        | cons d more => exact hescape _ _ rfl rfl
  | case6 => simp at h

/-- Looking for the end of a string fails only if no quote ends one. -/
theorem closeString?_eq_none_iff : closeString? done input = none ↔ ¬ClosesString input := by
  constructor
  · rintro h ⟨body, rest, hbody, rfl⟩
    rw [hbody.closeString?_eq] at h
    exact Option.some_ne_none _ h
  · intro h
    cases hclose : closeString? done input with
    | none => rfl
    | some found =>
        obtain ⟨body, hbody, -, hinput⟩ := exists_stringBody_of_closeString? hclose
        exact absurd ⟨body, _, hbody, hinput⟩ h

/-! ## Classes of characters -/

theorem isLineBlank_iff :
    isLineBlank c = true ↔ c = .char ' ' ∨ c = .char '\t' ∨ c = .char '\r' ∨ c = .char '\x0c' := by
  simp [isLineBlank, or_assoc]

/-- No blank begins an identifier. -/
theorem isLineBlank_of_startsIdentifier (h : startsIdentifier c = true) : isLineBlank c = false := by
  rw [Bool.eq_false_iff]
  intro hblank
  rcases isLineBlank_iff.mp hblank with rfl | rfl | rfl | rfl <;> exact absurd h (by decide)

/-- No blank is a digit. -/
theorem isLineBlank_of_isAsciiDigit (h : isAsciiDigit c = true) : isLineBlank c = false := by
  rw [Bool.eq_false_iff]
  intro hblank
  rcases isLineBlank_iff.mp hblank with rfl | rfl | rfl | rfl <;> exact absurd h (by decide)

theorem isAsciiDigit_iff : isAsciiDigit c = true ↔ 0x30 ≤ c.toNat ∧ c.toNat ≤ 0x39 := by
  simp only [isAsciiDigit, Bool.and_eq_true, decide_eq_true_eq]
  rfl

theorem isAsciiLetter_iff :
    isAsciiLetter c = true ↔
      (0x61 ≤ c.toNat ∧ c.toNat ≤ 0x7a) ∨ (0x41 ≤ c.toNat ∧ c.toNat ≤ 0x5a) := by
  simp only [isAsciiLetter, Bool.or_eq_true, Bool.and_eq_true, decide_eq_true_eq]
  rfl

/-- No digit begins an identifier. -/
theorem startsIdentifier_of_isAsciiDigit (h : isAsciiDigit c = true) : startsIdentifier c = false := by
  have hdigit := isAsciiDigit_iff.mp h
  simp only [startsIdentifier, Bool.or_eq_false_iff]
  constructor
  · rw [Bool.eq_false_iff]
    intro hletter
    have := isAsciiLetter_iff.mp hletter
    omega
  · rw [beq_eq_false_iff_ne]
    rintro rfl
    exact absurd h (by decide)

/-! ## Cutting, one lemma for each alternative -/

theorem cut_blank (h : isLineBlank c = true) (rest : List CodePoint) :
    cut c rest = cutRun .gap isLineBlank c rest := by
  have hline : c ≠ .char '\n' := by
    rintro rfl
    exact absurd h (by decide)
  rw [cut, if_neg hline, if_pos h]

theorem cut_identifier (h : startsIdentifier c = true) (rest : List CodePoint) :
    cut c rest = cutRun (.token .identifier) inIdentifier c rest := by
  have hne : ∀ d, startsIdentifier d = false → c ≠ d := by
    rintro d hd rfl
    exact absurd h (by simp [hd])
  rw [cut, if_neg (hne _ (by decide)), if_neg (by simp [isLineBlank_of_startsIdentifier h]),
    if_neg (hne _ (by decide)), if_neg (hne _ (by decide)), if_pos h]

theorem cut_digit (h : isAsciiDigit c = true) (rest : List CodePoint) :
    cut c rest = cutRun (.token .number) inNumber c rest := by
  have hne : ∀ d, isAsciiDigit d = false → c ≠ d := by
    rintro d hd rfl
    exact absurd h (by simp [hd])
  rw [cut, if_neg (hne _ (by decide)), if_neg (by simp [isLineBlank_of_isAsciiDigit h]),
    if_neg (hne _ (by decide)), if_neg (hne _ (by decide)),
    if_neg (by simp [startsIdentifier_of_isAsciiDigit h]), if_pos h]

theorem cut_slash (rest : List CodePoint) : cut (.char '/') rest = cutSlash rest :=
  rfl

theorem cut_quote (rest : List CodePoint) : cut (.char '"') rest = cutString rest :=
  rfl

/-- A character with which nothing else begins is a symbol. -/
theorem cut_symbol (h : ¬BeginsOther c rest) : cut c rest = cutSymbol c rest := by
  simp only [BeginsOther, not_or] at h
  obtain ⟨hline, hblank, hword, hdigit, hslash, hquote⟩ := h
  rw [cut, if_neg hline, if_neg hblank]
  by_cases hc : c = .char '/'
  · subst hc
    have hrest : ∀ more, rest ≠ .char '/' :: more ∧ rest ≠ .char '*' :: more := by
      intro more
      exact not_or.mp fun hmore => hslash ⟨rfl, more, hmore⟩
    rw [if_pos rfl, cutSlash.eq_3]
    · exact fun more hmore => (hrest more).1 hmore
    · exact fun more hmore => (hrest more).2 hmore
  rw [if_neg hc]
  by_cases hc : c = .char '"'
  · subst hc
    have hopen : closeString? [.char '"'] rest = none :=
      closeString?_eq_none_iff.mpr fun hclose => hquote ⟨rfl, hclose⟩
    rw [if_pos rfl, cutString, hopen]
  rw [if_neg hc, if_neg hword, if_neg hdigit]

/-! ## The lexeme that is cut off -/

/-- What is cut off behind the opening marks of a block comment is a comment or the marks alone. -/
theorem lexeme_cutComment (rest : List CodePoint) :
    Lexeme (cutComment rest).kind (cutComment rest).text (cutComment rest).rest := by
  unfold cutComment
  split
  · rename_i text tail hclose
    obtain ⟨body, rfl, -, hfirst⟩ := closeComment?_eq_some_iff.mp hclose
    exact .blockComment tail hfirst
  · rename_i hclose
    exact .openComment (closeComment?_eq_none_iff.mp hclose)

/-- A character that is neither a gap nor the first one of a word begins something else only as a slash or as
a quote. -/
theorem not_beginsOther
    (hplain : (c == .char '\n' || isLineBlank c || startsIdentifier c || isAsciiDigit c) = false)
    (hslash : c = .char '/' → ∀ more, rest ≠ .char '/' :: more ∧ rest ≠ .char '*' :: more)
    (hquote : c = .char '"' → ¬ClosesString rest) : ¬BeginsOther c rest := by
  simp only [Bool.or_eq_false_iff, beq_eq_false_iff_ne] at hplain
  obtain ⟨⟨⟨hline, hblank⟩, hword⟩, hdigit⟩ := hplain
  rintro (h | h | h | h | ⟨hc, more, h | h⟩ | ⟨hc, h⟩)
  · exact hline h
  · exact absurd h (Bool.eq_false_iff.mp hblank)
  · exact absurd h (Bool.eq_false_iff.mp hword)
  · exact absurd h (Bool.eq_false_iff.mp hdigit)
  · exact (hslash hc more).1 h
  · exact (hslash hc more).2 h
  · exact hquote hc h

theorem lexeme_cutSlash (rest : List CodePoint) :
    Lexeme (cutSlash rest).kind (cutSlash rest).text (cutSlash rest).rest := by
  unfold cutSlash
  split
  · exact .lineComment (isRun_takeWhile _ _)
  · exact lexeme_cutComment _
  · rename_i hline hblock
    refine .symbol (not_beginsOther (by decide) ?_ ?_)
    · exact fun _ more => ⟨hline more, hblock more⟩
    · exact fun h => absurd h (by decide)

theorem lexeme_cutString (rest : List CodePoint) :
    Lexeme (cutString rest).kind (cutString rest).text (cutString rest).rest := by
  unfold cutString
  split
  · rename_i text tail hclose
    obtain ⟨body, hbody, rfl, -⟩ := exists_stringBody_of_closeString? hclose
    exact .string tail hbody
  · rename_i hclose
    refine .symbol (not_beginsOther (by decide) ?_ ?_)
    · exact fun h => absurd h (by decide)
    · exact fun _ => closeString?_eq_none_iff.mp hclose

/-- What is cut off the front of a source is a lexeme. -/
theorem lexeme_cut (c : CodePoint) (rest : List CodePoint) :
    Lexeme (cut c rest).kind (cut c rest).text (cut c rest).rest := by
  by_cases hother : BeginsOther c rest
  · rcases hother with rfl | h | h | h | ⟨rfl, -⟩ | ⟨rfl, -⟩
    · exact .lineFeed rest
    · rw [cut_blank h]
      exact .blanks h (isRun_takeWhile _ _)
    · rw [cut_identifier h]
      exact .identifier h (isRun_takeWhile _ _)
    · rw [cut_digit h]
      exact .number h (isRun_takeWhile _ _)
    · exact lexeme_cutSlash rest
    · exact lexeme_cutString rest
  · rw [cut_symbol hother]
    exact .symbol hother

theorem cutRun_of_isRun (kind : LexemeKind) (h : IsRun p run rest) :
    cutRun kind p c (run ++ rest) = ⟨kind, c :: run, rest⟩ := by
  rw [cutRun, h.takeWhile_eq, h.dropWhile_eq]

/-- The grammar is unambiguous: the lexeme at the front of a source is the one that is cut off. -/
theorem Lexeme.cut_eq {kind : LexemeKind} {tail : List CodePoint} (h : Lexeme kind (c :: tail) rest) :
    cut c (tail ++ rest) = ⟨kind, c :: tail, rest⟩ := by
  cases h with
  | lineFeed => rfl
  | blanks hc hrun => rw [cut_blank hc, cutRun_of_isRun _ hrun]
  | lineComment hrun =>
      rw [List.cons_append, cut_slash, cutSlash.eq_1, hrun.takeWhile_eq, hrun.dropWhile_eq]
  | blockComment _ hfirst =>
      rename_i body
      have hclose : closeComment? [.char '*', .char '/'] (body ++ .char '*' :: .char '/' :: rest) =
          some (.char '/' :: .char '*' :: (body ++ [.char '*', .char '/']), rest) :=
        closeComment?_eq_some_iff.mpr ⟨body, by simp, rfl, hfirst⟩
      rw [List.cons_append, List.append_assoc, cut_slash, cutSlash.eq_2, cutComment]
      simp only [List.cons_append, List.nil_append, hclose]
  | openComment hopen =>
      have hclose : closeComment? [.char '*', .char '/'] rest = none :=
        closeComment?_eq_none_iff.mpr hopen
      simp only [List.cons_append, List.nil_append, cut_slash, cutSlash.eq_2, cutComment, hclose]
  | string _ hbody =>
      rename_i body
      have hclose : closeString? [.char '"'] (body ++ .char '"' :: rest) =
          some (.char '"' :: (body ++ [.char '"']), rest) := by
        rw [hbody.closeString?_eq]
        simp
      rw [List.append_assoc, cut_quote, cutString]
      simp only [List.cons_append, List.nil_append, hclose]
  | identifier hc hrun => rw [cut_identifier hc, cutRun_of_isRun _ hrun]
  | number hc hrun => rw [cut_digit hc, cutRun_of_isRun _ hrun]
  | symbol hother =>
      rw [List.nil_append, cut_symbol hother]
      rfl

end Conformance.Source
