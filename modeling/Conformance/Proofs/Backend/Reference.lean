import Conformance.Proofs.Backend.Comment
import Conformance.Backend.Reference
import Conformance.Proofs.Source.Structure
import Mathlib.Data.List.Induction

/-!
# What the reference backend accepts and remembers

The reference compiler accepts exactly the sources that have tokens, nest their brackets and balance their
modules.  What stands inside strings and comments has no part in it.

Blanks, comments and places have no part in what the reference compiler finds: sources whose tokens are spelled alike
are accepted alike, with one tree and the same errors.  One such source is made of the tokens alone, each on a line of
its own.  A line feed keeps tokens apart: no run goes over it, it ends no string that is not ended before, and a slash
in front of it begins no comment.

A reference compiler remembers the counters of one source.  These are the counters of the result that it gave last,
unless the source could not be cut into tokens: such a source is forgotten, and what was remembered before stays.

Main results:

- `Backend.Reference.success_compile_iff`: when a source is accepted.
- `Backend.Reference.success_around_inert`: when a source around a comment or a string is accepted.
- `Backend.Reference.accepted_language`: both, together with the independence of the conditions on brackets and on
  modules.
- `Source.Lexeme.before_ending`: a token is cut off alike in front of a line feed and at the end of a source.
- `Source.tokenize_reprint`: the tokens on lines of their own are the tokens of what is printed.
- `Backend.Reference.sameFindings_of_spelling`: sources that are spelled alike.
- `Backend.Reference.reprinted_alike`: both together.
- `Backend.Reference.lastMetrics_behind`: what is remembered behind sources that were compiled in turn.
- `Backend.Reference.lastMetrics_compile`: what is remembered behind one more source, and when this is what its result
  tells.
-/

namespace Conformance

open Text

/-! ## The language -/

namespace Backend.Reference

open Source

variable {source : Text} {before piece other rest : List CodePoint} {tokens : List Token}

theorem success_judge (warns : Bool) (source : Text) (tokens : List Token) :
    (judge warns source tokens).success = true ↔ structureErrors tokens = [] := by
  unfold judge
  cases structureErrors tokens <;> simp

/-- A source is accepted if it has tokens whose structure has no errors. -/
theorem success_compile_iff (r : Reference) (source : Text) :
    (r.compile source).1.success = true ↔
      ∃ tokens, tokenize source = .ok tokens ∧ WellNested (bracketWord tokens) ∧
        Balanced (moduleWord tokens) := by
  simp only [compile, result]
  cases tokenize source with
  | error place => simp
  | ok tokens => simp [success_judge, structureErrors_eq_nil_iff]

/-! ### Strings and comments -/

/-- Gaps and strings hold nothing that counts. -/
def IsInert (kind : LexemeKind) : Prop :=
  kind = .gap ∨ kind = .token .string

/-- An inert lexeme is tiled by tokens that add nothing to the words. -/
theorem exists_tiling_of_inert {kind : LexemeKind} (hkind : IsInert kind) (hpiece : Lexeme kind piece rest)
    (before : List CodePoint) :
    ∃ tokens, Tiling before piece tokens rest ∧ bracketWord tokens = [] ∧ moduleWord tokens = [] := by
  rcases hkind with rfl | rfl
  · have htiling : Tiling before (piece ++ []) [] rest := .gap hpiece (.done _ rest)
    rw [List.append_nil] at htiling
    exact ⟨[], htiling, rfl, rfl⟩
  · have htiling : Tiling before (piece ++ []) [tokenBehind before .string piece] rest :=
      .token hpiece (.done _ rest)
    rw [List.append_nil] at htiling
    exact ⟨_, htiling, rfl, rfl⟩

/-- A source around an inert lexeme has the words of what stands in front of it and behind it. -/
theorem exists_tokens_around_inert {kind : LexemeKind} {later : List Token} (hkind : IsInert kind)
    (hpiece : Lexeme kind piece rest) (hbefore : Tiling [] before tokens (piece ++ rest))
    (hlater : Tiling [] rest later []) :
    ∃ all, tokenize (ofList (before ++ piece ++ rest)) = .ok all ∧
      bracketWord all = bracketWord tokens ++ bracketWord later ∧
      moduleWord all = moduleWord tokens ++ moduleWord later := by
  obtain ⟨inert, hinert, hbrackets, hmodules⟩ := exists_tiling_of_inert hkind hpiece ([] ++ before)
  obtain ⟨moved, hmoved, hspelling⟩ := hlater.move ([] ++ (before ++ piece))
  rw [← List.append_nil rest] at hinert hbefore
  have hwhole := (hbefore.append hinert).append hmoved
  refine ⟨(tokens ++ inert) ++ moved, Tiling.tokenize_eq hwhole, ?_, ?_⟩
  · have hword := bracketWord_of_spelling hspelling
    unfold bracketWord at hbrackets hword ⊢
    rw [wordOf_append, wordOf_append, hbrackets, List.append_nil, hword]
  · have hword := moduleWord_of_spelling hspelling
    unfold moduleWord at hmodules hword ⊢
    rw [wordOf_append, wordOf_append, hmodules, List.append_nil, hword]

/-- Whether a source around an inert lexeme is accepted does not depend on that lexeme. -/
theorem success_around_inert (r : Reference) {kind : LexemeKind} (hkind : IsInert kind)
    (hpiece : Lexeme kind piece rest) (hbefore : Tiling [] before tokens (piece ++ rest)) :
    (r.compile (ofList (before ++ piece ++ rest))).1.success = true ↔
      ∃ later, Tiling [] rest later [] ∧ WellNested (bracketWord tokens ++ bracketWord later) ∧
        Balanced (moduleWord tokens ++ moduleWord later) := by
  rw [success_compile_iff]
  constructor
  · rintro ⟨all, hall, hnested, hbalanced⟩
    rcases exists_tiling [] rest with ⟨later, hlater⟩ | ⟨text, later, unclosed, rfl, hopen, hlater⟩
    · obtain ⟨found, hfound, hbrackets, hmodules⟩ :=
        exists_tokens_around_inert hkind hpiece hbefore hlater
      rw [hall] at hfound
      cases hfound
      exact ⟨later, hlater, hbrackets ▸ hnested, hmodules ▸ hbalanced⟩
    · -- an unclosed comment behind the lexeme leaves the source without tokens
      obtain ⟨inert, hinert, -, -⟩ := exists_tiling_of_inert hkind hpiece ([] ++ before)
      obtain ⟨moved, hmoved, -⟩ := hlater.move ([] ++ (before ++ piece))
      have hfront := (hbefore.append hinert).append hmoved
      have hsource : (ofList (before ++ piece ++ (text ++ .char '/' :: .char '*' :: unclosed))).toList =
          (before ++ piece ++ text) ++ .char '/' :: .char '*' :: unclosed := by
        simp
      rw [Tiling.tokenize_eq_error hsource hopen hfront] at hall
      cases hall
  · rintro ⟨later, hlater, hnested, hbalanced⟩
    obtain ⟨all, hall, hbrackets, hmodules⟩ := exists_tokens_around_inert hkind hpiece hbefore hlater
    exact ⟨all, hall, hbrackets ▸ hnested, hmodules ▸ hbalanced⟩

/-! ### Independence -/

theorem not_wellNested_opening (b : Bracket) : ¬WellNested [b.opening] := by
  intro h
  have hcompletes : Completes [b] [] := completes_opening_iff.mp (.nil h)
  exact absurd (completes_nil_iff.mp hcompletes) (List.cons_ne_nil b [])

theorem not_balanced_start {value : Text} (h : isModuleStart value = true) : ¬Balanced [value] := by
  rw [← balancedFrom_zero, balancedFrom_start_iff h, balancedFrom_nil_iff]
  exact Nat.succ_ne_zero 0

/-- A round bracket is a symbol, whatever stands behind it. -/
theorem lexeme_round (rest : List CodePoint) : Lexeme (.token .symbol) [.char '('] rest := by
  refine .symbol (not_beginsOther (by decide) ?_ ?_)
  · exact fun h => absurd h (by decide)
  · exact fun h => absurd h (by decide)

/-- Whether the brackets of a source are nested says nothing about whether its modules are balanced. -/
theorem exists_source_of_conditions (nested balanced : Bool) :
    ∃ source tokens, tokenize source = .ok tokens ∧
      (WellNested (bracketWord tokens) ↔ nested = true) ∧
      (Balanced (moduleWord tokens) ↔ balanced = true) := by
  have hbalanced : Balanced [] := balancedFrom_zero.mp (balancedFrom_nil_iff.mpr rfl)
  have hround : ¬WellNested ["("] := not_wellNested_opening .round
  have hmodule : ¬Balanced ["module"] := not_balanced_start (by decide)
  have hword : Lexeme (.token .identifier) ("module" : Text).toList [] :=
    .identifier (by decide) ⟨by decide, by decide⟩
  have hwords (before : List CodePoint) : Tiling before (("module" : Text).toList ++ []) _ [] :=
    .token hword (.done _ [])
  cases nested with
  | true =>
      cases balanced with
      | true =>
          exact ⟨"", _, Tiling.tokenize_eq (.done [] []), iff_of_true .nil rfl,
            iff_of_true hbalanced rfl⟩
      | false =>
          exact ⟨"module", _, Tiling.tokenize_eq (hwords []), iff_of_true .nil rfl,
            iff_of_false hmodule Bool.false_ne_true⟩
  | false =>
      cases balanced with
      | true =>
          have hbracket : Tiling [] ([.char '('] ++ []) _ [] := .token (lexeme_round []) (.done _ [])
          exact ⟨"(", _, Tiling.tokenize_eq hbracket, iff_of_false hround Bool.false_ne_true,
            iff_of_true hbalanced rfl⟩
      | false =>
          have hboth : Tiling [] ([.char '('] ++ (("module" : Text).toList ++ [])) _ [] :=
            .token (lexeme_round _) (hwords _)
          exact ⟨"(module", _, Tiling.tokenize_eq hboth, iff_of_false hround Bool.false_ne_true,
            iff_of_false hmodule Bool.false_ne_true⟩

/-- The reference compiler accepts exactly the sources that have tokens, whose brackets are nested and whose
module keywords are balanced.  Neither of the last two conditions follows from the other or from its
negation, and what stands inside a string or between tokens can be exchanged without changing the verdict. -/
theorem accepted_language :
    (∀ (r : Reference) (source : Text), (r.compile source).1.success = true ↔
      ∃ tokens, tokenize source = .ok tokens ∧ WellNested (bracketWord tokens) ∧
        Balanced (moduleWord tokens)) ∧
    (∀ nested balanced : Bool, ∃ source tokens, tokenize source = .ok tokens ∧
      (WellNested (bracketWord tokens) ↔ nested = true) ∧
      (Balanced (moduleWord tokens) ↔ balanced = true)) ∧
    ∀ (r : Reference) (before piece other rest : List CodePoint) (tokens : List Token)
      (kind otherKind : LexemeKind), IsInert kind → IsInert otherKind →
      Lexeme kind piece rest → Lexeme otherKind other rest →
      Tiling [] before tokens (piece ++ rest) → Tiling [] before tokens (other ++ rest) →
      (r.compile (ofList (before ++ piece ++ rest))).1.success =
        (r.compile (ofList (before ++ other ++ rest))).1.success := by
  refine ⟨success_compile_iff, exists_source_of_conditions, ?_⟩
  intro r before piece other rest tokens kind otherKind hkind hotherKind hpiece hother hbefore hbefore'
  rw [Bool.eq_iff_iff, success_around_inert r hkind hpiece hbefore,
    success_around_inert r hotherKind hother hbefore']

/-- A bracket inside a comment counts as little as one inside a string. -/
theorem accepted_language_around_bracket :
    ((create true).compile (ofList ([] ++ ("/*(*/" : Text).toList ++ ("()" : Text).toList))).1.success =
      ((create true).compile (ofList ([] ++ ("\"(\"" : Text).toList ++ ("()" : Text).toList))).1.success := by
  have hcomment : Lexeme .gap ("/*(*/" : Text).toList ("()" : Text).toList :=
    @Lexeme.blockComment [.char '('] _ (by unfold ClosesComment; decide)
  have hstring : Lexeme (.token .string) ("\"(\"" : Text).toList ("()" : Text).toList :=
    .string _ (.plain (by decide) (by decide) (by decide) .nil)
  exact accepted_language.2.2 (create true) [] _ _ _ [] .gap (.token .string) (.inl rfl) (.inr rfl)
    hcomment hstring (.done _ _) (.done _ _)

end Backend.Reference

namespace Source

variable {before text rest ending piece : List CodePoint} {tokens others : List Token} {source : Text}

/-! ## Tokens on lines of their own -/

/-- The tokens of a source, one to a line. -/
def reprint (tokens : List Token) : Text :=
  Text.intercalate "\n" (tokens.map Token.value)

/-- A text ends, or a line feed stands at its front. -/
def EndsLine (ending : List CodePoint) : Prop :=
  ∀ c ∈ ending.head?, c = .char '\n'

theorem endsLine_nil : EndsLine [] :=
  nofun

theorem endsLine_lineFeed (rest : List CodePoint) : EndsLine (.char '\n' :: rest) := by
  rintro c ⟨⟩
  rfl

theorem EndsLine.isRun {p : CodePoint → Bool} {run : List CodePoint} (h : EndsLine ending)
    (hall : ∀ c ∈ run, p c = true) (hline : p (.char '\n') = false) : IsRun p run ending where
  all := hall
  ends c hc := by rwa [h c hc]

/-- No string is closed behind the end of its line. -/
theorem EndsLine.not_closesString (h : EndsLine ending) : ¬ClosesString ending := by
  rintro ⟨body, rest, hbody, rfl⟩
  cases hbody with
  | nil => exact absurd (h _ rfl) (by decide)
  | escape => exact absurd (h _ rfl) (by decide)
  | plain _ _ hline => exact hline (h _ rfl)

/-- A character that begins nothing longer begins nothing longer at the end of a line. -/
theorem EndsLine.not_beginsOther {c : CodePoint} (h : EndsLine ending) (hother : ¬BeginsOther c rest) :
    ¬BeginsOther c ending := by
  rintro (hc | hc | hc | hc | ⟨-, more, rfl | rfl⟩ | ⟨-, hclose⟩)
  · exact hother (.inl hc)
  · exact hother (.inr (.inl hc))
  · exact hother (.inr (.inr (.inl hc)))
  · exact hother (.inr (.inr (.inr (.inl hc))))
  · exact absurd (h _ rfl) (by decide)
  · exact absurd (h _ rfl) (by decide)
  · exact h.not_closesString hclose

/-- A token is cut off alike at the end of a line. -/
theorem Lexeme.before_ending {kind : TokenKind} (h : Lexeme (.token kind) piece rest) (hending : EndsLine ending) :
    Lexeme (.token kind) piece ending := by
  cases h with
  | string _ hbody => exact .string _ hbody
  | identifier hc hrun => exact .identifier hc (hending.isRun hrun.all (by decide))
  | number hc hrun => exact .number hc (hending.isRun hrun.all (by decide))
  | symbol hother => exact .symbol (hending.not_beginsOther hother)

/-- A token that is cut off in front of what ends a line. -/
def Token.StandsAlone (t : Token) : Prop :=
  ∀ ending, EndsLine ending → Lexeme (.token t.kind) t.value.toList ending

/-- The tokens of a tiling can stand alone. -/
theorem Tiling.standsAlone (h : Tiling before text tokens rest) : ∀ t ∈ tokens, t.StandsAlone := by
  induction h with
  | done => exact nofun
  | gap _ _ ih => exact ih
  | token hlexeme _ ih => exact List.forall_mem_cons.mpr ⟨fun _ hending => hlexeme.before_ending hending, ih⟩

theorem reprint_singleton (t : Token) : reprint [t] = t.value :=
  intercalate_singleton _ _

theorem toList_reprint_cons_cons (t u : Token) (tokens : List Token) :
    (reprint (t :: u :: tokens)).toList = t.value.toList ++ .char '\n' :: (reprint (u :: tokens)).toList := by
  rw [reprint, List.map_cons, List.map_cons, intercalate_cons_cons]
  exact List.append_assoc _ _ _

/-- Tokens that can stand alone tile the lines that they are printed on. -/
theorem exists_tiling_reprint (h : ∀ t ∈ tokens, t.StandsAlone) (before : List CodePoint) :
    ∃ again, Tiling before (reprint tokens).toList again [] ∧
      again.map Token.spelling = tokens.map Token.spelling := by
  induction tokens generalizing before with
  | nil => exact ⟨[], .done before [], rfl⟩
  | cons t tokens ih =>
      obtain ⟨halone, hrest⟩ := List.forall_mem_cons.mp h
      cases tokens with
      | nil =>
          have hlexeme := halone [] endsLine_nil
          rw [reprint_singleton, ← List.append_nil t.value.toList]
          exact ⟨[tokenBehind before t.kind t.value.toList], .token hlexeme (.done _ []), rfl⟩
      | cons u tokens =>
          obtain ⟨again, htiling, hspelling⟩ := ih hrest (before ++ t.value.toList ++ [.char '\n'])
          have hlexeme := halone (.char '\n' :: (reprint (u :: tokens)).toList ++ []) (endsLine_lineFeed _)
          rw [toList_reprint_cons_cons]
          refine ⟨tokenBehind before t.kind t.value.toList :: again, .token hlexeme (.gap (.lineFeed _) htiling), ?_⟩
          rw [List.map_cons, hspelling]
          rfl

/-- The tokens of a source, one to a line, are cut into tokens that are spelled alike. -/
theorem tokenize_reprint (h : tokenize source = .ok tokens) :
    ∃ again, tokenize (reprint tokens) = .ok again ∧ again.map Token.spelling = tokens.map Token.spelling := by
  obtain ⟨again, htiling, hspelling⟩ := exists_tiling_reprint (tokenize_eq_ok_iff.mp h).standsAlone []
  exact ⟨again, htiling.tokenize_eq, hspelling⟩

/-- Printing what was printed gives the same text. -/
theorem reprint_of_spelling (h : tokens.map Token.spelling = others.map Token.spelling) :
    reprint tokens = reprint others := by
  have hvalues : ∀ list : List Token, list.map Token.value = (list.map Token.spelling).map Prod.snd := by
    intro list
    rw [List.map_map]
    rfl
  rw [reprint, reprint, hvalues, hvalues, h]

/-! ## Tokens without places -/

/-- A token that stands nowhere. -/
def Token.unplaced (t : Token) : Token :=
  { t with line := 0, column := 0 }

/-- An error that stands nowhere. -/
def errorUnplaced (e : CompileError) : CompileError :=
  { e with line := 0, column := 0 }

theorem keepsSpelling_unplaced : KeepsSpelling Token.unplaced errorUnplaced :=
  ⟨fun _ => rfl, fun _ _ => rfl⟩

/-- Without their places, tokens that are spelled alike are the same. -/
theorem unplaced_of_spelling (h : tokens.map Token.spelling = others.map Token.spelling) :
    tokens.map Token.unplaced = others.map Token.unplaced := by
  have hunplaced : ∀ list : List Token,
      list.map Token.unplaced = (list.map Token.spelling).map fun (kind, value) => ⟨kind, value, 0, 0⟩ := by
    intro list
    rw [List.map_map]
    rfl
  rw [hunplaced, hunplaced, h]

/-- The errors about tokens that are spelled alike differ in their places at most. -/
theorem structureErrors_of_spelling (h : tokens.map Token.spelling = others.map Token.spelling) :
    (structureErrors tokens).map errorUnplaced = (structureErrors others).map errorUnplaced := by
  rw [← keepsSpelling_unplaced.structureErrors_map, unplaced_of_spelling h, keepsSpelling_unplaced.structureErrors_map]

theorem moduleName_of_spelling (h : tokens.map Token.spelling = others.map Token.spelling) :
    moduleName tokens = moduleName others := by
  rw [← keepsSpelling_unplaced.moduleName_map, unplaced_of_spelling h, keepsSpelling_unplaced.moduleName_map]

end Source

/-! ## Results -/

namespace Backend.Reference

open Source

variable {a b : Text} {tokens others : List Token}

/-- The verdict on tokens does not depend on more than how they are spelled. -/
theorem sameFindings_judge (h : tokens.map Token.spelling = others.map Token.spelling) (warns warns' : Bool)
    (a b : Text) : SameFindings (judge warns a tokens) (judge warns' b others) := by
  have herrors := structureErrors_of_spelling h
  unfold judge
  rw [moduleName_of_spelling h]
  cases hfirst : structureErrors tokens with
  | nil =>
      rw [hfirst, List.map_nil, eq_comm, List.map_eq_nil_iff] at herrors
      rw [herrors]
      exact ⟨rfl, rfl, rfl⟩
  | cons e errors =>
      rw [hfirst] at herrors
      cases hsecond : structureErrors others with
      | nil => simp [hsecond] at herrors
      | cons e' errors' =>
          rw [hsecond] at herrors
          refine ⟨rfl, rfl, ?_⟩
          have hmessages := congrArg (List.map (·.message)) herrors
          rwa [List.map_map, List.map_map] at hmessages

/-- Sources whose tokens are spelled alike get the same verdict. -/
theorem sameFindings_of_spelling (ha : tokenize a = .ok tokens) (hb : tokenize b = .ok others)
    (h : tokens.map Token.spelling = others.map Token.spelling) (warns warns' : Bool) :
    SameFindings (result warns a) (result warns' b) := by
  unfold result
  rw [ha, hb]
  exact sameFindings_judge h warns warns' a b

/-- The tokens of a source, each on a line of its own, are a source with tokens of the same kinds and texts, which is
printed as it stands.  Sources with tokens of the same kinds and texts are accepted alike, with one tree and the same
errors, whatever stands between the tokens; so a source and its tokens on lines of their own are. -/
theorem reprinted_alike :
    (∀ source tokens, tokenize source = .ok tokens →
      ∃ again, tokenize (reprint tokens) = .ok again ∧ again.map Token.spelling = tokens.map Token.spelling ∧
        reprint again = reprint tokens) ∧
    ∀ (r s : Reference) (a b : Text) (tokens others : List Token), tokenize a = .ok tokens → tokenize b = .ok others →
      tokens.map Token.spelling = others.map Token.spelling → SameFindings (r.compile a).1 (s.compile b).1 := by
  refine ⟨fun source tokens h => ?_, fun r s a b tokens others ha hb h => ?_⟩
  · obtain ⟨again, hagain, hspelling⟩ := tokenize_reprint h
    exact ⟨again, hagain, hspelling, reprint_of_spelling hspelling⟩
  · exact sameFindings_of_spelling ha hb h r.warns s.warns

/-- A string goes over the end of its line, and a lone quote, a slash and a star stay apart on lines of their own; a
comment between tokens does not move an error to another token. -/
theorem reprinted_alike_apart :
    tokenize "\"\\\n\"/ *)\"" = .ok [⟨.string, "\"\\\n\"", 1, 1⟩, ⟨.symbol, "/", 2, 2⟩, ⟨.symbol, "*", 2, 4⟩,
        ⟨.symbol, ")", 2, 5⟩, ⟨.symbol, "\"", 2, 6⟩] ∧
      (∃ again, tokenize "\"\\\n\"\n/\n*\n)\n\"" = .ok again ∧
        again.map Token.spelling = ([(.string, "\"\\\n\""), (.symbol, "/"), (.symbol, "*"), (.symbol, ")"),
          (.symbol, "\"")] : List (TokenKind × Text))) ∧
      SameFindings ((create true).compile "x/*(*/)").1 ((create false).compile "x // [\n )").1 := by
  have htokens : tokenize "\"\\\n\"/ *)\"" = .ok [⟨.string, "\"\\\n\"", 1, 1⟩, ⟨.symbol, "/", 2, 2⟩,
      ⟨.symbol, "*", 2, 4⟩, ⟨.symbol, ")", 2, 5⟩, ⟨.symbol, "\"", 2, 6⟩] := by decide +kernel
  have ha : tokenize "x/*(*/)" = .ok [⟨.identifier, "x", 1, 1⟩, ⟨.symbol, ")", 1, 7⟩] := by decide +kernel
  have hb : tokenize "x // [\n )" = .ok [⟨.identifier, "x", 1, 1⟩, ⟨.symbol, ")", 2, 2⟩] := by decide +kernel
  obtain ⟨again, hagain, hspelling, -⟩ := reprinted_alike.1 _ _ htokens
  exact ⟨htokens, ⟨again, hagain, hspelling⟩, reprinted_alike.2 _ _ _ _ _ _ ha hb rfl⟩

end Backend.Reference

/-! ## What is remembered -/

namespace Backend.Reference

open Source

variable {r : Reference} {warns : Bool} {source : Text} {sources : List Text}

/-! ### Sources without tokens -/

/-- A result tells of a source that could not be cut into tokens. -/
def IsLexical (found : CompileResult) : Prop :=
  ∃ e ∈ found.errors, e.category = .lexical

instance (found : CompileResult) : Decidable (IsLexical found) :=
  inferInstanceAs (Decidable (∃ e ∈ found.errors, e.category = .lexical))

theorem not_isLexical_judge (warns : Bool) (source : Text) (tokens : List Token) :
    ¬IsLexical (judge warns source tokens) := by
  rintro ⟨e, he, hlexical⟩
  unfold judge at he
  dsimp only at he
  split at he
  · cases he
  · rw [category_of_mem_structureErrors he] at hlexical
    cases hlexical

/-- A result tells so exactly if the source has no tokens. -/
theorem isLexical_result_iff : IsLexical (result warns source) ↔ ∃ place, tokenize source = .error place := by
  unfold result
  cases tokenize source with
  | error place => exact iff_of_true ⟨lexicalError place, List.mem_singleton_self _, rfl⟩ ⟨place, rfl⟩
  | ok tokens => exact iff_of_false (not_isLexical_judge warns source tokens) nofun

theorem hasTokens_eq_true_iff (warns : Bool) : hasTokens source = true ↔ ¬IsLexical (result warns source) := by
  rw [isLexical_result_iff, hasTokens]
  cases tokenize source with
  | error place => exact iff_of_false Bool.false_ne_true (not_not_intro ⟨place, rfl⟩)
  | ok tokens => exact iff_of_true rfl nofun

/-! ### One source -/

theorem compile_eq (r : Reference) (source : Text) :
    r.compile source = (result r.warns source,
      if IsLexical (result r.warns source) then r
      else { r with lastMetrics := (result r.warns source).metrics }) := by
  unfold compile
  dsimp only
  by_cases hlexical : IsLexical (result r.warns source)
  · rw [if_pos hlexical, if_neg fun htokens => (hasTokens_eq_true_iff r.warns).mp htokens hlexical]
  · rw [if_neg hlexical, if_pos ((hasTokens_eq_true_iff r.warns).mpr hlexical)]

/-! ### Sources in turn -/

/-- A compiler behind sources that were compiled in turn. -/
def behind (r : Reference) (sources : List Text) : Reference :=
  sources.foldl (fun r source => (r.compile source).2) r

theorem behind_concat (r : Reference) (sources : List Text) (source : Text) :
    r.behind (sources ++ [source]) = ((r.behind sources).compile source).2 :=
  List.foldl_append

/-- Compiling does not change whether warnings are given. -/
theorem warns_behind (r : Reference) (sources : List Text) : (r.behind sources).warns = r.warns := by
  induction sources using List.reverseRecOn with
  | nil => rfl
  | append_singleton sources source ih =>
      rw [behind_concat, compile_eq]
      dsimp only
      split
      · exact ih
      · exact ih

/-- The results for sources of which there are tokens. -/
def tokenized (warns : Bool) (sources : List Text) : List CompileResult :=
  (sources.map (result warns)).filter fun found => ¬IsLexical found

/-- What is remembered behind sources are the counters of the last result for one with tokens. -/
theorem lastMetrics_behind (r : Reference) (sources : List Text) :
    (r.behind sources).lastMetrics =
      ((tokenized r.warns sources).getLast?.map (·.metrics)).getD r.lastMetrics := by
  induction sources using List.reverseRecOn with
  | nil => rfl
  | append_singleton sources source ih =>
      rw [behind_concat, compile_eq, warns_behind, tokenized, List.map_append, List.filter_append, ← tokenized]
      by_cases hlexical : IsLexical (result r.warns source)
      · simpa [hlexical] using ih
      · simp [hlexical]

/-- Behind sources that were compiled in turn, one more is compiled.  If it has tokens, accepted or not, the counters of
its result are remembered.  If not, what was remembered before is kept, which are the counters of the last result for a
source with tokens, and none if there was no such source; these are the counters of the new result only by chance. -/
theorem lastMetrics_compile (r : Reference) (sources : List Text) (source : Text) :
    let before := r.behind sources
    let found := (before.compile source).1
    let later := (before.compile source).2
    found = result r.warns source ∧
      (IsLexical found ↔ ∃ place, tokenize source = .error place) ∧
      (¬IsLexical found → later.lastMetrics = found.metrics) ∧
      (IsLexical found → later = before) ∧
      before.lastMetrics = ((tokenized r.warns sources).getLast?.map (·.metrics)).getD r.lastMetrics ∧
      (later.lastMetrics = found.metrics ↔ (IsLexical found → before.lastMetrics = found.metrics)) := by
  intro before found later
  have hwarns : before.warns = r.warns := warns_behind r sources
  have hfound : found = result r.warns source := congrArg (result · source) hwarns
  have hlater : later = if IsLexical found then before else { before with lastMetrics := found.metrics } :=
    congrArg Prod.snd (compile_eq before source)
  refine ⟨hfound, hfound ▸ isLexical_result_iff, fun htokens => ?_, fun hlexical => ?_,
    lastMetrics_behind r sources, ?_⟩
  · rw [hlater, if_neg htokens]
  · rw [hlater, if_pos hlexical]
  · by_cases hlexical : IsLexical found
    · rw [hlater, if_pos hlexical]
      exact ⟨fun hsame _ => hsame, fun hsame => hsame hlexical⟩
    · rw [hlater, if_neg hlexical]
      exact iff_of_true rfl fun h => absurd h hlexical

/-- Behind an accepted source and one with a stray bracket, one with an open comment leaves the counters of the second. -/
theorem lastMetrics_compile_stale :
    ((create true).behind ["module m; endmodule", "x )", "/*"]).lastMetrics =
        { CompileMetrics.zero with linesProcessed := 1, tokensProcessed := 2 } ∧
      (result true "/*").metrics = { CompileMetrics.zero with linesProcessed := 1 } := by
  obtain ⟨-, -, -, hkept, hlast, -⟩ := lastMetrics_compile (create true) ["module m; endmodule", "x )"] "/*"
  have hcomment : IsLexical (((create true).behind ["module m; endmodule", "x )"]).compile "/*").1 := by decide +kernel
  refine ⟨?_, by decide +kernel⟩
  exact (congrArg lastMetrics (hkept hcomment)).trans (hlast.trans (by decide +kernel))

end Backend.Reference

end Conformance
