import Conformance.Proofs.Source.Lexeme
import Conformance.Source.Token
import Conformance.Text.Lines

/-!
# Tilings of a source

A source on which the tokens are found is tiled by gaps and tokens, and each token bears the place at which
it begins.  A tiling is said by the grammar of lexemes and by counting line feeds, without scanning.

Main results:

- `exists_tiling`: every source is tiled up to its end or up to a block comment that is not closed.
- `Tiling.scan_eq`: scanning over a tiling finds its tokens.
- `tokenize_positions`: the tokens of a source are those of its tiling, and a source without tokens is tiled
  up to a block comment that is not closed.
-/

namespace Conformance.Source

open Conformance.Text

variable {before text rest piece : List CodePoint} {tokens done : List Token}

/-! ## Places -/

/-- The place behind a text: the line counts the line feeds, and the column the characters since the last
one, both from one. -/
def placeBehind (before : List CodePoint) : Place :=
  ⟨before.count (.char '\n') + 1, (before.reverse.takeWhile (· != .char '\n')).length + 1⟩

theorem placeBehind_nil : placeBehind [] = .start :=
  rfl

theorem placeBehind_concat (before : List CodePoint) (c : CodePoint) :
    placeBehind (before ++ [c]) = (placeBehind before).after c := by
  by_cases hline : c = .char '\n'
  · subst hline
    simp [placeBehind, Place.after]
  · simp [placeBehind, Place.after, hline]

/-- Going on from the place behind a text leads to the place behind both texts. -/
theorem placeBehind_append (before text : List CodePoint) :
    placeBehind (before ++ text) = (placeBehind before).advance text := by
  induction text generalizing before with
  | nil => simp
  | cons c text ih =>
      rw [List.append_cons, ih, placeBehind_concat, Place.advance_cons]

/-! ## Tilings -/

/-- The token that begins behind a text. -/
def tokenBehind (before : List CodePoint) (kind : TokenKind) (piece : List CodePoint) : Token :=
  ⟨kind, Text.ofList piece, (placeBehind before).line, (placeBehind before).column⟩

/-- A text, which stands between two others, is cut into gaps and tokens.  What follows it belongs to the
source as well, since it tells where a lexeme ends. -/
inductive Tiling : List CodePoint → List CodePoint → List Token → List CodePoint → Prop
  | done (before rest : List CodePoint) : Tiling before [] [] rest
  | gap {before piece text rest : List CodePoint} {tokens : List Token} :
      Lexeme .gap piece (text ++ rest) → Tiling (before ++ piece) text tokens rest →
        Tiling before (piece ++ text) tokens rest
  | token {kind : TokenKind} {before piece text rest : List CodePoint} {tokens : List Token} :
      Lexeme (.token kind) piece (text ++ rest) → Tiling (before ++ piece) text tokens rest →
        Tiling before (piece ++ text) (tokenBehind before kind piece :: tokens) rest

/-- Every source is tiled, up to its end or up to a block comment that is not closed. -/
theorem exists_tiling (before input : List CodePoint) :
    (∃ tokens, Tiling before input tokens []) ∨
      ∃ text tokens rest, input = text ++ .char '/' :: .char '*' :: rest ∧ ¬ClosesComment rest ∧
        Tiling before text tokens (.char '/' :: .char '*' :: rest) := by
  induction hn : input.length using Nat.strongRecOn generalizing before input with
  | ind n ih =>
      cases input with
      | nil => exact .inl ⟨[], .done before []⟩
      | cons c input =>
          have hlexeme := lexeme_cut c input
          have hsource := cut_append c input
          have hshorter := cut_rest_length c input
          generalize cut c input = piece at hlexeme hsource hshorter
          obtain ⟨kind, piece, left⟩ := piece
          have hrest := ih left.length (hn ▸ hshorter) (before ++ piece) left rfl
          rw [← hsource]
          cases kind with
          | openComment =>
              cases hlexeme with
              | openComment hopen => exact .inr ⟨[], [], left, rfl, hopen, .done before _⟩
          | gap =>
              rcases hrest with ⟨tokens, htiling⟩ | ⟨text, tokens, rest, rfl, hopen, htiling⟩
              · refine .inl ⟨tokens, .gap ?_ htiling⟩
                rwa [List.append_nil]
              · exact .inr ⟨piece ++ text, tokens, rest, by simp, hopen, .gap hlexeme htiling⟩
          | token kind =>
              rcases hrest with ⟨tokens, htiling⟩ | ⟨text, tokens, rest, rfl, hopen, htiling⟩
              · refine .inl ⟨tokenBehind before kind piece :: tokens, .token ?_ htiling⟩
                rwa [List.append_nil]
              · exact .inr ⟨piece ++ text, _, rest, by simp, hopen, .token hlexeme htiling⟩

/-! ## Parts of tilings -/

/-- A token without its place. -/
def Token.spelling (t : Token) : TokenKind × Text :=
  (t.kind, t.value)

/-- A tiling and one of the text behind it are a tiling of both texts. -/
theorem Tiling.append {more : List CodePoint} {later : List Token}
    (h : Tiling before text tokens (more ++ rest)) (hlater : Tiling (before ++ text) more later rest) :
    Tiling before (text ++ more) (tokens ++ later) rest := by
  generalize hwhole : more ++ rest = whole at h
  induction h with
  | done => simpa using hlater
  | gap hlexeme _ ih =>
      subst hwhole
      rw [← List.append_assoc] at hlater
      rw [List.append_assoc]
      refine .gap ?_ (ih hlater rfl)
      rwa [List.append_assoc]
  | token hlexeme _ ih =>
      subst hwhole
      rw [← List.append_assoc] at hlater
      rw [List.append_assoc]
      refine .token ?_ (ih hlater rfl)
      rwa [List.append_assoc]

/-- A text is tiled alike behind any other text; only the places of its tokens change. -/
theorem Tiling.move (h : Tiling before text tokens rest) (other : List CodePoint) :
    ∃ moved, Tiling other text moved rest ∧ moved.map Token.spelling = tokens.map Token.spelling := by
  induction h generalizing other with
  | done => exact ⟨[], .done other _, rfl⟩
  | @gap _ piece _ _ _ hlexeme _ ih =>
      obtain ⟨moved, hmoved, hspelling⟩ := ih (other ++ piece)
      exact ⟨moved, .gap hlexeme hmoved, hspelling⟩
  | @token kind _ piece _ _ _ hlexeme _ ih =>
      obtain ⟨moved, hmoved, hspelling⟩ := ih (other ++ piece)
      refine ⟨tokenBehind other kind piece :: moved, .token hlexeme hmoved, ?_⟩
      rw [List.map_cons, List.map_cons, hspelling]
      rfl

/-! ## Scanning -/

theorem Lexeme.scan_gap (h : Lexeme .gap piece rest) (place : Place) :
    scan place done (piece ++ rest) = scan (place.advance piece) done rest := by
  obtain ⟨c, tail, rfl⟩ := h.exists_cons
  rw [List.cons_append, scan, h.cut_eq]

theorem Lexeme.scan_token {kind : TokenKind} (h : Lexeme (.token kind) piece rest) (place : Place) :
    scan place done (piece ++ rest) =
      scan (place.advance piece)
        (⟨kind, Text.ofList piece, place.line, place.column⟩ :: done) rest := by
  obtain ⟨c, tail, rfl⟩ := h.exists_cons
  rw [List.cons_append, scan, h.cut_eq]

theorem scan_openComment (h : ¬ClosesComment rest) (place : Place) :
    scan place done (.char '/' :: .char '*' :: rest) = .error ⟨place.line, place.column⟩ := by
  have hcut := (Lexeme.openComment h).cut_eq
  rw [List.cons_append, List.nil_append] at hcut
  rw [scan, hcut]

/-- Scanning over a tiling finds its tokens and arrives at the place behind it. -/
theorem Tiling.scan_eq (h : Tiling before text tokens rest) (done : List Token) :
    scan (placeBehind before) done (text ++ rest) =
      scan (placeBehind (before ++ text)) (tokens.reverse ++ done) rest := by
  induction h generalizing done with
  | done => simp
  | gap hlexeme _ ih =>
      rw [List.append_assoc, hlexeme.scan_gap, ← placeBehind_append, ih]
      simp
  | token hlexeme _ ih =>
      rw [List.append_assoc, hlexeme.scan_token, ← placeBehind_append]
      change scan _ (tokenBehind _ _ _ :: done) _ = _
      rw [ih]
      simp

/-- A source that is tiled up to its end has the tokens of the tiling. -/
theorem Tiling.tokenize_eq {source : Text} (h : Tiling [] source.toList tokens []) :
    tokenize source = .ok tokens := by
  have hscan := h.scan_eq []
  rw [List.append_nil, placeBehind_nil] at hscan
  rw [tokenize, hscan, scan, List.append_nil, List.reverse_reverse]

/-- A source that is tiled up to a block comment that is not closed has no tokens. -/
theorem Tiling.tokenize_eq_error {source : Text}
    (hsource : source.toList = before ++ .char '/' :: .char '*' :: rest) (hopen : ¬ClosesComment rest)
    (h : Tiling [] before tokens (.char '/' :: .char '*' :: rest)) :
    tokenize source = .error ⟨(placeBehind before).line, (placeBehind before).column⟩ := by
  have hscan := h.scan_eq []
  rw [placeBehind_nil] at hscan
  rw [tokenize, hsource, hscan, scan_openComment hopen, List.nil_append]

/-- The tokens of a source are those of its tiling. -/
theorem tokenize_eq_ok_iff {source : Text} :
    tokenize source = .ok tokens ↔ Tiling [] source.toList tokens [] := by
  refine ⟨?_, Tiling.tokenize_eq⟩
  intro h
  rcases exists_tiling [] source.toList with ⟨found, htiling⟩ | ⟨_, _, _, hsource, hopen, htiling⟩
  · rw [htiling.tokenize_eq] at h
    exact Except.ok.inj h ▸ htiling
  · rw [htiling.tokenize_eq_error hsource hopen] at h
    cases h

/-- A source has no tokens if it is tiled up to a block comment that is not closed. -/
theorem tokenize_eq_error_iff {source : Text} {place : LexicalError} :
    tokenize source = .error place ↔
      ∃ before tokens rest, source.toList = before ++ .char '/' :: .char '*' :: rest ∧
        ¬ClosesComment rest ∧ Tiling [] before tokens (.char '/' :: .char '*' :: rest) ∧
        place = ⟨(placeBehind before).line, (placeBehind before).column⟩ := by
  constructor
  · intro h
    rcases exists_tiling [] source.toList with
      ⟨found, htiling⟩ | ⟨before, found, rest, hsource, hopen, htiling⟩
    · rw [htiling.tokenize_eq] at h
      cases h
    · rw [htiling.tokenize_eq_error hsource hopen] at h
      exact ⟨before, found, rest, hsource, hopen, htiling, (Except.error.inj h).symm⟩
  · rintro ⟨before, tokens, rest, hsource, hopen, htiling, rfl⟩
    exact htiling.tokenize_eq_error hsource hopen

/-! ## Lines -/

/-- The tokens of a tiling begin on lines of the source. -/
theorem Tiling.line_mem (h : Tiling before text tokens rest) {t : Token} (ht : t ∈ tokens) :
    1 ≤ t.line ∧ t.line ≤ (before ++ text).count (.char '\n') + 1 := by
  induction h with
  | done => simp at ht
  | gap _ _ ih =>
      rw [← List.append_assoc]
      exact ih ht
  | @token kind before piece text rest tokens _ _ ih =>
      rcases List.mem_cons.mp ht with rfl | ht
      · simp only [tokenBehind, placeBehind, List.count_append]
        omega
      · rw [← List.append_assoc]
        exact ih ht

/-- The tokens of a source are those of its tiling by gaps and tokens, each with its kind, its text and the
place where it begins, and their lines are lines of the source.  A source has no tokens exactly if it is tiled
up to a block comment that is not closed, and then the place of that comment is reported. -/
theorem tokenize_positions (source : Text) :
    (∀ tokens, tokenize source = .ok tokens ↔ Tiling [] source.toList tokens []) ∧
    (∀ place, tokenize source = .error place ↔
      ∃ before tokens rest, source.toList = before ++ .char '/' :: .char '*' :: rest ∧
        ¬ClosesComment rest ∧ Tiling [] before tokens (.char '/' :: .char '*' :: rest) ∧
        place = ⟨(placeBehind before).line, (placeBehind before).column⟩) ∧
    ∀ tokens, tokenize source = .ok tokens →
      ∀ t ∈ tokens, 1 ≤ t.line ∧ t.line ≤ countLines source := by
  refine ⟨fun _ => tokenize_eq_ok_iff, fun _ => tokenize_eq_error_iff, ?_⟩
  intro tokens htokens t ht
  exact (tokenize_eq_ok_iff.mp htokens).line_mem ht

/-- A comment and a string that go over the end of a line move what follows them to the next one. -/
theorem tokenize_positions_across_lines :
    tokenize "/*\n*/\"\\\n\"x" = .ok [⟨.string, "\"\\\n\"", 2, 3⟩, ⟨.identifier, "x", 3, 2⟩] := by
  have hcomment : Lexeme .gap ("/*\n*/" : Text).toList ("\"\\\n\"x" : Text).toList :=
    @Lexeme.blockComment [.char '\n'] _ (by unfold ClosesComment; decide)
  have hstring : Lexeme (.token .string) ("\"\\\n\"" : Text).toList ("x" : Text).toList :=
    .string _ (.escape (.char '\n') .nil)
  have hname : Lexeme (.token .identifier) ("x" : Text).toList [] :=
    .identifier (by decide) ⟨by decide, by decide⟩
  have htiling : Tiling [] (("/*\n*/" : Text).toList ++ (("\"\\\n\"" : Text).toList ++
      (("x" : Text).toList ++ []))) _ [] :=
    .gap hcomment (.token hstring (.token hname (.done _ _)))
  exact ((tokenize_positions _).1 _).mpr htiling

end Conformance.Source
