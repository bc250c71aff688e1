import Conformance.Proofs.Source.Tiling
import Conformance.Proofs.Text.Lines
import Mathlib.Data.List.Induction

/-!
# Sources behind one another

Behind a text that is tiled by gaps and tokens, a source is cut as it is alone: its tokens lie further down, and
those on its first line further to the right.  A line feed cuts a source off from any text in front of it whose
tokens can be found, unless that text ends in a backslash, which could take the line feed along into a string.

Main results:

- `Tiling.behind`: behind a text, a source is tiled alike, and its tokens are moved.
- `tokenize_behind`: the tokens of a source behind a text that is tiled.
- `Tiling.before_lineFeed`: a tiling goes on in front of a line feed.
- `tokenize_lines`: the tokens of two sources with a line feed between them.
-/

namespace Conformance.Source

open Conformance.Text

variable {front before text rest piece more : List CodePoint} {tokens : List Token} {source : Text} {p : Place}

/-! ## Places behind a text -/

/-- The number of characters behind the last line feed of a text, or of all if there is none. -/
def lastWidth (front : List CodePoint) : Nat :=
  (front.reverse.takeWhile (· != .char '\n')).length

/-- Where a place in a source comes to lie behind a text: as many lines further down as the text has line feeds,
and on the first line as far to the right as the last line of the text goes. -/
def Place.behind (front : List CodePoint) (p : Place) : Place :=
  ⟨p.line + front.count (.char '\n'), if p.line = 1 then p.column + lastWidth front else p.column⟩

theorem lastWidth_concat_lineFeed (front : List CodePoint) : lastWidth (front ++ [.char '\n']) = 0 := by
  simp [lastWidth]

/-- A character moves a place alike behind a text. -/
theorem Place.behind_after (front : List CodePoint) (hline : 1 ≤ p.line) (c : CodePoint) :
    (p.after c).behind front = (p.behind front).after c := by
  unfold after behind
  by_cases hc : c = .char '\n'
  · have hnext : p.line + 1 ≠ 1 := by omega
    rw [if_pos hc, if_pos hc, if_neg hnext, Nat.add_right_comm]
  · rw [if_neg hc, if_neg hc]
    by_cases hfirst : p.line = 1
    · rw [if_pos hfirst, if_pos hfirst, Nat.add_right_comm]
    · rw [if_neg hfirst, if_neg hfirst]

/-- Behind a text in front of it, a text ends at the place at which it ends alone, moved. -/
theorem placeBehind_front (front before : List CodePoint) :
    placeBehind (front ++ before) = (placeBehind before).behind front := by
  induction before using List.reverseRecOn with
  | nil =>
      rw [List.append_nil, placeBehind, placeBehind_nil, Place.behind, Place.start, if_pos rfl]
      simp only [lastWidth, Nat.add_comm]
  | append_singleton before c ih =>
      have hline : 1 ≤ (placeBehind before).line := Nat.le_add_left 1 _
      rw [← List.append_assoc, placeBehind_concat, placeBehind_concat, ih, Place.behind_after front hline]

/-! ## Tokens behind a text -/

/-- The place where a token begins. -/
def Token.place (t : Token) : Place :=
  ⟨t.line, t.column⟩

/-- A token of a source that comes to stand behind a text. -/
def Token.behind (front : List CodePoint) (t : Token) : Token :=
  { t with line := (t.place.behind front).line, column := (t.place.behind front).column }

/-- The error of a source that comes to stand behind a text. -/
def LexicalError.behind (front : List CodePoint) (e : LexicalError) : LexicalError :=
  let place : Place := ⟨e.line, e.column⟩
  ⟨(place.behind front).line, (place.behind front).column⟩

theorem tokenBehind_front (front before : List CodePoint) (kind : TokenKind) (piece : List CodePoint) :
    tokenBehind (front ++ before) kind piece = (tokenBehind before kind piece).behind front := by
  unfold tokenBehind
  rw [placeBehind_front]
  rfl

/-- Behind a text, a source is tiled alike, and its tokens are moved. -/
theorem Tiling.behind (h : Tiling before text tokens rest) (front : List CodePoint) :
    Tiling (front ++ before) text (tokens.map (Token.behind front)) rest := by
  induction h with
  | done before rest => exact .done _ rest
  | gap hlexeme _ ih =>
      rw [← List.append_assoc] at ih
      exact .gap hlexeme ih
  | token hlexeme _ ih =>
      rw [← List.append_assoc] at ih
      rw [List.map_cons, ← tokenBehind_front]
      exact .token hlexeme ih

/-- Behind a text that is tiled, a source has its own tokens behind those of the text, or its own error. -/
theorem tokenize_behind (h : Tiling [] front tokens source.toList) :
    (∀ later, tokenize source = .ok later →
      tokenize (ofList (front ++ source.toList)) = .ok (tokens ++ later.map (Token.behind front))) ∧
    ∀ e, tokenize source = .error e → tokenize (ofList (front ++ source.toList)) = .error (e.behind front) := by
  constructor
  · intro later hlater
    have hsource := (tokenize_eq_ok_iff.mp hlater).behind front
    rw [List.append_nil] at hsource
    rw [← List.append_nil source.toList] at h
    exact (h.append hsource).tokenize_eq
  · intro e he
    obtain ⟨before, later, rest, hsource, hopen, htiling, rfl⟩ := tokenize_eq_error_iff.mp he
    have hbefore := htiling.behind front
    rw [List.append_nil] at hbefore
    rw [hsource] at h
    have hwhole : (ofList (front ++ source.toList)).toList = (front ++ before) ++ .char '/' :: .char '*' :: rest := by
      rw [hsource, List.append_assoc]
    rw [(h.append hbefore).tokenize_eq_error hwhole hopen, placeBehind_front]
    rfl

/-! ## Line feeds between sources -/

theorem IsRun.before_lineFeed {q : CodePoint → Bool} {run : List CodePoint} (h : IsRun q run rest)
    (hline : q (.char '\n') = false) (more : List CodePoint) : IsRun q run (rest ++ .char '\n' :: more) where
  all := h.all
  ends := by
    cases rest with
    | nil =>
        rintro c ⟨⟩
        exact hline
    | cons d rest => exact h.ends

/-- A line feed on its own ends the search for the end of a string, unless a backslash stands in front of it. -/
theorem closesString_of_lineFeed (h : ClosesString (rest ++ .char '\n' :: more))
    (hend : rest.getLast? ≠ some (.char '\\')) : ClosesString rest := by
  obtain ⟨body, tail, hbody, hinput⟩ := h
  induction hbody generalizing rest with
  | nil =>
      cases rest with
      | nil => cases hinput
      | cons c rest =>
          obtain ⟨rfl, -⟩ := List.cons.inj hinput
          exact ⟨[], rest, .nil, rfl⟩
  | @escape c body hbody ih =>
      cases rest with
      | nil => cases hinput
      | cons slash rest =>
          cases rest with
          | nil =>
              obtain ⟨rfl, -⟩ := List.cons.inj hinput
              exact absurd rfl hend
          | cons d rest =>
              simp only [List.cons_append, List.cons.injEq] at hinput
              obtain ⟨rfl, rfl, hinput⟩ := hinput
              have hend' : rest.getLast? ≠ some (.char '\\') := by
                intro hlast
                exact hend (getLast?_cons_of_getLast? (getLast?_cons_of_getLast? hlast))
              obtain ⟨inner, tail, hinner, rfl⟩ := ih hend' hinput
              exact ⟨.char '\\' :: d :: inner, tail, .escape d hinner, rfl⟩
  | @plain c body hquote hslash hline hbody ih =>
      cases rest with
      | nil =>
          obtain ⟨rfl, -⟩ := List.cons.inj hinput
          exact absurd rfl hline
      | cons d rest =>
          simp only [List.cons_append, List.cons.injEq] at hinput
          obtain ⟨rfl, hinput⟩ := hinput
          have hend' : rest.getLast? ≠ some (.char '\\') := fun hlast => hend (getLast?_cons_of_getLast? hlast)
          obtain ⟨inner, tail, hinner, rfl⟩ := ih hend' hinput
          exact ⟨d :: inner, tail, .plain hquote hslash hline hinner, rfl⟩

/-- Nothing longer than one character begins in front of a line feed that does not begin there anyway. -/
theorem beginsOther_of_lineFeed {c : CodePoint} (h : BeginsOther c (rest ++ .char '\n' :: more))
    (hend : rest.getLast? ≠ some (.char '\\')) : BeginsOther c rest := by
  rcases h with hc | hc | hc | hc | ⟨hc, tail, hrest⟩ | ⟨hc, hclose⟩
  · exact .inl hc
  · exact .inr (.inl hc)
  · exact .inr (.inr (.inl hc))
  · exact .inr (.inr (.inr (.inl hc)))
  · refine .inr (.inr (.inr (.inr (.inl ⟨hc, ?_⟩))))
    cases rest with
    | nil => rcases hrest with hrest | hrest <;> cases hrest
    | cons d rest =>
        refine ⟨rest, ?_⟩
        rcases hrest with hrest | hrest
        · exact .inl (by rw [(List.cons.inj hrest).1])
        · exact .inr (by rw [(List.cons.inj hrest).1])
  · exact .inr (.inr (.inr (.inr (.inr ⟨hc, closesString_of_lineFeed hclose hend⟩))))

/-- A lexeme that ends in a text ends at the same place if a line feed follows the text. -/
theorem Lexeme.before_lineFeed {kind : LexemeKind} (h : Lexeme kind piece rest) (hkind : kind ≠ .openComment)
    (hend : rest.getLast? ≠ some (.char '\\')) (more : List CodePoint) :
    Lexeme kind piece (rest ++ .char '\n' :: more) := by
  cases h with
  | lineFeed => exact .lineFeed _
  | blanks hc hrun => exact .blanks hc (hrun.before_lineFeed (by decide) more)
  | lineComment hrun => exact .lineComment (hrun.before_lineFeed (by decide) more)
  | blockComment _ hfirst => exact .blockComment _ hfirst
  | openComment => exact absurd rfl hkind
  | string _ hbody => exact .string _ hbody
  | identifier hc hrun => exact .identifier hc (hrun.before_lineFeed (by decide) more)
  | number hc hrun => exact .number hc (hrun.before_lineFeed (by decide) more)
  | symbol hother => exact .symbol (mt (beginsOther_of_lineFeed · hend) hother)

/-- A text that is tiled up to its end is tiled alike in front of a line feed, unless it ends in a backslash. -/
theorem Tiling.before_lineFeed (h : Tiling before text tokens []) (hend : text.getLast? ≠ some (.char '\\'))
    (more : List CodePoint) : Tiling before text tokens (.char '\n' :: more) := by
  generalize hrest : ([] : List CodePoint) = rest at h
  have hlast {piece text : List CodePoint} (hend : (piece ++ text).getLast? ≠ some (.char '\\')) :
      text.getLast? ≠ some (.char '\\') := by
    intro hlast
    rw [List.getLast?_append, hlast] at hend
    exact hend rfl
  induction h with
  | done before rest => exact .done before _
  | gap hlexeme _ ih =>
      subst hrest
      rw [List.append_nil] at hlexeme
      exact .gap (hlexeme.before_lineFeed (by simp) (hlast hend) more) (ih (hlast hend) rfl)
  | token hlexeme _ ih =>
      subst hrest
      rw [List.append_nil] at hlexeme
      exact .token (hlexeme.before_lineFeed (by simp) (hlast hend) more) (ih (hlast hend) rfl)

/-- Behind whole lines, a place lies further down only. -/
theorem Place.behind_lines (a : Text) (p : Place) :
    p.behind (a.toList ++ [.char '\n']) = ⟨p.line + countLines a, p.column⟩ := by
  have hlines : (a.toList ++ [CodePoint.char '\n']).count (.char '\n') = countLines a := by
    simp [countLines]
  unfold behind
  rw [hlines, lastWidth_concat_lineFeed, Nat.add_zero, ite_self]

theorem Token.behind_lines (a : Text) (t : Token) :
    t.behind (a.toList ++ [.char '\n']) = { t with line := t.line + countLines a } := by
  unfold behind
  rw [Place.behind_lines]
  rfl

theorem LexicalError.behind_lines (a : Text) (e : LexicalError) :
    e.behind (a.toList ++ [.char '\n']) = { e with line := e.line + countLines a } := by
  unfold behind
  dsimp only
  rw [Place.behind_lines]

/-- Two sources with a line feed between them are cut one after the other, if the tokens of the first can be found
and it does not end in a backslash.  Both together have tokens exactly if the second has, and then they are those
of the first and those of the second, which lie as many lines further down as the first has.  An error of the second
is one of both, with the same message, in the same column and as many lines further down. -/
theorem tokenize_lines {a b : Text} (ha : tokenize a = .ok tokens)
    (hend : a.toList.getLast? ≠ some (.char '\\')) :
    ((∃ all, tokenize (a ++ ("\n" : Text) ++ b) = .ok all) ↔ ∃ later, tokenize b = .ok later) ∧
    (∀ later, tokenize b = .ok later →
      tokenize (a ++ ("\n" : Text) ++ b) =
        .ok (tokens ++ later.map fun t => { t with line := t.line + countLines a })) ∧
    ∀ e, tokenize b = .error e →
      ∃ e', tokenize (a ++ ("\n" : Text) ++ b) = .error e' ∧ e'.message = e.message ∧
        e'.line = e.line + countLines a ∧ e'.column = e.column := by
  have hfeed : Tiling ([] ++ a.toList) ([.char '\n'] ++ []) [] b.toList := .gap (.lineFeed _) (.done _ _)
  have hfront := ((tokenize_eq_ok_iff.mp ha).before_lineFeed hend b.toList).append hfeed
  rw [List.append_nil, List.append_nil] at hfront
  obtain ⟨hok, herror⟩ := tokenize_behind hfront
  have herror' : ∀ e, tokenize b = .error e →
      tokenize (a ++ ("\n" : Text) ++ b) = .error { e with line := e.line + countLines a } := by
    intro e he
    rw [← LexicalError.behind_lines]
    exact herror e he
  rw [funext (Token.behind_lines a)] at hok
  refine ⟨⟨?_, fun ⟨later, hlater⟩ => ⟨_, hok later hlater⟩⟩, hok, fun e he => ⟨_, herror' e he, rfl, rfl, rfl⟩⟩
  rintro ⟨all, hall⟩
  cases hb : tokenize b with
  | ok later => exact ⟨later, rfl⟩
  | error e => cases hall.symm.trans (herror' e hb)

/-- A quote stays alone in front of a line feed, and two slashes with a line feed between them begin no comment. -/
theorem tokenize_lines_apart :
    tokenize "\"/" = .ok [⟨.symbol, "\"", 1, 1⟩, ⟨.symbol, "/", 1, 2⟩] ∧
      tokenize ("\"/" ++ ("\n" : Text) ++ "/\"") =
        .ok ([⟨.symbol, "\"", 1, 1⟩, ⟨.symbol, "/", 1, 2⟩] ++
          [⟨.symbol, "/", 2, 1⟩, ⟨.symbol, "\"", 2, 2⟩]) ∧
      tokenize ("\"/" ++ ("\n" : Text) ++ " /*") = .error ⟨2, 2⟩ := by
  have ha : tokenize "\"/" = .ok [⟨.symbol, "\"", 1, 1⟩, ⟨.symbol, "/", 1, 2⟩] := by decide +kernel
  have hb : tokenize "/\"" = .ok [⟨.symbol, "/", 1, 1⟩, ⟨.symbol, "\"", 1, 2⟩] := by decide +kernel
  have hopen : tokenize " /*" = .error ⟨1, 2⟩ := by decide +kernel
  obtain ⟨-, hok, -⟩ := tokenize_lines (b := "/\"") ha (by decide)
  obtain ⟨-, -, herror⟩ := tokenize_lines (b := " /*") ha (by decide)
  obtain ⟨e, he, -, hline, hcolumn⟩ := herror _ hopen
  refine ⟨ha, hok _ hb, he.trans ?_⟩
  rw [show e = ⟨e.line, e.column⟩ from rfl, hline, hcolumn]
  rfl

/-- A backslash takes the line feed behind it along into a string. -/
example : tokenize ("\"\\" ++ ("\n" : Text) ++ "\"") = .ok [⟨.string, "\"\\\n\"", 1, 1⟩] := by
  decide +kernel

end Conformance.Source
