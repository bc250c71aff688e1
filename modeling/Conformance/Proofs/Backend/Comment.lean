import Conformance.Backend.Reference
import Conformance.Proofs.Fixture.Directive
import Conformance.Proofs.Source.Concatenation
import Conformance.Proofs.Source.Structure

/-!
# Comments in front of a source

A block comment in front of a source moves what is said about the source and changes nothing else: the reference
compiler accepts the source or not, makes the same tree, and tells the same errors at the places where the comment
has moved them.  So what a fixture says about itself in a block of directives has no part in the verdict.

Main results:

- `Source.structureErrors_behind`, `Source.moduleName_behind`: what is said of tokens that have been moved.
- `Backend.Reference.result_behind`: the result for a source behind a text without tokens.
- `Backend.Reference.sameFindings_of_beginsWithBlock`: fixtures that differ in their directives get one verdict.
- `Backend.Reference.comment_keeps_verdict`: both together.
-/

namespace Conformance

open Text

/-! ## Comments -/

namespace Source

variable {body rest : List CodePoint}

/-- A block comment with a text inside. -/
def blockComment (body : List CodePoint) : List CodePoint :=
  .char '/' :: .char '*' :: (body ++ [.char '*', .char '/'])

/-- A star at the end of a text ends no comment. -/
theorem not_closesComment_concat_star (h : ¬ClosesComment body) : ¬ClosesComment (body ++ [.char '*']) := by
  unfold ClosesComment at h ⊢
  rw [List.infix_concat_iff]
  rintro (hsuffix | hinside)
  · have hlast := hsuffix.getLast (List.cons_ne_nil _ _)
    rw [List.getLast_concat] at hlast
    exact absurd hlast (by decide)
  · exact h hinside

/-- A line feed between two texts ends no comment. -/
theorem closesComment_lineFeed :
    ClosesComment (body ++ .char '\n' :: rest) ↔ ClosesComment body ∨ ClosesComment rest := by
  induction body with
  | nil => simp [closesComment_cons, not_closesComment_nil]
  | cons c body ih =>
      rw [List.cons_append, closesComment_cons, closesComment_cons, ih, or_assoc]
      refine or_congr_left (and_congr_right fun _ => ?_)
      cases body with
      | nil => simp
      | cons d body => simp

/-- A block comment is tiled without tokens. -/
theorem tiling_blockComment (h : ¬ClosesComment body) (before rest : List CodePoint) :
    Tiling before (blockComment body) [] rest := by
  have htiling : Tiling before (blockComment body ++ []) [] rest :=
    .gap (.blockComment _ (not_closesComment_concat_star h)) (.done _ rest)
  rwa [List.append_nil] at htiling

/-- Blanks in front of a slash are tiled without tokens. -/
theorem tiling_blanks {blanks : List CodePoint} (h : ∀ c ∈ blanks, isLineBlank c = true)
    (before rest : List CodePoint) : Tiling before blanks [] (.char '/' :: rest) := by
  cases blanks with
  | nil => exact .done before _
  | cons c run =>
      have hrun : IsRun isLineBlank run (.char '/' :: rest) := by
        refine ⟨fun d hd => h d (List.mem_cons_of_mem c hd), ?_⟩
        rintro d ⟨⟩
        decide
      have htiling : Tiling before ((c :: run) ++ []) [] (.char '/' :: rest) :=
        .gap (.blanks (h c List.mem_cons_self) hrun) (.done _ _)
      rwa [List.append_nil] at htiling

/-! ## Tokens that have been moved -/

/-- An error of a source that comes to stand behind a text. -/
def errorBehind (front : List CodePoint) (e : CompileError) : CompileError :=
  { e with
    line := e.line + front.count (.char '\n')
    column := if e.line = 1 then e.column + lastWidth front else e.column }

theorem error_behind (front : List CodePoint) (t : Token) (message : Text) :
    (t.behind front).error message = errorBehind front (t.error message) := by
  unfold Token.error errorBehind Token.behind Token.place Place.behind
  by_cases hfirst : t.line = 1
  · simp [hfirst]
  · have hfirst' : (t.line : Int) ≠ 1 := by omega
    simp [hfirst, hfirst']

theorem keepsSpelling_behind (front : List CodePoint) : KeepsSpelling (Token.behind front) (errorBehind front) :=
  ⟨fun _ => rfl, error_behind front⟩

/-- The errors in the structure of a source move with it. -/
theorem structureErrors_behind (front : List CodePoint) (tokens : List Token) :
    structureErrors (tokens.map (Token.behind front)) = (structureErrors tokens).map (errorBehind front) :=
  (keepsSpelling_behind front).structureErrors_map tokens

/-- The name of a source does not depend on where it stands. -/
theorem moduleName_behind (front : List CodePoint) (tokens : List Token) :
    moduleName (tokens.map (Token.behind front)) = moduleName tokens :=
  (keepsSpelling_behind front).moduleName_map tokens

end Source

/-! ## Fixtures that begin with a block -/

namespace Fixture

open Source

variable {opening row margin heading foot rest : List CodePoint} {inside behind lines : List (List CodePoint)}
  {text : Text}

/-! ### Rows -/

/-- Rows with line feeds between them. -/
def joinedRows (lines : List (List CodePoint)) : List CodePoint :=
  [CodePoint.char '\n'].intercalate lines

theorem joinedRows_cons_append (row : List CodePoint) (inside : List (List CodePoint)) (hbehind : behind ≠ []) :
    joinedRows (row :: inside ++ behind) = joinedRows (row :: inside) ++ .char '\n' :: joinedRows behind := by
  induction inside generalizing row with
  | nil => simp [joinedRows, List.intercalate_cons_of_ne_nil hbehind]
  | cons next inside ih =>
      have hrest := ih next
      unfold joinedRows at hrest ⊢
      rw [List.cons_append, List.cons_append, List.intercalate_cons_cons, ← List.cons_append, hrest,
        List.intercalate_cons_cons, List.append_assoc (row ++ _)]

/-- Rows begin with the first one. -/
theorem prefix_joinedRows_cons (row : List CodePoint) (lines : List (List CodePoint)) :
    row <+: joinedRows (row :: lines) := by
  unfold joinedRows
  cases lines with
  | nil => exact ⟨[], by rw [List.append_nil, List.intercalate_singleton]⟩
  | cons next lines =>
      rw [List.intercalate_cons_cons, List.append_assoc]
      exact List.prefix_append _ _

/-- A comment ends in rows exactly if it ends in one of them. -/
theorem closesComment_joinedRows_iff : ClosesComment (joinedRows lines) ↔ ∃ row ∈ lines, Closes row := by
  induction lines with
  | nil => simp [joinedRows, not_closesComment_nil]
  | cons row lines ih =>
      cases lines with
      | nil =>
          rw [joinedRows, List.intercalate_singleton]
          simp only [List.mem_singleton, exists_eq_left]
          rfl
      | cons next lines =>
          have hsplit := joinedRows_cons_append row [] (List.cons_ne_nil next lines)
          have hrow : joinedRows [row] = row := List.intercalate_singleton
          rw [List.cons_append, List.nil_append, hrow] at hsplit
          rw [hsplit, closesComment_lineFeed, ih]
          simp only [List.mem_cons, exists_eq_or_imp]
          rfl

/-! ### Blocks -/

/-- A row that opens a block begins a comment behind its margin. -/
theorem Opens.exists_heading (h : Opens opening) :
    ∃ margin heading, opening = margin ++ .char '/' :: .char '*' :: heading ∧ ∀ c ∈ margin, isLineMargin c = true := by
  have htrimmed : trimmed opening <+: opening.dropWhile isLineMargin := trimEnd_prefix _ _
  obtain ⟨heading, hheading⟩ := h.1.trans htrimmed
  refine ⟨opening.takeWhile isLineMargin, heading, ?_, List.all_eq_true.mp List.all_takeWhile⟩
  calc opening = opening.takeWhile isLineMargin ++ opening.dropWhile isLineMargin :=
        List.takeWhile_append_dropWhile.symm
    _ = opening.takeWhile isLineMargin ++ (("/*" : Text).toList ++ heading) := by rw [hheading]

/-- The first row of a text opens a block and does not close it, the next ones stand in the block, and of those
behind them the first closes it. -/
structure BeginsWithBlock (opening : List CodePoint) (inside behind : List (List CodePoint)) (text : Text) : Prop where
  rows_eq : rows text.toList = opening :: (inside ++ behind)
  opens : Opens opening
  openingStays : ¬Closes opening
  insideStays : ∀ row ∈ inside, ¬Closes row
  ends : ∀ row ∈ behind.head?, Closes row

/-- A text begins with a block if its first row opens one and does not close it. -/
theorem exists_beginsWithBlock (hrows : rows text.toList = opening :: lines) (hopens : Opens opening)
    (hstays : ¬Closes opening) : ∃ inside behind, BeginsWithBlock opening inside behind text := by
  obtain ⟨inside, behind, rfl, hinside, hbehind⟩ := exists_split (p := Closes) lines
  exact ⟨inside, behind, hrows, hopens, hstays, hinside, hbehind⟩

namespace BeginsWithBlock

/-- The rows in the block are those that are read for directives. -/
theorem blockLines_eq (h : BeginsWithBlock opening inside behind text) : blockLines text = inside.map trimmed := by
  have hrows : rows text.toList = [] ++ opening :: (inside ++ behind) := h.rows_eq
  have hblock : HasBlock text inside := .opened hrows (List.forall_mem_nil _) h.opens h.insideStays h.ends
  exact hblock.blockLines_eq

/-- The first row of a text stays on one line. -/
theorem not_mem_opening (h : BeginsWithBlock opening inside behind text) : .char '\n' ∉ opening := by
  have hrows := h.rows_eq
  unfold rows at hrows
  by_cases hline : .char '\n' ∈ text.toList
  · obtain ⟨row, rest, htext, hrow⟩ := List.eq_append_cons_of_mem hline
    rw [htext, List.splitOn_append_cons_self_of_not_mem hrow] at hrows
    exact (List.cons.inj hrows).1 ▸ hrow
  · rw [List.splitOn_eq_singleton hline] at hrows
    exact (List.cons.inj hrows).1 ▸ hline

theorem joined_eq (h : BeginsWithBlock opening inside behind text) :
    text.toList = joinedRows (opening :: inside ++ behind) := by
  rw [List.cons_append, ← h.rows_eq]
  exact (List.intercalate_splitOn _).symm

/-- The block begins a comment, which does not end in it. -/
theorem exists_body (h : BeginsWithBlock opening inside behind text)
    (hopening : opening = margin ++ .char '/' :: .char '*' :: heading) :
    ∃ body, joinedRows (opening :: inside) = margin ++ .char '/' :: .char '*' :: body ∧ ¬ClosesComment body := by
  obtain ⟨tail, htail⟩ := prefix_joinedRows_cons opening inside
  have hjoined : joinedRows (opening :: inside) = margin ++ .char '/' :: .char '*' :: (heading ++ tail) := by
    rw [← htail, hopening]
    simp
  refine ⟨heading ++ tail, hjoined, fun hcloses => ?_⟩
  have hwhole : ClosesComment (joinedRows (opening :: inside)) := by
    rw [hjoined]
    exact hcloses.trans ⟨margin ++ [.char '/', .char '*'], [], by simp⟩
  obtain ⟨row, hrow, hclosesRow⟩ := closesComment_joinedRows_iff.mp hwhole
  rcases List.mem_cons.mp hrow with rfl | hrow
  · exact h.openingStays hclosesRow
  · exact h.insideStays row hrow hclosesRow

/-- A block behind which nothing stands is a comment that is not closed. -/
theorem exists_openComment (h : BeginsWithBlock opening inside [] text)
    (hopening : opening = margin ++ .char '/' :: .char '*' :: heading) :
    ∃ body, text.toList = margin ++ .char '/' :: .char '*' :: body ∧ ¬ClosesComment body := by
  have hjoined := h.joined_eq
  rw [List.append_nil] at hjoined
  rw [hjoined]
  exact h.exists_body hopening

/-- What stands in front of the end of the comment that a block begins is that comment. -/
theorem exists_blockComment (h : BeginsWithBlock opening inside behind text)
    (hopening : opening = margin ++ .char '/' :: .char '*' :: heading)
    (hbehind : joinedRows behind = foot ++ .char '*' :: .char '/' :: rest) (hfoot : ¬ClosesComment foot) :
    ∃ body, text.toList = margin ++ blockComment body ++ rest ∧ ¬ClosesComment body := by
  obtain ⟨body, hbody, hopen⟩ := h.exists_body hopening
  have hne : behind ≠ [] := by
    rintro rfl
    exact List.append_ne_nil_of_right_ne_nil foot (List.cons_ne_nil _ _) hbehind.symm
  refine ⟨body ++ .char '\n' :: foot, ?_, mt closesComment_lineFeed.mp (not_or.mpr ⟨hopen, hfoot⟩)⟩
  rw [h.joined_eq, joinedRows_cons_append opening inside hne, hbody, hbehind]
  simp [blockComment]

end BeginsWithBlock

end Fixture

/-! ## Results -/

namespace Backend.Reference

open Fixture Source

variable {front opening : List CodePoint} {inside other behind : List (List CodePoint)} {a b source : Text}

/-- Two results that find the same: both are successes or neither is, with one tree, and they tell the same errors
in the same order, though not at the same places. -/
structure SameFindings (r s : CompileResult) : Prop where
  success : r.success = s.success
  ast : r.ast = s.ast
  messages : r.errors.map (·.message) = s.errors.map (·.message)

theorem SameFindings.symm {r s : CompileResult} (h : SameFindings r s) : SameFindings s r :=
  ⟨h.success.symm, h.ast.symm, h.messages.symm⟩

theorem SameFindings.trans {r s t : CompileResult} (h : SameFindings r s) (h' : SameFindings s t) : SameFindings r t :=
  ⟨h.success.trans h'.success, h.ast.trans h'.ast, h.messages.trans h'.messages⟩

/-- The verdict on tokens does not depend on where they stand, nor on the rest of their source. -/
theorem judge_behind (warns : Bool) (front : List CodePoint) (source other : Text) (tokens : List Token) :
    (judge warns other (tokens.map (Token.behind front))).success = (judge warns source tokens).success ∧
    (judge warns other (tokens.map (Token.behind front))).ast = (judge warns source tokens).ast ∧
    (judge warns other (tokens.map (Token.behind front))).errors =
      (judge warns source tokens).errors.map (errorBehind front) := by
  unfold judge
  rw [structureErrors_behind, moduleName_behind]
  cases structureErrors tokens with
  | nil => exact ⟨rfl, rfl, rfl⟩
  | cons e errors => exact ⟨rfl, rfl, rfl⟩

theorem lexicalError_behind (front : List CodePoint) (e : LexicalError) :
    lexicalError (e.behind front) = errorBehind front (lexicalError e) := by
  unfold lexicalError errorBehind LexicalError.behind Place.behind
  by_cases hfirst : e.line = 1
  · simp [hfirst, LexicalError.message]
  · have hfirst' : (e.line : Int) ≠ 1 := by omega
    simp [hfirst, hfirst', LexicalError.message]

/-- The result for a source behind a text without tokens. -/
theorem result_behind (h : Tiling [] front [] source.toList) (warns : Bool) :
    (result warns (ofList (front ++ source.toList))).success = (result warns source).success ∧
    (result warns (ofList (front ++ source.toList))).ast = (result warns source).ast ∧
    (result warns (ofList (front ++ source.toList))).errors =
      (result warns source).errors.map (errorBehind front) := by
  obtain ⟨hok, herror⟩ := tokenize_behind h
  unfold result
  cases htokens : tokenize source with
  | ok tokens =>
      rw [hok tokens htokens]
      exact judge_behind warns front source _ tokens
  | error e =>
      rw [herror e htokens]
      exact ⟨rfl, rfl, congrArg (fun moved => [moved]) (lexicalError_behind front e)⟩

/-- A text without tokens in front of a source does not change the verdict. -/
theorem sameFindings_behind (h : Tiling [] front [] source.toList) (warns : Bool) :
    SameFindings (result warns (ofList (front ++ source.toList))) (result warns source) := by
  obtain ⟨hsuccess, hast, herrors⟩ := result_behind h warns
  refine ⟨hsuccess, hast, ?_⟩
  rw [herrors, List.map_map]
  rfl

/-- The margin of a row stays on the line and is made of blanks. -/
theorem isLineBlank_of_isLineMargin {c : CodePoint} (h : isLineMargin c = true) (hline : c ≠ .char '\n') :
    isLineBlank c = true := by
  simp only [isLineMargin, Bool.or_eq_true, beq_iff_eq] at h
  rcases h with ((rfl | rfl) | rfl) | rfl
  · decide
  · decide
  · decide
  · exact absurd rfl hline

/-- Fixtures that begin with a block and differ only in the rows of the block get the same verdict. -/
theorem sameFindings_of_beginsWithBlock (ha : BeginsWithBlock opening inside behind a)
    (hb : BeginsWithBlock opening other behind b) (warns : Bool) :
    SameFindings (result warns a) (result warns b) := by
  obtain ⟨margin, heading, hopening, hmargin⟩ := ha.opens.exists_heading
  have hblanks : ∀ c ∈ margin, isLineBlank c = true := by
    intro c hc
    refine isLineBlank_of_isLineMargin (hmargin c hc) ?_
    rintro rfl
    exact ha.not_mem_opening (hopening ▸ List.mem_append_left _ hc)
  cases hclose : closeComment? [] (joinedRows behind) with
  | none =>
      -- both texts end inside the comment, which begins at one place
      have hnone : behind = [] := by
        rw [closeComment?_eq_none_iff, closesComment_joinedRows_iff] at hclose
        cases behind with
        | nil => rfl
        | cons row behind => exact absurd ⟨row, List.mem_cons_self, ha.ends row rfl⟩ hclose
      subst hnone
      obtain ⟨body, htext, hopen⟩ := ha.exists_openComment hopening
      obtain ⟨body', htext', hopen'⟩ := hb.exists_openComment hopening
      unfold result
      rw [(tiling_blanks hblanks [] _).tokenize_eq_error htext hopen,
        (tiling_blanks hblanks [] _).tokenize_eq_error htext' hopen']
      exact ⟨rfl, rfl, rfl⟩
  | some found =>
      -- behind the end of the comment both texts are the same source
      obtain ⟨foot, hfoot, hbehind, hfirst⟩ := closeComment?_eq_some_iff.mp hclose
      have hstays : ¬ClosesComment foot := fun h => hfirst (h.trans (List.infix_append' [] foot _))
      have halone {inside : List (List CodePoint)} {text : Text} (h : BeginsWithBlock opening inside behind text) :
          SameFindings (result warns text) (result warns (ofList found.2)) := by
        obtain ⟨body, htext, hopen⟩ := h.exists_blockComment hopening hbehind hstays
        have hcomment := tiling_blockComment hopen ([] ++ margin) found.2
        have hfront : Tiling [] (margin ++ blockComment body) [] found.2 :=
          (tiling_blanks hblanks [] _).append hcomment
        have hwhole : text = ofList (margin ++ blockComment body ++ found.2) := congrArg ofList htext
        have hsource : Tiling [] (margin ++ blockComment body) [] (ofList found.2).toList := hfront
        rw [hwhole]
        exact sameFindings_behind hsource warns
      exact (halone ha).trans (halone hb).symm

/-- A block comment in front of a source only moves what is said about the source: its tokens or the place of its
lexical error lie as many lines further down as the comment has line feeds, and on the first line as far to the
right as the last line of the comment goes.  The source is accepted or not as it is alone, with the same tree and
the same errors in the same order, at the places where the comment has moved them.  So fixtures that begin with a
block of directives and differ only in the rows that are read from it get the same verdict. -/
theorem comment_keeps_verdict :
    (∀ body source, ¬ClosesComment body →
      (∀ tokens, tokenize source = .ok tokens →
        tokenize (ofList (blockComment body ++ source.toList)) =
          .ok (tokens.map (Token.behind (blockComment body)))) ∧
      (∀ e, tokenize source = .error e →
        tokenize (ofList (blockComment body ++ source.toList)) = .error (e.behind (blockComment body))) ∧
      ∀ r : Reference,
        SameFindings (r.compile (ofList (blockComment body ++ source.toList))).1 (r.compile source).1 ∧
        (r.compile (ofList (blockComment body ++ source.toList))).1.errors =
          (r.compile source).1.errors.map (errorBehind (blockComment body))) ∧
    (∀ opening lines text, rows text.toList = opening :: lines → Opens opening → ¬Closes opening →
      ∃ inside behind, BeginsWithBlock opening inside behind text) ∧
    ∀ opening inside other behind a b, BeginsWithBlock opening inside behind a →
      BeginsWithBlock opening other behind b →
        blockLines a = inside.map trimmed ∧ blockLines b = other.map trimmed ∧
        ∀ r : Reference, SameFindings (r.compile a).1 (r.compile b).1 := by
  refine ⟨?_, ?_, ?_⟩
  · intro body source hbody
    have hcomment := tiling_blockComment hbody [] source.toList
    obtain ⟨hok, herror⟩ := tokenize_behind hcomment
    refine ⟨hok, herror, fun r => ⟨sameFindings_behind hcomment r.warns, ?_⟩⟩
    exact (result_behind hcomment r.warns).2.2
  · intro opening lines text
    exact exists_beginsWithBlock
  · intro opening inside other behind a b ha hb
    refine ⟨ha.blockLines_eq, hb.blockLines_eq, fun r => ?_⟩
    exact sameFindings_of_beginsWithBlock ha hb r.warns

/-- A comment that begins with a slash and ends in a star goes over a line feed and moves a bracket that closes
nothing; and a bracket in a block of directives has as little part in the verdict as a tag. -/
theorem comment_keeps_verdict_moved :
    tokenize (ofList (blockComment ("/(\n*" : Text).toList ++ (")\nx" : Text).toList)) =
        .ok [⟨.symbol, ")", 2, 4⟩, ⟨.identifier, "x", 3, 1⟩] ∧
      tokenize (ofList (blockComment ("/(\n*" : Text).toList ++ ("/*" : Text).toList)) = .error ⟨2, 4⟩ ∧
      ((create true).compile (ofList (blockComment ("/(\n*" : Text).toList ++ (")\nx" : Text).toList))).1.errors =
        [⟨"unexpected ')'", 2, 4, none, .syntactic⟩] ∧
      SameFindings ((create true).compile "/* :name: a\n:tags: x y\n*/ module m").1
        ((create true).compile "/* :name: a\n)\n(\n*/ module m").1 := by
  have hbody : ¬ClosesComment ("/(\n*" : Text).toList := by
    unfold ClosesComment
    decide
  have htokens : tokenize ")\nx" = .ok [⟨.symbol, ")", 1, 1⟩, ⟨.identifier, "x", 2, 1⟩] := by decide +kernel
  have herror : tokenize "/*" = .error ⟨1, 1⟩ := by decide +kernel
  have hopens : Opens ("/* :name: a" : Text).toList := opensBlock_trimmed_iff.mp (by decide)
  have hstays {row : List CodePoint} (h : closesBlock (trimmed row) = false) : ¬Closes row := fun hcloses =>
    Bool.false_ne_true (h.symm.trans (closesBlock_trimmed_iff.mpr hcloses))
  have hends : ∀ row ∈ [("*/ module m" : Text).toList].head?, Closes row := by
    rintro row ⟨⟩
    exact closesBlock_trimmed_iff.mp (by decide)
  have htag : ∀ row ∈ [(":tags: x y" : Text).toList], ¬Closes row :=
    List.forall_mem_singleton.mpr (hstays (by decide))
  have hbrackets : ∀ row ∈ [(")" : Text).toList, ("(" : Text).toList], ¬Closes row :=
    List.forall_mem_cons.mpr ⟨hstays (by decide), List.forall_mem_singleton.mpr (hstays (by decide))⟩
  have ha : BeginsWithBlock ("/* :name: a" : Text).toList [(":tags: x y" : Text).toList]
      [("*/ module m" : Text).toList] "/* :name: a\n:tags: x y\n*/ module m" :=
    ⟨by decide, hopens, hstays (by decide), htag, hends⟩
  have hb : BeginsWithBlock ("/* :name: a" : Text).toList [(")" : Text).toList, ("(" : Text).toList]
      [("*/ module m" : Text).toList] "/* :name: a\n)\n(\n*/ module m" :=
    ⟨by decide, hopens, hstays (by decide), hbrackets, hends⟩
  obtain ⟨hok, -, hcompile⟩ := comment_keeps_verdict.1 _ ")\nx" hbody
  obtain ⟨-, hmoved, -⟩ := comment_keeps_verdict.1 _ "/*" hbody
  have herrors : ((create true).compile ")\nx").1.errors = [⟨"unexpected ')'", 1, 1, none, .syntactic⟩] := by
    decide +kernel
  refine ⟨hok _ htokens, hmoved _ herror, ?_, (comment_keeps_verdict.2.2 _ _ _ _ _ _ ha hb).2.2 _⟩
  rw [(hcompile (create true)).2, herrors]
  rfl

end Backend.Reference

end Conformance
