import Conformance.Text.Character

/-!
# Tokens

A source is cut into lexemes, and the tokens among them are kept with the places where they begin.

Main results:

- `cut_append`: a lexeme and what follows it are the source.
- `cut_rest_length`: what follows is shorter than the source.
-/

namespace Conformance.Source

/-! ## Lexemes

A source is cut into lexemes: line feeds, runs of blanks, comments, and tokens.  This module says which
lexeme stands at the front of a source and where it ends. -/

open Conformance.Text

/-- The kinds of tokens. -/
inductive TokenKind
  | string
  | identifier
  | number
  | symbol
  deriving Repr, DecidableEq

/-- The name of a kind of token. -/
def TokenKind.text : TokenKind → Text
  | .string => "string"
  | .identifier => "identifier"
  | .number => "number"
  | .symbol => "symbol"

/-- The kinds of lexemes. -/
inductive LexemeKind
  /-- A line feed, a run of blanks, a line comment or a closed block comment. -/
  | gap
  /-- The beginning of a block comment that is not closed. -/
  | openComment
  | token (kind : TokenKind)
  deriving Repr, DecidableEq

/-- A lexeme cut off the front of a source, and what follows it. -/
structure Cut where
  kind : LexemeKind
  text : List CodePoint
  rest : List CodePoint
  deriving Repr

/-! ### Character classes -/

/-- Whether a character is a blank within a line. -/
def isLineBlank (c : CodePoint) : Bool :=
  c == ' ' || c == '\t' || c == '\r' || c == '\x0c'

/-- Whether a character can begin an identifier. -/
def startsIdentifier (c : CodePoint) : Bool :=
  isAsciiLetter c || c == '_'

/-- Whether a character can stand in an identifier. -/
def inIdentifier (c : CodePoint) : Bool :=
  startsIdentifier c || isAsciiDigit c || c == '$'

/-- Whether a character can stand in a number. -/
def inNumber (c : CodePoint) : Bool :=
  isAsciiDigit c || c == '_'

/-! ### Ends of comments and strings -/

/-- Find the end of a block comment, given the text of the comment so far in reverse. -/
def closeComment? : List CodePoint → List CodePoint → Option (List CodePoint × List CodePoint)
  | done, .char '*' :: .char '/' :: rest => some ((.char '/' :: .char '*' :: done).reverse, rest)
  | done, c :: rest => closeComment? (c :: done) rest
  | _, [] => none

/-- Find the end of a string, given its text so far in reverse.  A backslash takes the character behind it
along; a line feed on its own ends the search. -/
def closeString? : List CodePoint → List CodePoint → Option (List CodePoint × List CodePoint)
  | done, .char '"' :: rest => some ((.char '"' :: done).reverse, rest)
  | done, .char '\\' :: c :: rest => closeString? (c :: .char '\\' :: done) rest
  | _, [.char '\\'] => none
  | done, c :: rest => if c = '\n' then none else closeString? (c :: done) rest
  | _, [] => none

theorem closeComment?_append {done input text rest : List CodePoint}
    (h : closeComment? done input = some (text, rest)) : text ++ rest = done.reverse ++ input := by
  fun_induction closeComment? done input with
  | case1 done tail =>
    obtain ⟨rfl, rfl⟩ := Prod.mk.inj (Option.some.inj h)
    simp
  | case2 done c tail _ ih => simpa using ih h
  | case3 => simp at h

theorem closeComment?_length {done input text rest : List CodePoint}
    (h : closeComment? done input = some (text, rest)) : rest.length < input.length := by
  fun_induction closeComment? done input with
  | case1 done tail =>
    obtain ⟨rfl, rfl⟩ := Prod.mk.inj (Option.some.inj h)
    simp only [List.length_cons]
    omega
  | case2 done c tail _ ih => exact Nat.lt_succ_of_lt (ih h)
  | case3 => simp at h

theorem closeString?_append {done input text rest : List CodePoint}
    (h : closeString? done input = some (text, rest)) : text ++ rest = done.reverse ++ input := by
  fun_induction closeString? done input with
  | case1 done tail =>
    obtain ⟨rfl, rfl⟩ := Prod.mk.inj (Option.some.inj h)
    simp
  | case2 done c tail ih => simpa using ih h
  | case3 => simp at h
  | case4 => simp at h
  | case5 done c tail _ _ _ _ ih => simpa using ih h
  | case6 => simp at h

theorem closeString?_length {done input text rest : List CodePoint}
    (h : closeString? done input = some (text, rest)) : rest.length < input.length := by
  fun_induction closeString? done input with
  | case1 done tail =>
    obtain ⟨rfl, rfl⟩ := Prod.mk.inj (Option.some.inj h)
    simp
  | case2 done c tail ih => exact Nat.lt_succ_of_lt (Nat.lt_succ_of_lt (ih h))
  | case3 => simp at h
  | case4 => simp at h
  | case5 done c tail _ _ _ _ ih => exact Nat.lt_succ_of_lt (ih h)
  | case6 => simp at h

/-! ### Cutting -/

/-- Cut off the characters of a class behind a first character. -/
def cutRun (kind : LexemeKind) (p : CodePoint → Bool) (c : CodePoint) (rest : List CodePoint) : Cut :=
  ⟨kind, c :: rest.takeWhile p, rest.dropWhile p⟩

/-- Cut off a single character as a symbol. -/
def cutSymbol (c : CodePoint) (rest : List CodePoint) : Cut :=
  ⟨.token .symbol, [c], rest⟩

/-- Cut off a block comment behind its opening marks.  One that is not closed is cut off at the marks. -/
def cutComment (rest : List CodePoint) : Cut :=
  match closeComment? [.char '*', .char '/'] rest with
  | some (text, rest) => ⟨.gap, text, rest⟩
  | none => ⟨.openComment, [.char '/', .char '*'], rest⟩

/-- Cut off a string behind its opening quote.  A quote that opens no string is a symbol. -/
def cutString (rest : List CodePoint) : Cut :=
  match closeString? [.char '"'] rest with
  | some (text, rest) => ⟨.token .string, text, rest⟩
  | none => cutSymbol '"' rest

/-- Cut off what begins with a slash. -/
def cutSlash (rest : List CodePoint) : Cut :=
  match rest with
  | .char '/' :: more =>
    ⟨.gap, .char '/' :: .char '/' :: more.takeWhile (· != .char '\n'), more.dropWhile (· != .char '\n')⟩
  | .char '*' :: more => cutComment more
  | _ => cutSymbol '/' rest

/-- Cut off the lexeme at the front of a source. -/
def cut (c : CodePoint) (rest : List CodePoint) : Cut :=
  if c = '\n' then ⟨.gap, [c], rest⟩
  else if isLineBlank c then cutRun .gap isLineBlank c rest
  else if c = '/' then cutSlash rest
  else if c = '"' then cutString rest
  else if startsIdentifier c then cutRun (.token .identifier) inIdentifier c rest
  else if isAsciiDigit c then cutRun (.token .number) inNumber c rest
  else cutSymbol c rest

theorem cutComment_append (rest : List CodePoint) :
    (cutComment rest).text ++ (cutComment rest).rest = .char '/' :: .char '*' :: rest := by
  unfold cutComment
  split
  · rename_i text tail h
    simpa using closeComment?_append h
  · simp

theorem cutString_append (rest : List CodePoint) :
    (cutString rest).text ++ (cutString rest).rest = .char '"' :: rest := by
  unfold cutString
  split
  · rename_i text tail h
    simpa using closeString?_append h
  · simp [cutSymbol]

theorem cutSlash_append (rest : List CodePoint) :
    (cutSlash rest).text ++ (cutSlash rest).rest = .char '/' :: rest := by
  unfold cutSlash
  split
  · simp
  · exact cutComment_append _
  · simp [cutSymbol]

/-- A lexeme and what follows it are the source. -/
theorem cut_append (c : CodePoint) (rest : List CodePoint) :
    (cut c rest).text ++ (cut c rest).rest = c :: rest := by
  unfold cut
  split
  · simp
  split
  · simp [cutRun]
  split
  · subst_vars; exact cutSlash_append rest
  split
  · subst_vars; exact cutString_append rest
  split
  · simp [cutRun]
  split
  · simp [cutRun]
  · simp [cutSymbol]

theorem cutComment_rest_length (rest : List CodePoint) :
    (cutComment rest).rest.length ≤ rest.length := by
  unfold cutComment
  split
  · rename_i text tail h
    exact Nat.le_of_lt (closeComment?_length h)
  · exact Nat.le_refl _

theorem cutSlash_rest_length (rest : List CodePoint) : (cutSlash rest).rest.length ≤ rest.length := by
  unfold cutSlash
  split
  · exact Nat.le_succ_of_le (List.dropWhile_suffix _).length_le
  · exact Nat.le_succ_of_le (cutComment_rest_length _)
  · exact Nat.le_refl _

theorem cutString_rest_length (rest : List CodePoint) : (cutString rest).rest.length ≤ rest.length := by
  unfold cutString
  split
  · rename_i text tail h
    exact Nat.le_of_lt (closeString?_length h)
  · exact Nat.le_refl _

theorem cutRun_rest_length (kind : LexemeKind) (p : CodePoint → Bool) (c : CodePoint)
    (rest : List CodePoint) : (cutRun kind p c rest).rest.length ≤ rest.length :=
  (List.dropWhile_suffix _).length_le

/-- What follows a lexeme is shorter than the source. -/
theorem cut_rest_length (c : CodePoint) (rest : List CodePoint) :
    (cut c rest).rest.length < (c :: rest).length := by
  refine Nat.lt_succ_of_le ?_
  unfold cut
  split
  · exact Nat.le_refl _
  split
  · exact cutRun_rest_length ..
  split
  · exact cutSlash_rest_length rest
  split
  · exact cutString_rest_length rest
  split
  · exact cutRun_rest_length ..
  split
  · exact cutRun_rest_length ..
  · exact Nat.le_refl _

/-! ## Tokens

The tokens of a source, each with the place where it begins.  Blanks and comments are dropped; a block
comment that is not closed is the only thing that a source cannot hold. -/

/-! ### Places -/

/-- A place in a source: a line and a column, both counted from one. -/
structure Place where
  line : Nat
  column : Nat
  deriving Repr, DecidableEq

/-- The beginning of a source. -/
def Place.start : Place :=
  ⟨1, 1⟩

/-- The place behind a character. -/
def Place.after (p : Place) (c : CodePoint) : Place :=
  if c = '\n' then ⟨p.line + 1, 1⟩ else ⟨p.line, p.column + 1⟩

/-- The place behind a text. -/
def Place.advance (p : Place) (text : List CodePoint) : Place :=
  text.foldl Place.after p

@[simp]
theorem Place.advance_nil (p : Place) : p.advance [] = p :=
  rfl

@[simp]
theorem Place.advance_cons (p : Place) (c : CodePoint) (text : List CodePoint) :
    p.advance (c :: text) = (p.after c).advance text :=
  rfl

@[simp]
theorem Place.advance_append (p : Place) (a b : List CodePoint) :
    p.advance (a ++ b) = (p.advance a).advance b :=
  List.foldl_append

/-! ### Tokens -/

/-- A token: its kind, its text and the place where it begins. -/
structure Token where
  kind : TokenKind
  value : Text
  line : Nat
  column : Nat
  deriving Repr, DecidableEq

/-- Why a source has no tokens: a block comment that begins at a place is not closed. -/
structure LexicalError where
  line : Nat
  column : Nat
  deriving Repr, DecidableEq

/-- The message of a lexical error. -/
def LexicalError.message (_ : LexicalError) : Text :=
  "unterminated block comment"

/-- The tokens of the rest of a source that begins at a place, behind those already found, last first. -/
def scan (place : Place) (done : List Token) : List CodePoint → Except LexicalError (List Token)
  | [] => .ok done.reverse
  | c :: input =>
    let piece := cut c input
    match piece.kind with
    | .openComment => .error ⟨place.line, place.column⟩
    | .gap => scan (place.advance piece.text) done piece.rest
    | .token kind =>
      let token : Token := ⟨kind, Text.ofList piece.text, place.line, place.column⟩
      scan (place.advance piece.text) (token :: done) piece.rest
termination_by input => input.length
decreasing_by all_goals exact cut_rest_length c input

/-- The tokens of a source. -/
def tokenize (source : Text) : Except LexicalError (List Token) :=
  scan .start [] source.toList

end Conformance.Source
