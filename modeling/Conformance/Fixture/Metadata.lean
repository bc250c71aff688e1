import Conformance.Text.Lines
import Conformance.Text.Search

/-!
# Metadata of a fixture

A fixture says in a block of directives what it is about and what is expected of it.
-/

namespace Conformance.Fixture

/-! ## Directives of a fixture

A fixture may hold a block of directives inside a comment.  The block opens on the first line that begins
a comment and mentions the name directive, and ends before the first later line that closes the comment.
A table says which directives are known and what each does. -/

open Text

/-! ### Blocks -/

/-- Whether a character is trimmed off the ends of a line. -/
def isLineMargin (c : CodePoint) : Bool :=
  c == ' ' || c == '\t' || c == '\r' || c == '\n'

/-- Whether a character is trimmed off the ends of a value. -/
def isValueMargin (c : CodePoint) : Bool :=
  c == ' ' || c == '\t'

/-- The lines of a fixture, trimmed. -/
def trimmedLines (text : Text) : List (List CodePoint) :=
  (rows text.toList).map (trim isLineMargin)

/-- Whether a trimmed line opens a block. -/
def opensBlock (line : List CodePoint) : Bool :=
  ("/*" : Text).toList.isPrefixOf line && occursIn (":name:" : Text).toList line

/-- Whether a trimmed line closes a block. -/
def closesBlock (line : List CodePoint) : Bool :=
  occursIn ("*/" : Text).toList line

/-- The lines inside the first block among trimmed lines. -/
def blockOf (lines : List (List CodePoint)) : List (List CodePoint) :=
  ((lines.dropWhile (!opensBlock ·)).drop 1).takeWhile (!closesBlock ·)

/-- The lines inside the first block of a fixture. -/
def blockLines (text : Text) : List (List CodePoint) :=
  blockOf (trimmedLines text)

/-! ### Tables -/

/-- What a directive does with the rest of its line. -/
abbrev Handler (σ : Type) := List CodePoint → σ → σ

/-- The known directives, each with the text that its lines begin with, in the order in which they were
first registered. -/
structure DirectiveTable (σ : Type) where
  handlers : List (List CodePoint × Handler σ)

namespace DirectiveTable

variable {σ τ : Type}

/-- Put a handler under a text.  A text that is there already keeps its place. -/
def assign (start : List CodePoint) (handler : Handler σ) :
    List (List CodePoint × Handler σ) → List (List CodePoint × Handler σ)
  | [] => [(start, handler)]
  | (other, old) :: rest =>
    if other = start then (start, handler) :: rest else (other, old) :: assign start handler rest

/-- Register a handler for the lines that begin with a text. -/
def register (t : DirectiveTable σ) (start : Text) (handler : Handler σ) : DirectiveTable σ :=
  ⟨assign start.toList handler t.handlers⟩

/-- The texts that lines of known directives begin with. -/
def directives (t : DirectiveTable σ) : List Text :=
  t.handlers.map fun (start, _) => Text.ofList start

/-- The handler of a line: that of the first text which the line begins with. -/
def handlerFor (line : List CodePoint) (handlers : List (List CodePoint × Handler σ)) :
    Option (List CodePoint × Handler σ) :=
  handlers.find? fun (start, _) => start.isPrefixOf line

/-- Take in a line.  A line of no known directive changes nothing. -/
def step (t : DirectiveTable σ) (s : σ) (line : List CodePoint) : σ :=
  match handlerFor line t.handlers with
  | some (start, handler) => handler (line.drop start.length) s
  | none => s

/-- Take in the block of a fixture. -/
def parse (t : DirectiveTable σ) (initial : σ) (text : Text) : σ :=
  (blockLines text).foldl t.step initial

/-- The same directives on a state that holds more. -/
def onFirst (t : DirectiveTable σ) : DirectiveTable (σ × τ) :=
  ⟨t.handlers.map fun (start, handler) => (start, fun value s => (handler value s.1, s.2))⟩

end DirectiveTable

/-! ## Metadata of a fixture

What the directives of a fixture say about it: a description, tags, and whether the fixture has to be
rejected and why. -/

open Text

/-- What a fixture says about itself. -/
structure Metadata where
  description : Text
  tags : List Text
  shouldFail : Bool
  reason : Option Text
  deriving Repr, DecidableEq

namespace Metadata

/-- A fixture that says nothing about itself. -/
def empty : Metadata :=
  ⟨"", [], false, none⟩

/-- A value without blanks at its ends. -/
def value (rest : List CodePoint) : Text :=
  Text.ofList (trim isValueMargin rest)

/-- The words of a value. -/
def words (rest : List CodePoint) : List Text :=
  ((((trim isValueMargin rest).splitOn (.char ' ')).map (trim isValueMargin)).filter (!·.isEmpty)).map
    Text.ofList

/-- The directive that describes a fixture. -/
def descriptionStart : Text := ":description:"

/-- The directive that says why a fixture has to be rejected. -/
def reasonStart : Text := ":should_fail_because:"

/-- The directive that tags a fixture. -/
def tagsStart : Text := ":tags:"

/-- The directives of every fixture. -/
def table : DirectiveTable Metadata where
  handlers := [
    (descriptionStart.toList, fun rest m => { m with description := value rest }),
    (reasonStart.toList, fun rest m => { m with shouldFail := true, reason := some (value rest) }),
    (tagsStart.toList, fun rest m => { m with tags := words rest })]

/-- What the text of a fixture says about it. -/
def ofText (text : Text) : Metadata :=
  table.parse empty text

end Metadata

end Conformance.Fixture
