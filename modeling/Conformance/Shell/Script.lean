import Conformance.Text.Character

/-!
# Scripts

The structure of scripts: words made of pieces that are expanded, redirections, and commands put together
in sequences, pipes, conditions, loops, choices, groups and functions.  A command knows the line on which
it begins, for the messages about it.
-/

namespace Conformance.Shell

/-- What stands in for a parameter that has no value. -/
inductive Fallback
  /-- A word. -/
  | word
  /-- A word that becomes the value. -/
  | assignment
  /-- A complaint. -/
  | complaint
  /-- Nothing, and a word where there is a value. -/
  | alternative
  deriving Repr, DecidableEq

/-- How a file is opened. -/
inductive Opening
  | reading
  | writing
  /-- For writing, even where files that are there are kept. -/
  | replacing
  | appending
  /-- For reading and writing, without losing what is there. -/
  | updating
  deriving Repr, DecidableEq

mutual

/-- A piece of a word, and whether it stands in quotes. -/
inductive Piece
  | literal (text : String) (quoted : Bool)
  | parameter (name : String) (use : Use) (quoted : Bool)
  /-- What a script writes. -/
  | substitution (script : Script) (quoted : Bool)
  /-- The value of an expression of numbers. -/
  | arithmetic (expression : List Piece) (quoted : Bool)

/-- What is made of a parameter. -/
inductive Use
  | value
  | length
  | fallback (kind : Fallback) (orEmpty : Bool) (word : List Piece)
  /-- The value without what a pattern describes at one of its ends. -/
  | trim (atEnd longest : Bool) (pattern : List Piece)
  /-- Nothing that can be done. -/
  | faulty

/-- Where a descriptor leads. -/
inductive Redirection
  | file (descriptor : Nat) (opening : Opening) (name : List Piece)
  /-- Where another descriptor leads, or nowhere for a dash. -/
  | duplicate (descriptor : Nat) (source : List Piece)
  /-- To a text that is part of the script. -/
  | document (descriptor : Nat) (body : List Piece)

/-- A script. -/
inductive Script
  | command (line : Nat) (assignments : List (String × List Piece)) (words : List (List Piece))
      (redirections : List Redirection)
  | sequence (first second : Script)
  | both (first second : Script)
  | either (first second : Script)
  | negation (body : Script)
  /-- What each script writes is the input of the next one. -/
  | pipe (stages : List Script)
  | background (body : Script)
  /-- A script whose variables and end concern nothing outside it. -/
  | apart (line : Nat) (body : Script) (redirections : List Redirection)
  | redirected (line : Nat) (body : Script) (redirections : List Redirection)
  /-- A condition, what is done if it holds, and what is done if not. -/
  | choice (condition positive : Script) (negative : Option Script)
  /-- A script that is run while a condition holds, or until it does. -/
  | loop (expected : Bool) (condition body : Script)
  /-- A script that is run for each of some words. -/
  | forEach (line : Nat) (name : String) (words : List (List Piece)) (body : Script)
  /-- A word, and scripts with the patterns that it may match. -/
  | matching (line : Nat) (word : List Piece)
      (branches : List (List (List Piece) × Option Script))
  | function (line : Nat) (name : String) (body : Script)

end

/-- A word: the pieces that it is made of. -/
abbrev Word := List Piece

instance : Inhabited Script := ⟨.command 0 [] [] []⟩

/-- Whether a piece stands in quotes. -/
def Piece.isQuoted : Piece → Bool
  | .literal _ quoted | .parameter _ _ quoted | .substitution _ quoted | .arithmetic _ quoted =>
    quoted

/-- The pieces of a word with its first piece known to be plain text. -/
def Word.plain? : Word → Option String
  | [.literal text false] => some text
  | _ => none

/-- Whether a character can begin a name. -/
def isNameStart (c : Char) : Bool :=
  Char.isAlpha c || c == '_'

/-- Whether a character can stand in a name. -/
def isNameChar (c : Char) : Bool :=
  isNameStart c || Char.isDigit c

/-- Whether a text is a name. -/
def isIdentifier (text : String) : Bool :=
  match text.toList with
  | c :: rest => isNameStart c && rest.all isNameChar
  | [] => false

/-- The parameters that the shell keeps itself, by their one-character names. -/
def isSpecialParameter (c : Char) : Bool :=
  "@*#?-$!".toList.contains c

/-- The words of the language. -/
def keywords : List String :=
  ["!", "case", "do", "done", "elif", "else", "esac", "fi", "for", "if", "in", "then", "until",
    "while", "\x7b", "\x7d"]

/-- The commands whose failure ends a script, and which no function can replace. -/
def specialCommands : List String :=
  [".", ":", "break", "continue", "eval", "exec", "exit", "export", "local", "readonly", "return", "set",
    "shift", "times", "trap", "unset"]

end Conformance.Shell
