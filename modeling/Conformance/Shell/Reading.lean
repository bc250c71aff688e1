import Conformance.Shell.Script

/-!
# Reading scripts

A script is read one complete command at a time, as it is run: what stands on a later line may be faulty
without any effect on what stands before.  The text of a here-document is cut out of what is left to read
as soon as the redirection to it has been read.
-/

namespace Conformance.Shell

/-! ## Tokens -/

/-- A token of a script. -/
inductive Token
  | word (word : Word)
  /-- A redirection with its descriptor and its sign. -/
  | redirect (descriptor : Option Nat) (sign : String)
  | sign (text : String)
  /-- A word of the language. -/
  | keyword (text : String)
  | newline
  | ending

namespace Token

/-- How a token is named in a message. -/
def shown : Token → String
  | .word _ => "word"
  | .redirect .. => "redirection"
  | .sign text | .keyword text => s!"\"{text}\""
  | .newline => "newline"
  | .ending => "end of file"

/-- Whether a token ends a list of commands. -/
def endsList : Token → Bool
  | .sign text => [")", ";;"].contains text
  | .keyword text =>
    ["do", "done", "elif", "else", "esac", "fi", "then", "\x7d"].contains text
  | .ending => true
  | .word _ | .redirect .. | .newline => false

/-- Whether a token is a sign. -/
def isSign (text : String) : Token → Bool
  | .sign other => other == text
  | _ => false

/-- Whether a token is a word of the language. -/
def isKeyword (text : String) : Token → Bool
  | .keyword other => other == text
  | _ => false

/-- Whether a token is the end of a line. -/
def isNewline : Token → Bool
  | .newline => true
  | _ => false

end Token

/-! ## What is left to read -/

/-- What is left to read of a script: the characters, the number of their line, the lines of
here-documents that lie behind the end of this line, and a token that has been read ahead. -/
structure Source where
  rest : List Char
  line : Nat
  skipped : Nat
  pushed : Option Token
  /-- The texts that names of commands stand for. -/
  aliases : List (String × String)
  /-- The aliases whose texts have been put in, with how much is left behind each. -/
  opened : List (String × Nat)

/-- A fault in a script. -/
structure SyntaxFault where
  line : Nat
  message : String
  deriving Repr, DecidableEq

/-- A script that is left to read. -/
def Source.ofText (text : String) : Source :=
  ⟨text.toList, 1, 0, none, [], []⟩

/-- A text inside of what is being read, at a line. -/
def Source.inner (s : Source) (text : List Char) (line : Nat) : Source :=
  ⟨text, line, 0, none, s.aliases, []⟩

/-- The text that stands for a name, unless the name stands in this text itself. -/
def Source.alias? (s : Source) (name : String) : Option String :=
  if s.opened.any fun (other, left) => other == name && left ≤ s.rest.length then none
  else s.aliases.lookup name

/-- What is left to read with the text of an alias put in front. -/
def Source.putIn (s : Source) (name text : String) : Source :=
  { s with rest := text.toList ++ s.rest, opened := (name, s.rest.length) :: s.opened }

/-- What is left behind the next character. -/
def Source.advance (s : Source) : Source :=
  match s.rest with
  | [] => s
  | '\n' :: rest => { s with rest := rest, line := s.line + 1 + s.skipped, skipped := 0 }
  | _ :: rest => { s with rest := rest }

/-- What is left behind some characters. -/
def Source.skip (s : Source) : Nat → Source
  | 0 => s
  | n + 1 => s.advance.skip n

/-- Reading parts of a script. -/
abbrev Reader := StateT Source (Except SyntaxFault)

namespace Reader

/-- Stop with a message. -/
def fail {α : Type} (message : String) : Reader α := fun s =>
  .error ⟨s.line, message⟩

/-- Stop at a token where another one may have been expected. -/
def unexpected {α : Type} (t : Token) (wanted : Option Token) : Reader α :=
  let hint := match wanted with
    | some w => s!" (expecting {w.shown})"
    | none => ""
  fail s!"{t.shown} unexpected{hint}"

/-- Pass over some characters. -/
def drop (n : Nat) : Reader Unit :=
  modify (·.skip n)

/-- Put a token back. -/
def push (t : Token) : Reader Unit :=
  modify fun s => { s with pushed := some t }

/-- The characters from here on that satisfy a condition. -/
def takeWhile (holds : Char → Bool) : Reader String := do
  let found := (← get).rest.takeWhile holds
  drop found.length
  pure (String.ofList found)

/-- Pass over blanks, joined lines and a comment. -/
def skipBlanks : Nat → Reader Unit
  | 0 => pure ()
  | fuel + 1 => do
    match (← get).rest with
    | ' ' :: _ | '\t' :: _ => drop 1; skipBlanks fuel
    | '\\' :: '\n' :: _ => drop 2; skipBlanks fuel
    | '#' :: rest => drop (rest.takeWhile (· != '\n')).length; drop 1
    | _ => pure ()

end Reader

/-! ## Here-documents -/

/-- Cut the lines of a here-document off what follows a line, up to the line that ends it. -/
def cutDocument (mark : List Char) (stripTabs : Bool) : List (List Char) →
    List (List Char) × List (List Char)
  | [] => ([], [])
  | line :: rest =>
    let line := if stripTabs then line.dropWhile (· == '\t') else line
    if line == mark then ([], rest)
    else
      let (body, rest) := cutDocument mark stripTabs rest
      (line :: body, rest)

/-- Join lines, each with its end but the last one. -/
def joinLines (lines : List (List Char)) : List Char :=
  (lines.intersperse ['\n']).flatten

/-- Cut a here-document out of what is left to read; its text comes back. -/
def Source.takeDocument (s : Source) (mark : List Char) (stripTabs : Bool) : List Char × Source :=
  let here := s.rest.takeWhile (· != '\n')
  match s.rest.drop here.length with
  | [] => ([], s)
  | _ :: below =>
    let lines := below.splitOn '\n'
    let (body, rest) := cutDocument mark stripTabs lines
    let closed := body.length < lines.length
    let text := joinLines body
    let after := joinLines rest
    (if closed then if body.isEmpty then [] else text ++ ['\n'] else text,
      { s with rest := here ++ '\n' :: after, skipped := s.skipped + (lines.length - rest.length) })

/-! ## Words -/

/-- Where a part of a word stands, which decides what is special in it and where it ends. -/
inductive Place
  | word
  | quotes
  /-- In the braces of a parameter. -/
  | braces (quoted : Bool)
  | document
  /-- In an expression of numbers, within some parentheses. -/
  | sum (depth : Nat)

/-- Whether what stands at a place counts as quoted. -/
def Place.isQuoted : Place → Bool
  | .word => false
  | .quotes | .document | .sum _ => true
  | .braces quoted => quoted

/-- The characters that a backslash keeps from being special at a place; without quotes all of them. -/
def Place.escapes (p : Place) (c : Char) : Bool :=
  match p with
  | .word | .braces false => true
  | .quotes | .sum _ => "$\x60\"\\".toList.contains c
  | .braces true => "$\x60\"\\\x7d".toList.contains c
  | .document => "$\x60\\".toList.contains c

/-- Whether a character ends a word. -/
def endsWord (c : Char) : Bool :=
  " \t\n<>&|;()".toList.contains c

/-- The pieces with the characters since the last of them, last first. -/
def flush (quoted : Bool) (text : List Char) (pieces : List Piece) : List Piece :=
  if text.isEmpty then pieces else .literal (String.ofList text.reverse) quoted :: pieces

/-- What stands between backquotes, and what follows. -/
def takeBackquoted (inQuotes : Bool) : List Char → List Char → Option (List Char × Nat)
  | [], _ => none
  | '\x60' :: _, done => some (done.reverse, 1)
  | '\\' :: '\n' :: rest, done => (takeBackquoted inQuotes rest done).map fun (text, n) => (text, n + 2)
  | '\\' :: c :: rest, done =>
    let kept := if "\\\x60$".toList.contains c || (inQuotes && c == '"') then [c] else [c, '\\']
    (takeBackquoted inQuotes rest (kept ++ done)).map fun (text, n) => (text, n + 2)
  | c :: rest, done => (takeBackquoted inQuotes rest (c :: done)).map fun (text, n) => (text, n + 1)

/-- The variable that a word sets, if it sets one. -/
def assignment? : Word → Option (String × Word)
  | .literal text false :: rest =>
    let name := text.toList.takeWhile isNameChar
    match text.toList.drop name.length with
    | '=' :: value =>
      if isIdentifier (String.ofList name) then
        let first := if value.isEmpty then [] else [Piece.literal (String.ofList value) false]
        some (String.ofList name, first ++ rest)
      else none
    | _ => none
  | _ => none

/-- The text of a word that nothing in is expanded. -/
def Word.rawText (w : Word) : String :=
  String.join (w.map fun
    | .literal text _ => text
    | .parameter name _ _ => "$" ++ name
    | .substitution .. | .arithmetic .. => "")

/-- The sign of a redirection at the beginning of a text. -/
def redirectionSign? : List Char → Option String
  | '<' :: '<' :: '-' :: _ => some "<<-"
  | '<' :: '<' :: _ => some "<<"
  | '<' :: '&' :: _ => some "<&"
  | '<' :: '>' :: _ => some "<>"
  | '<' :: _ => some "<"
  | '>' :: '>' :: _ => some ">>"
  | '>' :: '&' :: _ => some ">&"
  | '>' :: '|' :: _ => some ">|"
  | '>' :: _ => some ">"
  | _ => none

/-- The sign at the beginning of a text that is no part of a word. -/
def sign? : List Char → Option String
  | '&' :: '&' :: _ => some "&&"
  | '&' :: _ => some "&"
  | '|' :: '|' :: _ => some "||"
  | '|' :: _ => some "|"
  | ';' :: ';' :: _ => some ";;"
  | ';' :: _ => some ";"
  | '(' :: _ => some "("
  | ')' :: _ => some ")"
  | _ => none

/-- What a trim, a fallback or a plain use is read from, behind the name of a parameter: the use that waits
for its word, and how many characters mark it. -/
inductive UseMark
  | plain
  | fallback (kind : Fallback) (orEmpty : Bool)
  | trim (atEnd longest : Bool)
  | unknown

/-- The mark of the use of a parameter. -/
def UseMark.read : List Char → UseMark × Nat
  | '\x7d' :: _ => (.plain, 1)
  | ':' :: rest =>
    match rest with
    | '-' :: _ => (.fallback .word true, 2)
    | '=' :: _ => (.fallback .assignment true, 2)
    | '?' :: _ => (.fallback .complaint true, 2)
    | '+' :: _ => (.fallback .alternative true, 2)
    | '\x7d' :: _ => (.plain, 2)
    | _ => (.unknown, 1)
  | '-' :: _ => (.fallback .word false, 1)
  | '=' :: _ => (.fallback .assignment false, 1)
  | '?' :: _ => (.fallback .complaint false, 1)
  | '+' :: _ => (.fallback .alternative false, 1)
  | '%' :: '%' :: _ => (.trim true true, 2)
  | '%' :: _ => (.trim true false, 1)
  | '#' :: '#' :: _ => (.trim false true, 2)
  | '#' :: _ => (.trim false false, 1)
  | _ => (.unknown, 0)

/-- The name of a parameter at the beginning of a text: a name, digits, or one special character. -/
def parameterName? (text : List Char) : Option (List Char) :=
  match text with
  | c :: _ =>
    if isNameStart c then some (text.takeWhile isNameChar)
    else if Char.isDigit c then some (text.takeWhile Char.isDigit)
    else if isSpecialParameter c then some [c]
    else none
  | [] => none

/-- How the inside of braces begins. -/
inductive BraceStart
  /-- The length of a parameter. -/
  | length (name : List Char)
  | named (name : List Char)
  | faulty

/-- The beginning of the inside of braces, and how many characters it takes.  A number sign asks for the
length of what follows it, unless nothing that has a length follows. -/
def BraceStart.read (text : List Char) : BraceStart × Nat :=
  match text with
  | '#' :: rest =>
    match rest with
    | c :: _ =>
      if isNameChar c then
        let name := (parameterName? rest).getD []
        (.length name, name.length + 1)
      else if c == '\x7d' then (.named ['#'], 1)
      else
        match rest with
        | d :: '\x7d' :: _ => if isSpecialParameter d then (.length [d], 2) else (.faulty, 1)
        | _ => (.named ['#'], 1)
    | [] => (.named ['#'], 1)
  | _ =>
    match parameterName? text with
    | some name => (.named name, name.length)
    | none => (.faulty, 0)

/-! ## Commands -/

open Reader

mutual

/-- Read the pieces of a word, or of a part of one, to its end; those before it and the characters since
the last of them come last first. -/
def readPieces (fuel : Nat) (place : Place) (pieces : List Piece) (text : List Char) :
    Reader (List Piece) :=
  match fuel with
  | 0 => fail "too long"
  | fuel + 1 => do
    let quoted := place.isQuoted
    let done := (flush quoted text pieces).reverse
    let keep (n : Nat) (c : Char) : Reader (List Piece) := do
      drop n
      readPieces fuel place pieces (c :: text)
    let add (more : List Piece) : Reader (List Piece) :=
      readPieces fuel place (more.reverse ++ flush quoted text pieces) []
    match (← get).rest, place with
    | [], .word | [], .document => pure done
    | [], .quotes | [], .braces true => fail "Unterminated quoted string"
    | [], .braces false => fail "Missing '\x7d'"
    | [], .sum _ => fail "Missing '))'"
    | '\\' :: '\n' :: _, _ => drop 2; readPieces fuel place pieces text
    | '\\' :: c :: _, _ =>
      if place.escapes c then
        drop 2
        if quoted then readPieces fuel place pieces (c :: text)
        else add [.literal (String.singleton c) true]
      else keep 1 '\\'
    | '$' :: _, _ =>
      drop 1
      match ← readDollar fuel quoted with
      | some piece => add [piece]
      | none => readPieces fuel place pieces ('$' :: text)
    | '\x60' :: rest, _ =>
      match takeBackquoted quoted rest [] with
      | some (script, n) =>
        drop (n + 1)
        let outside ← get
        set (outside.inner script 1)
        let found ← readList fuel true true none
        set outside
        add [.substitution (found.getD default) quoted]
      | none => fail "EOF in backquote substitution"
    | '"' :: _, .quotes => drop 1; pure done
    | '"' :: _, .word | '"' :: _, .braces _ =>
      drop 1
      let inside ← readPieces fuel .quotes [] []
      add (if inside.isEmpty then [.literal "" true] else inside)
    | '"' :: _, .sum _ => drop 1; readPieces fuel place pieces text
    | '\'' :: rest, .word | '\'' :: rest, .braces false =>
      let inside := rest.takeWhile (· != '\'')
      if inside.length == rest.length then
        drop (rest.length + 1)
        fail "Unterminated quoted string"
      else
        drop (inside.length + 2)
        add [.literal (String.ofList inside) true]
    | '\x7d' :: _, .braces _ => drop 1; pure done
    | '(' :: _, .sum depth => drop 1; readPieces fuel (.sum (depth + 1)) pieces ('(' :: text)
    | ')' :: _, .sum (depth + 1) => drop 1; readPieces fuel (.sum depth) pieces (')' :: text)
    | ')' :: ')' :: _, .sum 0 => drop 2; pure done
    | c :: _, .word => if endsWord c then pure done else keep 1 c
    | c :: _, _ => keep 1 c
termination_by structural fuel

/-- Read what follows a dollar sign; nothing comes back if the sign stands for itself. -/
def readDollar (fuel : Nat) (quoted : Bool) : Reader (Option Piece) :=
  match fuel with
  | 0 => fail "too long"
  | fuel + 1 => do
    let rest := (← get).rest
    match rest with
    | '(' :: '(' :: _ =>
      drop 2
      let inside ← readPieces fuel (.sum 0) [] []
      pure (some (.arithmetic inside quoted))
    | '(' :: _ =>
      drop 1
      let found ← readList fuel true true none
      let t ← readToken fuel false false
      if t.isSign ")" then pure (some (.substitution (found.getD default) quoted))
      else unexpected t (some (.sign ")"))
    | '\x7b' :: inside =>
      let (start, n) := BraceStart.read inside
      drop (n + 1)
      readUse fuel quoted start
    | c :: _ =>
      if Char.isDigit c then
        drop 1
        pure (some (.parameter (String.singleton c) .value quoted))
      else
        match parameterName? rest with
        | some name =>
          drop name.length
          pure (some (.parameter (String.ofList name) .value quoted))
        | none => pure none
    | [] => pure none
termination_by structural fuel

/-- Read how a parameter in braces is used, behind its name. -/
def readUse (fuel : Nat) (quoted : Bool) (start : BraceStart) : Reader (Option Piece) :=
  match fuel with
  | 0 => fail "too long"
  | fuel + 1 => do
    match start with
    | .named name =>
      let name := String.ofList name
      let (mark, n) := UseMark.read (← get).rest
      drop n
      match mark with
      | .plain => pure (some (.parameter name .value quoted))
      | .fallback kind orEmpty =>
        let word ← readPieces fuel (.braces quoted) [] []
        pure (some (.parameter name (.fallback kind orEmpty word) quoted))
      | .trim atEnd longest =>
        let pattern ← readPieces fuel (.braces false) [] []
        pure (some (.parameter name (.trim atEnd longest pattern) quoted))
      | .unknown =>
        let _ ← readPieces fuel (.braces quoted) [] []
        pure (some (.parameter name .faulty quoted))
    | .length name =>
      let inside ← readPieces fuel (.braces quoted) [] []
      pure (some (.parameter (String.ofList name) (if inside.isEmpty then .length else .faulty) quoted))
    | .faulty =>
      let _ ← readPieces fuel (.braces quoted) [] []
      pure (some (.parameter "" .faulty quoted))
termination_by structural fuel

/-- Read a token.  Ends of lines may be passed over, and words of the language may be told from others. -/
def readToken (fuel : Nat) (overLines telling : Bool) : Reader Token :=
  match fuel with
  | 0 => fail "too long"
  | fuel + 1 => do
    let t ← match (← get).pushed with
      | some t =>
        modify fun s => { s with pushed := none }
        pure t
      | none => scanToken fuel
    match t with
    | .newline => if overLines then readToken fuel true telling else pure .newline
    | .word w =>
      match telling, w.plain? with
      | true, some text => pure (if keywords.contains text then .keyword text else .word w)
      | _, _ => pure (.word w)
    | t => pure t
termination_by structural fuel

/-- Read a token from the characters that are left. -/
def scanToken (fuel : Nat) : Reader Token :=
  match fuel with
  | 0 => fail "too long"
  | fuel + 1 => do
    skipBlanks (← get).rest.length
    match (← get).rest with
    | [] => pure .ending
    | '\n' :: _ => drop 1; pure .newline
    | c :: rest =>
      match sign? (c :: rest), redirectionSign? (c :: rest), redirectionSign? rest with
      | some text, _, _ => drop text.length; pure (.sign text)
      | none, some text, _ => drop text.length; pure (.redirect none text)
      | none, none, some text =>
        if Char.isDigit c then
          drop (text.length + 1)
          pure (.redirect (some (c.toNat - '0'.toNat)) text)
        else .word <$> readPieces fuel .word [] []
      | none, none, none => .word <$> readPieces fuel .word [] []
termination_by structural fuel

/-- Read what a redirection leads to. -/
def readRedirection (fuel : Nat) (descriptor : Option Nat) (sign : String) : Reader Redirection :=
  match fuel with
  | 0 => fail "too long"
  | fuel + 1 => do
    match ← readToken fuel false false with
    | .word w =>
      let opened (opening : Opening) (usual : Nat) : Reader Redirection :=
        pure (.file (descriptor.getD usual) opening w)
      match sign with
      | "<" => opened .reading 0
      | "<>" => opened .updating 0
      | ">" => opened .writing 1
      | ">|" => opened .replacing 1
      | ">>" => opened .appending 1
      | "<&" => pure (.duplicate (descriptor.getD 0) w)
      | ">&" => pure (.duplicate (descriptor.getD 1) w)
      | _ =>
        let s ← get
        let (text, s) := s.takeDocument w.rawText.toList (sign == "<<-")
        let place := descriptor.getD 0
        if w.any Piece.isQuoted then
          set s
          pure (.document place [.literal (String.ofList text) true])
        else
          set (s.inner text (s.line + 1))
          let body ← readPieces fuel .document [] []
          set s
          pure (.document place body)
    | t => unexpected t none
termination_by structural fuel

/-- Read what the name of a command stands for, if it is an alias, given the token that has been read. -/
def readAlias (fuel : Nat) (telling : Bool) (t : Token) : Reader Token :=
  match fuel with
  | 0 => fail "too long"
  | fuel + 1 => do
    let name? : Option String := match t with
      | .word w => w.plain?
      | _ => none
    let s ← get
    match name?, name?.bind s.alias? with
    | some name, some text =>
      set (s.putIn name text)
      let t ← readToken fuel false telling
      readAlias fuel telling t
    | _, _ => pure t
termination_by structural fuel

/-- Read the redirections behind a command; those before come last first. -/
def readRedirections (fuel : Nat) (done : List Redirection) : Reader (List Redirection) :=
  match fuel with
  | 0 => fail "too long"
  | fuel + 1 => do
    match ← readToken fuel false true with
    | .redirect descriptor sign =>
      let r ← readRedirection fuel descriptor sign
      readRedirections fuel (r :: done)
    | t => push t; pure done.reverse
termination_by structural fuel

/-- Read commands up to what ends them.  In a list over several lines there has to be at least one
command, unless it may end at once. -/
def readList (fuel : Nat) (overLines mayEnd : Bool) (done : Option Script) :
    Reader (Option Script) :=
  match fuel with
  | 0 => fail "too long"
  | fuel + 1 => do
    match ← readToken fuel overLines true with
    | .newline => pure done
    | .ending => push .ending; pure done
    | t =>
      push t
      if overLines && mayEnd && t.endsList then pure done
      else
        let found ← readChain fuel
        let t ← readToken fuel false false
        let found := if t.isSign "&" then .background found else found
        let done := match done with
          | some before => Script.sequence before found
          | none => found
        match t with
        | .ending => push t; pure (some done)
        | .newline => push t; readList fuel overLines true (some done)
        | .sign "&" | .sign ";" => readList fuel overLines true (some done)
        | t =>
          if overLines then
            push t
            pure (some done)
          else unexpected t none
termination_by structural fuel

/-- Read commands that depend on the end of the one before. -/
def readChain (fuel : Nat) : Reader Script :=
  match fuel with
  | 0 => fail "too long"
  | fuel + 1 => do
    let first ← readPipe fuel false false
    readChainRest fuel first
termination_by structural fuel

/-- Read what follows a command and depends on its end. -/
def readChainRest (fuel : Nat) (done : Script) : Reader Script :=
  match fuel with
  | 0 => fail "too long"
  | fuel + 1 => do
    match ← readToken fuel false false with
    | .sign "&&" =>
      let next ← readPipe fuel true true
      readChainRest fuel (.both done next)
    | .sign "||" =>
      let next ← readPipe fuel true true
      readChainRest fuel (.either done next)
    | t => push t; pure done
termination_by structural fuel

/-- Read commands that are piped into each other. -/
def readPipe (fuel : Nat) (overLines telling : Bool) : Reader Script :=
  match fuel with
  | 0 => fail "too long"
  | fuel + 1 => do
    let t ← readToken fuel overLines telling
    let negated := t.isKeyword "!"
    if !negated then push t
    let first ← readCommand fuel false negated
    let stages ← readStages fuel [first]
    let body := match stages with
      | [single] => single
      | stages => .pipe stages
    pure (if negated then .negation body else body)
termination_by structural fuel

/-- Read the commands behind the bars of a pipe; those before come last first. -/
def readStages (fuel : Nat) (done : List Script) : Reader (List Script) :=
  match fuel with
  | 0 => fail "too long"
  | fuel + 1 => do
    let t ← readToken fuel false false
    if t.isSign "|" then
      let next ← readCommand fuel true true
      readStages fuel (next :: done)
    else
      push t
      pure done.reverse
termination_by structural fuel

/-- Read a list of commands that must not be empty, and the word or sign that ends it. -/
def readBody (fuel : Nat) (closing : Token) : Reader Script :=
  match fuel with
  | 0 => fail "too long"
  | fuel + 1 => do
    let found ← readList fuel true false none
    let t ← readToken fuel false true
    match t, closing with
    | .keyword text, .keyword wanted | .sign text, .sign wanted =>
      if text == wanted then pure (found.getD default) else unexpected t (some closing)
    | _, _ => unexpected t (some closing)
termination_by structural fuel

/-- Read a command. -/
def readCommand (fuel : Nat) (overLines telling : Bool) : Reader Script :=
  match fuel with
  | 0 => fail "too long"
  | fuel + 1 => do
    let t ← readToken fuel overLines telling
    let t ← readAlias fuel true t
    let line := (← get).line
    let redirected (body : Script) : Reader Script := do
      let redirections ← readRedirections fuel []
      pure (if redirections.isEmpty then body else .redirected line body redirections)
    match t with
    | .keyword "if" => readChoice fuel >>= redirected
    | .keyword "while" | .keyword "until" =>
      let condition ← readBody fuel (.keyword "do")
      let body ← readBody fuel (.keyword "done")
      redirected (.loop (t.isKeyword "while") condition body)
    | .keyword "for" => readLoop fuel line >>= redirected
    | .keyword "case" => readMatching fuel line >>= redirected
    | .sign "(" =>
      let body ← readBody fuel (.sign ")")
      let redirections ← readRedirections fuel []
      pure (.apart line body redirections)
    | .keyword "\x7b" => readBody fuel (.keyword "\x7d") >>= redirected
    | .word _ | .redirect .. =>
      push t
      readSimple fuel line [] [] []
    | t => unexpected t none
termination_by structural fuel

/-- Read a condition behind its first word. -/
def readChoice (fuel : Nat) : Reader Script :=
  match fuel with
  | 0 => fail "too long"
  | fuel + 1 => do
    let condition ← readBody fuel (.keyword "then")
    let positive ← readList fuel true false none
    let positive := positive.getD default
    match ← readToken fuel false true with
    | .keyword "elif" =>
      let negative ← readChoice fuel
      pure (.choice condition positive (some negative))
    | .keyword "else" =>
      let negative ← readBody fuel (.keyword "fi")
      pure (.choice condition positive (some negative))
    | .keyword "fi" => pure (.choice condition positive none)
    | t => unexpected t (some (.keyword "fi"))
termination_by structural fuel

/-- Read a loop over words behind its first word. -/
def readLoop (fuel : Nat) (line : Nat) : Reader Script :=
  match fuel with
  | 0 => fail "too long"
  | fuel + 1 => do
    let name ← match ← readToken fuel false false with
      | .word w =>
        match w.plain? with
        | some name => if isIdentifier name then pure name else fail "Bad for loop variable"
        | none => fail "Bad for loop variable"
      | _ => fail "Bad for loop variable"
    let t ← readToken fuel true true
    let words ← if t.isKeyword "in" then readWords fuel []
      else do
        if !t.isSign ";" then push t
        pure [[Piece.parameter "@" .value true]]
    let t ← readToken fuel true true
    if !t.isKeyword "do" then unexpected t (some (.keyword "do"))
    let body ← readBody fuel (.keyword "done")
    pure (.forEach line name words body)
termination_by structural fuel

/-- Read words up to the end of a line or a semicolon; those before come last first. -/
def readWords (fuel : Nat) (done : List Word) : Reader (List Word) :=
  match fuel with
  | 0 => fail "too long"
  | fuel + 1 => do
    match ← readToken fuel false false with
    | .word w => readWords fuel (w :: done)
    | .newline | .sign ";" => pure done.reverse
    | t => unexpected t none
termination_by structural fuel

/-- Read a word and the scripts with the patterns that it may match, behind the first word. -/
def readMatching (fuel : Nat) (line : Nat) : Reader Script :=
  match fuel with
  | 0 => fail "too long"
  | fuel + 1 => do
    match ← readToken fuel false false with
    | .word w =>
      let t ← readToken fuel true true
      if !t.isKeyword "in" then unexpected t (some (.keyword "in"))
      let branches ← readBranches fuel []
      pure (.matching line w branches)
    | t => unexpected t (some (.word []))
termination_by structural fuel

/-- Read scripts with their patterns; those before come last first. -/
def readBranches (fuel : Nat) (done : List (List Word × Option Script)) :
    Reader (List (List Word × Option Script)) :=
  match fuel with
  | 0 => fail "too long"
  | fuel + 1 => do
    let t ← readToken fuel true true
    if t.isKeyword "esac" then pure done.reverse
    else
      let t ← if t.isSign "(" then readToken fuel false false else pure t
      let patterns ← readPatterns fuel t []
      let body ← readList fuel true true none
      let t ← readToken fuel true true
      let done := (patterns, body) :: done
      if t.isKeyword "esac" then pure done.reverse
      else if t.isSign ";;" then readBranches fuel done
      else unexpected t (some (.sign ";;"))
termination_by structural fuel

/-- Read patterns, of which the first has been read, and the parenthesis behind them. -/
def readPatterns (fuel : Nat) (first : Token) (done : List Word) : Reader (List Word) :=
  match fuel with
  | 0 => fail "too long"
  | fuel + 1 => do
    let pattern : Word := match first with
      | .word w => w
      | .keyword text => [.literal text false]
      | _ => []
    let done := pattern :: done
    let t ← readToken fuel false false
    if t.isSign "|" then
      let next ← readToken fuel false false
      readPatterns fuel next done
    else if t.isSign ")" then pure done.reverse
    else unexpected t (some (.sign ")"))
termination_by structural fuel

/-- Read a simple command or the definition of a function.  What has been read comes last first. -/
def readSimple (fuel : Nat) (line : Nat) (assignments : List (String × Word)) (words : List Word)
    (redirections : List Redirection) : Reader Script :=
  match fuel with
  | 0 => fail "too long"
  | fuel + 1 => do
    let t ← readToken fuel false false
    let t ← if words.isEmpty && !assignments.isEmpty then readAlias fuel false t else pure t
    let finish : Reader Script := do
      push t
      pure (.command line assignments.reverse words.reverse redirections.reverse)
    match t with
    | .word w =>
      match words, assignment? w with
      | [], some a => readSimple fuel line (a :: assignments) words redirections
      | _, _ => readSimple fuel line assignments (w :: words) redirections
    | .redirect descriptor sign =>
      let r ← readRedirection fuel descriptor sign
      readSimple fuel line assignments words (r :: redirections)
    | .sign "(" =>
      match words, assignments, redirections with
      | [name], [], [] =>
        let t ← readToken fuel false false
        if !t.isSign ")" then unexpected t (some (.sign ")"))
        match name.plain? with
        | some text =>
          if isIdentifier text && !specialCommands.contains text then
            let body ← readCommand fuel true true
            pure (.function line text body)
          else fail "Bad function name"
        | none => fail "Bad function name"
      | _, _, _ => finish
    | _ => finish
termination_by structural fuel

end

/-! ## Whole scripts -/

/-- What comes next in a script. -/
inductive Upcoming
  | ending
  /-- Lines without a command. -/
  | nothing (rest : Source)
  /-- A command, what is left behind it, and whether that is nothing at all. -/
  | script (script : Script) (rest : Source) (isLast : Bool)
  | fault (fault : SyntaxFault)

/-- A number of steps that suffices to read what is left. -/
def Source.steps (s : Source) : Nat :=
  16 * (s.rest.length + (s.aliases.map fun (_, text) => text.length).foldl (· + ·) 0) + 64

/-- Read the next complete command. -/
def Source.next (s : Source) : Upcoming :=
  match (readList s.steps false false none).run { s with pushed := none, opened := [] } with
  | .error fault => .fault fault
  | .ok (found, rest) =>
    let atEnd := match rest.pushed with
      | some .ending => true
      | _ => false
    match found with
    | some script => .script script rest atEnd
    | none => if atEnd then .ending else .nothing rest

end Conformance.Shell
