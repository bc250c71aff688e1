import Conformance.Shell.Awk.Syntax

/-!
# Words of programs over records

A program is cut into words.  What a word is may depend on what stands in front of it and on where it stands:
a slash divides or begins a pattern, a sign compares or says where something is written, and a bracket that
ends a block ends the statement in front of it as well.
-/

namespace Conformance.Shell

/-- A word of a program. -/
inductive AwkToken
  | finish
  | lineEnd
  | semicolon
  /-- A semicolon that is meant in front of a bracket. -/
  | suppliedSemicolon
  | openBrace
  | closeBrace
  | openParen
  | closeParen
  | openBracket
  | closeBracket
  | comma
  | question
  | colon
  | either
  | both
  | assign (operator : Option AwkOperator)
  | relation (r : AwkRelation)
  | matching (isWanted : Bool)
  | operator (o : AwkOperator)
  | not
  | step (isUp : Bool)
  | number (x : Float) (shown : String)
  | text (s : String)
  | pattern (s : String)
  | name (s : String)
  /-- A name that is kept together with the fields. -/
  | fieldName (s : String)
  /-- The name of a function of the program. -/
  | called (s : String)
  | builtin (s : String)
  | word (s : String)
  /-- A sign that says where something is written. -/
  | writing (sign : String)
  /-- The sign that says where something is read. -/
  | reading
  | pipe
  | dollar
  | field (n : Nat)
  | unexpected (c : Char)
  deriving BEq, Inhabited

/-- The sign of an operation. -/
def AwkOperator.sign : AwkOperator → String
  | .add => "+"
  | .subtract => "-"
  | .multiply => "*"
  | .divide => "/"
  | .remainder => "%"
  | .power => "^"

/-- The sign of a relation. -/
def AwkRelation.sign : AwkRelation → String
  | .less => "<"
  | .atMost => "<="
  | .equal => "=="
  | .unequal => "!="
  | .greater => ">"
  | .atLeast => ">="

/-- A word as messages show it. -/
def AwkToken.shown : AwkToken → String
  | .finish => "end of file"
  | .lineEnd => "end of line"
  | .semicolon => ";"
  | .suppliedSemicolon | .closeBrace => "\x7d"
  | .openBrace => "\x7b"
  | .openParen => "("
  | .closeParen => ")"
  | .openBracket => "["
  | .closeBracket => "]"
  | .comma => ","
  | .question => "?"
  | .colon => ":"
  | .either => "||"
  | .both => "&&"
  | .assign o => (o.map AwkOperator.sign).getD "" ++ "="
  | .relation r => r.sign
  | .matching isWanted => if isWanted then "~" else "!~"
  | .operator o => o.sign
  | .not => "!"
  | .step isUp => if isUp then "++" else "--"
  | .number _ shown => shown
  | .text s | .name s | .called s | .builtin s | .word s => s
  | .pattern s => "/" ++ s ++ "/"
  | .writing sign => sign
  | .reading => "<"
  | .pipe => "|"
  | .dollar | .field _ | .fieldName _ => "$"
  | .unexpected c => String.singleton c

/-! ## What is known while a program is read -/

/-- What a name stands for. -/
inductive AwkKind
  | variable
  | table
  | function
  deriving Repr, DecidableEq

/-- What kind of thing statements belong to. -/
inductive AwkScope
  | start
  | finish
  | record
  | function
  deriving Repr, DecidableEq

/-- What a call hands over at one place: something of a kind, or what has a name. -/
structure AwkArgument where
  place : Nat
  kind : Option AwkKind
  name : Option AwkName

/-- A call of a function of the program: where it stands, and what it hands over, the last argument first. -/
structure AwkCall where
  function : String
  caller : Option String
  line : Nat
  /-- Whether there are known to be no more arguments than parameters. -/
  isCounted : Bool
  arguments : List AwkArgument

/-- How many arguments a call has at least. -/
def AwkCall.extent (call : AwkCall) : Nat :=
  (call.arguments.head?.map fun argument => argument.place + 1).getD 0

/-- What is known of a function: what kinds of things its parameters are, as far as this is known, and what it
does, once that has been read. -/
structure AwkOutline where
  kinds : List (Option AwkKind)
  body : Option AwkStatement

/-- The state of reading a program. -/
structure AwkReader where
  /-- The texts that come later, with the names of their files. -/
  sources : List (Option String × List Char)
  file : Option String
  rest : List Char
  line : Nat
  /-- The line of the word that was read last. -/
  wordLine : Nat
  braces : Nat
  parens : Nat
  last : AwkToken
  ahead : Option AwkToken
  /-- Whether a sign can say where something is written, and where something is read. -/
  isWriting : Bool
  isReading : Bool
  /-- How many words must follow before a fault is told again. -/
  quiet : Nat
  /-- What is wrong, the last first. -/
  faults : List String
  kinds : Std.HashMap String AwkKind
  outlines : List (String × AwkOutline)
  calls : List AwkCall
  scope : AwkScope
  /-- The function that is being read, the names it has for itself, and what kinds they are of. -/
  function : Option String
  own : List String
  ownKinds : List (Option AwkKind)
  loops : Nat

/-- Why reading does not simply go on. -/
inductive AwkHalt
  /-- A word stands where none can. -/
  | misplaced
  /-- Nothing more is read. -/
  | fatal
  deriving Repr, DecidableEq

/-- Reading of a program. -/
abbrev AwkReading := ExceptT AwkHalt (StateM AwkReader)

namespace AwkReading

/-- How many faults are told before reading stops. -/
def faultLimit : Nat := 5

/-- Note a fault as it is shown. -/
def note (message : String) : AwkReading Unit := do
  modify fun r => { r with faults := message :: r.faults }
  if faultLimit ≤ (← get).faults.length then throw .fatal

/-- Note what is wrong in the line of the last word. -/
def complain (message : String) : AwkReading Unit := do
  let r ← get
  let front := (r.file.map (· ++ ": ")).getD ""
  note s!"{front}line {r.wordLine}: {message}"

/-- Note what is wrong in a line. -/
def complainIn (line : Nat) (message : String) : AwkReading Unit := do
  modify fun r => { r with wordLine := line }
  complain message

/-- Note a fault behind which nothing can be read. -/
def giveUp {α : Type} (message : String) : AwkReading α := do
  complain message
  throw .fatal

end AwkReading

/-! ## Parts of words -/

/-- Whether a character is a blank in a program. -/
def isAwkBlank (c : Char) : Bool :=
  isSpace c && c != '\n'

/-- What follows blanks and comments and ends of lines with backslashes in front of them, and how many lines
have ended; other ends of lines may be passed over as well.  The number bounds how many characters there
are. -/
def skipAwkBlanks (withLines : Bool) : Nat → Nat → List Char → Nat × List Char
  | 0, lines, text => (lines, text)
  | fuel + 1, lines, text =>
    match text with
    | '#' :: rest => skipAwkBlanks withLines fuel lines (rest.dropWhile (· != '\n'))
    | '\\' :: rest =>
      match rest.dropWhile isAwkBlank with
      | '\n' :: rest => skipAwkBlanks withLines fuel (lines + 1) rest
      | _ => (lines, text)
    | c :: rest =>
      if isAwkBlank c then skipAwkBlanks withLines fuel lines rest
      else if withLines && c == '\n' then skipAwkBlanks withLines fuel (lines + 1) rest
      else (lines, text)
    | [] => (lines, [])

/-- The digits of a number at the beginning of a text, and what follows. -/
def takeAwkNumber (text : List Char) : List Char × List Char :=
  let whole := text.takeWhile Char.isDigit
  let (mantissa, rest) := match text.drop whole.length with
    | '.' :: more =>
      let places := more.takeWhile Char.isDigit
      (whole ++ '.' :: places, more.drop places.length)
    | rest => (whole, rest)
  match rest with
  | e :: more =>
    if e == 'e' || e == 'E' then
      let (sign, digits) := match more with
        | '+' :: digits => (['+'], digits)
        | '-' :: digits => (['-'], digits)
        | digits => ([], digits)
      let power := digits.takeWhile Char.isDigit
      if power.isEmpty then (mantissa, rest)
      else (mantissa ++ e :: sign ++ power, digits.drop power.length)
    else (mantissa, rest)
  | [] => (mantissa, [])

/-- The text up to a quote; the end of the line ends it, unless a backslash stands in front.  The answer has
how many lines have ended, and what follows, if there is a quote. -/
def takeAwkText : Nat → Nat → List Char → List Char → List Char × Nat × Option (List Char)
  | 0, lines, done, _ => (done.reverse, lines, none)
  | fuel + 1, lines, done, text =>
    match text with
    | '"' :: rest => (done.reverse, lines, some rest)
    | '\\' :: '\n' :: rest => takeAwkText fuel (lines + 1) done rest
    | '\\' :: c :: rest => takeAwkText fuel lines (c :: '\\' :: done) rest
    | c :: rest => if c == '\n' then (done.reverse, lines, none) else takeAwkText fuel lines (c :: done) rest
    | [] => (done.reverse, lines, none)

/-- The text of a pattern up to a slash that is not part of a set; the end of the line ends it.  The answer
has what follows, if there is a slash. -/
def takeAwkPattern : Nat → Bool → List Char → List Char → List Char × Option (List Char)
  | 0, _, done, _ => (done.reverse, none)
  | fuel + 1, isInSet, done, text =>
    match text with
    | '/' :: rest => if isInSet then takeAwkPattern fuel true ('/' :: done) rest else (done.reverse, some rest)
    | '\\' :: '/' :: rest => takeAwkPattern fuel isInSet ('/' :: done) rest
    | '\\' :: '\n' :: rest => takeAwkPattern fuel isInSet done rest
    | '\\' :: c :: rest => takeAwkPattern fuel isInSet (c :: '\\' :: done) rest
    | '[' :: rest =>
      if isInSet then takeAwkPattern fuel true ('[' :: done) rest
      else
        match rest with
        | '^' :: ']' :: rest => takeAwkPattern fuel true (']' :: '^' :: '[' :: done) rest
        | ']' :: rest => takeAwkPattern fuel true (']' :: '[' :: done) rest
        | rest => takeAwkPattern fuel true ('[' :: done) rest
    | c :: rest =>
      if c == '\n' then (done.reverse, none)
      else takeAwkPattern fuel (isInSet && c != ']') (c :: done) rest
    | [] => (done.reverse, none)

/-- The words that have a meaning of their own. -/
def awkKeywords : List String :=
  ["BEGIN", "END", "function", "if", "else", "while", "for", "do", "break", "continue", "next", "nextfile",
    "exit", "return", "delete", "print", "printf", "getline", "in", "split", "match", "sub", "gsub", "length"]

/-- Whether a slash behind a word divides. -/
def AwkToken.canBeDivided : AwkToken → Bool
  | .number .. | .text _ | .closeParen | .name _ | .pattern _ | .closeBracket | .field _ | .fieldName _ => true
  | .word s => s == "getline"
  | _ => false

namespace AwkReading

/-- The kind of a name, if it is known. -/
def kindOf? (name : String) : AwkReading (Option AwkKind) := do
  pure ((← get).kinds[name]?)

/-- Go on behind what has been read of the text. -/
def goTo (rest : List Char) : AwkReading Unit :=
  modify fun r => { r with rest := rest }

/-- Pass over blanks and ends of lines. -/
def skipLines : AwkReading Unit := do
  let r ← get
  let (lines, rest) := skipAwkBlanks true (r.rest.length + 1) 0 r.rest
  set { r with rest := rest, line := r.line + lines }

/-- Pass over one semicolon in the line. -/
def skipSemicolon : AwkReading Unit := do
  match (← get).rest.dropWhile isAwkBlank with
  | ';' :: rest => goTo rest
  | rest => goTo rest

/-- Read a number whose text has been found. -/
def readNumber (digits rest : List Char) : AwkReading AwkToken := do
  goTo rest
  let shown := String.ofList digits
  let x := AwkValue.numberOf shown
  let isZero := (digits.takeWhile fun c => c != 'e' && c != 'E').all fun c => c == '0' || c == '.'
  if x == 0 && !isZero then complain (shown ++ " : decimal underflow")
  else if x.isInf || (!isZero && x < Float.ofBits 0x0010000000000000) then
    complain (shown ++ " : decimal overflow")
  pure (.number x shown)

/-- Read a text behind its quote. -/
def readText (text : List Char) : AwkReading AwkToken := do
  match takeAwkText (text.length + 1) 0 [] text with
  | (found, lines, some rest) =>
    modify fun r => { r with rest := rest, line := r.line + lines }
    pure (.text (unescapeAwk (String.ofList found)))
  | (found, _, none) => giveUp ("runaway string constant \"" ++ String.ofList (found.take 10) ++ " ...")

/-- Read a pattern behind its slash. -/
def readPattern (text : List Char) : AwkReading AwkToken := do
  match takeAwkPattern (text.length + 1) false [] text with
  | (found, some rest) =>
    goTo rest
    pure (.pattern (String.ofList found))
  | (found, none) => giveUp ("runaway regular expression /" ++ String.ofList (found.take 10) ++ " ...")

/-- Read a name or a word. -/
def readName (name : String) (rest : List Char) : AwkReading AwkToken := do
  goTo rest
  let r ← get
  if awkKeywords.contains name then pure (.word name)
  else if r.own.contains name then pure (.name name)
  else if (AwkBuiltin.table.lookup name).isSome then pure (.builtin name)
  else if awkFieldVariables.contains name then pure (.fieldName name)
  else
    match r.kinds[name]?, rest with
    | some .function, _ => pure (.called name)
    | none, '(' :: _ =>
      set { r with kinds := r.kinds.insert name .function }
      pure (.called name)
    | _, _ => pure (.name name)

/-- The word that one of two or three signs makes, and what follows it. -/
def signToken? (isWriting isReading : Bool) : List Char → Option (AwkToken × List Char)
  | '+' :: '+' :: rest => some (.step true, rest)
  | '-' :: '-' :: rest => some (.step false, rest)
  | '+' :: '=' :: rest => some (.assign (some .add), rest)
  | '-' :: '=' :: rest => some (.assign (some .subtract), rest)
  | '*' :: '=' :: rest => some (.assign (some .multiply), rest)
  | '%' :: '=' :: rest => some (.assign (some .remainder), rest)
  | '^' :: '=' :: rest => some (.assign (some .power), rest)
  | '=' :: '=' :: rest => some (.relation .equal, rest)
  | '!' :: '=' :: rest => some (.relation .unequal, rest)
  | '<' :: '=' :: rest => some (.relation .atMost, rest)
  | '!' :: '~' :: rest => some (.matching false, rest)
  | '>' :: rest =>
    match isWriting, rest with
    | true, '>' :: rest => some (.writing ">>", rest)
    | true, rest => some (.writing ">", rest)
    | false, '=' :: rest => some (.relation .atLeast, rest)
    | false, rest => some (.relation .greater, rest)
  | '|' :: rest => if rest.head? == some '|' then none else some (if isWriting then .writing "|" else .pipe, rest)
  | '<' :: rest => some (if isReading then .reading else .relation .less, rest)
  | '+' :: rest => some (.operator .add, rest)
  | '-' :: rest => some (.operator .subtract, rest)
  | '*' :: rest => some (.operator .multiply, rest)
  | '%' :: rest => some (.operator .remainder, rest)
  | '^' :: rest => some (.operator .power, rest)
  | '=' :: rest => some (.assign none, rest)
  | '!' :: rest => some (.not, rest)
  | '~' :: rest => some (.matching true, rest)
  | '?' :: rest => some (.question, rest)
  | ':' :: rest => some (.colon, rest)
  | '[' :: rest => some (.openBracket, rest)
  | ']' :: rest => some (.closeBracket, rest)
  | _ => none

/-- Read a slash: as a sign, or as the beginning of a pattern.  Behind a step, the character that follows it is
lost. -/
def readSlash (rest : List Char) : AwkReading AwkToken := do
  let r ← get
  if r.last.canBeDivided then
    match rest with
    | '=' :: rest =>
      goTo rest
      pure (.assign (some .divide))
    | rest =>
      goTo rest
      pure (.operator .divide)
  else
    match r.last, rest with
    | .step _, c :: more => readPattern (if c == '=' then rest else more)
    | _, _ => readPattern rest

/-- Read a sign that says which field is meant. -/
def readDollar (rest : List Char) : AwkReading AwkToken := do
  let rest := rest.dropWhile isAwkBlank
  match rest with
  | c :: _ =>
    if c.isDigit || c == '.' then
      let (digits, rest) := takeAwkNumber rest
      goTo rest
      pure (.field (AwkValue.toInteger (AwkValue.numberOf (String.ofList digits))).toNat)
    else
      goTo rest
      pure .dollar
  | [] =>
    goTo rest
    pure .dollar

/-- Read a bracket that ends a block.  The end of the statement in front of it is supplied where it is
missing. -/
def readCloseBrace (rest : List Char) : AwkReading (Option AwkToken) := do
  let r ← get
  match r.braces with
  | 0 =>
    goTo rest
    complain "extra '\x7d'"
    skipSemicolon
    pure none
  | braces + 1 =>
    match r.last with
    | .lineEnd | .semicolon | .suppliedSemicolon | .closeBrace =>
      set { r with rest := rest, braces := braces }
      if braces = 0 then skipSemicolon
      skipLines
      pure (some .closeBrace)
    | _ => pure (some .suppliedSemicolon)

/-- Read the next word.  The number bounds how many characters there are. -/
def readToken : Nat → AwkReading AwkToken
  | 0 => pure .finish
  | fuel + 1 => do
    let r ← get
    let (lines, text) := skipAwkBlanks false (r.rest.length + 1) 0 r.rest
    set { r with rest := text, line := r.line + lines, wordLine := r.line + lines }
    match text with
    | [] =>
      match r.sources with
      | [] => pure .finish
      | (file, rest) :: sources =>
        set { r with sources := sources, file := file, rest := rest, line := 1, wordLine := 1 }
        readToken fuel
    | '\n' :: rest =>
      modify fun r => { r with rest := rest, line := r.line + 1 }
      skipLines
      pure .lineEnd
    | ';' :: rest => goTo rest; skipLines; pure .semicolon
    | ',' :: rest => goTo rest; skipLines; pure .comma
    | '{' :: rest =>
      goTo rest
      skipLines
      modify fun r => { r with braces := r.braces + 1 }
      pure .openBrace
    | '}' :: rest =>
      match ← readCloseBrace rest with
      | some token => pure token
      | none => readToken fuel
    | '(' :: rest =>
      modify fun r => { r with rest := rest, parens := r.parens + 1 }
      pure .openParen
    | ')' :: rest =>
      goTo rest
      match (← get).parens with
      | 0 => complain "extra ')'"; readToken fuel
      | parens + 1 =>
        modify fun r => { r with parens := parens }
        pure .closeParen
    | '&' :: '&' :: rest => goTo rest; skipLines; pure .both
    | '|' :: '|' :: rest => goTo rest; skipLines; pure .either
    | '"' :: rest => readText rest
    | '/' :: rest => readSlash rest
    | '$' :: rest => readDollar rest
    | '.' :: rest =>
      if (rest.headD ' ').isDigit then
        let (digits, rest) := takeAwkNumber text
        readNumber digits rest
      else
        goTo (rest.drop 1)
        pure (.unexpected '.')
    | c :: rest =>
      if c.isDigit then
        let (digits, rest) := takeAwkNumber text
        readNumber digits rest
      else if c.isAlpha || c == '_' then
        let name := text.takeWhile fun c => c.isAlphanum || c == '_'
        readName (String.ofList name) (text.drop name.length)
      else
        match signToken? (r.isWriting && r.parens = 0) r.isReading text with
        | some (token, rest) =>
          modify fun r => { r with
            rest := rest
            isWriting := r.isWriting && (match token with
              | .writing _ => false
              | _ => true)
            isReading := r.isReading && token != .reading }
          pure token
        | none =>
          goTo rest
          pure (.unexpected c)

/-- The next word, which stays the next one. -/
def peek : AwkReading AwkToken := do
  let r ← get
  match r.ahead with
  | some token => pure token
  | none =>
    let token ← readToken (r.rest.length + r.sources.length + 2)
    modify fun r => { r with last := token, ahead := some token }
    pure token

/-- Take the next word. -/
def advance : AwkReading Unit := do
  let _ ← peek
  modify fun r => { r with ahead := none, quiet := r.quiet - 1 }

/-- Say that the next word cannot stand where it does. -/
def fail {α : Type} : AwkReading α := do
  let token ← peek
  let r ← get
  if r.quiet = 0 then
    match token with
    | .unexpected c => note s!"{r.wordLine}: unexpected character '{c}'"
    | .finish =>
      if 0 < r.braces then complain "missing \x7d near end of file" else complain "syntax error at or near end of file"
    | .lineEnd | .semicolon | .suppliedSemicolon | .closeBrace =>
      if 0 < r.parens then
        modify fun r => { r with parens := 0 }
        complain ("missing ) near " ++ token.shown)
      else complain ("syntax error at or near " ++ token.shown)
    | token => complain ("syntax error at or near " ++ token.shown)
  modify fun r => { r with quiet := 3 }
  throw .misplaced

/-- Take the next word, which must be a certain one. -/
def expect (token : AwkToken) : AwkReading Unit := do
  if (← peek) == token then advance else fail

end AwkReading

end Conformance.Shell
