import Conformance.Shell.Regular

/-!
# Scripts that edit lines

The commands that change a text line by line, and how they are read.  A script may come in several parts,
on the command line and in files; blocks and texts that are begun in one part go on in the next one.
-/

namespace Conformance.Shell

/-! ## Scripts -/

/-- An expression with how it is matched. -/
structure EditPattern where
  expression : Regular
  folding : Bool
  lined : Bool
  deriving Repr, DecidableEq

/-- What tells a line from others. -/
inductive LineAddress
  | line (n : Nat)
  | last
  /-- A match of an expression, which is the one used last where none is given. -/
  | matching (p : Option EditPattern)
  /-- Every so many lines from one on. -/
  | every (first step : Nat)
  deriving Repr, DecidableEq

/-- Where a range of lines ends. -/
inductive RangeEnd
  | address (a : LineAddress)
  /-- So many lines behind the first one. -/
  | further (n : Nat)
  /-- At the next line whose number is a multiple of a number. -/
  | multiple (n : Nat)
  deriving Repr, DecidableEq

/-- The lines that a command is for. -/
inductive LineChoice
  | all
  | one (a : LineAddress)
  | range (first : LineAddress) (final : RangeEnd)
  deriving Repr, DecidableEq

/-- The letters that a text is put in with. -/
inductive LetterCase
  | same
  | upper
  | lower
  deriving Repr, DecidableEq

/-- A part of what is put in the place of a match: a text and what a group has matched, the letters of both,
and those of the first character.  The group with the number zero is the whole match. -/
structure ReplacementPart where
  text : List Char
  group : Option Nat
  whole : LetterCase
  first : LetterCase
  deriving Repr, DecidableEq

/-- The replacement of matches: the first that is replaced, whether those behind it are as well, and what
happens with the result. -/
structure Substitution where
  pattern : Option EditPattern
  parts : List ReplacementPart
  first : Nat
  isGlobal : Bool
  isShown : Bool
  /-- Whether the result is run as a command. -/
  isRun : Bool
  file : Option String
  deriving Repr, DecidableEq

/-- What a command does. -/
inductive EditAction
  /-- Go on only if the line is chosen; otherwise behind the command with a number. -/
  | block (stop : Nat)
  | blockEnd
  | substitute (s : Substitution)
  | exchangeChars (pairs : List (Char × Char))
  | delete
  | deleteFirst
  | clear
  | show
  | showFirst
  /-- Show the line without characters that cannot be seen, in pieces of a width. -/
  | list (width : Option Nat)
  | number
  | fileName
  | quit (printing : Bool) (status : Nat)
  | append (text : String)
  | insert (text : String)
  | change (text : String)
  | next
  | join
  | hold (adding : Bool)
  | recall (adding : Bool)
  | exchange
  | branch (onChange : Option Bool) (label : String)
  | label (name : String)
  | readFile (name : String)
  | readLine (name : String)
  | writeFile (name : String) (onlyFirst : Bool)
  /-- Run a command, or the line as one. -/
  | run (command : String)
  /-- A letter that is read but has no meaning. -/
  | unknown (c : Char)
  deriving Repr, DecidableEq

/-- A command of a script that edits lines. -/
structure EditCommand where
  choice : LineChoice
  isNegated : Bool
  action : EditAction
  deriving Repr, DecidableEq

/-! ## Where a script is read -/

/-- Where a part of a script comes from. -/
inductive EditOrigin
  | argument (n : Nat)
  | file (name : String)
  deriving Repr, DecidableEq

/-- A part of a script, as far as it has not been read. -/
structure EditSource where
  origin : EditOrigin
  size : Nat
  line : Nat
  rest : List Char

/-- What is wrong with a script: where, and what. -/
structure EditFault where
  place : String
  message : String
  deriving Repr, DecidableEq

/-- How messages tell the place where reading has come to. -/
def EditSource.place (s : EditSource) : String :=
  match s.origin with
  | .argument n => s!"-e expression #{n}, char {s.size - s.rest.length}: "
  | .file name => s!"file {name} line {s.line}: "

/-- Reading a part of a script. -/
abbrev EditReader := StateT EditSource (Except EditFault)

namespace EditReader

/-- Stop with a message. -/
def fail {α : Type} (message : String) : EditReader α := do
  throw ⟨(← get).place, message⟩

/-- The next character, which stays. -/
def peek : EditReader (Option Char) := do
  pure (← get).rest.head?

/-- Go on with what follows. -/
def goTo (rest : List Char) : EditReader Unit :=
  modify fun s =>
    let passed := s.rest.take (s.rest.length - rest.length)
    { s with rest := rest, line := s.line + passed.count '\n' }

/-- Pass the next character. -/
def skip : EditReader Unit := do
  goTo ((← get).rest.drop 1)

/-- Take the next character. -/
def next : EditReader (Option Char) := do
  let c ← peek
  skip
  pure c

/-- Whether a character is a blank. -/
def isBlankChar (c : Char) : Bool :=
  c == ' ' || c == '\t'

/-- Pass characters of a kind. -/
def skipWhile (isPassed : Char → Bool) : EditReader Unit := do
  goTo ((← get).rest.dropWhile isPassed)

/-- Pass blanks. -/
def skipBlanks : EditReader Unit :=
  skipWhile isBlankChar

/-- Take characters of a kind. -/
def takeWhile (isTaken : Char → Bool) : EditReader String := do
  let text := (← get).rest.takeWhile isTaken
  skipWhile isTaken
  pure (String.ofList text)

/-- Take a number; there may be no digit. -/
def number : EditReader Nat := do
  let digits ← takeWhile Char.isDigit
  pure (digits.toNat?.getD 0)

/-- Pass the end of a command. -/
def finish : EditReader Unit := do
  skipBlanks
  match ← peek with
  | none | some '}' | some '#' => pure ()
  | some c =>
    skip
    if c == '\n' || c == ';' then pure () else fail "extra characters after command"

end EditReader

/-! ## Escapes -/

/-- What escapes are read for. -/
inductive EscapeUse
  | expression
  | replacement
  | text
  deriving Repr, DecidableEq

/-- The character that a letter behind a backslash stands for. -/
def escapedLetter? (c : Char) : Option Char :=
  [('a', '\x07'), ('f', '\x0c'), ('n', '\n'), ('\n', '\n'), ('r', '\r'), ('t', '\t'), ('v', '\x0b')].lookup c

/-- The base and the greatest number of digits of a number behind a letter. -/
def escapedBase? (c : Char) : Option (Nat × Nat) :=
  [('d', 10, 3), ('o', 8, 3), ('x', 16, 2)].lookup c

/-- The value of a digit. -/
def digitIn? (base : Nat) (c : Char) : Option Nat :=
  let value :=
    if Char.isDigit c then c.toNat - 48
    else if 'a' ≤ c && c ≤ 'f' then c.toNat - 87
    else if 'A' ≤ c && c ≤ 'F' then c.toNat - 55
    else 16
  if value < base then some value else none

/-- A text without the escapes that stand for characters.  Others stay as they are, but in texts without
their backslash. -/
def resolveEscapes (use : EscapeUse) (text : List Char) : Except String (List Char) := do
  match text with
  | [] => pure []
  | ['\\'] => pure (if use == .text then [] else ['\\'])
  | '\\' :: c :: rest =>
    match escapedLetter? c, escapedBase? c with
    | some d, _ => return d :: (← resolveEscapes use rest)
    | none, some (base, count) =>
      let digits := (rest.take count).takeWhile fun d => (digitIn? base d).isSome
      let more ← resolveEscapes use (rest.drop digits.length)
      let n := digits.foldl (fun n d => n * base + (digitIn? base d).getD 0) 0
      let d := Char.ofNat (n % 256)
      if digits.isEmpty then pure (c :: more)
      else if use == .replacement && (d == '&' || d == '\\') then pure ('\\' :: d :: more)
      else pure (d :: more)
    | none, none =>
      match c, rest with
      | 'c', [] => pure ['\\']
      | 'c', '\\' :: '\\' :: rest => return Char.ofNat 28 :: (← resolveEscapes use rest)
      | 'c', '\\' :: _ => .error "recursive escaping after \\c not allowed"
      | 'c', d :: rest => return Char.ofNat (d.toUpper.toNat ^^^ 64) :: (← resolveEscapes use rest)
      | c, rest =>
        let more ← resolveEscapes use rest
        pure (if use == .text then c :: more else '\\' :: c :: more)
  | c :: rest => return c :: (← resolveEscapes use rest)
termination_by text.length
decreasing_by
  all_goals simp only [List.length_cons, List.length_drop] at *
  all_goals omega

/-- Where the characters of an expression stand with regard to its brackets. -/
inductive BracketPlace
  | outside
  /-- Behind an opening bracket, where a closing one stands for itself. -/
  | start (mayNegate : Bool)
  | inside
  /-- In the name of a category or something like it, which a mark and a bracket end. -/
  | named (mark : Char)
  deriving Repr, DecidableEq

/-- The text of a replacement up to a mark on the same line, and what follows: the mark may stand in the text
behind a backslash.  Without a mark there is no text, and what follows is the end of the line. -/
def takeDelimited (mark : Char) : List Char → Option (List Char) × List Char
  | [] => (none, [])
  | ['\\'] => (none, [])
  | '\\' :: c :: rest =>
    let (text, after) := takeDelimited mark rest
    let piece := if c == '&' || (c != mark && c != '\n') then ['\\', c] else [c]
    (text.map (piece ++ ·), after)
  | c :: rest =>
    if c == '\n' && mark != '\n' then (none, c :: rest)
    else if c == mark then (some [], rest)
    else
      let (text, after) := takeDelimited mark rest
      (text.map (c :: ·), after)

/-- The next piece of an expression, how many characters it is read from, and where what follows stands. -/
def expressionPiece (mark : Char) (place : BracketPlace) (text : List Char) : List Char × Nat × BracketPlace :=
  match place, text with
  | _, [] => ([], 0, place)
  | .outside, '\\' :: c :: _ =>
    (if c == 'n' then ['\n'] else if c != '\n' && c != mark then ['\\', c] else [c], 2, .outside)
  | .outside, c :: _ => ([c], 1, if c == '[' then .start true else .outside)
  | .named m, c :: ']' :: _ => if c == m then ([c, ']'], 2, .inside) else ([c], 1, .named m)
  | .named m, c :: _ => ([c], 1, .named m)
  | .start true, '^' :: _ => (['^'], 1, .start false)
  | .start _, ']' :: _ => ([']'], 1, .inside)
  | _, ']' :: _ => ([']'], 1, .outside)
  | _, '\\' :: 'n' :: _ => (['\n'], 2, .inside)
  | _, '\\' :: '\\' :: _ => (['\\', '\\'], 2, .inside)
  | _, '[' :: c :: _ =>
    if c == ':' || c == '.' || c == '=' then (['[', c], 2, .named c) else (['['], 1, .inside)
  | _, c :: _ => ([c], 1, .inside)

/-- The text of an expression up to a mark on the same line, and what follows: the mark may stand in the text
behind a backslash, and in brackets.  The number bounds how many pieces it has. -/
def takeExpression (mark : Char) : Nat → BracketPlace → List Char → Option (List Char) × List Char
  | 0, _, text => (none, text)
  | fuel + 1, place, text =>
    let isOutside := place == .outside
    match text with
    | [] => (none, [])
    | c :: rest =>
      if isOutside && c == mark then (some [], rest)
      else if isOutside && c == '\\' && rest.isEmpty then (none, [])
      else if c == '\n' then (none, text)
      else
        let (piece, size, place) := expressionPiece mark place text
        let (found, after) := takeExpression mark fuel place (text.drop size)
        (found.map (piece ++ ·), after)

namespace EditReader

/-- Take a text up to a mark, or fail with a message. -/
def delimited (mark : Char) (ofExpression : Bool) (message : String) : EditReader (List Char) := do
  let source := (← get).rest
  let (text, rest) := if ofExpression then takeExpression mark (source.length + 1) .outside source
    else takeDelimited mark source
  goTo rest
  match text with
  | some text => pure text
  | none => fail message

/-- A text without its escapes. -/
def resolved (use : EscapeUse) (text : List Char) : EditReader (List Char) := do
  match resolveEscapes use text with
  | .ok text => pure (unitsOf (String.ofList text))
  | .error message => fail message

end EditReader

/-! ## Expressions and replacements -/

/-- How many groups an expression has. -/
def Regular.groupCount : Regular → Nat
  | .group _ body => body.groupCount + 1
  | .repeated _ _ body => body.groupCount
  | .sequence a b | .either a b => a.groupCount + b.groupCount
  | _ => 0

/-- The expression that a text stands for, with its marks; one without characters is the one used last. -/
def compileEditPattern (extended : Bool) (text : List Char) (folding lined : Bool) :
    EditReader (Option EditPattern) := do
  if text.isEmpty then
    if folding || lined then EditReader.fail "cannot specify modifiers on empty regexp" else pure none
  else
    match Regular.read ⟨extended, true, true⟩ (← EditReader.resolved .expression text) with
    | .ok e => pure (some ⟨e, folding, lined⟩)
    | .error message =>
      if message == Regular.bareCategory then throw ⟨"", message⟩ else EditReader.fail message

/-- The letters that the parts of a replacement have: those of this part, and those of the parts that
follow. -/
structure CaseState where
  whole : LetterCase
  first : LetterCase
  later : LetterCase

/-- The parts of a replacement, given the letters and the text that has been read for this part, last
first. -/
def readReplacementParts (k : CaseState) (text : List Char) : List Char → List ReplacementPart
  | [] => if text.isEmpty then [] else [⟨text.reverse, none, k.whole, k.first⟩]
  | '&' :: rest =>
    ⟨text.reverse, some 0, k.whole, k.first⟩ :: readReplacementParts ⟨k.later, .same, k.later⟩ [] rest
  | ['\\'] => [⟨('\\' :: text).reverse, none, k.whole, k.first⟩]
  | '\\' :: c :: rest =>
    let part (group : Option Nat) (text : List Char) : ReplacementPart := ⟨text.reverse, group, k.whole, k.first⟩
    let turn (whole : LetterCase) := part none text :: readReplacementParts ⟨whole, .same, whole⟩ [] rest
    let turnFirst (first : LetterCase) :=
      part none text :: readReplacementParts ⟨k.later, first, k.later⟩ [] rest
    match c with
    | 'L' => turn .lower
    | 'U' => turn .upper
    | 'E' => turn .same
    | 'l' => turnFirst .lower
    | 'u' => turnFirst .upper
    | c =>
      if Char.isDigit c then
        part (some (c.toNat - 48)) text :: readReplacementParts ⟨k.later, .same, k.later⟩ [] rest
      else part none (c :: text) :: readReplacementParts ⟨k.later, .same, k.later⟩ [] rest
  | c :: rest => readReplacementParts k (c :: text) rest

/-- What may still be read of the marks behind a replacement. -/
def readSubstitutionMarks (isSafe : Bool) : Nat → Bool → Bool → Substitution →
    EditReader (Bool × Bool × Substitution)
  | 0, folding, lined, s => pure (folding, lined, s)
  | fuel + 1, folding, lined, s => do
    let go := readSubstitutionMarks isSafe fuel
    match ← EditReader.peek with
    | none | some '}' | some '#' => pure (folding, lined, s)
    | some c =>
      if Char.isDigit c then
        let n ← EditReader.number
        if s.first != 0 then
          EditReader.fail "multiple number options to \x60s' command"
        else if n = 0 then EditReader.fail "number option to \x60s' command may not be zero"
        else go folding lined { s with first := n }
      else
        EditReader.skip
        match c with
        | '\n' | ';' => pure (folding, lined, s)
        | ' ' | '\t' => go folding lined s
        | 'i' | 'I' => go true lined s
        | 'm' | 'M' => go folding true s
        | 'e' => go folding lined { s with isRun := true }
        | 'p' =>
          if s.isShown then EditReader.fail "multiple \x60p' options to \x60s' command"
          else go folding lined { s with isShown := true }
        | 'g' =>
          if s.isGlobal then EditReader.fail "multiple \x60g' options to \x60s' command"
          else go folding lined { s with isGlobal := true }
        | 'w' =>
          if isSafe then EditReader.fail "e/r/w commands disabled in sandbox mode"
          else
            EditReader.skipBlanks
            let name ← EditReader.takeWhile (· != '\n')
            if name.isEmpty then EditReader.fail "missing filename in r/R/w/W commands"
            else
              EditReader.skip
              pure (folding, lined, { s with file := some name })
        | _ => EditReader.fail "unknown option to \x60s'"

/-! ## Commands -/

/-- How commands are read: whether expressions have signs by themselves, and whether files must not be
used. -/
structure EditRules where
  extended : Bool
  isSafe : Bool

/-- The marks behind an expression that tells a line. -/
def readAddressMarks : Nat → Bool → Bool → EditReader (Bool × Bool)
  | 0, folding, lined => pure (folding, lined)
  | fuel + 1, folding, lined => do
    EditReader.skipBlanks
    match ← EditReader.peek with
    | some 'I' =>
      EditReader.skip
      readAddressMarks fuel true lined
    | some 'M' =>
      EditReader.skip
      readAddressMarks fuel folding true
    | _ => pure (folding, lined)

/-- What can stand where a line is told. -/
inductive ReadAddress
  | none
  | line (a : LineAddress)
  | relative (e : RangeEnd)

/-- Read what tells a line, if it is there. -/
def readAddress (r : EditRules) : EditReader ReadAddress := do
  let expression (mark : Char) : EditReader ReadAddress := do
    let text ← EditReader.delimited mark true "unterminated address regex"
    let (folding, lined) ← readAddressMarks ((← get).rest.length + 1) false false
    return .line (.matching (← compileEditPattern r.extended text folding lined))
  match ← EditReader.peek with
  | some '/' =>
    EditReader.skip
    expression '/'
  | some '\\' =>
    EditReader.skip
    match ← EditReader.next with
    | some mark => expression mark
    | none => EditReader.fail "unterminated address regex"
  | some '$' =>
    EditReader.skip
    pure (.line .last)
  | some '+' =>
    EditReader.skip
    EditReader.skipBlanks
    return .relative (.further (← EditReader.number))
  | some '~' =>
    EditReader.skip
    EditReader.skipBlanks
    return .relative (.multiple (← EditReader.number))
  | some c =>
    if Char.isDigit c then
      let first ← EditReader.number
      EditReader.skipBlanks
      if (← EditReader.peek) == some '~' then
        EditReader.skip
        EditReader.skipBlanks
        let step ← EditReader.number
        pure (.line (if step = 0 then .line first else .every first step))
      else pure (.line (.line first))
    else pure .none
  | none => pure .none

/-- Read which lines a command is for. -/
def readLineChoice (r : EditRules) : EditReader LineChoice := do
  match ← readAddress r with
  | .none => pure .all
  | .relative _ => EditReader.fail "invalid usage of +N or ~N as first address"
  | .line first =>
    EditReader.skipBlanks
    let choice ← if (← EditReader.peek) == some ',' then do
        EditReader.skip
        EditReader.skipBlanks
        match ← readAddress r with
        | .none =>
          EditReader.skip
          EditReader.fail "unexpected \x60,'"
        | .line final => pure (LineChoice.range first (.address final))
        | .relative final => pure (LineChoice.range first final)
      else pure (LineChoice.one first)
    EditReader.skipBlanks
    match choice with
    | .range (.line 0) (.address (.matching _)) => pure choice
    | .one (.line 0) | .range (.line 0) _ =>
      EditReader.skip
      EditReader.fail "invalid usage of line address 0"
    | _ => pure choice

/-- How the reading of an added text ends. -/
inductive TextEnd
  | whole
  /-- With a backslash at the end of a part of the script, so that it goes on in the next one. -/
  | open
  deriving Repr, DecidableEq

/-- The text up to the end of a line that has no backslash in front of it, how it ends, and what follows. -/
def takeAddedText : List Char → List Char × TextEnd × List Char
  | [] => (['\n'], .whole, [])
  | '\n' :: rest => (['\n'], .whole, rest)
  | ['\\'] => (['\n'], .open, [])
  | '\\' :: c :: rest =>
    let (text, stop, after) := takeAddedText rest
    ('\\' :: c :: text, stop, after)
  | c :: rest =>
    let (text, stop, after) := takeAddedText rest
    (c :: text, stop, after)

/-- Read the text that a command adds, which may begin behind a backslash; a text that is open at its end
comes as it is. -/
def readAddedText : EditReader (List Char × TextEnd) := do
  EditReader.skipBlanks
  match ← EditReader.peek with
  | none => EditReader.fail "expected \\ after \x60a', \x60c' or \x60i'"
  | some '\\' =>
    EditReader.skip
    match ← EditReader.peek with
    | none => pure ([], .open)
    | some c =>
      if c == '\n' then EditReader.skip
      take
  | some _ => take
where
  /-- Read up to the end of the text. -/
  take : EditReader (List Char × TextEnd) := do
    let (text, stop, rest) := takeAddedText (← get).rest
    EditReader.goTo rest
    pure (text, stop)

/-- A text as it is added. -/
def finishAddedText (text : List Char) : EditReader String := do
  match resolveEscapes .text text with
  | .ok text => pure (String.ofList text)
  | .error message => EditReader.fail message

/-- Read a replacement behind its letter. -/
def readSubstitution (r : EditRules) : EditReader EditAction := do
  let message := "unterminated \x60s' command"
  match ← EditReader.next with
  | none => EditReader.fail message
  | some mark =>
    let pattern ← EditReader.delimited mark true message
    let replacement ← EditReader.delimited mark false message
    let units ← EditReader.resolved .replacement replacement
    let parts := readReplacementParts ⟨.same, .same, .same⟩ [] units
    let (folding, lined, s) ← readSubstitutionMarks r.isSafe ((← get).rest.length + 1) false false
      ⟨none, parts, 0, false, false, false, none⟩
    let p ← compileEditPattern r.extended pattern folding lined
    let greatest := (parts.filterMap (·.group)).foldl max 0
    if p.any fun p => p.expression.groupCount < greatest then
      EditReader.fail s!"invalid reference \\{greatest} on \x60s' command's RHS"
    else if s.isRun && r.isSafe then EditReader.fail "e/r/w commands disabled in sandbox mode"
    else pure (.substitute { s with pattern := p, first := max s.first 1 })

/-- Read an exchange of characters behind its letter. -/
def readExchange : EditReader EditAction := do
  let message := "unterminated \x60y' command"
  match ← EditReader.next with
  | none => EditReader.fail message
  | some mark =>
    let chars ← EditReader.resolved .text (← EditReader.delimited mark false message)
    let images ← EditReader.resolved .text (← EditReader.delimited mark false message)
    if chars.length = images.length then
      EditReader.finish
      pure (.exchangeChars (chars.zip images))
    else EditReader.fail "strings for \x60y' command are different lengths"

/-- Read the name of a place in a script. -/
def readEditLabel : EditReader String := do
  EditReader.skipBlanks
  EditReader.takeWhile fun c => !isSpace c && c != ';' && c != '}'

/-- Read the name of a file, which goes to the end of the line. -/
def readEditFile (r : EditRules) (make : String → EditAction) : EditReader EditAction := do
  if r.isSafe then EditReader.fail "e/r/w commands disabled in sandbox mode"
  else
    EditReader.skipBlanks
    let name ← EditReader.takeWhile (· != '\n')
    if name.isEmpty then EditReader.fail "missing filename in r/R/w/W commands"
    else
      EditReader.skip
      pure (make name)

/-- The commands that consist of a letter only. -/
def plainEditAction? (c : Char) : Option EditAction :=
  [('d', EditAction.delete), ('D', .deleteFirst), ('p', .show), ('P', .showFirst), ('=', .number),
    ('n', .next), ('N', .join), ('h', .hold false), ('H', .hold true), ('g', .recall false),
    ('G', .recall true), ('x', .exchange), ('F', .fileName), ('z', .clear)].lookup c

/-- What has been read of a command: what it does, or an added text with what is made of it. -/
inductive ReadAction
  | whole (a : EditAction)
  | adding (text : List Char) (stop : TextEnd) (make : String → EditAction)

/-- Read what a command does, from its letter on. -/
def readEditAction (r : EditRules) (c : Char) : EditReader ReadAction := do
  let added (make : String → EditAction) : EditReader ReadAction := do
    let (text, stop) ← readAddedText
    pure (.adding text stop make)
  let width : EditReader (Option Nat) := do
    EditReader.skipBlanks
    let given := (← EditReader.peek).any Char.isDigit
    let n ← EditReader.number
    EditReader.finish
    pure (if given then some n else none)
  match plainEditAction? c with
  | some a =>
    EditReader.finish
    pure (.whole a)
  | none =>
    match c with
    | 's' => return .whole (← readSubstitution r)
    | 'y' => return .whole (← readExchange)
    | 'q' => return .whole (.quit true ((← width).getD 0))
    | 'Q' => return .whole (.quit false ((← width).getD 0))
    | 'l' => return .whole (.list (← width))
    | 'L' =>
      let _ ← width
      pure (.whole (.unknown 'L'))
    | 'a' => added .append
    | 'i' => added .insert
    | 'c' => added .change
    | 'e' =>
      if r.isSafe then EditReader.fail "e/r/w commands disabled in sandbox mode"
      else
        EditReader.skipBlanks
        match ← EditReader.peek with
        | none | some '\n' =>
          EditReader.skip
          pure (.whole (.run ""))
        | _ => added .run
    | 'r' => return .whole (← readEditFile r .readFile)
    | 'R' => return .whole (← readEditFile r .readLine)
    | 'w' => return .whole (← readEditFile r fun name => .writeFile name false)
    | 'W' => return .whole (← readEditFile r fun name => .writeFile name true)
    | 'b' => return .whole (.branch none (← readEditLabel))
    | 't' => return .whole (.branch (some true) (← readEditLabel))
    | 'T' => return .whole (.branch (some false) (← readEditLabel))
    | ':' =>
      let name ← readEditLabel
      if name.isEmpty then EditReader.fail "\":\" lacks a label" else pure (.whole (.label name))
    | c => EditReader.fail ("unknown command: \x60" ++ String.singleton c ++ "'")

/-! ## Scripts in parts -/

/-- What has been read of a script: the commands, last first, where the blocks that are open begin, an added
text that is open, and whether lines are not to be written by themselves. -/
structure EditProgress where
  commands : List EditCommand
  blocks : List EditOrigin
  blockLines : List Nat
  adding : Option (LineChoice × Bool × List Char × (String → EditAction))
  isQuiet : Bool

namespace EditProgress

/-- Add a command. -/
def push (k : EditProgress) (choice : LineChoice) (isNegated : Bool) (a : EditAction) : EditProgress :=
  { k with commands := ⟨choice, isNegated, a⟩ :: k.commands }

/-- Read the commands of a part of a script.  The number bounds how many there are. -/
def readCommands (r : EditRules) (mayBeQuiet : Bool) : Nat → EditProgress → EditReader EditProgress
  | 0, k => pure k
  | fuel + 1, k => do
    EditReader.skipWhile fun c => isSpace c || c == ';'
    match ← EditReader.peek with
    | none => pure k
    | some _ =>
      let choice ← readLineChoice r
      let isNegated := (← EditReader.peek) == some '!'
      if isNegated then
        EditReader.skip
        EditReader.skipBlanks
      match ← EditReader.next with
      | none => EditReader.fail "missing command"
      | some '!' => EditReader.fail "multiple \x60!'s"
      | some '#' =>
        if choice != .all then EditReader.fail "comments don't accept any addresses"
        else
          let s ← get
          let isFirst := mayBeQuiet && s.size = s.rest.length + 1
          let isQuiet := isFirst && s.rest.head? == some 'n'
          EditReader.skipWhile (· != '\n')
          readCommands r mayBeQuiet fuel { k with isQuiet := k.isQuiet || isQuiet }
      | some 'v' =>
        let wanted ← readEditLabel
        if "4.9" < wanted && wanted.length < 4 then EditReader.fail "expected newer version of sed"
        else readCommands r mayBeQuiet fuel k
      | some '{' =>
        let s ← get
        readCommands r mayBeQuiet fuel { k.push choice isNegated (.block 0) with
          blocks := s.origin :: k.blocks, blockLines := s.line :: k.blockLines }
      | some '}' =>
        if k.blocks.isEmpty then EditReader.fail "unexpected \x60\x7d'"
        else if choice != .all then EditReader.fail "\x60\x7d' doesn't want any addresses"
        else
          EditReader.finish
          readCommands r mayBeQuiet fuel { k.push choice isNegated .blockEnd with
            blocks := k.blocks.drop 1, blockLines := k.blockLines.drop 1 }
      | some c =>
        if c == ':' && choice != .all then EditReader.fail ": doesn't want any addresses"
        else
          match c, choice with
          | 'q', .range _ _ | 'Q', .range _ _ => EditReader.fail "command only uses one address"
          | c, choice =>
            match ← readEditAction r c with
            | .whole a => readCommands r mayBeQuiet fuel (k.push choice isNegated a)
            | .adding text .whole make =>
              let a := make (← finishAddedText text)
              readCommands r mayBeQuiet fuel (k.push choice isNegated a)
            | .adding text .open make => pure { k with adding := some (choice, isNegated, text, make) }

/-- Read a part of a script; a text that is open goes on in it. -/
def readPart (r : EditRules) (mayBeQuiet : Bool) (k : EditProgress) : EditReader EditProgress := do
  let fuel := (← get).rest.length + 1
  match k.adding with
  | none => readCommands r mayBeQuiet fuel k
  | some (choice, isNegated, begun, make) =>
    let (text, stop, rest) := takeAddedText (← get).rest
    EditReader.goTo rest
    match stop with
    | .open => pure { k with adding := some (choice, isNegated, begun ++ text, make) }
    | .whole =>
      let a := make (← finishAddedText (begun ++ text))
      readCommands r mayBeQuiet fuel ({ k with adding := none }.push choice isNegated a)

end EditProgress

/-- Where the block ends that begins in front of commands, counted from a number on. -/
def blockStop : Nat → Nat → List EditCommand → Nat
  | _, place, [] => place
  | depth, place, c :: rest =>
    match c.action with
    | .block _ => blockStop (depth + 1) (place + 1) rest
    | .blockEnd => if depth = 0 then place else blockStop (depth - 1) (place + 1) rest
    | _ => blockStop depth (place + 1) rest

/-- The commands of a script, where each block knows its end. -/
def withStops : Nat → List EditCommand → List EditCommand
  | _, [] => []
  | n, c :: rest =>
    (match c.action with
      | .block _ => { c with action := .block (blockStop 0 (n + 1) rest) }
      | _ => c) :: withStops (n + 1) rest

/-- Knowing its end changes nothing about how many commands a script has. -/
theorem length_withStops (n : Nat) (commands : List EditCommand) :
    (withStops n commands).length = commands.length := by
  induction commands generalizing n with
  | nil => rfl
  | cons c rest ih => simp [withStops, ih]

/-- A label that is jumped to but does not exist. -/
def missingLabel? (commands : List EditCommand) : Option String :=
  let labels := commands.filterMap fun c =>
    match c.action with
    | .label name => some name
    | _ => none
  commands.reverse.findSome? fun c =>
    match c.action with
    | .branch _ name => if name.isEmpty || labels.contains name then none else some name
    | _ => none

/-- A script: its commands, and whether lines are not written by themselves. -/
structure EditScript where
  commands : List EditCommand
  isQuiet : Bool

/-- A script from its parts, each with where it comes from and how it is read. -/
def EditScript.read (parts : List (EditOrigin × EditRules × String)) : Except EditFault EditScript := do
  let rec go (isFirst : Bool) (k : EditProgress) : List (EditOrigin × EditRules × String) →
      Except EditFault EditProgress
    | [] => pure k
    | (origin, rules, text) :: rest => do
      let source : EditSource := ⟨origin, text.length, 1, text.toList⟩
      let (k, _) ← (k.readPart rules isFirst).run source
      go false k rest
  let k ← go true ⟨[], [], [], none, false⟩ parts
  match k.blocks, k.blockLines with
  | .argument n :: _, _ => throw ⟨s!"-e expression #{n}, char 0: ", "unmatched \x60\x7b'"⟩
  | .file name :: _, line :: _ => throw ⟨s!"file {name} line {line}: ", "unmatched \x60\x7b'"⟩
  | _, _ =>
    let k := match k.adding with
      | some (choice, isNegated, text, make) => k.push choice isNegated (make (String.ofList text))
      | none => k
    pure ⟨withStops 0 k.commands.reverse, k.isQuiet⟩

end Conformance.Shell
