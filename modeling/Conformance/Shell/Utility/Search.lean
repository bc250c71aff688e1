import Conformance.Shell.Regular
import Conformance.Shell.Utility.Change

/-!
# Programs that look for something

Programs that look for lines in files, for files in directories, for programs, and for the first place in
which two files differ.
-/

namespace Conformance.Shell

open Effect

/-! ## What is looked for in lines -/

/-- What is looked for: an expression, and which of its matches count. -/
structure Search where
  expression : Regular
  folding : Bool
  wholeWord : Bool
  wholeLine : Bool

namespace Search

/-- Whether a match counts that begins and ends at places. -/
def counts (q : Search) (s : Regular.Subject) (start stop : Nat) : Bool :=
  let word (place : Nat) : Bool := (s.text[place]?).any Regular.isWordChar
  (!q.wholeLine || (start == 0 && stop == s.text.size)) &&
    (!q.wholeWord || (!(0 < start && word (start - 1)) && !word stop))

/-- The leftmost of the longest matches that count, from a place on.  The number is that of the places which
are tried. -/
def find? (q : Search) (s : Regular.Subject) : Nat → Nat → Option (Nat × Nat)
  | 0, _ => none
  | tries + 1, start =>
    let stops := (q.expression.run s [⟨start, []⟩]).map Regular.Spot.place
    match stops.filter (q.counts s start) with
    | [] => find? q s tries (start + 1)
    | stop :: more => some (start, more.foldl max stop)

/-- A line as a text in which matches are looked for. -/
def subject (q : Search) (line : String) : Regular.Subject :=
  ⟨(unitsOf line).toArray, q.folding, false⟩

/-- Whether a line has a match. -/
def meets (q : Search) (line : String) : Bool :=
  let s := q.subject line
  (q.find? s (s.text.size + 1) 0).isSome

/-- The matches in a text from a place on that are not empty.  The number bounds how many there are. -/
def allFrom (q : Search) (s : Regular.Subject) : Nat → Nat → List (Nat × Nat)
  | 0, _ => []
  | fuel + 1, place =>
    match q.find? s (s.text.size + 1 - place) place with
    | none => []
    | some (start, stop) =>
      if stop ≤ start then allFrom q s fuel (start + 1) else (start, stop) :: allFrom q s fuel stop

/-- The parts of a line that match, each with the number of bytes in front of it. -/
def parts (q : Search) (line : String) : List (Nat × String) :=
  let s := q.subject line
  let part (a b : Nat) : String := bytesOfUnits (s.text.extract a b).toList
  (q.allFrom s (s.text.size + 1) 0).map fun (start, stop) => ((part 0 start).length, part start stop)

end Search

/-! ## Looking for lines -/

/-- The long options of the program that looks for lines. -/
def searchNames : List (String × Char) :=
  [("regexp", 'e'), ("file", 'f'), ("ignore-case", 'i'), ("invert-match", 'v'), ("word-regexp", 'w'),
    ("line-regexp", 'x'), ("count", 'c'), ("color", 'κ'), ("colour", 'κ'), ("extended-regexp", 'E'),
    ("fixed-strings", 'F'), ("basic-regexp", 'G'), ("perl-regexp", 'P'), ("quiet", 'q'), ("silent", 'q'),
    ("no-messages", 's'), ("files-with-matches", 'l'), ("files-without-match", 'L'),
    ("only-matching", 'o'), ("line-number", 'n'), ("with-filename", 'H'), ("no-filename", 'h'),
    ("recursive", 'r'), ("max-count", 'm'), ("after-context", 'A'), ("before-context", 'B'),
    ("context", 'C'), ("text", 'a'), ("line-buffered", 'U'), ("null", 'Z'), ("byte-offset", 'b')]

/-- An expression in which the letters for digits are written out. -/
def withDigitSets : List Char → List Char
  | '\\' :: 'd' :: rest => "[0-9]".toList ++ withDigitSets rest
  | '\\' :: 'D' :: rest => "[^0-9]".toList ++ withDigitSets rest
  | '\\' :: c :: rest => '\\' :: c :: withDigitSets rest
  | c :: rest => c :: withDigitSets rest
  | [] => []

/-- The expression that stands for any of several texts, as options say how they are read. -/
def readExpressions (g : Given) (texts : List String) : Except String Regular := do
  let kind := (g.last? ['E', 'F', 'G', 'P']).getD 'G'
  let found ← texts.mapM fun text =>
    let units := unitsOf text
    if kind == 'F' then .ok (Regular.ofText units)
    else if kind == 'P' then Regular.read .extended (withDigitSets units)
    else Regular.read (if kind == 'E' then .extended else .basic) units
  match found.reverse with
  | [] => pure (.set false [])
  | last :: before => pure (before.foldl (fun more e => Regular.either e more) last)

/-- How lines that are found are shown. -/
structure Showing where
  names : Bool
  numbers : Bool
  places : Bool
  before : Option Nat
  after : Option Nat

/-- What stands in front of a line: the name of the file, its number and its place, with a mark behind
each. -/
def Showing.front (w : Showing) (name : String) (number place : Nat) (mark : String) : String :=
  (if w.names then name ++ mark else "") ++ (if w.numbers then toString number ++ mark else "") ++
    (if w.places then toString place ++ mark else "")

/-- A line of a file that is looked through: its number, its place, itself, and whether it is wanted. -/
structure Candidate where
  number : Nat
  place : Nat
  line : String
  isWanted : Bool

/-- The lines of a text as candidates; those behind a number of wanted ones are not. -/
def candidates (isWanted : String → Bool) : Option Nat → Nat → Nat → List String → List Candidate
  | _, _, _, [] => []
  | most, number, place, line :: rest =>
    let found := most != some 0 && isWanted line
    ⟨number, place, line, found⟩ ::
      candidates isWanted (if found then most.map (· - 1) else most) (number + 1)
        (place + line.length + 1) rest

/-- The lines of a file that are shown: the wanted ones and those around them, with a gap where lines are
left out between them. -/
def Showing.lines (w : Showing) (name : String) (all : List Candidate) (hasShown : Bool) : List String :=
  let wanted := (all.filter Candidate.isWanted).map Candidate.number
  let isNear (c : Candidate) : Bool := c.isWanted || wanted.any fun n =>
    (c.number < n && n ≤ c.number + w.before.getD 0) || (n < c.number && c.number ≤ n + w.after.getD 0)
  let shown := all.filter isNear
  let gaps := w.before.isSome || w.after.isSome
  (shown.zip ((0 :: shown.map Candidate.number).take shown.length)).flatMap fun (c, last) =>
    let gap := gaps && (if last = 0 then hasShown else last + 1 != c.number)
    let front := w.front name c.number c.place (if c.isWanted then ":" else "-")
    (if gap then ["--"] else []) ++ [front ++ c.line]

/-- What a search in one file comes to. -/
inductive Outcome
  | found
  | absent
  | unreadable
  deriving Repr, DecidableEq

/-- Look for lines in a text and show them as options ask for; it is told whether lines of other files have
been shown. -/
def searchText (g : Given) (q : Search) (w : Showing) (most : Option Nat) (name text : String)
    (hasShown : Bool) : Effect Outcome := do
  let all := candidates (fun line => q.meets line != g.has 'v') most 1 0 (linesOf text)
  let wanted := all.filter Candidate.isWanted
  let outcome := if wanted.isEmpty then Outcome.absent else .found
  let shownName := if name == "-" then "(standard input)" else name
  if g.has 'q' then pure ()
  else if g.has 'l' then do
    if outcome == .found then say s!"{shownName}\n"
  else if g.has 'L' then do
    if outcome == .absent then say s!"{shownName}\n"
  else if g.has 'c' then
    say ((if w.names then shownName ++ ":" else "") ++ toString wanted.length ++ "\n")
  else
    let hasNull := text.toList.contains '\x00'
    let clean := if g.has 'a' then all
      else if hasNull then []
      else all.filter fun c => !(c.isWanted && isForeign c.line)
    if g.has 'o' then
      if !g.has 'v' then
        clean.forM fun c => do
          if c.isWanted then
            (q.parts c.line).forM fun (before, part) =>
              say (w.front shownName c.number (c.place + before) ":" ++ part ++ "\n")
    else say (unlines (w.lines shownName clean hasShown))
    if outcome == .found && clean.length < all.length then
      tell s!"{shownName}: binary file matches"
  pure outcome

/-- The files below a directory, with their names. -/
def filesUnder (m : Machine) : Nat → String → Listed → List String
  | 0, _, _ => []
  | fuel + 1, name, f =>
    (f.inside m).flatMap fun inner =>
      let name := nameWithin name inner.name
      if inner.entry.isDirectory then filesUnder m fuel name inner
      else if inner.entry.isFile then [name] else []

/-- Look for lines in files. -/
def searchFiles (g : Given) (q : Search) (most before after : Option Nat) (operands : List String) :
    Effect Nat := do
  let deep := g.has 'r' || g.has 'R'
  let directories ← operands.filterM isDirectory
  let names ← operands.mapM fun name => do
    let m ← get
    match m.listed true name with
    | .ok f => pure (if deep && f.entry.isDirectory then filesUnder m treeDepth name f else [name])
    | .error _ => pure [name]
  let all ← if operands.isEmpty && deep then do
      let m ← get
      match m.listed true "." with
      | .ok f => pure ((filesUnder m treeDepth "." f).map fun name => (name.drop 2).toString)
      | .error _ => pure []
    else if operands.isEmpty then pure ["-"]
    else pure names.flatten
  let several := operands.length > 1 || (deep && (operands.isEmpty || !directories.isEmpty))
  let titled := match g.last? ['H', 'h'] with
    | some c => c == 'H'
    | none => several
  let w : Showing := ⟨titled, g.has 'n', g.has 'b', before, after⟩
  let outcomes ← all.foldlM (fun (done : List Outcome) name => do
    if g.has 'q' && done.contains .found then pure done
    else
      match ← readOperand? name with
      | .ok text => pure ((← searchText g q w most name text (done.contains .found)) :: done)
      | .error fault =>
        if !g.has 's' then tell s!"{name}: {fault.text}"
        pure (.unreadable :: done)) []
  let isFound := outcomes.contains .found
  pure (if isFound && (g.has 'q' || !outcomes.contains .unreadable) then 0
    else if outcomes.contains .unreadable then 2
    else if isFound then 0 else 1)

/-- Look for lines. -/
def grepProgram (arguments : List String) : Effect Nat := do
  let misuse (message : Option String) : Effect Nat := do
    message.forM tell
    complain ("Usage: grep [OPTION]... PATTERNS [FILE]...\n" ++
      "Try 'grep --help' for more information.\n")
    pure 2
  match Given.read "EFGPiyvcnqslLoHhwxrRaIUzbTZe:f:m:A:B:C:d:D:κ::" searchNames arguments with
  | .error message => misuse (some message)
  | .ok g =>
    let listed ← g.options.mapM fun (letter, value) => do
      if letter == 'e' then pure (.ok (value.splitOn "\n"))
      else if letter == 'f' then
        match ← readOperand? value with
        | .ok text => pure (.ok (linesOf text))
        | .error fault => pure (Except.error (nameAndFault value fault))
      else pure (.ok [])
    let isListed := g.has 'e' || g.has 'f'
    let given : Except String (Option (List String × List String)) := do
      let texts ← listed.mapM id
      match isListed, g.operands with
      | true, operands => pure (some (texts.flatten, operands))
      | false, text :: operands => pure (some (text.splitOn "\n", operands))
      | false, [] => pure none
    let lengths := ['A', 'B', 'C'].filterMap g.get?
    match lengths.find? fun text => text.toNat?.isNone, (g.get? 'm').map String.toNat?, given with
    | some bad, _, _ =>
      tell s!"{bad}: invalid context length argument"
      pure 2
    | none, some none, _ =>
      tell "invalid max count"
      pure 2
    | none, most, .ok (some (texts, operands)) =>
      match readExpressions g texts with
      | .error message =>
        tell message
        pure 2
      | .ok e =>
        let q : Search := ⟨e, g.has 'i' || g.has 'y', g.has 'w', g.has 'x'⟩
        let around (letter : Char) : Option Nat :=
          ((g.get? letter).or (g.get? 'C')).bind String.toNat?
        searchFiles g q (most.bind id) (around 'B') (around 'A') operands
    | none, _, .ok none => misuse none
    | none, _, .error message =>
      tell message
      pure 2

end Conformance.Shell
