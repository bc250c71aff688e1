import Conformance.Shell.Utility.Lines

/-!
# Programs for parts of lines

Programs that cut parts out of lines, and that put together what lines of two files have in common.
-/

namespace Conformance.Shell

open Effect

/-! ## Ranges -/

/-- A range of numbers, which may have no end. -/
abbrev NumberRange := Nat × Option Nat

/-- What is said of numbers that are not given as they have to be. -/
structure RangeWords where
  zero : String
  invalid : String
  tooLarge : String

/-- What is said of numbers of fields. -/
def fieldWords : RangeWords :=
  ⟨"fields are numbered from 1", "invalid field value ", "field number "⟩

/-- What is said of numbers of bytes. -/
def byteWords : RangeWords :=
  ⟨"byte/character positions are numbered from 1", "invalid byte/character position ",
    "byte/character offset "⟩

/-- Read one range of numbers. -/
def readRange (words : RangeWords) (part : List Char) : Except String NumberRange :=
  let bad (text : List Char) : Except String NumberRange :=
    .error (words.invalid ++ quoted (String.ofList text))
  let first := part.takeWhile Char.isDigit
  let rest := part.drop first.length
  let value (digits : List Char) : Nat := (takeNumber 10 digits).1
  let large (digits : List Char) : Bool := greatestCount ≤ value digits
  if large first then .error (words.tooLarge ++ quoted (String.ofList first) ++ " is too large")
  else
    match rest with
    | [] => if value first = 0 then .error words.zero else .ok (value first, some (value first))
    | '-' :: more =>
      let second := more.takeWhile Char.isDigit
      let after := more.drop second.length
      if !first.isEmpty && value first = 0 then .error words.zero
      else if first.isEmpty && more.isEmpty then .error "invalid range with no endpoint: -"
      else if after.head? == some '-' then .error "invalid field range"
      else if !after.isEmpty then bad after
      else if large second then .error (words.tooLarge ++ quoted (String.ofList second) ++ " is too large")
      else
        let start := if first.isEmpty then 1 else value first
        if second.isEmpty then .ok (start, none)
        else if value second < start then .error "invalid decreasing range"
        else .ok (start, some (value second))
    | text => bad text

/-- Read ranges of numbers between commas or blanks. -/
def readRanges (words : RangeWords) (text : String) : Except String (List NumberRange) :=
  (text.toList.splitOnP fun c => c == ',' || c == ' ' || c == '\t').mapM (readRange words)

/-- Whether a number lies in one of several ranges. -/
def inRanges (ranges : List NumberRange) (n : Nat) : Bool :=
  ranges.any fun (a, b) => a ≤ n && b.all (n ≤ ·)

/-- Ranges in order, those that overlap put together. -/
def mergeRanges (ranges : List NumberRange) : List NumberRange :=
  let sorted := ranges.mergeSort fun a b => decide (a.1 ≤ b.1)
  (sorted.foldl (fun (done : List NumberRange) (a, b) =>
    match done with
    | (c, d) :: rest =>
      match d with
      | none => done
      | some stop =>
        if a ≤ stop then (c, b.map (max stop)) :: rest else (a, b) :: done
    | [] => [(a, b)]) []).reverse

/-- The ranges of the numbers that lie in none. -/
def otherRanges (ranges : List NumberRange) : List NumberRange :=
  let (done, next) := (mergeRanges ranges).foldl
    (fun ((done, next) : List NumberRange × Option Nat) (a, b) =>
      match next with
      | none => (done, none)
      | some n => (if n < a then (n, some (a - 1)) :: done else done, b.map (· + 1))) ([], some 1)
  (match next with
    | some n => (n, none) :: done
    | none => done).reverse

/-! ## LineCutting -/

/-- How lines are cut. -/
structure LineCutting where
  ranges : List NumberRange
  byFields : Bool
  delimiter : Char
  between : Option String
  onlyDelimited : Bool

/-- What is left of a line that is cut, if anything is. -/
def LineCutting.cut (w : LineCutting) (line : String) : Option String :=
  if w.byFields then
    let fields := line.toList.splitOn w.delimiter
    if fields.length = 1 then if w.onlyDelimited then none else some line
    else
      let kept := fields.zipIdx.filterMap fun (field, n) =>
        if inRanges w.ranges (n + 1) then some (String.ofList field) else none
      some ((w.between.getD (String.singleton w.delimiter)).intercalate kept)
  else
    match w.between with
    | none => some (String.ofList (line.toList.zipIdx.filterMap fun (c, n) =>
        if inRanges w.ranges (n + 1) then some c else none))
    | some text =>
      let parts := w.ranges.map fun (a, b) =>
        let cs := line.toList.drop (a - 1)
        String.ofList (match b with
          | some stop => cs.take (stop + 1 - a)
          | none => cs)
      some (text.intercalate (parts.filter (!·.isEmpty)))

/-- Cut parts out of lines. -/
def cutProgram (arguments : List String) : Effect Nat :=
  withGiven "b:c:d:f:nszκο:" [("bytes", 'b'), ("characters", 'c'), ("fields", 'f'), ("delimiter", 'd'),
    ("only-delimited", 's'), ("complement", 'κ'), ("output-delimiter", 'ο'), ("zero-terminated", 'z')]
    1 arguments fun g => do
    match g.options.filter fun (c, _) => ['b', 'c', 'f'].contains c with
    | [] => misused "you must specify a list of bytes, characters, or fields" 1
    | _ :: _ :: _ => misused "only one list may be specified" 1
    | [(kind, list)] =>
      let byFields := kind == 'f'
      match (g.get? 'd').filter (1 < ·.length), readRanges (if byFields then fieldWords else byteWords) list with
      | some _, _ => misused "the delimiter must be a single character" 1
      | none, ranges =>
        if g.has 'd' && !byFields then
          misused "an input delimiter may be specified only when operating on fields" 1
        else if g.has 's' && !byFields then
          misused "suppressing non-delimited lines makes sense\n\tonly when operating on fields" 1
        else
          match ranges with
          | .error message => misused message 1
          | .ok ranges =>
            let ranges := if g.has 'κ' then otherRanges ranges else mergeRanges ranges
            let delimiter := match g.get? 'd' with
              | some text => (text.toList.head?).getD '\x00'
              | none => '\t'
            let between := (g.get? 'ο').map fun text => if text.isEmpty then "\x00" else text
            let w : LineCutting := ⟨ranges, byFields, delimiter, between, g.has 's'⟩
            let ending := if g.has 'z' then "\x00" else "\n"
            eachInput (inputs g) nameAndFault fun _ text =>
              say (String.join ((partsBehind ending text).filterMap fun line =>
                let line := if line.endsWith ending then (line.dropEnd 1).toString else line
                (w.cut line).map (· ++ ending)))

/-! ## What two files have in common -/

/-- Something that is written while two files are compared: a line, or a message. -/
inductive Noted
  | line (text : String)
  | message (text : String)

/-- Whether the order of lines is checked. -/
inductive OrderCheck
  | always
  /-- Once a line has been found that has no partner. -/
  | usual
  | never
  deriving Repr, DecidableEq

/-- The order that options ask to be checked. -/
def readOrderCheck (g : Given) : OrderCheck :=
  match g.last? ['χ', 'ν'] with
  | some 'χ' => .always
  | some _ => .never
  | none => .usual

/-- A side of a comparison: what is left, the last two lines that have been passed, and whether it has been
said that it is not in order. -/
structure CommonSide where
  rest : List String
  last : Option String
  before : Option String
  isWarned : Bool

/-- Check the order of two lines of a side; the answer has a message if they are not in order. -/
def CommonSide.check (s : CommonSide) (number : Nat) (isChecked : Bool) (a b : Option String) :
    CommonSide × List Noted :=
  match isChecked && !s.isWarned, a, b with
  | true, some a, some b =>
    if b < a then ({ s with isWarned := true }, [.message s!"file {number} is not in sorted order"]) else (s, [])
  | _, _, _ => (s, [])

/-- Go on to the next line of a side. -/
def CommonSide.advance (s : CommonSide) (number : Nat) (isChecked : Bool) : CommonSide × List Noted :=
  match s.rest with
  | [] => (s, [])
  | line :: rest =>
    let s := { s with rest := rest, last := some line, before := s.last }
    match rest with
    | next :: _ => s.check number isChecked (some line) (some next)
    | [] => s.check number isChecked s.before (some line)

/-- Compare two files line by line: lines of the first one only, of the second one only, and of both come in
columns.  The number bounds how many lines there are. -/
def compareLines (check : OrderCheck) (show1 show2 show3 : String → Option String) :
    Nat → Bool → CommonSide → CommonSide → Nat × Nat × Nat → List Noted × Nat × Nat × Nat × Bool
  | 0, _, _, _, counts => ([], counts.1, counts.2.1, counts.2.2, false)
  | fuel + 1, seen, a, b, (m, n, k) =>
    let noted (text : Option String) : List Noted := text.toList.map .line
    let isChecked (seen : Bool) : Bool := check == .always || (check == .usual && seen)
    let stop (messages : List Noted) : Bool := check == .always && messages.any fun
      | .message _ => true
      | .line _ => false
    let go (first second : Bool) (shown : List Noted) (seen : Bool) (counts : Nat × Nat × Nat) :=
      let (a, messages) := if first then a.advance 1 (isChecked seen) else (a, [])
      let (b, more) := if second && !stop messages then b.advance 2 (isChecked seen) else (b, [])
      let front := shown ++ messages ++ more
      if stop front then (front, counts.1, counts.2.1, counts.2.2, true)
      else
        let (rest, counts) := compareLines check show1 show2 show3 fuel seen a b counts
        (front ++ rest, counts)
    match a.rest, b.rest with
    | [], [] => ([], m, n, k, a.isWarned || b.isWarned)
    | x :: _, [] => go true false (noted (show1 x)) true (m + 1, n, k)
    | [], y :: _ => go false true (noted (show2 y)) true (m, n + 1, k)
    | x :: _, y :: _ =>
      if x == y then go true true (noted (show3 x)) seen (m, n, k + 1)
      else if x < y then go true false (noted (show1 x)) true (m + 1, n, k)
      else go false true (noted (show2 y)) true (m, n + 1, k)

/-- The two files that a program compares, or a message with whether it tells of a wrong call. -/
def readTwoFiles (shown : String → String) (operands : List String) :
    Effect (Except (Bool × String) ((String × String) × String × String)) := do
  match operands with
  | [] => pure (.error (true, "missing operand"))
  | [single] => pure (.error (true, "missing operand after " ++ quoted single))
  | _ :: _ :: extra :: _ => pure (.error (true, "extra operand " ++ shown extra))
  | [first, second] =>
    match ← readOperand? first, ← readOperand? second with
    | .error fault, _ => pure (.error (false, nameAndFault first fault))
    | _, .error fault => pure (.error (false, nameAndFault second fault))
    | .ok a, .ok b => pure (.ok ((first, second), a, b))

/-- Write what has been noted. -/
def tellNoted (noted : List Noted) : Effect Unit :=
  noted.forM fun
    | .line text => say text
    | .message text => tell text

/-- The lines of a text that end in a way, without their ends. -/
def bareLines (ending text : String) : List String :=
  (partsBehind ending text).map fun line => if line.endsWith ending then (line.dropEnd 1).toString else line

/-- Compare two files line by line. -/
def commProgram (arguments : List String) : Effect Nat :=
  withGiven "123zχνο:τ" [("check-order", 'χ'), ("nocheck-order", 'ν'), ("output-delimiter", 'ο'), ("total", 'τ'),
      ("zero-terminated", 'z')] 1 arguments fun g => do
    let delimiters := ((g.options.filter fun (c, _) => c == 'ο').map Prod.snd).eraseDups
    if 1 < delimiters.length then failed "multiple output delimiters specified" 1
    else
      match ← readTwoFiles quoted g.operands with
      | .error (true, message) => misused message 1
      | .error (false, message) => failed message 1
      | .ok (_, a, b) =>
        let ending := if g.has 'z' then "\x00" else "\n"
        let between := match delimiters with
          | [] => "\t"
          | text :: _ => if text.isEmpty then "\x00" else text
        let front (shown : List Char) : String := String.join ((shown.filter (!g.has ·)).map fun _ => between)
        let row (letter : Char) (before : List Char) (line : String) : Option String :=
          if g.has letter then none else some (front before ++ line ++ ending)
        let check := readOrderCheck g
        let side (text : String) : CommonSide := ⟨bareLines ending text, none, none, false⟩
        let a := side a
        let b := side b
        let (noted, m, n, k, isBroken) := compareLines check (row '1' []) (row '2' ['1']) (row '3' ['1', '2'])
          (a.rest.length + b.rest.length + 1) false a b (0, 0, 0)
        tellNoted noted
        if check == .always && isBroken then pure 1
        else
          if g.has 'τ' then
            say (between.intercalate [toString m, toString n, toString k, "total"] ++ ending)
          if isBroken then failed "input is not in sorted order" 1 else pure 0

/-! ## Joining -/

/-- A line that is joined with others: its number, itself and its fields. -/
structure JoinLine where
  number : Nat
  text : String
  fields : List String

/-- A part of a line that is made by joining: the field that is joined on, or one of a file. -/
inductive JoinPart
  | key
  | field (second : Bool) (number : Nat)

/-- How files are joined. -/
structure Joining where
  first : Nat
  second : Nat
  separator : Option Char
  between : String
  filler : Option String
  parts : Option (List JoinPart)
  /-- How many fields lines of the two files are taken to have, where that is fixed. -/
  counts : Option (Nat × Nat)
  folding : Bool
  showsFirst : Bool
  showsSecond : Bool
  showsPairs : Bool
  check : OrderCheck
  names : String × String

namespace Joining

/-- The fields of a line. -/
def fieldsOf (separator : Option Char) (line : String) : List String :=
  match separator with
  | some '\n' => [line]
  | some c => (line.toList.splitOn c).map String.ofList
  | none => ((line.toList.splitOnP fun c => c == ' ' || c == '\t').filter (!·.isEmpty)).map String.ofList

/-- The lines of a text as they are joined. -/
def linesOf (w : Joining) (ending text : String) : List JoinLine :=
  (bareLines ending text).zipIdx.map fun (line, n) => ⟨n + 1, line, fieldsOf w.separator line⟩

/-- What a line is compared by. -/
def key (w : Joining) (second : Bool) (line : JoinLine) : String :=
  let text := (line.fields[if second then w.second else w.first]?).getD ""
  if w.folding then String.ofList (text.toList.map Char.toLower) else text

/-- A field as it is written. -/
def shown (w : Joining) (line : Option JoinLine) (n : Nat) : String :=
  match line.bind fun l => l.fields[n]? with
  | some text => if text.isEmpty then w.filler.getD "" else text
  | none => w.filler.getD ""

/-- A line that is made of two, one of which may be missing. -/
def joined (w : Joining) (a b : Option JoinLine) : String :=
  let keyText := match a with
    | some _ => w.shown a w.first
    | none => w.shown b w.second
  match w.parts with
  | some parts =>
    w.between.intercalate (parts.map fun
      | .key => keyText
      | .field second n => w.shown (if second then b else a) n)
  | none =>
    let others (line : Option JoinLine) (skipped : Nat) (count : Option Nat) : List String :=
      let size := count.getD ((line.map fun l => l.fields.length).getD 0)
      ((List.range size).filter (· != skipped)).map (w.shown line)
    w.between.intercalate
      (keyText :: others a w.first (w.counts.map Prod.fst) ++ others b w.second (w.counts.map Prod.snd))

/-- A side of a join: what is left, the line that was read last, and whether it has been said that the side
is not in order. -/
structure Side where
  second : Bool
  /-- The lines that have been read and not been used. -/
  current : List JoinLine
  rest : List JoinLine
  isWarned : Bool

/-- The message about a line that is not in order. -/
def disorder (w : Joining) (second : Bool) (line : JoinLine) : String :=
  s!"{if second then w.names.2 else w.names.1}:{line.number}: is not sorted: {line.text}"

/-- Read the next line of a side, given the one before it. -/
def readNext (w : Joining) (seen : Bool) (before : Option JoinLine) (s : Side) : Option JoinLine × Side × List Noted :=
  match s.rest with
  | [] => (none, s, [])
  | line :: rest =>
    let checked := w.check == .always || (w.check == .usual && seen)
    let isBad := checked && !s.isWarned && before.any fun b => w.key s.second line < w.key s.second b
    (some line, { s with rest := rest, isWarned := s.isWarned || isBad },
      if isBad then [.message (w.disorder s.second line)] else [])

/-- Read lines of a side as long as they have a key; the last one that is read belongs to what follows.  The
number bounds how many there are. -/
def readEqual (w : Joining) (seen : Bool) (key : String) :
    Nat → List JoinLine → Side → List JoinLine × Option JoinLine × Side × List Noted
  | 0, done, s => (done, none, s, [])
  | fuel + 1, done, s =>
    match w.readNext seen done.getLast? s with
    | (none, s, noted) => (done, none, s, noted)
    | (some line, s, noted) =>
      if w.key s.second line == key then
        let (done, next, s, more) := readEqual w seen key fuel (done ++ [line]) s
        (done, next, s, noted ++ more)
      else (done, some line, s, noted)

/-- What is written at the end of one side, when the other one has none left. -/
def finish (w : Joining) (seen shows : Bool) (write : JoinLine → String) :
    Nat → Option JoinLine → Side → List Noted × Side
  | 0, _, s => ([], s)
  | fuel + 1, before, s =>
    match w.readNext seen before s with
    | (none, s, noted) => (noted, s)
    | (some line, s, noted) =>
      let front := noted ++ if shows then [.line (write line)] else []
      if s.isWarned && !shows then (front, s)
      else
        let (more, s) := finish w seen shows write fuel (some line) s
        (front ++ more, s)

/-- Join what is left of two sides, of each of which one line has been read.  The number bounds how many lines
there are. -/
def run (w : Joining) (ending : String) :
    Nat → Bool → Option JoinLine → Side → Option JoinLine → Side → List Noted × Bool
  | 0, _, _, a, _, b => ([], a.isWarned || b.isWarned)
  | fuel + 1, seen, x, a, y, b =>
    let line (p q : Option JoinLine) : String := w.joined p q ++ ending
    match x, y with
    | some l, some r =>
      let keyA := w.key false l
      let keyB := w.key true r
      if keyA < keyB then
        let (next, a, noted) := w.readNext seen x a
        let (rest, isBroken) := run w ending fuel true next a y b
        ((if w.showsFirst then [Noted.line (line x none)] else []) ++ noted ++ rest, isBroken)
      else if keyB < keyA then
        let (next, b, noted) := w.readNext seen y b
        let (rest, isBroken) := run w ending fuel true x a next b
        ((if w.showsSecond then [Noted.line (line none y)] else []) ++ noted ++ rest, isBroken)
      else
        let (group, next, a, noted) := w.readEqual seen keyB (a.rest.length + 1) [l] a
        let (other, following, b, more) := w.readEqual seen keyA (b.rest.length + 1) [r] b
        let pairs := if w.showsPairs then
            group.flatMap fun p => other.map fun q => Noted.line (line (some p) (some q))
          else []
        let (rest, isBroken) := run w ending fuel seen next a following b
        (noted ++ more ++ pairs ++ rest, isBroken)
    | x, y =>
      let seenA := seen || (x.isSome && y.isSome)
      let (first, a) := match x with
        | some _ =>
          let (noted, a) := if w.showsFirst || w.check != OrderCheck.never then
              w.finish seenA w.showsFirst (fun l => line (some l) none) (a.rest.length + 1) x a
            else ([], a)
          ((if w.showsFirst then [Noted.line (line x none)] else []) ++ noted, a)
        | none => ([], a)
      let (second, b) := match y with
        | some _ =>
          let (noted, b) := if w.showsSecond || w.check != OrderCheck.never then
              w.finish seenA w.showsSecond (fun l => line none (some l)) (b.rest.length + 1) y b
            else ([], b)
          ((if w.showsSecond then [Noted.line (line none y)] else []) ++ noted, b)
        | none => ([], b)
      (first ++ second, a.isWarned || b.isWarned)

/-- Read one part of the lines that are made. -/
def readPart (text : String) : Except String JoinPart :=
  match text.toList with
  | ['0'] => .ok .key
  | c :: '.' :: digits =>
    if c == '1' || c == '2' then
      let n := (takeNumber 10 digits).1
      if digits.isEmpty || !digits.all Char.isDigit || n = 0 then
        .error ("invalid field number: " ++ quoted (String.ofList digits))
      else .ok (.field (c == '2') (n - 1))
    else .error ("invalid file number in field spec: " ++ quoted text)
  | c :: _ =>
    if c == '0' || c == '1' || c == '2' then .error ("invalid field specifier: " ++ quoted text)
    else .error ("invalid file number in field spec: " ++ quoted text)
  | [] => .error ("invalid file number in field spec: " ++ quoted text)

/-- The number of a field that an option names. -/
def readField (text : String) : Except String Nat :=
  let cs := text.toList
  let n := (takeNumber 10 cs).1
  if cs.isEmpty || !cs.all Char.isDigit || n = 0 then .error ("invalid field number: " ++ quoted text)
  else .ok (n - 1)

/-- The field that a file is joined on, as options for it and for both say. -/
def readKey (g : Given) (letters : List Char) : Except String Nat := do
  let found ← (g.options.filter fun (c, _) => letters.contains c).mapM fun (_, text) => readField text
  match found with
  | [] => pure 0
  | n :: more =>
    match more.find? (· != n) with
    | some other => .error s!"incompatible join fields {n}, {other}"
    | none => pure n

/-- Read how files are joined. -/
def read (g : Given) (names : String × String) : Except String Joining := do
  let first ← readKey g ['1', 'j']
  let second ← readKey g ['2', 'j']
  let numbers (letter : Char) : Except String (List Nat) :=
    (g.options.filter fun (c, _) => c == letter).mapM fun (_, text) =>
      if text == "1" then .ok 1 else if text == "2" then .ok 2
      else if text.toNat?.isSome then .error ("invalid field number: " ++ quoted text)
      else .error ("invalid field number: " ++ quoted text)
  let added ← numbers 'a'
  let alone ← numbers 'v'
  let separator ← match g.get? 't' with
    | none => .ok none
    | some text =>
      match text.toList with
      | [] => .ok (some '\n')
      | [c] => .ok (some c)
      | ['\\', '0'] => .ok (some '\x00')
      | _ => .error ("multi-character tab " ++ quoted text)
  let lists := (g.options.filter fun (c, _) => c == 'o').map Prod.snd
  let words := lists.flatMap fun text =>
    ((text.toList.splitOnP fun c => c == ',' || c == ' ' || c == '\t').filter (!·.isEmpty)).map String.ofList
  let parts ← if lists.isEmpty || lists == ["auto"] then .ok none else (words.mapM readPart).map some
  let fillers := ((g.options.filter fun (c, _) => c == 'e').map Prod.snd).eraseDups
  if 1 < fillers.length then throw "conflicting empty-field replacement strings"
  pure ⟨first, second, separator,
    match separator with
      | some c => String.singleton c
      | none => " ",
    fillers.head?, parts, if lists == ["auto"] then some (0, 0) else none, g.has 'i',
    (added ++ alone).contains 1, (added ++ alone).contains 2, !g.has 'v', readOrderCheck g, names⟩

end Joining

/-- Join the lines of two files that have a field in common. -/
def joinProgram (arguments : List String) : Effect Nat :=
  withGiven "a:e:i1:2:j:o:t:v:zχνη" [("ignore-case", 'i'), ("check-order", 'χ'), ("nocheck-order", 'ν'),
      ("zero-terminated", 'z'), ("header", 'η')] 1 arguments fun g => do
    let names := (g.operands.headD "-", (g.operands[1]?).getD "-")
    match Joining.read g names with
    | .error message => failed message 1
    | .ok w =>
      if g.operands == ["-", "-"] then
        failed s!"both files cannot be standard input: {Fault.notFound.text}" 1
      else
        match ← readTwoFiles quotedName g.operands with
        | .error (true, message) => misused message 1
        | .error (false, message) => failed message 1
        | .ok (_, a, b) =>
          let ending := if g.has 'z' then "\x00" else "\n"
          let left := w.linesOf ending a
          let right := w.linesOf ending b
          let count (lines : List JoinLine) : Nat := (lines.head?.map fun l => l.fields.length).getD 0
          let w := { w with counts := w.counts.map fun _ => (count left, count right) }
          let isTitled := g.has 'η' && !(left.isEmpty && right.isEmpty)
          if isTitled then say (w.joined left.head? right.head? ++ ending)
          let left := if isTitled then left.drop 1 else left
          let right := if isTitled then right.drop 1 else right
          let (noted, isBroken) := w.run ending (left.length + right.length + 1) false
            left.head? ⟨false, [], left.drop 1, false⟩ right.head? ⟨true, [], right.drop 1, false⟩
          let stopped := w.check == .always && isBroken
          tellNoted (if stopped then
              (noted.takeWhile fun
                | .line _ => true
                | .message _ => false) ++ (noted.find? fun
                | .message _ => true
                | .line _ => false).toList
            else noted)
          if stopped then pure 1
          else if isBroken then failed "input is not in sorted order" 1 else pure 0

end Conformance.Shell
