import Conformance.Shell.Regular
import Conformance.Shell.Utility.Basic

/-!
# Programs for lines

Programs that show files, or parts of them, and count what is in them.
-/

namespace Conformance.Shell

open Effect

/-! ## Showing files -/

/-- How files are shown. -/
structure Display where
  numbers : Bool
  onlyFull : Bool
  ends : Bool
  tabs : Bool
  hidden : Bool
  squeezes : Bool

/-- Where showing files has come to: the number of the last line, whether one is unfinished, and whether the
last one is blank. -/
structure DisplayState where
  number : Nat
  isInside : Bool
  isBlank : Bool

namespace Display

/-- Whether files are shown as they are. -/
def isPlain (d : Display) : Bool :=
  !(d.numbers || d.onlyFull || d.ends || d.tabs || d.hidden || d.squeezes)

/-- A character as it is shown. -/
def shownChar (d : Display) (c : Char) : String :=
  let n := c.toNat
  if c == '\t' then if d.tabs then "^I" else "\t"
  else if !d.hidden then String.singleton c
  else
    let low (n : Nat) : String :=
      if n < 32 then "^" ++ String.singleton (Char.ofNat (n + 64))
      else if n = 127 then "^?" else String.singleton (Char.ofNat n)
    if n < 128 then low n else "M-" ++ low (n - 128)

/-- A line, which may have an end, as it is shown. -/
def shownLine (d : Display) (line : String) : String :=
  let body := withoutBreak line
  let ended := line.endsWith "\n"
  let (body, mark) := if d.ends && ended && !d.hidden && body.endsWith "\r" then
      ((body.dropEnd 1).toString, "^M") else (body, "")
  String.join (body.toList.map d.shownChar) ++ mark ++ (if ended then if d.ends then "$\n" else "\n" else "")

/-- The lines of a text as they are shown. -/
def shownLines (d : Display) : DisplayState → List String → List String × DisplayState
  | s, [] => ([], s)
  | s, line :: rest =>
    let isBlank := line == "\n" && !s.isInside
    if d.squeezes && isBlank && s.isBlank then d.shownLines s rest
    else
      let isNumbered := !s.isInside && ((d.numbers && !d.onlyFull) || (d.onlyFull && !isBlank))
      let number := if isNumbered then s.number + 1 else s.number
      let front := if isNumbered then column 6 number ++ "\t" else ""
      let (more, s) := d.shownLines ⟨number, !line.endsWith "\n", isBlank⟩ rest
      ((front ++ d.shownLine line) :: more, s)

end Display

/-- Whether what is read under a name is what is written, so that reading it would never end. -/
def readsOwnOutput (name : String) : Effect Bool := do
  match ← placeOf? 1 with
  | none => pure false
  | some place =>
    match ← channelAt place with
    | .file path start appending =>
      let size := (← contentAt path).length
      let written := if appending then size else start
      if name == "-" then
        match ← placeOf? 0 with
        | none => pure false
        | some source =>
          match ← channelAt source with
          | .file other read _ => pure (other == path && read < written)
          | _ => pure false
      else
        match (← lookUp name).isOk, ← pathOf name with
        | true, other => pure (other == path && 0 < written)
        | false, _ => pure false
    | _ => pure false

/-- Write files. -/
def catProgram (arguments : List String) : Effect Nat :=
  withGiven "benstuvAET" [("number", 'n'), ("number-nonblank", 'b'), ("squeeze-blank", 's'),
    ("show-all", 'A'), ("show-ends", 'E'), ("show-tabs", 'T'), ("show-nonprinting", 'v')] 1 arguments
    fun g => do
    let d : Display :=
      ⟨g.has 'n', g.has 'b', ['E', 'A', 'e'].any g.has, ['T', 'A', 't'].any g.has,
        ['v', 'A', 'e', 't'].any g.has, g.has 's'⟩
    let (result, _) ← (inputs g).foldlM (fun ((result, s) : Bool × DisplayState) name => do
      if ← readsOwnOutput name then
        tell s!"{shownName name}: input file is output file"
        pure (false, s)
      else
        match ← readOperand? name with
        | .error fault =>
          tell (nameAndFault name fault)
          pure (false, s)
        | .ok text =>
          if d.isPlain then
            say text
            pure (result, s)
          else
            let (lines, s) := d.shownLines s (wholeLines text)
            say (String.join lines)
            pure (result, s)) (true, ⟨0, false, false⟩)
    pure (if result then 0 else 1)

/-- The parts of a text that end with a separator, the last of which may lack it. -/
def partsBehind (separator : String) (text : String) : List String :=
  let parts := text.splitOn separator
  let ended := parts.dropLast.map (· ++ separator)
  match parts.getLast? with
  | some "" | none => ended
  | some last => ended ++ [last]

/-- The parts of a text that begin with a separator, the first of which may lack it. -/
def partsBefore (separator : String) (text : String) : List String :=
  match text.splitOn separator with
  | [] => []
  | first :: rest => (if first.isEmpty then [] else [first]) ++ rest.map (separator ++ ·)

/-- Write the lines of files last first; each end belongs to the line in front of it. -/
def tacProgram (arguments : List String) : Effect Nat :=
  withGiven "brs:" [("before", 'b'), ("regex", 'r'), ("separator", 's')] 1 arguments fun g => do
    let separator := (g.get? 's').getD "\n"
    let separator := if separator.isEmpty then "\x00" else separator
    eachInput (inputs g) (fun name fault =>
        if fault == .isDirectory then s!"{shownName name}: read error: {fault.text}"
        else s!"failed to open {quotedName name} for reading: {fault.text}")
      fun _ text => say (String.join
        (if g.has 'b' then partsBefore separator text else partsBehind separator text).reverse)

/-- Write lines backwards. -/
def revProgram (arguments : List String) : Effect Nat :=
  withGiven "0hV" [("zero", '0')] 1 arguments fun g =>
    eachInput (inputs g) (fun name fault => s!"cannot open {name}: {fault.text}") fun _ text => do
      let ending := if g.has '0' then "\x00" else "\n"
      (partsBehind ending text).forM fun line =>
        let body := if line.endsWith ending then (line.dropEnd 1).toString else line
        let turned := match String.fromUTF8? (bytesOf body) with
          | some s => octets (String.ofList s.toList.reverse)
          | none => String.ofList body.toList.reverse
        say (if line.endsWith ending then turned ++ ending else turned)

/-! ## Numbers of lines -/

/-- Which lines of a part of a page have numbers. -/
inductive Numbered
  | all
  | full
  | none
  | matching (e : Regular)

/-- How lines are numbered. -/
structure Numbering where
  header : Numbered
  body : Numbered
  footer : Numbered
  first : Int
  step : Int
  blanks : Nat
  width : Nat
  left : Bool
  zeros : Bool
  between : String
  goesOn : Bool
  mark : String

namespace Numbering

/-- Which lines have numbers, as a word says. -/
def readNumbered? (word : String) : Option Numbered :=
  match word with
  | "a" => some .all
  | "t" => some .full
  | "n" => some .none
  | word =>
    if word.startsWith "p" then
      (Regular.read .basic (unitsOf (word.drop 1).toString)).toOption.map .matching
    else Option.none

/-- A number in front of a line. -/
def front (w : Numbering) (n : Int) : String :=
  let text := toString n
  let gap := w.width - text.length
  let shown := if w.left then text ++ "".pushn ' ' gap
    else if w.zeros then
      if n < 0 then "-" ++ "".pushn '0' gap ++ toString n.natAbs else "".pushn '0' gap ++ text
    else "".pushn ' ' gap ++ text
  shown ++ w.between

/-- Number the lines of a text, given which part of a page they are in, the next number and how many blank
lines have been passed. -/
def number (w : Numbering) : Numbered → Int → Nat → List String → List String
  | _, _, _, [] => []
  | part, n, blanks, line :: rest =>
    let double := w.mark
    if line == double ++ double ++ double && !double.isEmpty then
      "" :: number w w.header (if w.goesOn then n else w.first) 0 rest
    else if line == double ++ double && !double.isEmpty then
      "" :: number w w.body (if w.goesOn then n else w.first) 0 rest
    else if line == double && !double.isEmpty then
      "" :: number w w.footer (if w.goesOn then n else w.first) 0 rest
    else
      let isBlank := line.isEmpty
      let counts := match part with
        | .all => !(isBlank && blanks + 1 < w.blanks)
        | .full => !isBlank
        | .none => false
        | .matching e => (e.find? ⟨(unitsOf line).toArray, false, false⟩ 0).isSome
      let blanks := if isBlank && !counts then blanks + 1 else 0
      if counts then (w.front n ++ line) :: number w part (n + w.step) blanks rest
      else ("".pushn ' ' (w.width + w.between.length) ++ line) :: number w part n blanks rest

end Numbering

/-- A whole number, which may be below zero. -/
def readWhole? (text : String) : Option Int :=
  let (negative, digits) := match text.toList with
    | '-' :: rest => (true, rest)
    | '+' :: rest => (false, rest)
    | rest => (false, rest)
  if digits.isEmpty || !digits.all Char.isDigit then none
  else
    let n : Int := (takeNumber 10 digits).1
    some (if negative then -n else n)

/-- Number lines. -/
def nlProgram (arguments : List String) : Effect Nat :=
  withGiven "h:b:f:v:i:pl:s:w:n:d:" [("header-numbering", 'h'), ("body-numbering", 'b'),
      ("footer-numbering", 'f'), ("starting-line-number", 'v'), ("line-increment", 'i'), ("no-renumber", 'p'),
      ("join-blank-lines", 'l'), ("number-separator", 's'), ("number-width", 'w'), ("number-format", 'n'),
      ("section-delimiter", 'd')] 1 arguments fun g => do
    let style (letter : Char) (what usual : String) : Except (Bool × String) Numbered :=
      let word := (g.get? letter).getD usual
      match Numbering.readNumbered? word with
      | some part => .ok part
      | none => .error (true, s!"invalid {what} numbering style: " ++ quoted word)
    let whole (letter : Char) (what : String) (least usual : Int) : Except (Bool × String) Int :=
      match g.get? letter with
      | none => .ok usual
      | some text =>
        match readWhole? text with
        | none => .error (false, s!"invalid {what}: " ++ quoted text)
        | some n =>
          if n < least then
            .error (false, s!"invalid {what}: " ++ quoted text ++ ": Numerical result out of range")
          else .ok n
    let form := (g.get? 'n').getD "rn"
    let plan : Except (Bool × String) Numbering := do
      let header ← style 'h' "header" "n"
      let body ← style 'b' "body" "t"
      let footer ← style 'f' "footer" "n"
      let first ← whole 'v' "starting line number" (-9223372036854775808) 1
      let step ← whole 'i' "line number increment" (-9223372036854775808) 1
      let blanks ← whole 'l' "line number of blank lines" 1 1
      let width ← whole 'w' "line number field width" 1 6
      if !(["ln", "rn", "rz"] : List String).contains form then
        throw (true, "invalid line numbering format: " ++ quoted form)
      let mark := match (g.get? 'd').map String.toList with
        | none => "\\:"
        | some [c] => String.ofList [c, ':']
        | some cs => String.ofList cs
      pure ⟨header, body, footer, first, step, blanks.toNat, width.toNat, form == "ln", form == "rz",
        (g.get? 's').getD "\t", g.has 'p', mark⟩
    match plan with
    | .error (true, message) => misused message 1
    | .error (false, message) => failed message 1
    | .ok w =>
      let (text, status) ← joinInputs (inputs g) nameAndFault
      say (unlines (w.number w.body w.first 0 (linesOf text)))
      pure status

/-! ## Writing to several places -/

/-- Write the input to files and to the output. -/
def teeProgram (arguments : List String) : Effect Nat :=
  withGiven "aipο::" [("append", 'a'), ("ignore-interrupts", 'i'), ("output-error", 'ο')] 1 arguments
    fun g => do
    let results ← g.operands.mapM fun name => do
      let path ← pathOf name
      let refused (fault : Fault) : Effect (Option Path × Bool) := do
        tell (nameAndFault name fault)
        pure (none, false)
      match ← lookUp name, ← creationFault? name with
      | .ok .sink, _ => pure (none, true)
      | .ok (.directory _), _ => refused .isDirectory
      | .ok (.link _), _ => refused .looping
      | .ok (.file ..), _ =>
        if !g.has 'a' then putFile path ""
        pure (some path, true)
      | .error .notFound, none =>
        putFile path ""
        pure (some path, true)
      | .error .notFound, some fault => refused fault
      | .error fault, _ => refused fault
    let text ← readAll 0
    say text
    results.forM fun (place, _) => do
      match place with
      | some path => putFile path ((← contentAt path) ++ text)
      | none => pure ()
    pure (if results.all Prod.snd then 0 else 1)

/-! ## Lines side by side -/

/-- The characters between lines that are put side by side, none of which may stand for an empty text. -/
def readGlue : List Char → Option (List String)
  | [] => some []
  | ['\\'] => none
  | '\\' :: c :: rest =>
    let text := match c with
      | '0' => ""
      | 'b' => "\x08"
      | 'f' => "\x0c"
      | 'n' => "\n"
      | 'r' => "\r"
      | 't' => "\t"
      | 'v' => "\x0b"
      | c => String.singleton c
    (readGlue rest).map (text :: ·)
  | c :: rest => (readGlue rest).map (String.singleton c :: ·)

/-- Put lines of files side by side. -/
def pasteLines (between : Array String) : Nat → List (List String) → List String
  | 0, _ => []
  | fuel + 1, columns =>
    if columns.all List.isEmpty then []
    else
      let glue (n : Nat) : String := (between[n % max 1 between.size]?).getD ""
      let line := String.join (columns.zipIdx.map fun (c, n) =>
        (if n = 0 then "" else glue (n - 1)) ++ c.headD "")
      line :: pasteLines between fuel (columns.map (List.drop 1))

/-- Give names their columns: those that stand for the input share its lines in turn. -/
def shareLines (lines : List String) (columns : List (Option (List String))) : List (List String) :=
  let sharing := columns.countP Option.isNone
  let share (n : Nat) : List String :=
    lines.zipIdx.filterMap fun (line, k) => if k % sharing = n then some line else none
  (columns.foldl (fun (done, n) column =>
    match column with
    | some known => (known :: done, n)
    | none => (share n :: done, n + 1)) (([] : List (List String)), 0)).1.reverse

/-- Lines glued together. -/
def glueLines (between : Array String) (lines : List String) : String :=
  String.join (lines.zipIdx.map fun (line, n) =>
    (if n = 0 then "" else (between[(n - 1) % max 1 between.size]?).getD "") ++ line)

/-- Put lines of files side by side, or the lines of each file. -/
def pasteProgram (arguments : List String) : Effect Nat :=
  withGiven "d:sz" [("serial", 's'), ("delimiters", 'd'), ("zero-terminated", 'z')] 1 arguments fun g => do
    let ending := if g.has 'z' then "\x00" else "\n"
    let linesIn (text : String) : List String :=
      (partsBehind ending text).map fun line =>
        if line.endsWith ending then (line.dropEnd 1).toString else line
    let list := (g.get? 'd').getD "\t"
    match readGlue list.toList with
    | none => failed s!"delimiter list ends with an unescaped backslash: {list}" 1
    | some between =>
      let between := between.toArray
      if g.has 's' then
        eachInput (inputs g) nameAndFault fun _ text => say (glueLines between (linesIn text) ++ ending)
      else
        let opened ← (inputs g).mapM fun name => do
          if name == "-" then pure (.ok none)
          else
            match ← readFile name with
            | .ok text => pure (.ok (some (linesIn text)))
            | .error .isDirectory => pure (.ok (some []))
            | .error fault => pure (Except.error (nameAndFault name fault))
        match opened.mapM id with
        | .error message => failed message 1
        | .ok known =>
          let read ← if (inputs g).contains "-" then readAll 0 else pure ""
          let columns := shareLines (linesIn read) known
          let broken ← (inputs g).filterM isDirectory
          let lines := pasteLines between ((columns.map List.length).foldl max 0) columns
          broken.forM fun name => tell (nameAndFault name .isDirectory)
          say (String.join (lines.map (· ++ ending)))
          pure (if broken.isEmpty then 0 else 1)

/-! ## Parts of files -/

/-- How much of a file is wanted: lines or bytes, counted from its beginning or its end. -/
structure Portion where
  bytes : Bool
  fromStart : Bool
  count : Nat
  ending : String

/-- The first part of a text. -/
def Portion.head (p : Portion) (text : String) : String :=
  if p.bytes then
    let cs := text.toList
    String.ofList (if p.fromStart then cs.take p.count else cs.take (cs.length - p.count))
  else
    let lines := partsBehind p.ending text
    String.join (if p.fromStart then lines.take p.count else lines.take (lines.length - p.count))

/-- The last part of a text. -/
def Portion.tail (p : Portion) (text : String) : String :=
  if p.bytes then
    let cs := text.toList
    String.ofList (if p.fromStart then cs.drop (p.count - 1) else cs.drop (cs.length - p.count))
  else
    let lines := partsBehind p.ending text
    String.join (if p.fromStart then lines.drop (p.count - 1) else lines.drop (lines.length - p.count))

/-- The number in an argument that says how much is wanted, with the sign in front of it. -/
def readAmount (what text : String) : Except String (Option Char × Nat) :=
  let (sign, digits) := match text.toList with
    | '-' :: rest => (some '-', rest)
    | '+' :: rest => (some '+', rest)
    | rest => (none, rest)
  let bare := String.ofList digits
  match readCount what bare with
  | .ok n => .ok (sign, n)
  | .error message => .error message

/-- Write a part of each of several files, with their names in front of them if there are several. -/
def showPortions (g : Given) (cut : String → String) : Effect Nat := do
  let names := inputs g
  let withNames := match g.last? ['q', 'v'] with
    | some c => c == 'v'
    | none => names.length > 1
  let (result, _) ← names.foldlM (fun ((result, isFirst) : Bool × Bool) name => do
    let title : Effect Unit := do
      if withNames then
        let shown := if name == "-" then "standard input" else name
        say ((if isFirst then "" else "\n") ++ s!"==> {shown} <==\n")
    match ← readOperand? name with
    | .ok text =>
      title
      say (cut text)
      pure (result, false)
    | .error .isDirectory =>
      title
      tell s!"error reading {quotedName name}: Is a directory"
      pure (false, false)
    | .error fault =>
      tell s!"cannot open {quotedName name} for reading: {fault.text}"
      pure (false, isFirst)) (true, true)
  pure (if result then 0 else 1)

/-- The options of the programs that show parts of files. -/
def portionNames : List (String × Char) :=
  [("lines", 'n'), ("bytes", 'c'), ("quiet", 'q'), ("silent", 'q'), ("verbose", 'v'), ("zero-terminated", 'z')]

/-- Arguments in which a number behind a dash, with letters that may follow it, is replaced by the options
that it stands for, or a letter that has no business there. -/
def withNumberOption (arguments : List String) : Except Char (List String) :=
  match arguments with
  | first :: rest =>
    match first.toList with
    | '-' :: c :: more =>
      if !c.isDigit then .ok arguments
      else
        let digits := c :: more.takeWhile Char.isDigit
        let letters := more.drop (digits.length - 1)
        match letters.find? fun c => !"bkmcqvlz".toList.contains c with
        | some bad => .error bad
        | none =>
          let unit := (letters.reverse.find? "bkm".toList.contains).map String.singleton |>.getD ""
          let kind := if letters.any "cbkm".toList.contains then "-c" else "-n"
          let flags := letters.filterMap fun c =>
            if "qvz".toList.contains c then some (String.ofList ['-', c]) else none
          .ok (kind :: (String.ofList digits ++ unit) :: flags ++ rest)
    | _ => .ok arguments
  | [] => .ok []

/-- Whether a program counts bytes, and what is said of them. -/
def portionKind (g : Given) : Bool × String :=
  let bytes := g.last? ['n', 'c'] == some 'c'
  (bytes, "number of " ++ if bytes then "bytes" else "lines")

/-- Write the first part of files.  What is not wanted of the input is left to be read. -/
def headProgram (arguments : List String) : Effect Nat := do
  match withNumberOption arguments with
  | .error c => misused s!"invalid trailing option -- {c}" 1
  | .ok arguments =>
    withGiven "c:n:qvz" portionNames 1 arguments fun g => do
      let (bytes, what) := portionKind g
      let amount := ((if bytes then g.get? 'c' else g.get? 'n').getD "10")
      match readAmount what amount with
      | .error message => failed message 1
      | .ok (sign, n) =>
        let cut := Portion.head ⟨bytes, sign != some '-', n, if g.has 'z' then "\x00" else "\n"⟩
        if g.operands.isEmpty && !g.has 'v' && (← leadsToFile 0) && sign != some '-' then
          let text := cut (String.ofList (← remaining 0))
          consume 0 text.length
          say text
          pure 0
        else showPortions g cut

/-- Arguments in which a number behind a sign is replaced by the options that it stands for, where there is
at most one operand behind it. -/
def withSignedOption (arguments : List String) : List String :=
  let isPlain (argument : String) : Bool := !argument.startsWith "-" || argument == "-"
  match arguments with
  | first :: rest =>
    let isShort := match rest with
      | [] => true
      | [other] => isPlain other
      | "--" :: other => other.length ≤ 1
      | _ => false
    match first.toList with
    | sign :: more =>
      let digits := more.takeWhile Char.isDigit
      let letters := more.drop digits.length
      let (kind, letters) := match letters with
        | 'c' :: rest => ("-c", rest)
        | 'b' :: rest => ("-b", rest)
        | 'l' :: rest => ("-n", rest)
        | rest => ("-n", rest)
      let isWhole := (letters.isEmpty || letters == ['f']) && (!digits.isEmpty || sign == '+')
      if !isShort || !isWhole || !(sign == '-' || sign == '+') || more.isEmpty then arguments
      else
        let number := if digits.isEmpty then "10" else String.ofList digits
        let number := if kind == "-b" then number ++ "b" else number
        let kind := if kind == "-b" then "-c" else kind
        [kind, (if sign == '+' then "+" else "") ++ number] ++ (if letters.isEmpty then [] else ["-f"]) ++ rest
    | [] => arguments
  | [] => []

/-- Write the last part of files, and wait for more where that is asked for. -/
def tailProgram (arguments : List String) : Effect Nat :=
  withGiven "c:n:fFqs:vz0123456789φ::ρπ:μ:" (portionNames ++ [("follow", 'φ'), ("retry", 'ρ'), ("pid", 'π'),
      ("sleep-interval", 's'), ("max-unchanged-stats", 'μ')]) 1 (withSignedOption arguments) fun g => do
    match g.options.find? fun (c, _) => c.isDigit with
    | some (c, _) => failed s!"option used in invalid context -- {c}" 1
    | none =>
      let (bytes, what) := portionKind g
      let amount := ((if bytes then g.get? 'c' else g.get? 'n').getD "10")
      match readAmount what amount with
      | .error message => failed message 1
      | .ok (sign, n) =>
        let status ← showPortions g
          (Portion.tail ⟨bytes, sign == some '+', n, if g.has 'z' then "\x00" else "\n"⟩)
        let follows := ['f', 'F', 'φ'].any g.has
        let waits ← if g.operands.isEmpty then leadsToFile 0
          else g.operands.anyM fun name => do
            pure (((← lookUp name).toOption.any fun e => !e.isDirectory) || g.has 'F')
        if follows then
          if waits then waitUntil (← get).limit
          else if !g.operands.isEmpty then tell "no files remaining"
        pure status

/-! ## Counting -/

/-- How wide a character is on a line. -/
def displayWidth (c : Char) : Nat :=
  let n := c.toNat
  let wide := [(0x1100, 0x115F), (0x2E80, 0x303E), (0x3041, 0x33FF), (0x3400, 0x4DBF), (0x4E00, 0x9FFF),
    (0xA000, 0xA4CF), (0xAC00, 0xD7A3), (0xF900, 0xFAFF), (0xFE30, 0xFE6F), (0xFF00, 0xFF60), (0xFFE0, 0xFFE6),
    (0x1F300, 0x1F64F), (0x1F900, 0x1F9FF), (0x20000, 0x3FFFD)]
  if n < 32 || (127 ≤ n && n < 160) || (0x300 ≤ n && n < 0x370) || n = 0x200B then 0
  else if wide.any fun (a, b) => a ≤ n && n ≤ b then 2 else 1

/-- Whether a character separates words. -/
def isWordGap (c : Char) : Bool :=
  isSpace c || [0x85, 0x1680, 0x2028, 0x2029, 0x205F, 0x3000, 0xA0, 0x2007, 0x202F, 0x2060].contains c.toNat ||
    (0x2000 ≤ c.toNat && c.toNat ≤ 0x200A)

/-- How many words there are in a text. -/
def countWords (text : String) : Nat :=
  ((charactersOf text).foldl (fun ((n, inWord) : Nat × Bool) unit =>
    match unit with
    | .error _ => (n, inWord)
    | .ok c =>
      if isWordGap c then (n, false)
      else if displayWidth c = 0 && c.toNat < 160 then (n, inWord)
      else (if inWord then n else n + 1, true)) (0, false)).1

/-- How many characters there are in a text. -/
def countCharacters (text : String) : Nat :=
  (charactersOf text).countP fun
    | .ok _ => true
    | .error _ => false

/-- How wide the widest line of a text is. -/
def widestLine (text : String) : Nat :=
  let (most, last) := (charactersOf text).foldl (fun ((most, here) : Nat × Nat) unit =>
    match unit with
    | .ok '\n' | .ok '\r' | .ok '\x0c' => (max most here, 0)
    | .ok '\t' => (most, here + 8 - here % 8)
    | .ok c => (most, here + displayWidth c)
    | .error _ => (most, here)) (0, 0)
  max most last

/-- The counts of a text that are asked for. -/
def countsOf (g : Given) (text : String) : List Nat :=
  let chosen := if ['l', 'w', 'c', 'm', 'L'].any g.has then g.has
    else fun c => ['l', 'w', 'c'].contains c
  let count (c : Char) : Nat :=
    match c with
    | 'l' => text.toList.count '\n'
    | 'w' => countWords text
    | 'm' => countCharacters text
    | 'c' => text.length
    | _ => widestLine text
  (['l', 'w', 'm', 'c', 'L'].filter chosen).map count

/-- Whether the size of what a name stands for is known before it is read. -/
def hasKnownSize (name : String) : Effect Bool := do
  if name == "-" then leadsToFile 0
  else
    match ← lookUp name with
    | .ok entry => pure entry.isFile
    | .error _ => pure true

/-- Counts of several texts as one. -/
def addCounts (g : Given) (a b : List Nat) : List Nat :=
  let isWidest := g.has 'L'
  (a.zip b).zipIdx.map fun ((m, n), k) => if isWidest && k + 1 = a.length then max m n else m + n

/-- Count what is in files. -/
def wcProgram (arguments : List String) : Effect Nat :=
  withGiven "clLmwτ:φ:" [("lines", 'l'), ("words", 'w'), ("bytes", 'c'), ("chars", 'm'),
    ("max-line-length", 'L'), ("total", 'τ'), ("files0-from", 'φ')] 1 arguments fun g => do
    let words := [["auto"], ["always"], ["only"], ["never"]]
    let total := (g.get? 'τ').getD "auto"
    match fullWord? words total with
    | none => misworded total "--total" words 1
    | some total =>
      let known ← (inputs g).mapM hasKnownSize
      let found ← (inputs g).mapM fun name => do
        match ← readOperand? name with
        | .ok text => pure (name, some (countsOf g text), text.length, none)
        | .error .isDirectory =>
          pure (name, some ((countsOf g "").map fun _ => 0), 0, some (nameAndFault name .isDirectory))
        | .error fault => pure (name, none, 0, some (nameAndFault name fault))
      let rows := found.filterMap fun (_, counts, _, _) => counts
      let bytes := (found.map fun (_, _, n, _) => n).foldl (· + ·) 0
      let single := (found.length = 1 && ((countsOf g "").length = 1)) || total == "only"
      let width := if single then 1
        else max (if known.all id then 1 else 7) (toString bytes).length
      let row (counts : List Nat) (label : String) : Effect Unit :=
        say (" ".intercalate (counts.map (column width)) ++ label ++ "\n")
      found.forM fun (name, counts, _, fault) => do
        match fault with
        | some message => tell message
        | none => pure ()
        match counts with
        | some counts =>
          if total != "only" then row counts (if g.operands.isEmpty then "" else " " ++ name)
        | none => pure ()
      if total == "always" || total == "only" || (total == "auto" && found.length > 1) then
        let zero := (countsOf g "").map fun _ => 0
        row (rows.foldl (addCounts g) zero) (if total == "only" then "" else " total")
      pure (if found.all fun (_, _, _, fault) => fault.isNone then 0 else 1)

end Conformance.Shell
