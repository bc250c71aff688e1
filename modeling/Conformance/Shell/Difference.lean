import Conformance.Shell.Format
import Conformance.Shell.Hunk
import Conformance.Shell.Regular

/-!
# Differences written out

How two texts differ, written in one of several ways: as changes to be made, with lines around them, as a
script for an editor, side by side, or in a form that is given.
-/

namespace Conformance.Shell

/-! ## What is compared -/

/-- How differences are written. -/
inductive DifferenceStyle
  | normal
  | context
  | unified
  | editor
  | forward
  | numbered
  | beside
  /-- In forms for what only the first text has, only the second one, both, and what is changed, and forms of
  the lines in each. -/
  | given (old new both changed oldLine newLine bothLine : String)
  deriving Repr, DecidableEq

/-- Which white space makes no difference. -/
inductive BlankWay
  | exact
  | tabs
  | trailing
  | tabsAndTrailing
  | amounts
  | all
  deriving Repr, DecidableEq

/-- How two texts are compared and what is written. -/
structure DifferencePlan where
  style : DifferenceStyle
  around : Nat
  margin : Nat
  minimal : Bool
  blanks : BlankWay
  folding : Bool
  skipsEmpty : Bool
  skipped : Option Regular
  heading : Option Regular
  expandsTabs : Bool
  startsWithTab : Bool
  tabSize : Nat
  width : Nat
  leftOnly : Bool
  hidesCommon : Bool
  trimsEmpty : Bool

/-- A text that is compared: its lines, and whether the last one has an end. -/
structure DifferenceSide where
  lines : Array String
  isComplete : Bool

namespace DifferenceSide

/-- The lines of a text. -/
def ofText (withoutReturns : Bool) (text : String) : DifferenceSide :=
  let lines := linesOf text
  let bare (line : String) : String :=
    if withoutReturns && line.endsWith "\r" then (line.dropEnd 1).toString else line
  ⟨(lines.map bare).toArray, text.isEmpty || text.endsWith "\n"⟩

/-- Whether a line has no end. -/
def isOpen (s : DifferenceSide) (n : Nat) : Bool :=
  !s.isComplete && n + 1 == s.lines.size

/-- A line without its end. -/
def line (s : DifferenceSide) (n : Nat) : String :=
  s.lines.getD n ""

/-- A line as it is compared exactly: a zero byte marks one without an end. -/
def exactLine (s : DifferenceSide) (isRobust : Bool) (n : Nat) : String :=
  if isRobust && s.isOpen n then s.line n ++ "\n\x00" else s.line n

end DifferenceSide

/-- A text with blanks in the place of tabs. -/
def withoutTabs (size : Nat) : Nat → List Char → List Char
  | _, [] => []
  | place, c :: rest =>
    if c == '\t' then
      let n := size - place % size
      List.replicate n ' ' ++ withoutTabs size (place + n) rest
    else if c == '\x08' then c :: withoutTabs size (place - 1) rest
    else if c == '\r' then c :: withoutTabs size 0 rest
    else c :: withoutTabs size (place + 1) rest

/-- A text in which one blank stands for white space, and none at the end. -/
def withSingleBlanks : List Char → List Char
  | [] => []
  | c :: rest =>
    let more := withSingleBlanks rest
    if isSpace c then
      match more with
      | [] => []
      | ' ' :: _ => more
      | _ => ' ' :: more
    else c :: more

namespace DifferencePlan

/-- Whether the end of the last line makes a difference. -/
def isRobust (w : DifferencePlan) : Bool :=
  w.style != .editor && w.style != .forward

/-- What makes a line the same as others. -/
def key (w : DifferencePlan) (s : DifferenceSide) (n : Nat) : String :=
  let cs := (s.line n).toList
  let trimmed (cs : List Char) : List Char := (cs.reverse.dropWhile isSpace).reverse
  let cs := match w.blanks with
    | .exact => cs
    | .tabs => withoutTabs w.tabSize 0 cs
    | .trailing => trimmed cs
    | .tabsAndTrailing => trimmed (withoutTabs w.tabSize 0 cs)
    | .amounts => withSingleBlanks cs
    | .all => cs.filter (!isSpace ·)
  let line := String.ofList (if w.folding then cs.map Char.toLower else cs)
  let isStrict := w.blanks == .exact || w.blanks == .tabs
  if w.isRobust && isStrict && s.isOpen n then line ++ "\n\x00" else line

/-- The places where two texts differ. -/
def hunks (w : DifferencePlan) (a b : DifferenceSide) : List Hunk :=
  let places (s : DifferenceSide) : List Nat := List.range s.lines.size
  hunksBetween w.minimal w.margin
    ((places a).map (a.exactLine w.isRobust), (places b).map (b.exactLine w.isRobust))
    (((places a).map (w.key a)).toArray, ((places b).map (w.key b)).toArray)

/-- Whether a line makes no difference if it is added or taken away. -/
def skips (w : DifferencePlan) (line : String) : Bool :=
  let isBlank := match w.blanks with
    | .exact | .tabs => line.isEmpty
    | _ => line.toList.all isSpace
  (w.skipsEmpty && isBlank) ||
    w.skipped.any fun e => (e.find? ⟨(unitsOf line).toArray, false, false⟩ 0).isSome

/-- Whether a hunk makes a difference. -/
def counts (w : DifferencePlan) (a b : DifferenceSide) (h : Hunk) : Bool :=
  let old := (List.range h.oldCount).map fun n => a.line (h.oldStart + n)
  let new := (List.range h.newCount).map fun n => b.line (h.newStart + n)
  !(w.skipsEmpty || w.skipped.isSome) || !(old ++ new).all w.skips

/-! ## Lines and ranges -/

/-- A line with what stands in front of it. -/
def written (w : DifferencePlan) (front : String) (tellsEnd : Bool) (s : DifferenceSide) (n : Nat) : String :=
  let line := s.line n
  let body := if w.expandsTabs then String.ofList (withoutTabs w.tabSize 0 line.toList) else line
  front ++ body ++
    (if !s.isOpen n then "\n" else if tellsEnd then "\n\\ No newline at end of file\n" else "")

/-- What stands in front of a line behind a sign. -/
def front (w : DifferencePlan) (sign line : String) : String :=
  if w.trimsEmpty && line.isEmpty then if sign == " " then "" else sign
  else sign ++ (if w.startsWithTab then "\t" else " ")

/-- Lines with a sign in front of each. -/
def signed (w : DifferencePlan) (sign : String) (s : DifferenceSide) (start count : Nat) : String :=
  String.join ((List.range count).map fun k =>
    w.written (w.front sign (s.line (start + k))) true s (start + k))

/-- The numbers of the lines in a range, of which there may be none. -/
def range (separator : String) (start count : Nat) : String :=
  if 1 < count then s!"{start + 1}{separator}{start + count}" else s!"{start + count}"

/-- The letter of a hunk. -/
def letter (h : Hunk) : String :=
  if h.oldCount = 0 then "a" else if h.newCount = 0 then "d" else "c"

/-- The line that stands above a place and matches the expression for headings. -/
def headingAbove (w : DifferencePlan) (s : DifferenceSide) (place : Nat) : String :=
  match w.heading with
  | none => ""
  | some e =>
    let matching (n : Nat) : Bool := (e.find? ⟨(unitsOf (s.line n)).toArray, false, false⟩ 0).isSome
    match (List.range place).reverse.find? matching with
    | none => ""
    | some n =>
      let text := ((s.line n).toList.dropWhile isSpace).take 40
      " " ++ String.ofList (text.reverse.dropWhile isSpace).reverse

/-! ## Changes to be made -/

/-- A hunk as a change. -/
def normalHunk (w : DifferencePlan) (a b : DifferenceSide) (h : Hunk) : String :=
  range "," h.oldStart h.oldCount ++ letter h ++ range "," h.newStart h.newCount ++ "\n" ++
    w.signed "<" a h.oldStart h.oldCount ++
    (if h.oldCount != 0 && h.newCount != 0 then "---\n" else "") ++
    w.signed ">" b h.newStart h.newCount

/-- Lines that an editor adds; a line with a dot only is added with two of them and changed. -/
def editorLines : Bool → List String → String
  | isAdding, [] => if isAdding then ".\n" else ""
  | isAdding, line :: rest =>
    let begin := if isAdding then "" else "a\n"
    if line == ".\n" then begin ++ "..\n.\ns/.//\n" ++ editorLines false rest
    else begin ++ line ++ editorLines true rest

/-- A hunk as a command for an editor. -/
def editorHunk (w : DifferencePlan) (b : DifferenceSide) (h : Hunk) : String :=
  let lines := (List.range h.newCount).map fun k => w.written "" false b (h.newStart + k)
  let lines := lines.map fun line => if line.endsWith "\n" then line else line ++ "\n"
  range "," h.oldStart h.oldCount ++ letter h ++ "\n" ++
    (if h.newCount = 0 then "" else editorLines true lines)

/-- A hunk as a command that stands in its order. -/
def forwardHunk (w : DifferencePlan) (b : DifferenceSide) (h : Hunk) : String :=
  let lines := (List.range h.newCount).map fun k => w.written "" false b (h.newStart + k)
  let lines := lines.map fun line => if line.endsWith "\n" then line else line ++ "\n"
  letter h ++ range " " h.oldStart h.oldCount ++ "\n" ++
    (if h.newCount = 0 then "" else String.join lines ++ ".\n")

/-- A hunk as commands with counts of lines. -/
def numberedHunk (w : DifferencePlan) (b : DifferenceSide) (h : Hunk) : String :=
  (if h.oldCount = 0 then "" else s!"d{h.oldStart + 1} {h.oldCount}\n") ++
    (if h.newCount = 0 then "" else s!"a{h.oldStop} {h.newCount}\n" ++
      String.join ((List.range h.newCount).map fun k => w.written "" false b (h.newStart + k)))

/-! ## With lines around -/

/-- Hunks in groups that are so near to one another that the lines around them meet. -/
def groups (w : DifferencePlan) (counts : Hunk → Bool) : List Hunk → List (List Hunk)
  | [] => []
  | h :: rest =>
    match w.groups counts rest with
    | (next :: more) :: others =>
      let limit := if counts next then 2 * w.around + 1 else w.around
      if next.oldStart - h.oldStop < limit then (h :: next :: more) :: others
      else [h] :: (next :: more) :: others
    | others => [h] :: others

/-- The lines of both texts that a group shows: where they start and how many there are. -/
def shownRanges (w : DifferencePlan) (a b : DifferenceSide) (group : List Hunk) :
    (Nat × Nat) × (Nat × Nat) :=
  let first := group.headD ⟨0, 0, 0, 0⟩
  let last := group.getLastD first
  let oldStart := first.oldStart - w.around
  let newStart := first.newStart - w.around
  let oldStop := min a.lines.size (last.oldStop + w.around)
  let newStop := min b.lines.size (last.newStop + w.around)
  ((oldStart, oldStop - oldStart), (newStart, newStop - newStart))

/-- The lines of a group from a line on, each hunk's lines behind what is common. -/
def unifiedLines (w : DifferencePlan) (a b : DifferenceSide) (stop : Nat) : Nat → List Hunk → String
  | place, group =>
    let common (start stop : Nat) : String :=
      String.join ((List.range (stop - start)).map fun k =>
        let line := a.line (start + k)
        let sign := if w.trimsEmpty && line.isEmpty then "" else if w.startsWithTab then "\t" else " "
        w.written sign true a (start + k))
    let changed (sign : String) (s : DifferenceSide) (start count : Nat) : String :=
      String.join ((List.range count).map fun k =>
        let isTrimmed := w.trimsEmpty && (s.line (start + k)).isEmpty
        w.written (if w.startsWithTab && !isTrimmed then sign ++ "\t" else sign) true s (start + k))
    match group with
    | [] => common place stop
    | h :: rest =>
      common place h.oldStart ++ changed "-" a h.oldStart h.oldCount ++
        changed "+" b h.newStart h.newCount ++ w.unifiedLines a b stop h.oldStop rest

/-- A group with the lines of both texts in one list. -/
def unifiedGroup (w : DifferencePlan) (a b : DifferenceSide) (group : List Hunk) : String :=
  let ((oldStart, oldCount), (newStart, newCount)) := w.shownRanges a b group
  let range (start count : Nat) : String :=
    if count = 0 then s!"{start},0" else if count = 1 then s!"{start + 1}" else s!"{start + 1},{count}"
  "@@ -" ++ range oldStart oldCount ++ " +" ++ range newStart newCount ++ " @@" ++
    w.headingAbove a oldStart ++ "\n" ++ w.unifiedLines a b (oldStart + oldCount) oldStart group

/-- A group with the lines of each text in a list. -/
def contextGroup (w : DifferencePlan) (a b : DifferenceSide) (group : List Hunk) : String :=
  let ((oldStart, oldCount), (newStart, newCount)) := w.shownRanges a b group
  let list (s : DifferenceSide) (start count : Nat) (hunkAt : Nat → Option Bool) (sign : String) : String :=
    String.join ((List.range count).map fun k =>
      let mark := match hunkAt (start + k) with
        | none => " "
        | some isChanged => if isChanged then "!" else sign
      w.written (w.front mark (s.line (start + k))) true s (start + k))
  let oldAt (n : Nat) : Option Bool :=
    (group.find? fun h => h.oldStart ≤ n && n < h.oldStop).map (·.newCount != 0)
  let newAt (n : Nat) : Option Bool :=
    (group.find? fun h => h.newStart ≤ n && n < h.newStop).map (·.oldCount != 0)
  "***************" ++ w.headingAbove a oldStart ++ "\n*** " ++ range "," oldStart oldCount ++ " ****\n" ++
    (if group.any (·.oldCount != 0) then list a oldStart oldCount oldAt "-" else "") ++
    "--- " ++ range "," newStart newCount ++ " ----\n" ++
    (if group.any (·.newCount != 0) then list b newStart newCount newAt "+" else "")

/-! ## Side by side -/

/-- How wide half a line is, and where the second half begins. -/
def halves (w : DifferencePlan) : Nat × Nat :=
  let t := if w.expandsTabs then 1 else w.tabSize
  let both := t + 3
  let free := w.width / 2 + both / 2 + (w.width % 2) * (both % 2)
  let place := free - free % t
  let half := min (place - 3) (w.width - place)
  (half, if half = 0 then w.width else place)

/-- Blanks, and tabs where they can be used, from one place to another. -/
def gap (w : DifferencePlan) (start stop : Nat) : String :=
  let size := w.tabSize
  let tabs := if w.expandsTabs then 0 else stop / size - start / size
  let start := if tabs = 0 then start else stop / size * size
  "".pushn '\t' tabs ++ "".pushn ' ' (stop - start)

/-- Half a line up to a width, and where it ends; the other half may begin at a place. -/
def halfLine (w : DifferencePlan) (indent bound : Nat) : Nat → Nat → List (Except Char Char) → String × Nat
  | _, shown, [] => ("", shown)
  | place, shown, unit :: rest =>
    let next (front : String) (place shown : Nat) : String × Nat :=
      let (more, stop) := w.halfLine indent bound place shown rest
      (front ++ more, stop)
    match unit with
    | .ok '\t' =>
      let n := w.tabSize - place % w.tabSize
      if place != shown then next "" (place + n) shown
      else if w.expandsTabs then
        let stop := min bound (shown + n)
        next ("".pushn ' ' (stop - shown)) (place + n) (max shown stop)
      else if shown + n < bound then next "\t" (place + n) (shown + n)
      else next "" (place + n) shown
    | .ok '\r' => next ("\r" ++ w.gap 0 indent) 0 0
    | .ok '\x08' =>
      if place = 0 then next "" 0 shown
      else if place - 1 < bound then
        if shown ≤ place - 1 then next ("".pushn ' ' (place - 1 - shown)) (place - 1) (place - 1)
        else next "\x08" (place - 1) (place - 1)
      else next "" (place - 1) shown
    | .ok c =>
      let n := if c.toNat < 32 || c.toNat = 127 then 0 else 1
      if place + n ≤ bound && (place < bound || n = 0) then
        next (octets (String.singleton c)) (place + n) (if n = 0 then shown else place + n)
      else next "" (place + n) shown
    | .error c => next (if place < bound then String.singleton c else "") place shown

/-- Two lines side by side with a sign between them. -/
def besideLine (w : DifferencePlan) (a b : DifferenceSide) (left : Option Nat) (sign : Char)
    (right : Option Nat) : String :=
  let (half, place) := w.halves
  let (first, stop) := match left with
    | some n => w.halfLine 0 half 0 0 (charactersOf (a.line n))
    | none => ("", 0)
  let leftEnds := left.any fun n => !a.isOpen n
  let rightEnds := right.any fun n => !b.isOpen n
  let middle := (half + place - 1) / 2
  let sign := if sign == '|' && leftEnds != rightEnds then if leftEnds then '/' else '\\' else sign
  let (mark, stop) := if sign == ' ' then ("", stop)
    else (w.gap stop middle ++ String.singleton sign, middle + 1)
  let second := match right with
    | some n =>
      let line := b.line n
      if line.isEmpty && !b.isOpen n then ""
      else w.gap stop place ++ (w.halfLine place half 0 0 (charactersOf line)).1
    | none => ""
  first ++ mark ++ second ++ (if leftEnds || rightEnds then "\n" else "")

/-- What is common to both texts up to places, side by side. -/
def besideCommon (w : DifferencePlan) (a b : DifferenceSide) (x y xStop yStop : Nat) : String :=
  if w.hidesCommon then ""
  else
    let pairs := if w.leftOnly then 0 else min (xStop - x) (yStop - y)
    let both := (List.range pairs).map fun k => w.besideLine a b (some (x + k)) ' ' (some (y + k))
    let new := if w.leftOnly then []
      else (List.range (yStop - y - pairs)).map fun k => w.besideLine a b none ')' (some (y + pairs + k))
    let old := (List.range (xStop - x - pairs)).map fun k => w.besideLine a b (some (x + pairs + k)) '(' none
    String.join (both ++ new ++ old)

/-- Both texts side by side, from places on. -/
def beside (w : DifferencePlan) (a b : DifferenceSide) : Nat → Nat → List Hunk → String
  | x, y, [] => w.besideCommon a b x y a.lines.size b.lines.size
  | x, y, h :: rest =>
    let pairs := min h.oldCount h.newCount
    let changed := (List.range pairs).map fun k =>
      w.besideLine a b (some (h.oldStart + k)) '|' (some (h.newStart + k))
    let new := (List.range (h.newCount - pairs)).map fun k =>
      w.besideLine a b none '>' (some (h.newStart + pairs + k))
    let old := (List.range (h.oldCount - pairs)).map fun k =>
      w.besideLine a b (some (h.oldStart + pairs + k)) '<' none
    w.besideCommon a b x y h.oldStart h.newStart ++ String.join (changed ++ new ++ old) ++
      w.beside a b h.oldStop h.newStop rest

/-! ## Forms that are given -/

/-- A number in a form, as its directive asks for, and what follows; the letters stand for numbers. -/
def formNumber? (numbers : Char → Option Int) (text : List Char) : Option (String × List Char) :=
  let flags := text.takeWhile fun c => c == '-' || c == '\''
  let f := flags.foldl Field.flag Field.plain
  let (width, rest) := takeNumber 10 (text.drop flags.length)
  let (precision, rest) := match rest with
    | '.' :: more =>
      let (n, after) := takeNumber 10 more
      (some n, after)
    | rest => (none, rest)
  let f := { f with width := width, precision := precision }
  match rest with
  | 'c' :: '\'' :: '\\' :: more =>
    let digits := more.takeWhile fun c => '0' ≤ c && c ≤ '7'
    match more.drop digits.length with
    | '\'' :: after => some (String.singleton (Char.ofNat (takeNumber 8 digits).1), after)
    | _ => none
  | 'c' :: '\'' :: c :: '\'' :: after => some (String.singleton c, after)
  | kind :: letter :: after =>
    match numbers letter, kind with
    | some n, 'd' => some (f.integer n, after)
    | some n, 'o' => some (f.natural 8 false n.toNat, after)
    | some n, 'x' => some (f.natural 16 false n.toNat, after)
    | some n, 'X' => some (f.natural 16 true n.toNat, after)
    | _, _ => none
  | _ => none

/-- A line in a form. -/
def formLine (s : DifferenceSide) (n : Nat) : Nat → List Char → String
  | 0, _ | _, [] => ""
  | fuel + 1, '%' :: rest =>
    match rest with
    | '%' :: rest => "%" ++ formLine s n fuel rest
    | 'l' :: rest => s.line n ++ formLine s n fuel rest
    | 'L' :: rest => s.line n ++ (if s.isOpen n then "" else "\n") ++ formLine s n fuel rest
    | rest =>
      match formNumber? (fun c => if c == 'n' then some (n + 1 : Int) else none) rest with
      | some (text, rest) => text ++ formLine s n fuel rest
      | none => "%" ++ formLine s n fuel rest
  | fuel + 1, c :: rest => String.singleton c ++ formLine s n fuel rest

/-- Lines in a form. -/
def formLines (form : String) (s : DifferenceSide) (start count : Nat) : String :=
  String.join ((List.range count).map fun k => formLine s (start + k) (form.length + 1) form.toList)

/-- A group of lines of both texts in a form, in which lines have forms of their own. -/
def formGroup (a b : DifferenceSide) (lineForms : String × String × String) (h : Hunk) :
    Nat → List Char → String
  | 0, _ | _, [] => ""
  | fuel + 1, '%' :: rest =>
    let numbers (c : Char) : Option Int :=
      let (start, count) := if c.isLower then (h.oldStart, h.oldCount) else (h.newStart, h.newCount)
      match c.toLower with
      | 'e' => some start
      | 'f' => some (start + 1)
      | 'l' => some (start + count)
      | 'm' => some (start + count + 1)
      | 'n' => some count
      | _ => none
    match rest with
    | '%' :: rest => "%" ++ formGroup a b lineForms h fuel rest
    | '<' :: rest => formLines lineForms.1 a h.oldStart h.oldCount ++ formGroup a b lineForms h fuel rest
    | '>' :: rest => formLines lineForms.2.1 b h.newStart h.newCount ++ formGroup a b lineForms h fuel rest
    | '=' :: rest => formLines lineForms.2.2 a h.oldStart h.oldCount ++ formGroup a b lineForms h fuel rest
    | rest =>
      match formNumber? numbers rest with
      | some (text, rest) => text ++ formGroup a b lineForms h fuel rest
      | none => "%" ++ formGroup a b lineForms h fuel rest
  | fuel + 1, c :: rest => String.singleton c ++ formGroup a b lineForms h fuel rest

/-- Both texts in forms, from places on. -/
def inForms (a b : DifferenceSide) (old new both changed : String) (lineForms : String × String × String) :
    Nat → Nat → List Hunk → String
  | x, y, hunks =>
    let group (form : String) (h : Hunk) : String := formGroup a b lineForms h (form.length + 1) form.toList
    let common (xStop yStop : Nat) : String :=
      if x < xStop || y < yStop then group both ⟨x, xStop - x, y, yStop - y⟩ else ""
    match hunks with
    | [] => common a.lines.size b.lines.size
    | h :: rest =>
      let form := if h.oldCount = 0 then new else if h.newCount = 0 then old else changed
      common h.oldStart h.newStart ++ group form h ++
        inForms a b old new both changed lineForms h.oldStop h.newStop rest

/-! ## All of it -/

/-- What is written of the differences between two texts, below what tells of the texts. -/
def text (w : DifferencePlan) (a b : DifferenceSide) : String :=
  let hunks := w.hunks a b
  let counted := hunks.filter (w.counts a b)
  match w.style with
  | .normal => String.join (counted.map (w.normalHunk a b))
  | .editor => String.join (counted.reverse.map (w.editorHunk b))
  | .forward => String.join (counted.map (w.forwardHunk b))
  | .numbered => String.join (counted.map (w.numberedHunk b))
  | .context | .unified =>
    let groups := (w.groups (w.counts a b) hunks).filter (·.any (w.counts a b))
    String.join (groups.map (if w.style == .unified then w.unifiedGroup a b else w.contextGroup a b))
  | .beside => w.beside a b 0 0 counted
  | .given old new both changed oldLine newLine bothLine =>
    inForms a b old new both changed (oldLine, newLine, bothLine) 0 0 counted

/-- Whether two texts differ. -/
def differs (w : DifferencePlan) (a b : DifferenceSide) : Bool :=
  (w.hunks a b).any (w.counts a b)

/-- Whether something is written also of texts that do not differ. -/
def showsCommon (w : DifferencePlan) : Bool :=
  match w.style with
  | .beside => !w.hidesCommon
  | .given .. => true
  | _ => false

end DifferencePlan

end Conformance.Shell
