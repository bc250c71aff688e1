import Conformance.Shell.Difference
import Conformance.Shell.Utility.Listing

/-!
# Programs that compare files

Two files are compared byte by byte or line by line, and two directories file by file.
-/

namespace Conformance.Shell

open Effect

/-! ## Byte by byte -/

/-- How many of the first characters of two texts are the same. -/
def commonLength : List Char → List Char → Nat
  | c :: rest, d :: other => if c == d then commonLength rest other + 1 else 0
  | _, _ => 0

/-- A text has all its characters in common with itself. -/
@[simp]
theorem commonLength_self (text : List Char) : commonLength text text = text.length := by
  induction text with
  | nil => rfl
  | cons c rest ih => simp [commonLength, ih]

/-- Say that a program has been called in a wrong way, with its name in front of each line. -/
def misusedTwice (message : String) (status : Nat) : Effect Nat := do
  let name := (← process).name
  tell message
  tell s!"Try '{name} --help' for more information."
  pure status

/-- A byte as it is shown among others. -/
def shownByte (c : Char) : String :=
  let low (n : Nat) : String :=
    if n < 32 then "^" ++ String.singleton (Char.ofNat (n + 64))
    else if n = 127 then "^?" else String.singleton (Char.ofNat n)
  if c.toNat < 128 then low c.toNat else "M-" ++ low (c.toNat - 128)

/-- A byte in base eight. -/
def octalByte (c : Char) : String :=
  let digits := String.ofList (Nat.toDigits 8 c.toNat)
  "".pushn ' ' (3 - digits.length) ++ digits

/-- A text on the left side of a column. -/
def leftColumn (width : Nat) (text : String) : String :=
  text ++ "".pushn ' ' (width - text.length)

/-- How many bytes are passed at the beginning of both files. -/
def readSkips (g : Given) (operands : List String) : Except String (Nat × Nat) := do
  let number (text : String) : Except String Nat :=
    let isCount := (text.toList.headD ' ').isDigit
    match (if isCount then readSize? text else none) with
    | some n => .ok n
    | none => .error ("invalid --ignore-initial value '" ++ text ++ "'")
  let given ← match (g.get? 'i').map (·.splitOn ":") with
    | some [both] => do
      let n ← number both
      pure (n, n)
    | some (first :: second) => pure (← number first, ← number (":".intercalate second))
    | _ => pure (0, 0)
  match operands with
  | [] => pure given
  | [first] => pure (max given.1 (← number first), given.2)
  | first :: second :: _ => pure (max given.1 (← number first), max given.2 (← number second))

/-- Compare two files byte by byte. -/
def cmpProgram (arguments : List String) : Effect Nat := do
  let names : List (String × Char) := [("print-bytes", 'b'), ("ignore-initial", 'i'), ("verbose", 'l'),
    ("bytes", 'n'), ("quiet", 's'), ("silent", 's')]
  match Given.read "bci:ln:s" names arguments with
  | .error message => misusedTwice message 2
  | .ok g =>
    let limit := match g.get? 'n' with
      | none => Except.ok none
      | some text =>
        match (if (text.toList.headD ' ').isDigit then readSize? text else none) with
        | some n => .ok (some n)
        | none => .error ("invalid --bytes value '" ++ text ++ "'")
    match g.operands, limit, readSkips g (g.operands.drop 2) with
    | _, .error message, _ | _, _, .error message => misusedTwice message 2
    | [], _, _ => misusedTwice "missing operand after 'cmp'" 2
    | _ :: _ :: _ :: _ :: extra :: _, _, _ => misusedTwice ("extra operand '" ++ extra ++ "'") 2
    | first :: rest, .ok limit, .ok (skip1, skip2) =>
      if g.has 'l' && g.has 's' then misusedTwice "options -l and -s are incompatible" 2
      else
        let second := rest.headD "-"
        let unreadable (name : String) (fault : Fault) : Effect Nat := do
          if !g.has 's' then tell s!"{name}: {fault.text}"
          pure 2
        match ← readOperand? first, ← readOperand? second with
        | .error fault, _ => unreadable first fault
        | _, .error fault => unreadable second fault
        | .ok a, .ok b =>
          let cut (skip : Nat) (text : String) : List Char :=
            let rest := text.toList.drop skip
            (limit.map fun n => rest.take n).getD rest
          let a := cut skip1 a
          let b := cut skip2 b
          let n := commonLength a b
          let lines := (a.take n).count '\n'
          let shorter := if a.length < b.length then (first, a) else (second, b)
          let ending (place lines : Nat) (withLines : Bool) : String :=
            s!"EOF on {shorter.1}" ++
              (if place = 0 then " which is empty"
                else s!" after byte {place}" ++
                  (if !withLines then ""
                    else if shorter.2.getLast? == some '\n' then s!", line {lines}"
                    else s!", in line {lines + 1}"))
          if n = a.length && n = b.length then pure 0
          else if g.has 's' then pure 1
          else if g.has 'l' then
            let width := (toString (limit.getD (max a.length b.length))).length
            let pairs := ((a.zip b).zipIdx).filter fun ((c, d), _) => c != d
            if a.length != b.length then tell (ending shorter.2.length 0 false)
            say (String.join (pairs.map fun ((c, d), k) =>
              column width (k + 1) ++ " " ++ octalByte c ++ " " ++
                (if g.has 'b' then leftColumn 4 (shownByte c) ++ " " ++ octalByte d ++ " " ++ shownByte d
                  else octalByte d) ++ "\n"))
            pure 1
          else
            match a[n]?, b[n]? with
            | some c, some d =>
              say (s!"{first} {second} differ: byte {n + 1}, line {lines + 1}" ++
                (if g.has 'b' || g.has 'c' then
                  " is " ++ octalByte c ++ " " ++ shownByte c ++ " " ++ octalByte d ++ " " ++ shownByte d
                else "") ++ "\n")
              pure 1
            | _, _ =>
              tell (ending n lines true)
              pure 1

/-! ## Line by line -/

/-- How files and directories are compared. -/
structure ComparingFiles where
  plan : DifferencePlan
  given : Given
  labels : List String
  /-- The options as they stand in front of what is written of files in directories. -/
  options : String
  skipped : List Pattern

/-- What is compared: a file with its text, a directory, or what is not there. -/
inductive Compared
  | text (content : String) (time : Int)
  | directory (f : Listed)
  | absent

/-- The name of a file in a heading. -/
def headingName (name : String) : String :=
  let letters := [('\x07', 'a'), ('\x08', 'b'), ('\t', 't'), ('\n', 'n'), ('\x0b', 'v'), ('\x0c', 'f'),
    ('\r', 'r'), ('"', '"'), ('\\', '\\')]
  let isPlain (c : Char) : Bool := 32 < c.toNat && c != '"' && c != '\\'
  if name.toList.all isPlain then name
  else
    "\"" ++ String.join (name.toList.map fun c =>
      match letters.lookup c with
      | some letter => String.ofList ['\\', letter]
      | none => if c.toNat < 32 then "\\" ++ octalText 3 c.toNat else String.singleton c) ++ "\""

/-- What lies under a name that is compared. -/
def comparedAt (name : String) : Effect (Except Fault Compared) := do
  if name == "-" then pure (.ok (.text (← readAll 0) ((← get).time)))
  else
    match (← get).listed true name with
    | .error fault => pure (.error fault)
    | .ok f =>
      if f.entry.isDirectory then pure (.ok (.directory f))
      else
        match ← readOperand? name with
        | .ok content => pure (.ok (.text content f.attributes.changed))
        | .error fault => pure (.error fault)

/-- What kind of file something is. -/
def Compared.kind : Compared → String
  | .text content _ => if content.isEmpty then "regular empty file" else "regular file"
  | .directory _ => "directory"
  | .absent => "regular empty file"

namespace ComparingFiles

/-- The name of one of the two files that are compared, or the label in its place. -/
def title (w : ComparingFiles) (side : Nat) (name : String) : String :=
  w.labels[side]?.getD name

/-- What stands above the differences of two texts. -/
def headings (w : ComparingFiles) (first second : String) (times : Int × Int) : String :=
  let line (mark : String) (side : Nat) (name : String) (time : Int) : String :=
    mark ++ " " ++ (match w.labels[side]? with
      | some label => label
      | none => headingName name ++ "\t" ++ timeText "%Y-%m-%d %H:%M:%S.%N %z" time) ++ "\n"
  match w.plan.style with
  | .context => line "***" 0 first times.1 ++ line "---" 1 second times.2
  | .unified => line "---" 0 first times.1 ++ line "+++" 1 second times.2
  | _ => ""

/-- Compare two texts; the answer is the status. -/
def compareTexts (w : ComparingFiles) (isInside : Bool) (first second : String)
    (a b : String × Int) : Effect Nat := do
  let g := w.given
  let ignores := w.plan.blanks != .exact || w.plan.folding || w.plan.skipsEmpty || w.plan.skipped.isSome ||
    g.has 'ρ'
  let names := s!" {w.title 0 first} and {w.title 1 second}"
  let isBinary := !g.has 'a' &&
    ((a.1.toList.take 32768).contains '\x00' || (b.1.toList.take 32768).contains '\x00')
  let sides (text : String) : DifferenceSide := .ofText (g.has 'ρ') text
  let status ←
    if a.1 == b.1 && (isBinary || !w.plan.showsCommon) then pure 0
    else if g.has 'q' && (!ignores || isBinary) then do
      say ("Files" ++ names ++ " differ\n")
      pure 1
    else if isBinary then do
      say ("Binary files" ++ names ++ " differ\n")
      pure 1
    else if g.has 'q' then
      if w.plan.differs (sides a.1) (sides b.1) then do
        say ("Files" ++ names ++ " differ\n")
        pure 1
      else pure 0
    else do
      let text := w.plan.text (sides a.1) (sides b.1)
      let isDifferent := w.plan.differs (sides a.1) (sides b.1)
      if isDifferent || w.plan.showsCommon then
        if isInside then
          say ("diff" ++ w.options ++ " " ++ shownName (w.title 0 first) ++ " " ++
            shownName (w.title 1 second) ++ "\n")
        let isShown := !text.isEmpty
        say ((if isShown then w.headings first second (a.2, b.2) else "") ++ text)
      pure (if isDifferent then 1 else 0)
  let isOpen (text : String) : Bool := !text.isEmpty && !text.endsWith "\n"
  let faults ←
    if w.plan.isRobust || isBinary then pure []
    else
      [(0, first, a.1), (1, second, b.1)].filterMapM fun (side, name, text) => do
        if isOpen text then
          tell (w.title side name ++ ": No newline at end of file\n")
          pure (some ())
        else pure none
  if status = 0 && g.has 's' then say ("Files" ++ names ++ " are identical\n")
  pure (if faults.isEmpty then status else 2)

/-- Whether entries with a name are not compared. -/
def skips (w : ComparingFiles) (name : String) : Bool :=
  w.skipped.any fun p => p.accepts name.toList

mutual

/-- Compare what lies at two places; the answer is the status.  The number bounds how deep it lies. -/
def compareAt (w : ComparingFiles) (fuel : Nat) (isInside : Bool) (first second : String)
    (a b : Compared) : Effect Nat :=
  match fuel with
  | 0 => pure 2
  | fuel + 1 => do
    match a, b with
    | .directory x, .directory y =>
      if w.given.has 'r' || !isInside then
        w.compareEntries fuel first second isInside (some x) (some y)
      else
        say s!"Common subdirectories: {first} and {second}\n"
        pure 0
    | .directory x, .absent =>
      if w.given.has 'r' then w.compareEntries fuel first second isInside (some x) none
      else
        say s!"Common subdirectories: {first} and {second}\n"
        pure 0
    | .absent, .directory y =>
      if w.given.has 'r' then w.compareEntries fuel first second isInside none (some y)
      else
        say s!"Common subdirectories: {first} and {second}\n"
        pure 0
    | .directory _, other | other, .directory _ =>
      let kinds := if a matches .directory _ then ("directory", other.kind) else (other.kind, "directory")
      say (s!"File {w.title 0 first} is a {kinds.1} while file {w.title 1 second} is a {kinds.2}" ++ "\n")
      pure 1
    | .text x s, .text y t => w.compareTexts isInside first second (x, s) (y, t)
    | .text x s, .absent => w.compareTexts isInside first second (x, s) ("", 0)
    | .absent, .text y t => w.compareTexts isInside first second ("", 0) (y, t)
    | .absent, .absent => pure 0
termination_by structural fuel

/-- Compare the entries of two directories, one of which may not be there. -/
def compareEntries (w : ComparingFiles) (fuel : Nat) (first second : String) (isInside : Bool)
    (a b : Option Listed) : Effect Nat :=
  match fuel with
  | 0 => pure 2
  | fuel + 1 => do
    let namesOf (f : Option Listed) : List String := (f.map fun f => (namedEntries f.entry).map Prod.fst).getD []
    let start := if isInside then "" else (w.given.get? 'S').getD ""
    let names := ((namesOf a ++ namesOf b).mergeSort fun x y => decide (x ≤ y)).eraseDups
    let names := names.filter fun name => start ≤ name && !w.skips name
    let below (place name : String) : String := if place.endsWith "/" then place ++ name else place ++ "/" ++ name
    let statuses ← names.mapM fun name => do
      let isFirst := (namesOf a).contains name
      let isSecond := (namesOf b).contains name
      let isMade := w.given.has 'N' || (w.given.has 'P' && isSecond)
      if (!isFirst || !isSecond) && !isMade then
        say s!"Only in {if isFirst then first else second}: {name}\n"
        pure 1
      else
        let read (isThere : Bool) (place : String) : Effect (Except Fault Compared) := do
          if isThere then comparedAt place else pure (.ok .absent)
        match ← read isFirst (below first name), ← read isSecond (below second name) with
        | .ok x, .ok y => w.compareAt fuel true (below first name) (below second name) x y
        | .error fault, _ =>
          tell s!"{below first name}: {fault.text}"
          pure 2
        | _, .error fault =>
          tell s!"{below second name}: {fault.text}"
          pure 2
    pure (statuses.foldl max 0)
termination_by structural fuel

end

/-- Compare what two operands stand for; a file is compared with the one of its name in a directory. -/
def compareNames (w : ComparingFiles) (first second : String) : Effect Nat := do
  let isSecondDirectory ← isDirectory second
  let isFirstDirectory ← isDirectory first
  let below (place name : String) : String :=
    (if place.endsWith "/" then place else place ++ "/") ++ baseOf name
  if (first == "-" && isSecondDirectory) || (second == "-" && isFirstDirectory) then
    failed "cannot compare '-' to a directory" 2
  else
    let isFirstThere := first == "-" || (← lookUp first).isOk
    let isSecondThere := second == "-" || (← lookUp second).isOk
    let (first, second) :=
      if isFirstDirectory && isSecondThere && !isSecondDirectory then (below first second, second)
      else if isSecondDirectory && isFirstThere && !isFirstDirectory then (first, below second first)
      else (first, second)
    if first == "-" && second == "-" then pure 0
    else
      let a ← comparedAt first
      let b ← comparedAt second
      let missing (found : Except Fault Compared) (isAllowed : Bool) : Except Fault Compared :=
        match found with
        | .error fault => if isAllowed && fault == .notFound then .ok .absent else .error fault
        | found => found
      let a := missing a ((w.given.has 'N' || w.given.has 'P') && b.isOk)
      let b := missing b (w.given.has 'N' && a.isOk && !(a matches .ok .absent))
      match a, b with
      | .ok a, .ok b => w.compareAt treeDepth false first second a b
      | a, b =>
        let note (name : String) : Except Fault Compared → Effect Unit
          | .error fault => tell s!"{name}: {fault.text}"
          | .ok _ => pure ()
        note first a
        note second b
        pure 2

end ComparingFiles

/-! ## Options -/

/-- The long options of the program that compares files line by line. -/
def differenceNames : List (String × Char) :=
  [("binary", 'β'), ("brief", 'q'), ("changed-group-format", 'γ'), ("color", 'κ'), ("context", 'C'),
    ("ed", 'e'), ("exclude", 'x'), ("exclude-from", 'X'), ("expand-tabs", 't'), ("forward-ed", 'f'),
    ("from-file", 'φ'), ("horizon-lines", 'η'), ("ifdef", 'D'), ("ignore-all-space", 'w'),
    ("ignore-blank-lines", 'B'), ("ignore-case", 'i'), ("ignore-matching-lines", 'I'),
    ("ignore-space-change", 'b'), ("ignore-tab-expansion", 'E'), ("ignore-trailing-space", 'Z'),
    ("initial-tab", 'T'), ("label", 'L'), ("left-column", 'λ'), ("line-format", 'ξ'), ("minimal", 'd'),
    ("new-file", 'N'), ("new-group-format", 'ν'), ("new-line-format", 'μ'), ("no-dereference", 'δ'),
    ("normal", 'ο'), ("old-group-format", 'π'), ("old-line-format", 'ω'), ("rcs", 'n'), ("recursive", 'r'),
    ("report-identical-files", 's')]
  ++ [("show-c-function", 'p'), ("show-function-line", 'F'), ("side-by-side", 'y'),
    ("speed-large-files", 'H'), ("starting-file", 'S'), ("strip-trailing-cr", 'ρ'),
    ("suppress-blank-empty", 'σ'), ("suppress-common-lines", 'ς'), ("tabsize", 'τ'), ("text", 'a'),
    ("to-file", 'θ'), ("unchanged-group-format", 'υ'), ("unchanged-line-format", 'ψ'),
    ("unidirectional-new-file", 'P'), ("unified", 'U'), ("width", 'W')]

/-- The letters of the options of the program that compares files line by line. -/
def differenceOptions : String :=
  "0123456789abBcC:dD:eEfF:hHiI:lL:nNpPqrsS:tTuU:vwW:x:X:yZγ:κ::φ:η:ξ:ν:μ:π:ω:τ:θ:υ:ψ:ολρσςδβ"

/-- The ways to write differences that options ask for, in their order. -/
def askedStyles (g : Given) : List Char :=
  (g.options.filterMap fun (letter, _) =>
    match letter with
    | 'c' | 'C' => some 'c'
    | 'u' | 'U' => some 'u'
    | 'e' | 'f' | 'n' | 'y' | 'ο' => some letter
    | 'D' | 'γ' | 'ξ' | 'ν' | 'μ' | 'π' | 'ω' | 'υ' | 'ψ' => some 'D'
    | _ => none).eraseDups

/-- The forms that options ask for. -/
def givenForms (g : Given) : DifferenceStyle :=
  let named := (g.get? 'D').map fun name =>
    ("#ifndef " ++ name ++ "\n%<#endif /* ! " ++ name ++ " */\n",
      "#ifdef " ++ name ++ "\n%>#endif /* " ++ name ++ " */\n",
      "#ifndef " ++ name ++ "\n%<#else /* " ++ name ++ " */\n%>#endif /* " ++ name ++ " */\n")
  let changed := (g.get? 'γ').or (named.map (·.2.2))
  let old := ((g.get? 'π').or (named.map (·.1))).getD (changed.getD "%<")
  let new := ((g.get? 'ν').or (named.map (·.2.1))).getD (changed.getD "%>")
  let line (letter : Char) : String := ((g.get? letter).or (g.get? 'ξ')).getD "%l\n"
  .given old new ((g.get? 'υ').getD "%=") (changed.getD (old ++ new)) (line 'ω') (line 'μ') (line 'ψ')

/-- How many lines options ask for around differences, and whether that is said together with the way to write
them. -/
def readAround (g : Given) : Except String (Nat × Bool) :=
  g.options.foldlM (fun ((most, isExplicit) : Nat × Bool) (letter, text) =>
    match letter, text with
    | 'u', _ | 'c', _ | 'U', "" | 'C', "" => .ok (max most 3, isExplicit)
    | 'U', text | 'C', text =>
      match (if !text.isEmpty && text.toList.all Char.isDigit then text.toNat? else none) with
      | some n => .ok (max most n, true)
      | none => .error ("invalid context length '" ++ text ++ "'")
    | _, _ => .ok (most, isExplicit)) (0, false)

/-- A number that an option asks for. -/
def readDifferenceNumber (g : Given) (letter : Char) (what : String) (least usual : Nat) : Except String Nat :=
  match g.get? letter with
  | none => .ok usual
  | some text =>
    match (if !text.isEmpty && text.toList.all Char.isDigit then text.toNat? else none) with
    | some n => if n < least then .error ("invalid " ++ what ++ " '" ++ text ++ "'") else .ok n
    | none => .error ("invalid " ++ what ++ " '" ++ text ++ "'")

/-- The expression that any of several options gives. -/
def givenExpression (g : Given) (letter : Char) : Except String (Option Regular) := do
  let texts := (g.options.filter (·.1 == letter)).map Prod.snd
  let found ← texts.mapM fun text =>
    match Regular.read .basic (unitsOf text) with
    | .ok e => .ok e
    | .error message => .error (text ++ ": " ++ message)
  pure (match found with
    | [] => none
    | first :: rest => some (rest.foldl Regular.either first))

/-- The expression for the headings of functions. -/
def functionHeading : Regular :=
  .sequence (.anchor .textStart) (.set false [.category "alpha", .range '$' '$', .range '_' '_'])

/-- Read how files are compared; a message comes with whether it tells of a wrong call. -/
def readDifferencePlan (g : Given) : Except (Bool × String) DifferencePlan := do
  let wrong {α : Type} (found : Except String α) : Except (Bool × String) α := found.mapError fun m => (true, m)
  let (around, isExplicit) ← wrong (readAround g)
  let digits := (g.options.filter fun (letter, _) => letter.isDigit).map Prod.fst
  let loose := if digits.isEmpty then none else some (takeNumber 10 digits).1
  let width ← wrong (readDifferenceNumber g 'W' "width" 1 130)
  let tabSize ← wrong (readDifferenceNumber g 'τ' "tabsize" 1 8)
  let margin ← wrong (readDifferenceNumber g 'η' "horizon length" 0 0)
  match g.get? 'κ' with
  | some word =>
    if !List.contains ["", "always", "never", "auto"] word then
      throw (true, "invalid color '" ++ word ++ "'")
  | none => pure ()
  let styles := askedStyles g
  if 1 < styles.length then throw (true, "conflicting output style options")
  let style : DifferenceStyle := match styles.head? with
    | some 'c' => .context
    | some 'u' => .unified
    | some 'e' => .editor
    | some 'f' => .forward
    | some 'n' => .numbered
    | some 'y' => .beside
    | some 'D' => givenForms g
    | _ => if g.has 'p' then .context else .normal
  let usual := if styles.isEmpty && g.has 'p' then 3 else around
  let isSurrounded := style == .context || style == .unified
  let around := match loose with
    | some n => if usual < n || (n < usual && !isExplicit) then n else usual
    | none => usual
  let around := if isSurrounded then around else 0
  let skipped ← (givenExpression g 'I').mapError fun m => (false, m)
  let asked ← (givenExpression g 'F').mapError fun m => (false, m)
  let headings := asked.toList ++ (if g.has 'p' then [functionHeading] else [])
  let heading := match headings with
    | [] => none
    | first :: rest => some (rest.foldl Regular.either first)
  let blanks : BlankWay :=
    if g.has 'w' then .all else if g.has 'b' then .amounts
    else match g.has 'E', g.has 'Z' with
      | true, true => .tabsAndTrailing
      | true, false => .tabs
      | false, true => .trailing
      | false, false => .exact
  pure {
    style := style, around := around, margin := max margin around, minimal := g.has 'd', blanks := blanks
    folding := g.has 'i', skipsEmpty := g.has 'B', skipped := skipped, heading := heading
    expandsTabs := g.has 't', startsWithTab := g.has 'T', tabSize := tabSize, width := width
    leftOnly := g.has 'λ', hidesCommon := g.has 'ς', trimsEmpty := g.has 'σ' }

/-- The options as they were given, up to the first operand behind which there is none. -/
def writtenOptions (arguments : List String) (count : Nat) : String :=
  String.join ((arguments.take (arguments.length - count)).map fun text => " " ++ shownName text)

/-- Compare files line by line. -/
def diffProgram (arguments : List String) : Effect Nat := do
  match Given.read differenceOptions differenceNames arguments with
  | .error message => misusedTwice message 2
  | .ok g =>
    match readDifferencePlan g with
    | .error (true, message) => misusedTwice message 2
    | .error (false, message) => failed message 2
    | .ok plan =>
      let labels := (g.options.filter (·.1 == 'L')).map Prod.snd
      if 2 < labels.length then failed "too many file label options" 2
      else
        let listed ← (g.options.filter (·.1 == 'X')).mapM fun (_, name) => do
          match ← readOperand? name with
          | .ok text => pure (.ok (linesOf text))
          | .error fault => pure (Except.error s!"{name}: {fault.text}")
        match listed.findSome? fun
            | .error message => some message
            | .ok _ => none with
        | some message => failed message 2
        | none =>
          let patterns := (g.options.filter (·.1 == 'x')).map Prod.snd ++ (listed.filterMap Except.toOption).flatten
          let w : ComparingFiles := ⟨plan, g, labels, writtenOptions arguments g.operands.length,
            patterns.map Pattern.ofText⟩
          match g.get? 'φ', g.get? 'θ', g.operands with
          | some _, some _, _ => failed "--from-file and --to-file both specified" 2
          | some first, none, names => do
            let statuses ← names.mapM fun name => w.compareNames first name
            pure (statuses.foldl max 0)
          | none, some second, names => do
            let statuses ← names.mapM fun name => w.compareNames name second
            pure (statuses.foldl max 0)
          | none, none, [] => misusedTwice "missing operand after 'diff'" 2
          | none, none, [_] => misusedTwice ("missing operand after '" ++ arguments.getLastD "" ++ "'") 2
          | none, none, [first, second] => w.compareNames first second
          | none, none, _ :: _ :: extra :: _ => misusedTwice ("extra operand '" ++ extra ++ "'") 2

/-- Show two files side by side. -/
def sdiffProgram (arguments : List String) : Effect Nat := do
  let names : List (String × Char) := [("ignore-case", 'i'), ("ignore-tab-expansion", 'E'),
    ("ignore-trailing-space", 'Z'), ("ignore-space-change", 'b'), ("ignore-all-space", 'W'),
    ("ignore-blank-lines", 'B'), ("ignore-matching-lines", 'I'), ("text", 'a'), ("width", 'w'),
    ("left-column", 'l'), ("suppress-common-lines", 's'), ("expand-tabs", 't'), ("minimal", 'd'),
    ("speed-large-files", 'H'), ("strip-trailing-cr", 'ρ'), ("tabsize", 'τ')]
  match Given.read "abBdEHiI:lstvw:WZρτ:" names arguments with
  | .error message => misusedTwice message 2
  | .ok g =>
    let options := g.options.map fun (letter, text) =>
      match letter with
      | 'W' => "-w"
      | 'w' => "--width=" ++ text
      | 'l' => "--left-column"
      | 's' => "--suppress-common-lines"
      | 'I' => "-I" ++ text
      | 'ρ' => "--strip-trailing-cr"
      | 'τ' => "--tabsize=" ++ text
      | letter => "-" ++ String.singleton letter
    match g.operands with
    | [] => misusedTwice "missing operand after 'sdiff'" 2
    | [_] => misusedTwice ("missing operand after '" ++ arguments.getLastD "" ++ "'") 2
    | [first, second] =>
      update fun p => { p with name := "diff" }
      diffProgram ("-y" :: options ++ ["--", first, second])
    | _ :: _ :: extra :: _ => misusedTwice ("extra operand '" ++ extra ++ "'") 2

end Conformance.Shell
