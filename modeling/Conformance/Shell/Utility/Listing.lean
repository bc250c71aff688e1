import Conformance.Shell.Calendar
import Conformance.Shell.Utility.Name

/-!
# Programs that list files

What is told of files: their names, kinds, permissions, sizes and times.
-/

namespace Conformance.Shell

open Effect

/-! ## What is known of a file -/

/-- How deep directories are looked into. -/
def treeDepth : Nat := 256

/-- A file that is listed: the name it is shown by, its place, all the places that it has, what lies there,
and what is known of it. -/
structure Listed where
  name : String
  path : Path
  places : List Path
  entry : FileTree.Entry
  attributes : Attributes

namespace Listed

/-- The letter of a kind of files. -/
def kindLetter (f : Listed) : Char :=
  match f.entry with
  | .directory _ => 'd'
  | .file .. => '-'
  | .sink => 'c'
  | .link _ => 'l'

/-- The kind of a file and what may be done with it. -/
def modeLine (f : Listed) : String :=
  String.ofList (f.kindLetter :: (modeText f.attributes.mode).toList)

/-- The size of a file in bytes. -/
def size (f : Listed) : Nat :=
  match f.entry with
  | .directory _ => 4096
  | .file _ reported => reported
  | .sink => 0
  | .link target => (octets target).length

/-- How many blocks of half a kilobyte a file takes. -/
def blocks (f : Listed) : Nat :=
  match f.entry with
  | .directory _ => 8
  | .file _ reported => (reported + 4095) / 4096 * 8
  | .sink => 0
  | .link target => if (octets target).length < 60 then 0 else 8

/-- How many names a file has. -/
def links (f : Listed) : Nat :=
  match f.entry with
  | .directory entries => 2 + entries.countP fun (_, e) => e.isDirectory
  | _ => max 1 f.places.length

/-- Whether a file can be run. -/
def isRunnable (f : Listed) : Bool :=
  f.entry.isFile && f.attributes.mode &&& 0o111 != 0

end Listed

/-- The file at a place, to be shown by a name. -/
def listedAt (m : Machine) (name : String) (path : Path) (entry : FileTree.Entry) : Listed :=
  ⟨name, path, m.twinsOf path, entry, attributesIn m.attributes path entry⟩

/-- The file that a name stands for, or the link that it is. -/
def Machine.listed (m : Machine) (throughLast : Bool) (name : String) : Except Fault Listed :=
  match m.lookUp throughLast name with
  | .ok entry => (m.placeOf throughLast name).map fun path => listedAt m name path entry
  | .error fault =>
    let path := (m.placeOf true name).toOption.getD (m.process.directory.child (textOf name)).lexical
    if isProgramPath path then
      .ok ⟨name, path, [path], .file .empty 100000, ⟨0o755, startTime - 10000000⟩⟩
    else .error fault

/-- The files in a directory, in the order of their names. -/
def Listed.inside (m : Machine) (f : Listed) : List Listed :=
  (namedEntries f.entry).map fun (name, entry) =>
    listedAt m name (f.path.child (textOf name)) entry

/-! ## Orders -/

/-- The parts of a text for a comparison of versions: runs of what is no digit, and numbers. -/
def versionParts : Nat → List Char → List (List Char × Nat)
  | 0, _ => []
  | _, [] => []
  | fuel + 1, cs =>
    let letters := cs.takeWhile (!·.isDigit)
    let rest := cs.drop letters.length
    let digits := rest.takeWhile Char.isDigit
    (letters, (takeNumber 10 digits).1) :: versionParts fuel (rest.drop digits.length)

/-- The rank of a character among versions: a tilde comes before the end, and letters before others. -/
def versionRank (c : Option Char) : Int :=
  match c with
  | none => 0
  | some '~' => -1
  | some c => if c.isDigit then 0 else if c.isAlpha then c.toNat else c.toNat + 256

/-- Compare runs of what is no digit. -/
def compareRuns : List Char → List Char → Ordering
  | [], [] => .eq
  | a, b =>
    let step := Ord.compare (versionRank a.head?) (versionRank b.head?)
    match step, a, b with
    | .eq, _ :: a, _ :: b => compareRuns a b
    | .eq, _ :: a, [] => compareRuns a []
    | .eq, [], _ :: b => compareRuns [] b
    | o, _, _ => o
termination_by a b => a.length + b.length
decreasing_by all_goals simp only [List.length_cons, List.length_nil]; omega

/-- Compare parts of versions. -/
def compareParts : List (List Char × Nat) → List (List Char × Nat) → Ordering
  | [], [] => .eq
  | (a, m) :: as, (b, n) :: bs =>
    ((compareRuns a b).then (Ord.compare m n)).then (compareParts as bs)
  | (a, m) :: as, [] => ((compareRuns a []).then (Ord.compare m 0)).then (compareParts as [])
  | [], (b, n) :: bs => ((compareRuns [] b).then (Ord.compare 0 n)).then (compareParts [] bs)

/-- A name without its endings: parts behind points that begin with a letter or a tilde. -/
def withoutEndings (name : List Char) : List Char :=
  let pieces := name.splitOn '.'
  let isEnding (piece : List Char) : Bool :=
    match piece with
    | c :: rest => (c.isAlpha || c == '~') && rest.all fun c => c.isAlphanum || c == '~'
    | [] => false
  let kept := (pieces.reverse.dropWhile isEnding).reverse
  let cut := if kept.isEmpty then pieces.take 1 else kept
  ['.'].intercalate cut

/-- Compare texts as versions. -/
def compareVersions (a b : String) : Ordering :=
  let parts (cs : List Char) := versionParts (cs.length + 1) cs
  let special (s : String) : Int :=
    if s.isEmpty then 0 else if s == "." then 1 else if s == ".." then 2
    else if s.startsWith "." then 3 else 4
  if a == b then .eq
  else
    match Ord.compare (special a) (special b) with
    | .eq =>
      if special a < 3 then .eq
      else
        let strip (s : String) : List Char := if s.startsWith "." then s.toList.drop 1 else s.toList
        (compareParts (parts (withoutEndings (strip a))) (parts (withoutEndings (strip b)))).then
          (compareParts (parts (strip a)) (parts (strip b)))
    | o => o

/-- Compare texts by their bytes. -/
def compareTexts (a b : String) : Ordering :=
  compareOfLessAndEq a b

/-! ## Sizes -/

/-- A size in a unit that suits it, rounded up. -/
def humanSize (base n : Nat) : String :=
  if n < base then toString n
  else
    let units := "KMGTPE".toList
    let rec scale : List Char → Nat → String
      | [], _ => toString n
      | [u], unit => s!"{(n + unit - 1) / unit}" ++ String.singleton u
      | u :: rest, unit =>
        let tenths := (n * 10 + unit - 1) / unit
        if tenths < 100 then
          s!"{tenths / 10}.{tenths % 10}" ++ String.singleton (if base = 1000 && u == 'K' then 'k' else u)
        else
          let whole := (n + unit - 1) / unit
          if whole < base then
            s!"{whole}" ++ String.singleton (if base = 1000 && u == 'K' then 'k' else u)
          else scale rest (unit * base)
    scale units base

/-! ## Listing -/

/-- How a name is written so that nothing in it can be mistaken. -/
def escapedName (quote : Bool) (name : String) : String :=
  let letters := [('\x07', 'a'), ('\x08', 'b'), ('\x0c', 'f'), ('\n', 'n'), ('\r', 'r'), ('\t', 't'),
    ('\x0b', 'v'), ('\\', '\\')]
  let valid := (String.fromUTF8? (bytesOf name)).isSome
  let shown (c : Char) : String :=
    match letters.lookup c with
    | some l => String.ofList ['\\', l]
    | none =>
      if c == '"' && quote then "\\\""
      else if c == ' ' && !quote then "\\ "
      else if c.toNat < 32 || c.toNat = 127 || (128 ≤ c.toNat && !valid) then
        "\\" ++ octalText 3 c.toNat
      else String.singleton c
  let body := String.join (name.toList.map shown)
  if quote then "\"" ++ body ++ "\"" else body

/-- A name in which a question mark stands for what cannot be shown. -/
def maskedName (name : String) : String :=
  String.ofList (name.toList.map fun c => if c.toNat < 32 || c.toNat = 127 then '?' else c)

/-- How files are listed. -/
structure Listing where
  given : Given
  now : Instant

namespace Listing

/-- Whether an option is given. -/
def has (l : Listing) (letter : Char) : Bool :=
  l.given.has letter

/-- Whether all is told of each file. -/
def isLong (l : Listing) : Bool :=
  (l.given.last? ['l', 'n', 'o', 'g', '1', 'C', 'x', 'm', 'φ']).any fun c => "lnogφ".toList.contains c ||
    (c == '1' && ['l', 'n', 'o', 'g', 'φ'].any l.has)

/-- Whether hidden files are listed. -/
def showsHidden (l : Listing) : Bool :=
  ['a', 'A', 'f'].any l.has

/-- A name as it is written. -/
def written (l : Listing) (name : String) : String :=
  match l.given.last? ['Q', 'b', 'N', 'χ'] with
  | some 'Q' => escapedName true name
  | some 'b' => escapedName false name
  | some 'χ' =>
    match l.given.get? 'χ' with
    | some "c" => escapedName true name
    | some "escape" => escapedName false name
    | some "shell" | some "shell-escape" => shownName name
    | some "shell-always" | some "shell-escape-always" => quotedName name
    | _ => name
  | _ => if l.given.last? ['q', 'w'] == some 'q' then maskedName name else name

/-- The mark behind the name of a file. -/
def mark (l : Listing) (f : Listed) : String :=
  match l.given.last? ['F', 'p', 'ι'] with
  | none => ""
  | some c =>
    match f.entry with
    | .directory _ => "/"
    | .link _ => if c != 'p' && !l.isLong then "@" else ""
    | _ => if c == 'F' && l.given.get? 'F' != some "never" && f.isRunnable then "*" else ""

/-- A size as it is asked for. -/
def sizeText (l : Listing) (n : Nat) : String :=
  match l.given.last? ['h', 'σ'] with
  | some 'h' => humanSize 1024 n
  | some _ => humanSize 1000 n
  | none => toString n

/-- The blocks of a file as they are asked for. -/
def blockText (l : Listing) (n : Nat) : String :=
  match l.given.last? ['h', 'σ'] with
  | some 'h' => humanSize 1024 (n * 512)
  | some _ => humanSize 1000 (n * 512)
  | none => toString ((n + 1) / 2)

/-- When a file was changed, as it is told in a long listing. -/
def timeOf (l : Listing) (f : Listed) : String :=
  let t := f.attributes.changed
  let isRecent := l.now - 15778476 * nanosPerSecond < t && t ≤ l.now
  let style := if l.has 'φ' then "full-iso" else (l.given.get? 'τ').getD "locale"
  if style.startsWith "+" then
    match (style.drop 1).toString.splitOn "\n" with
    | [old, recent] => timeText (if isRecent then recent else old) t
    | _ => timeText (style.drop 1).toString t
  else
    match style with
    | "full-iso" => timeText "%Y-%m-%d %H:%M:%S.%N %z" t
    | "long-iso" => timeText "%Y-%m-%d %H:%M" t
    | "iso" => timeText (if isRecent then "%m-%d %H:%M" else "%Y-%m-%d ") t
    | _ => timeText (if isRecent then "%b %e %H:%M" else "%b %e  %Y") t

/-- Files in the order that is asked for. -/
def sorted (l : Listing) (files : List Listed) : List Listed :=
  let byName (a b : Listed) : Ordering := compareTexts a.name b.name
  let ending (f : Listed) : String :=
    match (f.name.toList.splitOn '.').reverse with
    | last :: _ :: _ => "." ++ String.ofList last
    | _ => ""
  let chosen := match l.given.last? ['t', 'S', 'X', 'v', 'U', 'f', 'ο'] with
    | some 'ο' =>
      match l.given.get? 'ο' with
      | some "time" => some 't'
      | some "size" => some 'S'
      | some "extension" => some 'X'
      | some "version" => some 'v'
      | some "none" => some 'U'
      | _ => none
    | other => other
  let order (a b : Listed) : Ordering :=
    match chosen with
    | some 't' => (Ord.compare b.attributes.changed a.attributes.changed).then (byName a b)
    | some 'S' => (Ord.compare b.size a.size).then (byName a b)
    | some 'X' => (compareTexts (ending a) (ending b)).then (byName a b)
    | some 'v' => (compareVersions a.name b.name).then (byName a b)
    | some 'U' | some 'f' => .eq
    | _ => byName a b
  let reversed := l.has 'r' && chosen != some 'U' && chosen != some 'f'
  let order (a b : Listed) : Ordering := if reversed then order b a else order a b
  let files := files.mergeSort fun a b => (order a b).isLE
  if l.has 'γ' then
    let (first, rest) := files.partition fun f => f.entry.isDirectory
    first ++ rest
  else files

/-- Cells in columns, each as wide as it needs; some of them are written to the right. -/
def aligned (right : List Bool) (rows : List (List String)) : List String :=
  let width (n : Nat) : Nat := (rows.map fun row => countColumns (row[n]?.getD "")).foldl max 0
  rows.map fun row =>
    " ".intercalate (row.zipIdx.map fun (cell, n) =>
      let blanks := "".pushn ' ' (width n - countColumns cell)
      if right[n]?.getD false then blanks ++ cell
      else if n + 1 = row.length then cell else cell ++ blanks)
where
  /-- How wide a text is. -/
  countColumns (text : String) : Nat :=
    text.toList.countP fun c => c.toNat < 128 || 192 ≤ c.toNat

/-- How wide a line can be. -/
def lineWidth (l : Listing) (columns : Option Nat) : Nat :=
  match (l.given.get? 'w').bind String.toNat? with
  | some 0 => 100000
  | some n => n
  | none => columns.getD 80

/-- Names in columns.  They are as many as fit, and filled one after another or line by line. -/
def inColumns (across : Bool) (width : Nat) (names : List String) : List String :=
  let sizes := (names.map aligned.countColumns).toArray
  let count := names.length
  let rowsFor (columns : Nat) : Nat := (count + columns - 1) / columns
  let columnOf (columns k : Nat) : Nat := if across then k % columns else k / rowsFor columns
  let widths (columns : Nat) : List Nat :=
    (List.range columns).map fun c =>
      (List.range count).foldl (fun most k =>
        if columnOf columns k = c then max most (sizes[k]?.getD 0 + if c + 1 = columns then 0 else 2)
        else most) (if c + 1 = columns then 1 else 3)
  let most := max 1 (min count (width / 3))
  let fits (columns : Nat) : Bool := (widths columns).foldl (· + ·) 0 < width
  let columns := ((List.range most).map fun n => most - n).find? fits |>.getD 1
  let rows := rowsFor columns
  let ws := widths columns
  let starts := (List.range columns).map fun c => (ws.take c).foldl (· + ·) 0
  let cells := names.toArray
  (List.range rows).map fun r =>
    ((List.range columns).foldl (fun ((line, place) : String × Nat) c =>
      let k := if across then r * columns + c else c * rows + r
      match cells[k]?, starts[c]? with
      | some name, some start =>
        let gap := padding place start
        (line ++ gap ++ name, start + aligned.countColumns name)
      | _, _ => (line, place)) ("", 0)).1
where
  /-- What leads from one place on a line to another: tabs where they reach as far as blanks. -/
  padding (place start : Nat) : String :=
    go (start + 1) place start
  /-- Tabs and blanks from a place to another one; the first number bounds how many there are. -/
  go : Nat → Nat → Nat → String
    | 0, _, _ => ""
    | fuel + 1, place, start =>
      if start ≤ place then ""
      else if place / 8 + 1 ≤ start / 8 then "\t" ++ go fuel ((place / 8 + 1) * 8) start
      else " " ++ go fuel (place + 1) start

/-- The lines of a listing of files. -/
def lines (l : Listing) (columns : Option Nat) (files : List Listed) : List String :=
  let name (f : Listed) : String := l.written f.name ++ l.mark f
  let blocks := (files.map fun f => (l.blockText f.blocks).length).foldl max 0
  let inFront (f : Listed) : String :=
    if l.has 's' then
      let text := l.blockText f.blocks
      "".pushn ' ' (blocks - text.length) ++ text ++ " "
    else ""
  if l.isLong then
    let owner := if l.has 'n' then "0" else "root"
    let row (f : Listed) : List String :=
      let full := match f.entry with
        | .link target => name f ++ " -> " ++ l.written (octets target)
        | _ => name f
      let size := match f.entry with
        | .sink => "1, 3"
        | _ => l.sizeText f.size
      [inFront f ++ f.modeLine, toString f.links] ++ (if l.has 'g' then [] else [owner]) ++
        (if l.has 'o' || l.has 'G' then [] else [owner]) ++ [size, l.timeOf f, full]
    let owners := (if l.has 'g' then 0 else 1) + (if l.has 'o' || l.has 'G' then 0 else 1)
    aligned ([false, true] ++ List.replicate owners false ++ [true, true]) (files.map row)
  else
    let names := files.map fun f => inFront f ++ name f
    match l.given.last? ['1', 'C', 'x', 'm'] with
    | some 'C' => if names.isEmpty then [] else inColumns false (l.lineWidth columns) names
    | some 'x' => if names.isEmpty then [] else inColumns true (l.lineWidth columns) names
    | some 'm' =>
      if names.isEmpty then []
      else
        let width := l.lineWidth columns
        let (done, line) := (names.zipIdx.foldl (fun ((done, line) : List String × String) (name, n) =>
          let piece := if n + 1 < names.length then name ++ "," else name
          if line.isEmpty then (done, piece)
          else if line.length + 1 + name.length + 2 ≤ width || (n + 1 = names.length &&
            line.length + 1 + piece.length + 1 ≤ width) then (done, line ++ " " ++ piece)
          else (line :: done, piece)) ([], ""))
        (line :: done).reverse
    | _ => names

/-- Whether a file in a directory is listed. -/
def shows (l : Listing) (name : String) : Bool :=
  let ignored (letter : Char) : Bool :=
    l.given.options.any fun (c, pattern) => c == letter && (Pattern.ofText pattern).accepts name.toList
  (l.showsHidden || !name.startsWith ".") && !ignored 'I' && (l.showsHidden || !ignored 'η') &&
    !(l.has 'B' && name.endsWith "~")

/-- The directories below a directory, each with its name, in the order in which they are listed.  The number
bounds how deep they lie. -/
def withSubdirectories (l : Listing) (m : Machine) : Nat → Listed → List Listed
  | 0, _ => []
  | fuel + 1, f =>
    let inside := l.sorted ((f.inside m).filter fun g => l.shows g.name && g.entry.isDirectory)
    f :: inside.flatMap fun g =>
      l.withSubdirectories m fuel { g with name := nameWithin f.name g.name }

/-- Write what is in a directory. -/
def showDirectory (l : Listing) (m : Machine) (columns : Option Nat) (f : Listed) : Effect Unit := do
  let inside := (f.inside m).filter fun g => l.shows g.name
  let dots :=
    if (l.has 'a' || l.has 'f') && l.given.last? ['a', 'A'] != some 'A' then
      let up := (m.listed true (nameWithin f.name "..")).toOption
      [{ f with name := "." }, { up.getD f with name := ".." }]
    else []
  let files := l.sorted (dots ++ inside)
  if l.isLong || l.has 's' then
    say s!"total {l.blockText ((files.map Listed.blocks).foldl (· + ·) 0)}\n"
  say (unlines (l.lines columns files))

end Listing

/-- The long names of the options for listing files. -/
def listingNames : List (String × Char) :=
  [("all", 'a'), ("almost-all", 'A'), ("escape", 'b'), ("directory", 'd'), ("classify", 'F'),
    ("file-type", 'ι'), ("full-time", 'φ'), ("group-directories-first", 'γ'), ("human-readable", 'h'),
    ("size", 's'), ("si", 'σ'), ("ignore", 'I'), ("hide", 'η'), ("ignore-backups", 'B'), ("inode", 'i'), ("kibibytes", 'k'),
    ("no-group", 'G'), ("numeric-uid-gid", 'n'), ("literal", 'N'), ("hide-control-chars", 'q'),
    ("show-control-chars", 'ω'), ("quote-name", 'Q'), ("quoting-style", 'χ'), ("reverse", 'r'),
    ("recursive", 'R'), ("sort", 'ο'), ("time", 'ζ'), ("time-style", 'τ'), ("width", 'w'),
    ("tabsize", 'T'), ("format", 'μ'), ("color", 'κ'), ("indicator-style", 'δ'), ("dereference", 'L'),
    ("dereference-command-line", 'H'), ("zero", 'θ'), ("context", 'Z'), ("author", 'α'),
    ("block-size", 'β'), ("hyperlink", 'λ'), ("dired", 'D')]

/-- When colours and links are used. -/
def whenWords : List (List String) :=
  [["always", "yes", "force"], ["never", "no", "none"], ["auto", "tty", "if-tty"]]

/-- The options for listing files whose arguments are words: their names and the words. -/
def listingWords : List (Char × String × List (List String)) :=
  [('κ', "--color", whenWords), ('λ', "--hyperlink", whenWords), ('F', "--classify", whenWords),
    ('ο', "--sort", [["none"], ["time"], ["size"], ["extension"], ["version"], ["width"]]),
    ('ζ', "--time", [["atime", "access", "use"], ["ctime", "status"], ["mtime", "modification"],
      ["birth", "creation"]]),
    ('μ', "--format", [["verbose", "long"], ["commas"], ["horizontal", "across"], ["vertical"],
      ["single-column"]]),
    ('δ', "--indicator-style", [["none"], ["slash"], ["file-type"], ["classify"]]),
    ('χ', "--quoting-style", [["literal"], ["shell"], ["shell-always"], ["shell-escape"],
      ["shell-escape-always"], ["c"], ["c-maybe"], ["escape"], ["locale"], ["clocale"]])]

/-- An option whose argument is a word that may be shortened, with the full word. -/
def withFullWord (option : Char × String) : Except (Char × String) (Char × String) :=
  match listingWords.lookup option.1 with
  | none => .ok option
  | some (_, groups) =>
    if option.2.isEmpty then .ok option
    else
      match fullWord? groups option.2 with
      | some word => .ok (option.1, word)
      | none => .error option

/-- The letter that a word stands for where the kind of a listing is named by a word. -/
def listingLetter : Char × String → Char × String
  | ('μ', word) =>
    (match word with
      | "long" | "verbose" => 'l'
      | "single-column" => '1'
      | "commas" => 'm'
      | "across" | "horizontal" => 'x'
      | _ => 'C', "")
  | ('δ', word) =>
    (match word with
      | "slash" => 'p'
      | "classify" => 'F'
      | "file-type" => 'ι'
      | _ => 'ω', "")
  | option => option

/-- List the files that operands stand for; the answer is the status. -/
def Listing.showAll (l : Listing) : Effect Nat := do
  let m ← get
  let columns := (← value? "COLUMNS").bind String.toNat?
  let names := if l.given.operands.isEmpty then ["."] else l.given.operands
  let keepsLinks := l.isLong || l.has 'd' || l.has 'F'
  let reach (name : String) : Except Fault Listed :=
    if l.has 'L' || l.has 'H' then
      match m.listed true name with
      | .ok f => .ok f
      | .error _ => m.listed false name
    else if keepsLinks then m.listed false name
    else
      match m.listed true name, m.listed false name with
      | .ok f, _ => if f.entry.isDirectory then .ok f else m.listed false name
      | .error _, found => found
  let found ← names.mapM fun name => do
    match reach name with
    | .ok f => pure (some f)
    | .error fault =>
      tell s!"cannot access {quotedName name}: {fault.text}"
      pure none
  let known := l.sorted (found.filterMap id)
  let (directories, files) := known.partition fun f => f.entry.isDirectory && !l.has 'd'
  say (unlines (l.lines columns files))
  let all := directories.flatMap fun f =>
    if l.has 'R' then l.withSubdirectories m treeDepth f else [f]
  let titled := found.length > 1 || l.has 'R'
  all.zipIdx.forM fun (f, n) => do
    if n != 0 || !files.isEmpty then say "\n"
    if titled then say s!"{l.written f.name}:\n"
    l.showDirectory m columns f
  pure (if found.any Option.isNone then 2 else 0)

/-- The words that name ways to write times, besides forms. -/
def timeStyles : List String :=
  ["full-iso", "long-iso", "iso", "locale", "posix-full-iso", "posix-long-iso", "posix-iso", "posix-locale"]

/-- List files. -/
def lsProgram (arguments : List String) : Effect Nat :=
  withGiven "abcdfghiklmnopqrstuvw:xABCDF::GHI:LNQRST:UXZ1ισφγη:ωχ:ο:ζ:τ:μ:κ::δ:θαβ:λ::" listingNames 2
    arguments fun g => do
    let isCount (letter : Char) : Bool :=
      (g.get? letter).all fun text => !text.isEmpty && text.toList.all Char.isDigit
    let style := (g.get? 'τ').getD "locale"
    match g.options.mapM withFullWord with
    | .error (letter, word) =>
      let (name, groups) := (listingWords.lookup letter).getD ("", [])
      misworded word name groups 1
    | .ok options =>
      let options := options.map listingLetter
      if !isCount 'w' then failed ("invalid line width: " ++ quoted ((g.get? 'w').getD "")) 2
      else if !isCount 'T' then failed ("invalid tab size: " ++ quoted ((g.get? 'T').getD "")) 2
      else if options.any (·.1 == 'l') && !style.startsWith "+" && !timeStyles.contains style then
        tell ("invalid argument " ++ quoted style ++ " for " ++ quoted "time style")
        complain ("Valid arguments are:\n  - [posix-]full-iso\n  - [posix-]long-iso\n  - [posix-]iso\n" ++
          "  - [posix-]locale\n  - +FORMAT (e.g., +%H:%M) for a 'date'-style format\n")
        misused "" 2
      else
        let l : Listing := ⟨{ g with options := options }, (← get).time⟩
        l.showAll

/-! ## Single facts -/

/-- The name of a kind of files. -/
def Listed.kindName (f : Listed) : String :=
  match f.entry with
  | .directory _ => "directory"
  | .file _ reported => if reported = 0 then "regular empty file" else "regular file"
  | .sink => "character special file"
  | .link _ => "symbolic link"

/-- The number of a kind of files in front of its mode. -/
def Listed.kindNumber (f : Listed) : Nat :=
  match f.entry with
  | .directory _ => 0o040000
  | .file .. => 0o100000
  | .sink => 0o020000
  | .link _ => 0o120000

/-- A number that differs for different files. -/
def Listed.serial (f : Listed) : Nat :=
  (octets (f.places.headD f.path).toText).toList.foldl (fun n c => (n * 31 + c.toNat) % 16777213) 131

/-- One fact about a file that a letter asks for, as a number, a number in another base, or a text. -/
inductive Fact
  | number (n : Int)
  | based (base : Nat) (n : Nat)
  | text (s : String)

/-- The fact about a file that a letter asks for. -/
def Listed.fact? (f : Listed) (letter : Char) : Option Fact :=
  let time := timeText "%Y-%m-%d %H:%M:%S.%N %z" f.attributes.changed
  match letter with
  | 'a' => some (.based 8 f.attributes.mode)
  | 'A' => some (.text f.modeLine)
  | 'b' => some (.number f.blocks)
  | 'B' => some (.number 512)
  | 'C' => some (.text "?")
  | 'd' => some (.number 65024)
  | 'D' => some (.based 16 65024)
  | 'f' => some (.based 16 (f.kindNumber + f.attributes.mode))
  | 'F' => some (.text f.kindName)
  | 'g' | 'u' => some (.number 0)
  | 'G' | 'U' => some (.text "root")
  | 'h' => some (.number f.links)
  | 'i' => some (.number f.serial)
  | 'm' => some (.text "/")
  | 'n' => some (.text f.name)
  | 'N' => some (.text (match f.entry with
      | .link target => quotedName f.name ++ " -> " ++ quotedName (octets target)
      | _ => quotedName f.name))
  | 'o' => some (.number 4096)
  | 'r' | 'R' => some (.number (match f.entry with
      | .sink => 259
      | _ => 0))
  | 's' => some (.number f.size)
  | 't' => some (.based 16 (match f.entry with
      | .sink => 1
      | _ => 0))
  | 'T' => some (.based 16 (match f.entry with
      | .sink => 3
      | _ => 0))
  | 'w' | 'x' | 'y' | 'z' => some (.text time)
  | 'W' | 'X' | 'Y' | 'Z' => some (.number (f.attributes.changed / nanosPerSecond))
  | _ => none

/-- A fact in a field. -/
def Fact.written (fact : Fact) (field : Field) : String :=
  match fact with
  | .number n => field.integer n
  | .based base n => field.natural base false n
  | .text s => field.text s

/-- Write facts about a file as a pattern asks for.  Escapes may be replaced.  The number bounds how long the
pattern is. -/
def writeFacts (f : Listed) (escapes : Bool) : Nat → List Char → Except String String
  | 0, _ => .ok ""
  | _ + 1, [] => .ok ""
  | fuel + 1, '%' :: '%' :: rest => (writeFacts f escapes fuel rest).map ("%" ++ ·)
  | fuel + 1, '%' :: rest =>
    let flags := rest.takeWhile "'-+ #0I".toList.contains
    let field := (flags.filter "-+ #0".toList.contains).foldl Field.flag Field.plain
    let (width, after) := takeNumber 10 (rest.drop flags.length)
    let (precision, after) := match after with
      | '.' :: more =>
        let (n, after) := takeNumber 10 more
        (some n, after)
      | after => (none, after)
    let field := { field with width := width, precision := precision }
    match after with
    | [] => .ok "%"
    | letter :: more =>
      match f.fact? letter with
      | some fact => (writeFacts f escapes fuel more).map (fact.written field ++ ·)
      | none =>
        if letter == 'H' || letter == 'L' then
          match more with
          | _ :: more => writeFacts f escapes fuel more
          | [] => .ok ""
        else (writeFacts f escapes fuel more).map ("?" ++ ·)
  | fuel + 1, '\\' :: rest =>
    if escapes then
      match rest with
      | [] => .ok "\\"
      | 'x' :: more =>
        let digits := (more.take 2).takeWhile fun c => (digitValue? c).any (· < 16)
        let n := digits.foldl (fun n c => n * 16 + (digitValue? c).getD 0) 0
        (writeFacts f escapes fuel (more.drop digits.length)).map (String.singleton (Char.ofNat n) ++ ·)
      | _ =>
        let (c, rest) := takeEscape rest
        (writeFacts f escapes fuel rest).map (String.singleton c ++ ·)
    else (writeFacts f escapes fuel rest).map ("\\" ++ ·)
  | fuel + 1, c :: rest => (writeFacts f escapes fuel rest).map (String.singleton c ++ ·)
where
  /-- The value of a digit in a base up to sixteen. -/
  digitValue? (c : Char) : Option Nat :=
    if c.isDigit then some (c.toNat - 48)
    else if 'a' ≤ c && c ≤ 'f' then some (c.toNat - 87)
    else if 'A' ≤ c && c ≤ 'F' then some (c.toNat - 55)
    else none

/-- All the facts about a file that are told where none are asked for. -/
def Listed.summary (f : Listed) : String :=
  let shown := match f.entry with
    | .link target => f.name ++ " -> " ++ octets target
    | _ => f.name
  let field (width : Nat) (n : Nat) : String := Field.integer { Field.plain with width := width, left := true } n
  let time := timeText "%Y-%m-%d %H:%M:%S.%N %z" f.attributes.changed
  "  File: " ++ shown ++ "\n  Size: " ++ field 10 f.size ++ "\tBlocks: " ++ field 10 f.blocks ++
    " IO Block: " ++ field 6 4096 ++ " " ++ f.kindName ++ "\nDevice: 254,0\tInode: " ++ field 11 f.serial ++
    " Links: " ++ s!"{f.links}" ++ "\nAccess: (" ++ octalText 4 f.attributes.mode ++ "/" ++ f.modeLine ++
    ")  Uid: (    0/    root)   Gid: (    0/    root)\nAccess: " ++ time ++ "\nModify: " ++ time ++
    "\nChange: " ++ time ++ "\n Birth: " ++ time ++ "\n"

/-- Tell facts about files. -/
def statProgram (arguments : List String) : Effect Nat :=
  withGiven "c:fLtπ:κ:" [("dereference", 'L'), ("file-system", 'f'), ("format", 'c'), ("printf", 'π'),
      ("terse", 't'), ("cached", 'κ')] 1 arguments fun g => do
    let m ← get
    if g.operands.isEmpty then misused "missing operand" 1
    else
      let results ← g.operands.mapM fun name => do
        match m.listed (g.has 'L') name with
        | .error fault =>
          tell s!"cannot statx {quotedName name}: {fault.text}"
          pure false
        | .ok f =>
          let pattern := g.options.reverse.find? fun (c, _) => c == 'c' || c == 'π'
          match pattern with
          | some (c, text) =>
            match writeFacts f (c == 'π') (text.length + 1) text.toList with
            | .ok shown => say (if c == 'π' then shown else shown ++ "\n"); pure true
            | .error message => tell message; pure false
          | none => say f.summary; pure true
      pure (if results.all id then 0 else 1)

/-! ## Space -/

/-- The files below a file and itself, each with how deep it lies, what lies deeper coming first. -/
def Listed.deepFirst (m : Machine) : Nat → Nat → Listed → List (Nat × Listed)
  | 0, _, _ => []
  | fuel + 1, depth, f =>
    ((f.inside m).flatMap fun g =>
      Listed.deepFirst m fuel (depth + 1) { g with name := nameWithin f.name g.name }) ++ [(depth, f)]

/-- Tell how much space files take. -/
def duProgram (arguments : List String) : Effect Nat :=
  withGiven "abB:cd:DhHklLmPsSt:xX:0α" [("all", 'a'), ("bytes", 'b'), ("total", 'c'), ("max-depth", 'd'),
      ("human-readable", 'h'), ("summarize", 's'), ("separate-dirs", 'S'), ("null", '0'), ("apparent-size", 'α'),
      ("block-size", 'B')] 1 arguments fun g => do
    let m ← get
    let apparent := g.has 'b' || g.has 'α'
    let sizeOf (f : Listed) : Nat := if apparent then f.size else f.blocks * 512
    let shown (n : Nat) : String :=
      match g.last? ['h', 'k', 'm', 'b', 'B'] with
      | some 'h' => humanSize 1024 n
      | some 'b' => toString n
      | some 'm' => toString ((n + 1048575) / 1048576)
      | some 'B' =>
        let unit := ((g.get? 'B').bind String.toNat?).getD 1024
        toString ((n + unit - 1) / max unit 1)
      | _ => toString ((n + 1023) / 1024)
    let depth := if g.has 's' then 0 else ((g.get? 'd').bind String.toNat?).getD treeDepth
    let ending := if g.has '0' then "\x00" else "\n"
    let results ← (if g.operands.isEmpty then ["."] else g.operands).mapM fun name => do
      match m.listed (g.has 'L' || g.has 'D' || g.has 'H') name with
      | .error fault =>
        tell s!"cannot access {quotedName name}: {fault.text}"
        pure none
      | .ok f =>
        let all := f.deepFirst m treeDepth 0
        all.forM fun (level, inner) => do
          let below := inner.deepFirst m treeDepth 0
          let counted := if g.has 'S' then below.filter fun (n, h) => n = 0 || (n = 1 && !h.entry.isDirectory)
            else below
          let total := (counted.map fun (_, h) => sizeOf h).foldl (· + ·) 0
          if level ≤ depth && (inner.entry.isDirectory || g.has 'a' || level = 0) then
            say (shown total ++ "\t" ++ inner.name ++ ending)
        pure (some ((all.map fun (_, h) => sizeOf h).foldl (· + ·) 0))
    if g.has 'c' then say (shown ((results.filterMap id).foldl (· + ·) 0) ++ "\ttotal" ++ ending)
    pure (if results.all Option.isSome then 0 else 1)

end Conformance.Shell
