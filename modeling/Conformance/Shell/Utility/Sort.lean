import Conformance.Shell.Utility.Listing
import Conformance.Shell.Utility.Lines

/-!
# Programs for the order of lines

Programs that sort lines, check whether they are sorted, drop those that repeat, and put things in an order
that keeps pairs in theirs.
-/

namespace Conformance.Shell

open Effect

/-! ## Comparing -/

/-- What is compared of texts. -/
inductive SortKind
  | text
  | numeric
  | general
  | human
  | month
  | version
  | random
  deriving Repr, DecidableEq

/-- How lines, or parts of them, are compared. -/
structure Comparison where
  kinds : List SortKind
  folding : Bool
  reversed : Bool
  /-- Whether blanks are skipped in front of the beginning and in front of the end. -/
  skipStart : Bool
  skipStop : Bool
  dictionary : Bool
  printable : Bool
  deriving Repr, DecidableEq

namespace Comparison

/-- Lines are compared as they are. -/
def plain : Comparison :=
  ⟨[], false, false, false, false, false, false⟩

/-- The kind of comparison that a letter asks for. -/
def kindOf? : Char → Option SortKind
  | 'n' => some .numeric
  | 'g' => some .general
  | 'h' => some .human
  | 'M' => some .month
  | 'V' => some .version
  | 'R' => some .random
  | _ => none

/-- The comparison with what a letter asks for that stands for the beginning, the end or both. -/
def flag (starts stops : Bool) (c : Comparison) (letter : Char) : Comparison :=
  match letter with
  | 'f' => { c with folding := true }
  | 'r' => { c with reversed := true }
  | 'b' => { c with skipStart := c.skipStart || starts, skipStop := c.skipStop || stops }
  | 'd' => { c with dictionary := true }
  | 'i' => { c with printable := true }
  | letter =>
    match kindOf? letter with
    | some kind => { c with kinds := kind :: c.kinds.filter (· != kind) }
    | none => c

/-- Whether nothing is asked for but, maybe, the reverse. -/
def isUsual (c : Comparison) : Bool :=
  c.kinds.isEmpty && !c.folding && !c.skipStart && !c.skipStop && !c.dictionary && !c.printable

/-- The letters of what is asked for that does not go together. -/
def conflict? (c : Comparison) : Option String :=
  let ignores := c.dictionary || c.printable
  let has (kind : SortKind) : Bool := c.kinds.contains kind
  let single := (c.kinds.filter fun kind => kind != .version && kind != .random).length
  let other := if has .version || has .random || ignores then 1 else 0
  if single + other ≤ 1 then none
  else
    let letters := [(c.dictionary, 'd'), (c.folding, 'f'), (has .general, 'g'), (has .human, 'h'),
      (c.printable && !c.dictionary, 'i'), (has .month, 'M'), (has .numeric, 'n'), (has .random, 'R'),
      (has .version, 'V')]
    some (String.ofList (letters.filterMap fun (isSet, letter) => if isSet then some letter else none))

end Comparison

/-- Whether a character is a blank between fields. -/
def isFieldBlank (c : Char) : Bool :=
  c == ' ' || c == '\t' || c == '\n'

/-- The number at the beginning of a text, as its sign, its whole part and its decimal places, and what
follows it. -/
def leadingNumber (text : List Char) : Bool × Nat × List Char × List Char :=
  let cs := text.dropWhile isFieldBlank
  let (negative, cs) := match cs with
    | '-' :: rest => (true, rest)
    | rest => (false, rest)
  let (n, rest) := takeNumber 10 cs
  let (places, after) := match rest with
    | '.' :: more =>
      let digits := more.takeWhile Char.isDigit
      (digits, more.drop digits.length)
    | rest => ([], rest)
  let places := (places.reverse.dropWhile (· == '0')).reverse
  (negative && (n != 0 || !places.isEmpty), n, places, after)

/-- Compare the numbers at the beginnings of two texts. -/
def compareNumbers (a b : List Char) : Ordering :=
  let (negativeA, m, placesA, _) := leadingNumber a
  let (negativeB, n, placesB, _) := leadingNumber b
  let magnitude := (Ord.compare m n).then (compareOfLessAndEq (String.ofList placesA) (String.ofList placesB))
  match negativeA, negativeB with
  | true, false => .lt
  | false, true => .gt
  | true, true => magnitude.swap
  | false, false => magnitude

/-- The rank of the unit behind the number at the beginning of a text. -/
def unitRank (text : List Char) : Int :=
  let (negative, n, places, after) := leadingNumber text
  if n = 0 && places.isEmpty then 0
  else
    let rank : Int := match after.head? with
      | some c => ((if c == 'k' then some 0 else "KMGTPEZYRQ".toList.idxOf? c).map fun k => (k : Int) + 1).getD 0
      | none => 0
    if negative then -rank else rank

/-- The place of a number among others: what is none comes first, and what is undefined next. -/
def fractionRank : Option Fraction → Nat
  | none => 0
  | some (.undefined _) => 1
  | some (.infinite true) => 2
  | some (.finite ..) => 3
  | some (.infinite false) => 4

/-- Compare the numbers that two texts begin with. -/
def compareFractions (a b : List Char) : Ordering :=
  match (Fraction.take? a).map Prod.fst, (Fraction.take? b).map Prod.fst with
  | some (.finite s m p), some (.finite t n q) => Fraction.compareFinite s m p t n q
  | a, b => Ord.compare (fractionRank a) (fractionRank b)

/-- The number of the month that a text begins with, or zero. -/
def monthRank (text : List Char) : Nat :=
  let word := ((text.dropWhile isFieldBlank).take 3).map Char.toLower
  let months := ["jan", "feb", "mar", "apr", "may", "jun", "jul", "aug", "sep", "oct", "nov", "dec"]
  ((months.idxOf? (String.ofList word)).map (· + 1)).getD 0

/-- A number that is made up from a text. -/
def scatter (text : List Char) : Nat :=
  text.foldl (fun n c => (n * 16777619 + c.toNat * 2654435761 + 97) % 4294967291) 2166136261

/-- Compare two texts. -/
def Comparison.compare (c : Comparison) (a b : List Char) : Ordering :=
  let prepare (text : List Char) : List Char :=
    let text := if c.dictionary then
        text.filter fun d => Char.isAlpha d || Char.isDigit d || isFieldBlank d
      else if c.printable then text.filter fun d => 32 ≤ d.toNat && d.toNat < 127
      else text
    if c.folding then text.map Char.toUpper else text
  let found := match c.kinds with
    | .numeric :: _ => compareNumbers a b
    | .general :: _ => compareFractions a b
    | .human :: _ => (Ord.compare (unitRank a) (unitRank b)).then (compareNumbers a b)
    | .month :: _ => Ord.compare (monthRank a) (monthRank b)
    | .version :: _ => compareVersions (String.ofList (prepare a)) (String.ofList (prepare b))
    | .random :: _ => if prepare a == prepare b then .eq
        else Ord.compare (scatter (prepare a)) (scatter (prepare b))
    | _ => compareOfLessAndEq (String.ofList (prepare a)) (String.ofList (prepare b))
  if c.reversed then found.swap else found

/-! ## Parts of lines -/

/-- A part of lines that is compared: how many fields are in front of it and how many characters in the
field are, where it ends, and how it is compared.  Without characters, a field counts up to its end. -/
structure SortKey where
  fields : Nat
  characters : Nat
  stop : Option (Nat × Nat)
  comparison : Comparison

/-- Read a number in the description of a part of lines. -/
def readKeyNumber (message : String) (text : List Char) : Except String (Nat × List Char) :=
  let digits := text.takeWhile Char.isDigit
  if digits.isEmpty then .error s!"{message}: invalid count at start of {quoted (String.ofList text)}"
  else .ok ((takeNumber 10 digits).1, text.drop digits.length)

/-- Read letters that say how a part of lines is compared, up to a character that is none of them. -/
def readKeyLetters (starts stops : Bool) : Comparison → List Char → Comparison × List Char
  | c, [] => (c, [])
  | c, letter :: rest =>
    if "bdfgihMnrRV".toList.contains letter then readKeyLetters starts stops (c.flag starts stops letter) rest
    else (c, letter :: rest)

/-- Read the description of a part of lines. -/
def SortKey.read (text : String) : Except String SortKey := do
  let bad (message : String) : Except String SortKey :=
    .error s!"{message}: invalid field specification {quoted text}"
  let (field, rest) ← readKeyNumber "invalid number at field start" text.toList
  if field = 0 then bad "field number is zero"
  else
    let (place, rest) ← match rest with
      | '.' :: more => readKeyNumber "invalid number after '.'" more
      | rest => .ok (1, rest)
    if place = 0 then bad "character offset is zero"
    else
      let (c, rest) := readKeyLetters true false Comparison.plain rest
      match rest with
      | ',' :: more =>
        let (last, rest) ← readKeyNumber "invalid number after ','" more
        if last = 0 then bad "field number is zero"
        else
          let (place', rest) ← match rest with
            | '.' :: more => readKeyNumber "invalid number after '.'" more
            | rest => .ok (0, rest)
          let (c, rest) := readKeyLetters false true c rest
          if !rest.isEmpty then bad "stray character in field spec"
          else .ok ⟨field - 1, place - 1, some (last - 1, place'), c⟩
      | [] => .ok ⟨field - 1, place - 1, none, c⟩
      | _ => bad "stray character in field spec"

/-- Read the older description of a part of lines: how many fields are skipped, and where it ends. -/
def SortKey.readSkipping (start : String) (stop : Option String) : Option SortKey :=
  let place (text : String) : Option (Nat × Nat × List Char) :=
    match readKeyNumber "" (text.toList.drop 1) with
    | .error _ => none
    | .ok (field, '.' :: rest) =>
      match readKeyNumber "" rest with
      | .ok (n, rest) => some (field, n, rest)
      | .error _ => none
    | .ok (field, rest) => some (field, 0, rest)
  match place start, stop.map place with
  | some (field, n, rest), none =>
    let (c, left) := readKeyLetters true false Comparison.plain rest
    if left.isEmpty then some ⟨field, n, none, c⟩ else none
  | some (field, n, rest), some (some (last, k, more)) =>
    let (c, left) := readKeyLetters true false Comparison.plain rest
    let (c, other) := readKeyLetters false true c more
    let stop := if k = 0 && last != 0 then (last - 1, 0) else (last, k)
    if left.isEmpty && other.isEmpty then some ⟨field, n, some stop, c⟩ else none
  | _, _ => none

/-- Pass over a number of fields; the separator in front of what follows is passed as well where that is
asked for. -/
def passFields (separator : Option Char) (passLast : Bool) : Nat → List Char → List Char
  | 0, text => text
  | n + 1, text =>
    match separator with
    | none => passFields none passLast n ((text.dropWhile isFieldBlank).dropWhile (!isFieldBlank ·))
    | some c =>
      match text.dropWhile (· != c) with
      | [] => []
      | d :: rest => if n = 0 && !passLast then d :: rest else passFields (some c) passLast n rest

/-- The part of a line that is compared. -/
def SortKey.cut (k : SortKey) (separator : Option Char) (line : List Char) : List Char :=
  let size := line.length
  let start := passFields separator true (min k.fields size) line
  let start := if k.comparison.skipStart then start.dropWhile isFieldBlank else start
  let start := size - (start.drop k.characters).length
  let stop := match k.stop with
    | none => size
    | some (field, place) =>
      let count := if place = 0 then field + 1 else field
      let rest := passFields separator (place != 0) (min count (size + 1)) line
      if place = 0 then size - rest.length
      else
        let rest := if k.comparison.skipStop then rest.dropWhile isFieldBlank else rest
        min size (size - rest.length + place)
  (line.take stop).drop start

/-- Compare two lines by some of their parts. -/
def compareKeys (keys : List SortKey) (separator : Option Char) (a b : String) : Ordering :=
  keys.foldl (fun found k => found.then
    (k.comparison.compare (k.cut separator a.toList) (k.cut separator b.toList))) .eq

/-! ## Sorting -/

/-- Drop a line where one in front of it counts as the same. -/
def dropSame (same : String → String → Bool) : List String → List String
  | a :: b :: rest => if same a b then dropSame same (a :: rest) else a :: dropSame same (b :: rest)
  | short => short
termination_by lines => lines.length

/-- Merge lists of lines, each of which is in order; where two lines count as the same, that of the first list
comes first. -/
def mergeLines (before : String → String → Bool) : Nat → List String → List String → List String
  | 0, a, b => a ++ b
  | _ + 1, [], b => b
  | _ + 1, a, [] => a
  | fuel + 1, x :: a, y :: b =>
    if before x y then x :: mergeLines before fuel a (y :: b) else y :: mergeLines before fuel (x :: a) b

/-- The long names of the options for sorting. -/
def sortNames : List (String × Char) :=
  [("ignore-leading-blanks", 'b'), ("dictionary-order", 'd'), ("ignore-case", 'f'), ("general-numeric-sort", 'g'),
    ("human-numeric-sort", 'h'), ("ignore-nonprinting", 'i'), ("month-sort", 'M'), ("numeric-sort", 'n'),
    ("random-sort", 'R'), ("reverse", 'r'), ("version-sort", 'V'), ("sort", 'σ'), ("batch-size", 'β'),
    ("check", 'χ'), ("compress-program", 'κ'), ("debug", 'δ'), ("files0-from", 'φ'), ("key", 'k'),
    ("merge", 'm'), ("output", 'o'), ("stable", 's'), ("buffer-size", 'S'), ("field-separator", 't'),
    ("temporary-directory", 'T'), ("parallel", 'π'), ("unique", 'u'), ("zero-terminated", 'z'),
    ("random-source", 'ρ')]

/-- The words for ways to sort. -/
def sortWords : List (List String) :=
  [["general-numeric"], ["human-numeric"], ["month"], ["numeric"], ["random"], ["version"]]

/-- Arguments in which older descriptions of parts of lines are replaced.  They are marked so that they are
known again. -/
def withSkippingKeys : List String → List String
  | [] => []
  | "--" :: rest => "--" :: rest
  | argument :: rest =>
    let isStart (text : String) : Bool :=
      match text.toList with
      | '+' :: c :: _ => c.isDigit
      | _ => false
    let isStop (text : String) : Bool :=
      match text.toList with
      | '-' :: c :: _ => c.isDigit
      | _ => false
    if isStart argument then
      match rest with
      | next :: more =>
        if isStop next && (SortKey.readSkipping argument (some next)).isSome then
          s!"--κλ={argument} {next}" :: withSkippingKeys more
        else if (SortKey.readSkipping argument none).isSome then s!"--κλ={argument}" :: withSkippingKeys (next :: more)
        else argument :: withSkippingKeys (next :: more)
      | [] => if (SortKey.readSkipping argument none).isSome then [s!"--κλ={argument}"] else [argument]
    else argument :: withSkippingKeys rest

/-- How lines are sorted. -/
structure Sorting where
  keys : List SortKey
  overall : Comparison
  separator : Option Char
  isUnique : Bool
  isStable : Bool

namespace Sorting

/-- Compare two lines by the parts that are asked for. -/
def byKeys (w : Sorting) (a b : String) : Ordering :=
  compareKeys w.keys w.separator a b

/-- Compare two lines, in the end as wholes. -/
def compare (w : Sorting) (a b : String) : Ordering :=
  let last := compareOfLessAndEq a b
  let first := if w.keys.isEmpty then .eq else w.byKeys a b
  if !w.keys.isEmpty && (w.isUnique || w.isStable) then first
  else first.then (if w.overall.reversed then last.swap else last)

/-- Whether two lines count as the same. -/
def isSame (w : Sorting) (a b : String) : Bool :=
  if w.keys.isEmpty then a == b else w.byKeys a b == .eq

/-- The separator that an option names. -/
def readSeparator (g : Given) : Except String (Option Char) :=
  let given := (g.options.filter fun (c, _) => c == 't').map Prod.snd
  let chars := given.map fun text =>
    match text.toList with
    | [] => Except.error "empty tab"
    | [c] => .ok c
    | ['\\', '0'] => .ok '\x00'
    | _ => .error ("multi-character tab " ++ quoted text)
  match chars.mapM id with
  | .error message => .error message
  | .ok [] => .ok none
  | .ok (c :: more) => if more.all (· == c) then .ok (some c) else .error "incompatible tabs"

/-- Read how lines are sorted. -/
def read (g : Given) : Except String Sorting := do
  let letterOf : Char × String → Option Char
    | ('σ', word) => (fullWord? sortWords word).bind fun full => full.toList.head?.map fun c =>
        if c == 'm' then 'M' else if c == 'r' then 'R' else if c == 'v' then 'V' else c
    | (c, _) => some c
  let overall := (g.options.filterMap letterOf).foldl (Comparison.flag true true) Comparison.plain
  let keys ← (g.options.filter fun (c, _) => c == 'k' || c == 'λ').mapM fun (c, text) =>
    if c == 'k' then SortKey.read text
    else
      match (text.splitOn " ") with
      | [start] => .ok ((SortKey.readSkipping start none).getD ⟨0, 0, none, Comparison.plain⟩)
      | start :: stop :: _ => .ok ((SortKey.readSkipping start (some stop)).getD ⟨0, 0, none, Comparison.plain⟩)
      | [] => .ok ⟨0, 0, none, Comparison.plain⟩
  let separator ← readSeparator g
  let keys := keys.map fun k =>
    if k.comparison.isUsual && !k.comparison.reversed then { k with comparison := overall } else k
  let keys := if keys.isEmpty && !overall.isUsual then [⟨0, 0, none, overall⟩] else keys
  match (keys.map SortKey.comparison ++ [overall]).findSome? Comparison.conflict? with
  | some letters => .error s!"options '-{letters}' are incompatible"
  | none => pure ⟨keys, overall, separator, g.has 'u', g.has 's'⟩

/-- The first line that is not in order, with its number. -/
def disorder? (w : Sorting) (lines : List String) : Option (String × Nat) :=
  ((lines.zip (lines.drop 1)).zipIdx.find? fun ((a, b), _) =>
    w.compare a b == .gt || (w.isUnique && w.isSame a b)).map fun ((_, b), n) => (b, n + 2)

/-- Lines in order. -/
def sort (w : Sorting) (lines : List String) : List String :=
  let sorted := lines.mergeSort fun a b => w.compare a b != .gt
  if w.isUnique then dropSame w.isSame sorted else sorted

/-- Lists of lines put together, each of which is in order. -/
def merge (w : Sorting) (lists : List (List String)) : List String :=
  let merged := lists.foldl (fun done lines =>
    mergeLines (fun a b => w.compare a b != .gt) (done.length + lines.length + 1) done lines) []
  if w.isUnique then dropSame w.isSame merged else merged

end Sorting

/-- Why options for sorting do not go together. -/
def sortConflict? (g : Given) : Option String :=
  let checks := ['c', 'C', 'χ'].filter g.has
  let isQuiet := g.has 'C' || (g.get? 'χ').any fun word => word.startsWith "q" || word.startsWith "s"
  let outputs := (g.options.filter fun (c, _) => c == 'o').map Prod.snd
  if g.has 'c' && g.has 'C' then some "options '-cC' are incompatible"
  else if outputs.eraseDups.length > 1 then some "multiple output files specified"
  else if !checks.isEmpty && g.has 'o' then
    some ("options '-" ++ (if isQuiet then "C" else "c") ++ "o' are incompatible")
  else if !checks.isEmpty && 1 < g.operands.length then
    some ("extra operand " ++ quotedName (g.operands[1]?.getD "") ++ " not allowed with -" ++
      (if isQuiet then "C" else "c"))
  else none

/-- Sort lines. -/
def sortProgram (arguments : List String) : Effect Nat :=
  withGiven "bcCdfghik:mMno:rRsS:t:T:uVy:zσ:β:χ::κ:δφ:π:ρ:λ:"
    (sortNames ++ [("κλ", 'λ')]) 2 (withSkippingKeys arguments) fun g => do
    let checkWords := [["quiet", "silent"], ["diagnose-first"]]
    let badSort := (g.get? 'σ').filter fun word => (fullWord? sortWords word).isNone
    let badCheck := (g.get? 'χ').filter fun word => !word.isEmpty && (fullWord? checkWords word).isNone
    match badSort, badCheck, Sorting.read g, sortConflict? g with
    | some word, _, _, _ => misworded word "--sort" sortWords 2
    | _, some word, _, _ => misworded word "--check" checkWords 2
    | _, _, .error message, _ => failed message 2
    | _, _, _, some message => failed message 2
    | none, none, .ok w, none =>
      if (g.get? 'π').any fun n => n.toNat? == some 0 then failed "number in parallel must be nonzero" 2
      else
        let ending := if g.has 'z' then "\x00" else "\n"
        let linesIn (text : String) : List String :=
          (partsBehind ending text).map fun line =>
            if line.endsWith ending then (line.dropEnd 1).toString else line
        let checking := ['c', 'C', 'χ'].any g.has
        let quiet := g.has 'C' || (g.get? 'χ').any fun word => word.startsWith "q" || word.startsWith "s"
        let isThere ← (inputs g).mapM fun name => do
          if name == "-" then pure none
          else
            match ← lookUp name with
            | .ok _ => pure none
            | .error fault => pure (some (name, fault))
        let output := g.get? 'o'
        let place ← match output with
          | some name => do
            match ← lookUp name, ← creationFault? name with
            | .ok (.directory _), _ => pure (some Fault.isDirectory)
            | .ok _, _ => pure none
            | .error .notFound, fault => pure fault
            | .error fault, _ => pure (some fault)
          | none => pure none
        match isThere.filterMap id, place, output with
        | (name, fault) :: _, _, _ => failed s!"cannot read: {nameAndFault name fault}" 2
        | [], some fault, some name => failed s!"open failed: {nameAndFault name fault}" 2
        | _, _, _ =>
          let texts ← (inputs g).mapM fun name => do
            match ← readOperand? name with
            | .ok text => pure (.ok text)
            | .error fault => pure (Except.error s!"read failed: {nameAndFault name fault}")
          match texts.mapM id with
          | .error message => failed message 2
          | .ok texts =>
            let lists := texts.map linesIn
            let lines := lists.flatten
            if checking then
              match w.disorder? lines with
              | some (line, n) =>
                if !quiet then tell ((inputs g).headD "-" ++ s!":{n}: disorder: {line}")
                pure 1
              | none => pure 0
            else
              let sorted := if g.has 'm' then w.merge lists else w.sort lines
              let shown := String.join (sorted.map (· ++ ending))
              match output with
              | some name => putFile (← pathOf name) shown
              | none => say shown
              pure 0

/-! ## Lines that repeat -/

/-- Lines with the number of times that each comes in a row; the lines of a row are compared by a part. -/
def countRuns (part : String → String) : List String → List (Nat × String)
  | [] => []
  | line :: rest =>
    match countRuns part rest with
    | (n, first) :: more =>
      if part first == part line then (n + 1, line) :: more else (1, line) :: (n, first) :: more
    | [] => [(1, line)]

/-- The numbers of the rows add up to the number of lines. -/
theorem foldr_countRuns (part : String → String) (lines : List String) :
    (countRuns part lines).foldr (fun row total => row.1 + total) 0 = lines.length := by
  induction lines with
  | nil => rfl
  | cons line rest ih =>
    unfold countRuns
    split
    · rename_i n first more h
      rw [h] at ih
      have before : n + more.foldr (fun row total => row.1 + total) 0 = rest.length := ih
      split
      · show n + 1 + more.foldr (fun row total => row.1 + total) 0 = rest.length + 1
        omega
      · show 1 + (n + more.foldr (fun row total => row.1 + total) 0) = rest.length + 1
        omega
    · rename_i h
      rw [h] at ih
      have none_left : 0 = rest.length := ih
      show 1 + 0 = rest.length + 1
      omega

/-- Lines in rows of those that count as the same. -/
def rowsOf (part : String → String) (lines : List String) : List (List String) :=
  ((countRuns part lines).foldl (fun ((done, rest) : List (List String) × List String) (n, _) =>
    (rest.take n :: done, rest.drop n)) ([], lines)).1.reverse

/-- Rows of lines with blank lines between them, or in front of or behind each. -/
def spaceRows (way : String) (rows : List (List String)) : List String :=
  match way with
  | "prepend" => rows.flatMap fun row => "" :: row
  | "append" => rows.flatMap fun row => row ++ [""]
  | "both" => (rows.flatMap fun row => "" :: row) ++ (if rows.isEmpty then [] else [""])
  | "separate" => (rows.zipIdx.flatMap fun (row, n) => if n = 0 then row else "" :: row)
  | _ => rows.flatten

/-- Arguments in which numbers behind signs are replaced by the options that they stand for. -/
def withSkipOptions : List String → List String
  | [] => []
  | "--" :: rest => "--" :: rest
  | argument :: rest =>
    match argument.toList with
    | sign :: c :: more =>
      if c.isDigit && more.all Char.isDigit && (sign == '-' || sign == '+') then
        (if sign == '-' then "-f" else "-s") :: String.ofList (c :: more) :: withSkipOptions rest
      else argument :: withSkipOptions rest
    | _ => argument :: withSkipOptions rest

/-- Drop lines that repeat the one in front of them, or tell how often they do. -/
def uniqProgram (arguments : List String) : Effect Nat :=
  withGiven "cdDf:is:uw:zα::γ::" [("count", 'c'), ("repeated", 'd'), ("all-repeated", 'α'), ("group", 'γ'),
      ("ignore-case", 'i'), ("unique", 'u'), ("skip-fields", 'f'), ("skip-chars", 's'), ("check-chars", 'w'),
      ("zero-terminated", 'z')] 1 (withSkipOptions arguments) fun g => do
    let number (letter : Char) : Nat := ((g.get? letter).bind String.toNat?).getD 0
    let part (line : String) : String :=
      let isBlank (c : Char) : Bool := c == ' ' || c == '\t' || c == '\n'
      let fields := (List.range (min (number 'f') line.length)).foldl (fun (cs : List Char) _ =>
        (cs.dropWhile isBlank).dropWhile (!isBlank ·)) line.toList
      let cs := fields.drop (number 's')
      let cs := if g.has 'w' then cs.take (number 'w') else cs
      String.ofList (if g.has 'i' then cs.map Char.toLower else cs)
    let bad (letter : Char) (what : String) : Option String :=
      (g.get? letter).bind fun text => if text.toNat?.isNone then some s!"{text}: invalid number of {what}" else none
    let faults := [bad 'f' "fields to skip", bad 's' "bytes to skip", bad 'w' "bytes to compare"]
    let repeatWords := [["none"], ["prepend"], ["separate"]]
    let groupWords := [["prepend"], ["append"], ["separate"], ["both"]]
    let wordOf (letter : Char) : Option String := (g.get? letter).filter (!·.isEmpty)
    let badRepeat := (wordOf 'α').filter fun word => (fullWord? repeatWords word).isNone
    let badGroup := (wordOf 'γ').filter fun word => (fullWord? groupWords word).isNone
    let all := g.has 'D' || g.has 'α'
    match faults.filterMap id, badRepeat, badGroup, g.operands with
    | message :: _, _, _, _ => failed message 1
    | _, some word, _, _ => misworded word "--all-repeated" repeatWords 1
    | _, _, some word, _ => misworded word "--group" groupWords 1
    | _, _, _, _ :: _ :: extra :: _ => misused ("extra operand " ++ quoted extra) 1
    | _, _, _, operands =>
      if g.has 'γ' && (['c', 'd', 'D', 'u', 'α'].any g.has) then
        misused "--group is mutually exclusive with -c/-d/-D/-u" 1
      else if all && g.has 'c' then
        misused "printing all duplicated lines and repeat counts is meaningless" 1
      else
        match ← readOperand? (operands.headD "-") with
        | .error .isDirectory => failed ("error reading " ++ quotedName (operands.headD "-") ++ ": Is a directory") 1
        | .error fault => failed (nameAndFault (operands.headD "-") fault) 1
        | .ok text =>
          let ending := if g.has 'z' then "\x00" else "\n"
          let lines := (partsBehind ending text).map fun line =>
            if line.endsWith ending then (line.dropEnd 1).toString else line
          let shown :=
            if g.has 'γ' then
              spaceRows (((wordOf 'γ').bind (fullWord? groupWords)).getD "separate") (rowsOf part lines)
            else if all then
              let rows := (rowsOf part lines).filter fun row => 1 < row.length
              if g.has 'u' then [] else spaceRows (((wordOf 'α').bind (fullWord? repeatWords)).getD "none") rows
            else
              let runs := (countRuns part lines).filter fun (n, _) =>
                (!g.has 'd' || 1 < n) && (!g.has 'u' || n = 1)
              runs.map fun (n, line) => if g.has 'c' then s!"{column 7 n} {line}" else line
          let written := String.join (shown.map (· ++ ending))
          match operands.drop 1 with
          | name :: _ =>
            if name == "-" then say written
            else
              match ← creationFault? name, ← isDirectory name with
              | some fault, _ =>
                tell (nameAndFault name fault)
                return 1
              | none, true =>
                tell (nameAndFault name .isDirectory)
                return 1
              | none, false => putFile (← pathOf name) written
          | [] => say written
          pure 0

/-! ## Orders that keep pairs -/

/-- Something that is put in order: its name, how many things have to come before it that have not come yet,
and what comes behind it, the pair read last first. -/
structure Ordered where
  name : String
  before : Nat
  behind : List String

/-- The words of a text as pairs of which the first comes before the second. -/
def readPairs : List String → Option (List (String × String))
  | [] => some []
  | [_] => none
  | a :: b :: rest => (readPairs rest).map ((a, b) :: ·)

/-- Add a pair to what is put in order. -/
def addPair (things : List Ordered) (pair : String × String) : List Ordered :=
  let (a, b) := pair
  let known (name : String) (things : List Ordered) : List Ordered :=
    if things.any fun t => t.name == name then things else ⟨name, 0, []⟩ :: things
  let things := known b (known a things)
  if a == b then things
  else things.map fun t =>
    if t.name == a then { t with behind := b :: t.behind }
    else if t.name == b then { t with before := t.before + 1 } else t

/-- Take one thing away in front of which nothing comes any more; what becomes free comes at the end of the
queue. -/
def release (things : List Ordered) (name : String) (queue : List String) : List Ordered × List String :=
  let behind := ((things.find? fun t => t.name == name).map Ordered.behind).getD []
  behind.foldl (fun ((things, queue) : List Ordered × List String) other =>
    let things := things.map fun t => if t.name == other then { t with before := t.before - 1 } else t
    let isFree := things.any fun t => t.name == other && t.before = 0
    (things, if isFree then queue ++ [other] else queue))
    (things.filter fun t => t.name != name, queue)

/-- A ring of things each of which comes before the next one, from a thing on. -/
def findRing (things : List Ordered) : Nat → List String → String → List String
  | 0, passed, _ => passed.reverse
  | fuel + 1, passed, name =>
    if passed.contains name then ((passed.takeWhile (· != name)) ++ [name]).reverse
    else
      match things.find? fun t => t.behind.contains name && things.any fun u => u.name == t.name with
      | some t => findRing things fuel (name :: passed) t.name
      | none => (name :: passed).reverse

/-- Put things in order; the answer has a line for each, with the rings that are found.  The number bounds how
many there are. -/
def putInOrder : Nat → List Ordered → List String → List (Except (List String) String)
  | 0, _, _ => []
  | fuel + 1, things, name :: queue =>
    let (things, queue) := release things name queue
    .ok name :: putInOrder fuel things queue
  | fuel + 1, things, [] =>
    match things with
    | [] => []
    | t :: _ =>
      let ring := (findRing things (things.length + 1) [] t.name).reverse
      let least := ring.foldl (fun m name => if name < m then name else m) (ring.headD "")
      let turned := ring.dropWhile (· != least) ++ ring.takeWhile (· != least)
      let last := turned.getLast?.getD least
      let opened := things.map fun u =>
        if u.name == last then { u with behind := u.behind.erase least }
        else if u.name == least then { u with before := u.before - 1 } else u
      let free := (opened.filter fun u => u.before = 0).map Ordered.name
      .error turned :: putInOrder fuel opened free

/-- Put things in an order in which the first of each pair comes before the second. -/
def tsortProgram (arguments : List String) : Effect Nat :=
  withGiven "" [] 1 arguments fun g => do
    match g.operands with
    | _ :: extra :: _ => misused ("extra operand " ++ quoted extra) 1
    | operands =>
      let name := operands.headD "-"
      match ← readOperand? name with
      | .error .isDirectory => failed s!"{shownName name}: read error: Is a directory" 1
      | .error fault => failed (nameAndFault name fault) 1
      | .ok text =>
        let words := ((text.toList.splitOnP fun c => c == ' ' || c == '\t' || c == '\n').filter
          (!·.isEmpty)).map String.ofList
        match readPairs words with
        | none => failed s!"{shownName name}: input contains an odd number of tokens" 1
        | some pairs =>
          let things := (pairs.foldl addPair []).mergeSort fun a b => decide (a.name ≤ b.name)
          let free := (things.filter fun t => t.before = 0).map Ordered.name
          let found := putInOrder (3 * things.length + pairs.length + 3) things free
          found.forM fun
            | .ok name => say (name ++ "\n")
            | .error ring => do
              tell s!"{shownName name}: input contains a loop:"
              ring.forM tell
          pure (if found.all fun | .ok _ => true | .error _ => false then 0 else 1)

/-! ## No order -/

/-- Lines in an order that has no reason. -/
def scatterLines (lines : List String) : List String :=
  let keyed := lines.zipIdx.map fun (line, n) => (scatter (toString (n * 7919 + lines.length)).toList, line)
  (keyed.mergeSort fun a b => decide (a.1 ≤ b.1)).map Prod.snd

/-- Write lines in an order that has no reason. -/
def shufProgram (arguments : List String) : Effect Nat :=
  withGiven "ei:n:o:rzρ:" [("echo", 'e'), ("input-range", 'i'), ("head-count", 'n'), ("output", 'o'),
      ("random-source", 'ρ'), ("repeat", 'r'), ("zero-terminated", 'z')] 1 arguments fun g => do
    let ending := if g.has 'z' then "\x00" else "\n"
    let range := (g.get? 'i').map fun text =>
      (text, match text.splitOn "-" with
        | [a, b] =>
          match a.toNat?, b.toNat? with
          | some a, some b => if a ≤ b + 1 then some (a, b) else none
          | _, _ => none
        | _ => none)
    let count := (g.get? 'n').map fun text => (text, text.toNat?)
    match range, count with
    | some (text, none), _ => failed ("invalid input range: " ++ quoted text) 1
    | _, some (text, none) => failed ("invalid line count: " ++ quoted text) 1
    | range, count =>
      if g.has 'e' && g.has 'i' then misused "cannot combine -e and -i options" 1
      else
        let read : Except (Bool × String) (List String) ←
          match range, g.has 'e', g.operands with
          | some (_, some (a, b)), _, [] =>
            pure (.ok ((List.range (b + 1 - a)).map fun n => toString (a + n)))
          | some _, _, extra :: _ => pure (.error (true, "extra operand " ++ quoted extra))
          | _, true, operands => pure (.ok operands)
          | _, false, _ :: extra :: _ => pure (.error (true, "extra operand " ++ quoted extra))
          | _, false, operands => do
            match ← readOperand? (operands.headD "-") with
            | .error fault => pure (.error (false, nameAndFault (operands.headD "-") fault))
            | .ok text =>
              pure (.ok ((partsBehind ending text).map fun line =>
                if line.endsWith ending then (line.dropEnd 1).toString else line))
        match read with
        | .error (true, message) => misused message 1
        | .error (false, message) => failed message 1
        | .ok lines =>
          let most := (count.bind Prod.snd).getD lines.length
          let mixed := scatterLines lines
          let shown := if g.has 'r' then
              (List.range most).filterMap fun n => mixed[n * 7 % max 1 mixed.length]?
            else mixed.take most
          let written := String.join (shown.map (· ++ ending))
          if g.has 'r' && lines.isEmpty && most != 0 then failed "no lines to repeat" 1
          else
            match g.get? 'o' with
            | some name => putFile (← pathOf name) written
            | none => say written
            pure 0

end Conformance.Shell
