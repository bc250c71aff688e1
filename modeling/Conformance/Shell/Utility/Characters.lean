import Conformance.Shell.Utility.Lines

/-!
# Programs for characters

Programs that replace, delete or squeeze characters, that put blanks and tabs in each other's place, and that
break and fill lines.
-/

namespace Conformance.Shell

open Effect

/-! ## Sets of characters -/

/-- The characters of a named category, in their order. -/
def categoryChars (name : String) : List Char :=
  ((List.range 256).map Char.ofNat).filter (inCategory name)

/-- A part of a list of characters. -/
inductive CharPart
  | single (c : Char)
  | span (first last : Char)
  | category (name : String)
  | equal (c : Char)
  /-- A character so many times, or as often as there is room for. -/
  | repeated (c : Char) (count : Option Nat)
  deriving Repr, DecidableEq

/-- The characters that a part stands for; one that fills what is left is given how much that is. -/
def CharPart.chars (room : Nat) : CharPart → List Char
  | .single c | .equal c => [c]
  | .span a b => (List.range (b.toNat + 1 - a.toNat)).map fun n => Char.ofNat (a.toNat + n)
  | .category name => categoryChars name
  | .repeated c (some n) => List.replicate n c
  | .repeated c none => List.replicate room c

/-- A list of characters as it is read, with what is noted about it. -/
structure CharList where
  parts : List CharPart
  warnings : List String

/-- A character that is read: the character, and whether it stood behind a backslash. -/
abbrev ReadChar := Char × Bool

/-- The characters of an argument without their backslashes, and what is noted about them.  The number bounds
how many there are. -/
def readEscapedChars : Nat → List Char → List ReadChar × List String
  | 0, _ | _, [] => ([], [])
  | _ + 1, ['\\'] => ([('\\', false)], ["warning: an unescaped backslash at end of string is not portable"])
  | fuel + 1, '\\' :: c :: rest =>
    let isOctal (d : Char) : Bool := '0' ≤ d && d ≤ '7'
    if isOctal c then
      let digits := (c :: rest).take 3 |>.takeWhile isOctal
      let n := digits.foldl (fun n d => n * 8 + (d.toNat - 48)) 0
      if n < 256 then
        let (more, warnings) := readEscapedChars fuel (rest.drop (digits.length - 1))
        ((Char.ofNat n, true) :: more, warnings)
      else
        let two := String.ofList (digits.take 2)
        let (more, warnings) := readEscapedChars fuel (rest.drop 1)
        ((Char.ofNat (n / 8), true) :: more,
          (s!"warning: the ambiguous octal escape \\{String.ofList digits} is being\n\tinterpreted as the " ++
            s!"2-byte sequence \\0{two}, {String.ofList (digits.drop 2)}") :: warnings)
    else
      let d := match c with
        | 'a' => '\x07'
        | 'b' => '\x08'
        | 'f' => '\x0c'
        | 'n' => '\n'
        | 'r' => '\r'
        | 't' => '\t'
        | 'v' => '\x0b'
        | c => c
      let (more, warnings) := readEscapedChars fuel rest
      ((d, true) :: more, warnings)
  | fuel + 1, c :: rest =>
    let (more, warnings) := readEscapedChars fuel rest
    ((c, false) :: more, warnings)

/-- What stands between a sign behind a bracket and the same sign in front of one, and what follows. -/
def readDelimited (sign : Char) : List ReadChar → Option (List Char × List ReadChar)
  | [] => none
  | (c, false) :: (']', false) :: rest =>
    if c == sign then some ([], rest)
    else (readDelimited sign ((']', false) :: rest)).map fun (text, rest) => (c :: text, rest)
  | (c, _) :: rest => (readDelimited sign rest).map fun (text, rest) => (c :: text, rest)

/-- Whether a repetition follows: digits and a bracket. -/
def isRepeatEnd : List ReadChar → Bool
  | (']', false) :: _ => true
  | (c, false) :: rest => c.isDigit && isRepeatEnd rest
  | _ => false

/-- Read a list of characters: ranges, categories and repetitions.  The number bounds how many there are. -/
def readCharParts : Nat → List ReadChar → Except String (List CharPart)
  | 0, _ => .ok []
  | _, [] => .ok []
  | fuel + 1, (c, marked) :: rest =>
    let plain : Except String (List CharPart) :=
      match rest with
      | ('-', false) :: (d, _) :: more =>
        if d < c then
          .error ("range-endpoints of " ++ quotedName (String.ofList [c, '-', d]) ++
            " are in reverse collating sequence order")
        else (readCharParts fuel more).map (.span c d :: ·)
      | rest => (readCharParts fuel rest).map (.single c :: ·)
    if c != '[' || marked then plain
    else
      let named : Option (Except String (List CharPart)) :=
        match rest with
        | (sign, false) :: inside =>
          let isRepeat := match inside with
            | ('*', false) :: more => isRepeatEnd more
            | _ => false
          if !(sign == ':' || sign == '=') || isRepeat then none
          else
            (readDelimited sign inside).map fun (text, after) =>
              let name := String.ofList text
              if sign == ':' then
                if name.isEmpty then .error "missing character class name '[::]'"
                else if categoryNames.contains name then
                  (readCharParts fuel after).map (.category name :: ·)
                else .error ("invalid character class " ++ quoted name)
              else
                match text with
                | [] => .error "missing equivalence class character '[==]'"
                | [d] => (readCharParts fuel after).map (.equal d :: ·)
                | _ => .error s!"{name}: equivalence class operand must be a single character"
        | _ => none
      let repetition : Option (Except String (List CharPart)) :=
        match rest with
        | (d, _) :: ('*', false) :: inside =>
          let text := inside.takeWhile (· != (']', false))
          if text.length = inside.length then none
          else
            let digits := text.map Prod.fst
            let after := inside.drop (text.length + 1)
            let base := if digits.head? == some '0' then 8 else 10
            if digits.all fun c => (digitOf? base c).isSome then
              let n := (takeNumber base digits).1
              some ((readCharParts fuel after).map
                (.repeated d (if n = 0 then none else some n) :: ·))
            else some (.error s!"invalid repeat count {quoted (String.ofList digits)} in [c*n] construct")
        | _ => none
      (named.or repetition).getD plain

/-- Read a list of characters. -/
def CharList.read (argument : String) : Except String CharList :=
  let (chars, warnings) := readEscapedChars (argument.length + 1) argument.toList
  (readCharParts (chars.length + 1) chars).map fun parts => ⟨parts, warnings⟩

/-- All characters that are not in a list. -/
def otherChars (set : List Char) : List Char :=
  ((List.range 256).map Char.ofNat).filter (!set.contains ·)

/-! ## Replacing characters -/

/-- Leave one of several equal characters in a row, where they belong to a set. -/
def squeeze (set : List Char) : List Char → List Char
  | a :: b :: rest =>
    if a == b && set.contains a then squeeze set (b :: rest) else a :: squeeze set (b :: rest)
  | short => short

/-- What is done with the characters of a text. -/
structure CharChange where
  table : List (Char × Char)
  deleted : List Char
  squeezed : List Char

/-- Replace, delete and squeeze the characters of a text. -/
def CharChange.apply (change : CharChange) (text : List Char) : List Char :=
  let kept := if change.deleted.isEmpty then text else text.filter (!change.deleted.contains ·)
  let image := if change.table.isEmpty then kept else kept.map fun c => (change.table.lookup c).getD c
  if change.squeezed.isEmpty then image else squeeze change.squeezed image

/-- A text in which nothing is changed stays as it is. -/
theorem CharChange.apply_nothing (text : List Char) : CharChange.apply ⟨[], [], []⟩ text = text :=
  rfl

/-- Whether categories of letters in the second list stand where such categories stand in the first one. -/
def isAligned : List CharPart → List CharPart → Bool
  | a, b => go (a.flatMap spread) (b.flatMap spread)
where
  /-- The parts of a list by single characters, where categories of letters are kept together. -/
  spread (p : CharPart) : List CharPart :=
    match p with
    | .category "upper" | .category "lower" => [p]
    | p => (p.chars 0).map .single
  /-- Whether a category of the second list always meets one of the first. -/
  go : List CharPart → List CharPart → Bool
    | a :: as, b :: bs =>
      (match a, b with
        | .category _, .category _ => true
        | _, .category _ => false
        | _, _ => true) && go as bs
    | [], b => !b.any fun
      | .category _ => true
      | _ => false
    | _, [] => true

/-- How characters are changed, as options and lists of characters ask for. -/
def readCharChange (g : Given) (first : List CharPart) (second : Option (List CharPart)) :
    Except String CharChange := do
  let complement := g.has 'c' || g.has 'C'
  let isRepeat (p : CharPart) : Bool := match p with
    | .repeated _ none => true
    | _ => false
  if first.any isRepeat then
    throw "the [c*] repeat construct may not appear in string1"
  let named := first.flatMap (CharPart.chars 0)
  let set := if complement then otherChars named else named
  match second with
  | none => pure (if g.has 'd' then ⟨[], set, []⟩ else ⟨[], [], set⟩)
  | some parts =>
    if 1 < parts.countP isRepeat then throw "only one [c*] repeat construct may appear in string2"
    let known := (parts.flatMap (CharPart.chars 0)).length
    let images := parts.flatMap (CharPart.chars (set.length - known))
    if g.has 'd' then
      if parts.any isRepeat then throw "the [c*] construct may appear in string2 only when translating"
      pure ⟨[], set, images⟩
    else
      let isPlain (p : CharPart) : Bool := match p with
        | .category name => name == "upper" || name == "lower"
        | _ => true
      if parts.any fun | .equal _ => true | _ => false then
        throw "[=c=] expressions may not appear in string2 when translating"
      if !parts.all isPlain then
        throw ("when translating, the only character classes that may appear in\n" ++
          "string2 are 'upper' and 'lower'")
      if !complement && !isAligned first parts then
        throw "misaligned [:upper:] and/or [:lower:] construct"
      if images.length < set.length && !g.has 't' then
        if images.isEmpty then throw "when not truncating set1, string2 must be non-empty"
        if parts.getLast?.any fun | .category _ => true | _ => false then
          throw ("when translating with string1 longer than string2,\n" ++
            "the latter string must not end with a character class")
      let last := images.getLastD ' '
      let full := if g.has 't' then images
        else images ++ List.replicate (set.length - images.length) last
      let hasCategory := first.any fun | .category _ => true | _ => false
      if complement && hasCategory && !(full.length = set.length && full.eraseDups.length ≤ 1) then
        throw ("when translating with complemented character classes,\n" ++
          "string2 must map all characters in the domain to one")
      pure ⟨(set.zip full).reverse, [], if g.has 's' then full else []⟩

/-- Why operands do not fit what is to be done with characters: a message, and a line that explains it. -/
def operandFault? (g : Given) : Option (String × String) :=
  let both := g.has 'd' && g.has 's'
  let most := if g.has 'd' && !both then 1 else 2
  let least := if g.has 'd' == g.has 's' then 2 else 1
  let count := g.operands.length
  if count < least then
    match g.operands with
    | [] => some ("missing operand", "")
    | first :: _ => some ("missing operand after " ++ quoted first,
        if g.has 's' then "Two strings must be given when both deleting and squeezing repeats.\n"
        else "Two strings must be given when translating.\n")
  else if most < count then
    some ("extra operand " ++ quoted (g.operands[most]?.getD ""),
      if count = 2 then "Only one string may be given when deleting without squeezing repeats.\n" else "")
  else none

/-- Replace, delete or squeeze characters. -/
def trProgram (arguments : List String) : Effect Nat :=
  withGiven "+AcCdst" [("complement", 'c'), ("delete", 'd'), ("squeeze-repeats", 's'), ("truncate-set1", 't')] 1
    arguments fun g => do
    match operandFault? g with
    | some (message, explanation) =>
      tell message
      complain explanation
      misused "" 1
    | none =>
      match CharList.read (g.operands.headD "") with
      | .error message => failed message 1
      | .ok first =>
        first.warnings.forM tell
        match (g.operands[1]?).mapM CharList.read with
        | .error message => failed message 1
        | .ok second =>
          (second.toList.flatMap CharList.warnings).forM tell
          match readCharChange g first.parts (second.map CharList.parts) with
          | .error message => failed message 1
          | .ok change =>
            say (String.ofList (change.apply (← readAll 0).toList))
            pure 0

/-! ## Tabs -/

/-- Where tabs lead: places on a line, and the distance of those behind the last of them, counted from the
beginning of the line or from the last place. -/
structure TabStops where
  places : List Nat
  step : Option Nat
  isFromLast : Bool

namespace TabStops

/-- Tabs that lead to every eighth place. -/
def usual : TabStops :=
  ⟨[], some 8, false⟩

/-- The next place behind one, and whether it is the last. -/
def next? (t : TabStops) (column : Nat) : Option Nat :=
  match t.places.find? (column < ·) with
  | some place => some place
  | none =>
    t.step.map fun step =>
      let base := if t.isFromLast then t.places.getLastD 0 else 0
      base + ((column - base) / step + 1) * step

/-- Read where tabs lead. -/
def read (texts : List String) : Except String TabStops := do
  let words := texts.flatMap fun text =>
    ((text.toList.splitOnP fun c => c == ',' || c == ' ' || c == '\t').filter (!·.isEmpty)).map String.ofList
  let value (word : String) : Except String Nat :=
    let digits := word.toList.takeWhile Char.isDigit
    let rest := String.ofList (word.toList.drop digits.length)
    if !rest.isEmpty then .error ("tab size contains invalid character(s): " ++ quoted rest)
    else
      let n := (takeNumber 10 digits).1
      if greatestCount < n then .error ("tab stop is too large " ++ quoted word) else .ok n
  let found ← words.mapM fun word =>
    match word.toList with
    | '/' :: rest => (value (String.ofList rest)).map fun n => ('/', n)
    | '+' :: rest => (value (String.ofList rest)).map fun n => ('+', n)
    | _ => (value word).map fun n => ('=', n)
  let places := (found.filter fun (c, _) => c == '=').map Prod.snd
  if places.any (· = 0) then throw "tab size cannot be 0"
  if (places.zip (places.drop 1)).any fun (a, b) => b ≤ a then throw "tab sizes must be ascending"
  let step := (found.filter fun (c, n) => c != '=' && n != 0).getLast?
  match places, step with
  | [], none => pure usual
  | [n], none => pure ⟨[], some n, false⟩
  | places, none => pure ⟨places, none, false⟩
  | places, some (c, n) => pure ⟨places, some n, c == '+'⟩

end TabStops

/-- The options of the programs for tabs, where a number behind a dash stands for the distance of tabs. -/
def withTabOption (arguments : List String) : List String :=
  arguments.map fun argument =>
    match argument.toList with
    | '-' :: c :: rest => if c.isDigit then "-t" ++ String.ofList (c :: rest) else argument
    | _ => argument

/-- A line in which tabs are replaced by blanks. -/
def expandTabs (t : TabStops) (onlyFirst : Bool) : Nat → Bool → List Char → List Char
  | _, _, [] => []
  | column, converts, c :: rest =>
    if !converts then c :: expandTabs t onlyFirst column false rest
    else if c == '\t' then
      let next := (t.next? column).getD (column + 1)
      List.replicate (next - column) ' ' ++ expandTabs t onlyFirst next true rest
    else
      let column := if c == '\x08' then column - 1 else column + 1
      c :: expandTabs t onlyFirst column (!onlyFirst || c == ' ') rest

/-- Put blanks in the place of tabs. -/
def expandProgram (arguments : List String) : Effect Nat :=
  withGiven "it:" [("tabs", 't'), ("initial", 'i')] 1 (withTabOption arguments) fun g => do
    match TabStops.read ((g.options.filter fun (c, _) => c == 't').map Prod.snd) with
    | .error message => failed message 1
    | .ok t =>
      eachInput (inputs g) nameAndFault fun _ text =>
        say (String.join ((wholeLines text).map fun line =>
          String.ofList (expandTabs t (g.has 'i') 0 true line.toList)))

/-- Blanks that have been passed on a line where tabs may take their place. -/
structure PassedBlanks where
  blanks : List Char
  isOneTab : Bool

/-- A line in which blanks are replaced by tabs as far as these lead to places. -/
def unexpandLine (t : TabStops) (all : Bool) (line : List Char) : List Char :=
  go (line.length + 1) 0 true false true [] line
where
  /-- Go on from a column, given whether blanks are replaced here, whether the first of the blanks that have
  been passed stands in front of a place, whether the last character was a blank, and these blanks. -/
  go : Nat → Nat → Bool → Bool → Bool → List Char → List Char → List Char
    | 0, _, _, _, _, pending, rest => pending ++ rest
    | _, _, _, _, _, pending, [] => pending
    | fuel + 1, column, converts, oneBefore, prevBlank, pending, c :: rest =>
      if !converts then c :: go fuel column false false false [] rest
      else
        let isBlank := c == ' ' || c == '\t'
        if isBlank then
          match t.next? column with
          | none => pending ++ c :: go fuel column false false false [] rest
          | some next =>
            if c == '\t' then
              let front := if pending.isEmpty then [] else if oneBefore then ['\t'] else []
              front ++ '\t' :: go fuel next (all || true) false true [] rest
            else
              let column := column + 1
              if !(prevBlank && column = next) then
                let oneBefore := if column = next then true else oneBefore
                go fuel column true oneBefore true (pending ++ [c]) rest
              else
                let front := if oneBefore then ['\t'] else []
                go fuel column true false true (front ++ ['\t']) rest
        else
          let column := if c == '\x08' then column - 1 else column + 1
          let front := if 1 < pending.length && oneBefore then '\t' :: pending.drop 1 else pending
          front ++ c :: go fuel column all false false [] rest

/-- Put tabs in the place of blanks. -/
def unexpandProgram (arguments : List String) : Effect Nat :=
  withGiven "at:,φ" [("tabs", 't'), ("all", 'a'), ("first-only", 'φ')] 1 (withTabOption arguments) fun g => do
    match TabStops.read ((g.options.filter fun (c, _) => c == 't').map Prod.snd) with
    | .error message => failed message 1
    | .ok t =>
      let short := arguments.any fun argument =>
        match argument.toList with
        | '-' :: c :: _ => c.isDigit
        | _ => false
      let all := (g.has 'a' || (g.has 't' && !short)) && !g.has 'φ'
      eachInput (inputs g) nameAndFault fun _ text =>
        say (String.join ((wholeLines text).map fun line =>
          let body := withoutBreak line
          String.ofList (unexpandLine t all body.toList) ++ if line.endsWith "\n" then "\n" else ""))

/-! ## Breaking lines -/

/-- The column behind a character. -/
def columnBehind (bytes : Bool) (column : Nat) (c : Char) : Nat :=
  if bytes then column + 1
  else
    match c with
    | '\x08' => column - 1
    | '\r' => 0
    | '\t' => column + 8 - column % 8
    | _ => column + 1

/-- The column behind some characters. -/
def columnAfter (bytes : Bool) (text : List Char) : Nat :=
  text.foldl (columnBehind bytes) 0

/-- A line broken so that no part is wider than a width; the characters that have been passed come last
first. -/
def foldLine (bytes spaces : Bool) (width : Nat) : Nat → List Char → List Char → List Char
  | 0, passed, rest => passed.reverse ++ rest
  | _ + 1, passed, [] => passed.reverse
  | fuel + 1, passed, c :: rest =>
    let column := columnAfter bytes passed.reverse
    if columnBehind bytes column c ≤ width then foldLine bytes spaces width fuel (c :: passed) rest
    else
      let kept := passed.dropWhile fun c => !(c == ' ' || c == '\t')
      if spaces && !kept.isEmpty then
        let moved := passed.take (passed.length - kept.length)
        kept.reverse ++ '\n' :: foldLine bytes spaces width fuel moved (c :: rest)
      else if passed.isEmpty then foldLine bytes spaces width fuel [c] rest
      else passed.reverse ++ '\n' :: foldLine bytes spaces width fuel [] (c :: rest)

/-- Break lines that are too wide. -/
def foldProgram (arguments : List String) : Effect Nat :=
  let arguments := arguments.flatMap fun argument =>
    match argument.toList with
    | '-' :: c :: rest => if c.isDigit then ["-w", String.ofList (c :: rest)] else [argument]
    | _ => [argument]
  withGiven "bsw:" [("bytes", 'b'), ("spaces", 's'), ("width", 'w')] 1 arguments fun g => do
    let width := (g.get? 'w').getD "80"
    match width.toNat? with
    | none => failed ("invalid number of columns: " ++ quoted width) 1
    | some 0 => failed ("invalid number of columns: " ++ quoted width ++ ": Numerical result out of range") 1
    | some w =>
      eachInput (inputs g) nameAndFault fun _ text =>
        say (String.join ((wholeLines text).map fun line =>
          let body := (withoutBreak line).toList
          String.ofList (foldLine (g.has 'b') (g.has 's') w (4 * body.length + 4) [] body) ++
            if line.endsWith "\n" then "\n" else ""))

/-! ## Filling lines -/

/-- A word of a paragraph that is filled. -/
structure FillWord where
  text : String
  /-- How many blanks stand behind it. -/
  space : Nat
  paren : Bool
  period : Bool
  punct : Bool
  final : Bool

/-- How a paragraph is best broken from a word on: what that costs, at which word the next line begins, and
how long the first line is. -/
structure FillPlan where
  cost : Int
  next : Nat
  length : Nat

/-- The square of ten times a number of places. -/
def placesCost (n : Int) : Int :=
  (n * 10) * (n * 10)

/-- What it costs to begin a line with a word, given the two words in front of it. -/
def breakCost (before earlier : Option FillWord) (word : FillWord) : Int :=
  let size (w : FillWord) : Int := w.text.length
  let first : Int := match before with
    | none => 0
    | some b =>
      if b.period then if b.final then -2500 else 360000
      else if b.punct then -1600
      else if earlier.any FillWord.final then 40000 / size b
      else 0
  let second : Int := if word.paren then -1600 else if word.final then 22500 / size word else 0
  4900 + first + second

/-- The best ways to break a paragraph from each word on; the last word comes first. -/
def planFill (words : Array FillWord) (width goal first other : Nat) (lastLength : Int) : Array FillPlan :=
  let count := words.size
  let start : Array FillPlan := #[⟨0, count, 0⟩]
  -- The plan for the word with the number `n` lies at the place `count - n`.
  ((List.range count).foldl (fun (plans : Array FillPlan) k =>
    let n := count - 1 - k
    let planOf (n : Nat) : FillPlan := (plans[count - n]?).getD ⟨0, count, 0⟩
    let indent := if n = 0 then first else other
    let sizeOf (n : Nat) : Nat := ((words[n]?).map fun w => w.text.length).getD width
    let lineCost (next length : Nat) : Int :=
      if next = count then 0
      else
        let short := placesCost ((goal : Int) - length)
        let plan := planOf next
        if plan.next = count then short
        else short + placesCost ((length : Int) - plan.length) / 2
    let rec tryFrom : Nat → Nat → Nat → FillPlan → FillPlan
      | 0, _, _, best => best
      | fuel + 1, next, length, best =>
        let cost := lineCost next length + (planOf next).cost +
          (if n = 0 && 0 < lastLength then placesCost ((length : Int) - lastLength) / 2 else 0)
        let best := if cost < best.cost then ⟨cost, next, length⟩ else best
        if next = count then best
        else
          let length := length + ((words[next - 1]?).map FillWord.space).getD 1 + sizeOf next
          if length < width then tryFrom fuel (next + 1) length best else best
    let found := tryFrom (count + 1) (n + 1) (indent + sizeOf n) ⟨1000000000000000, count, 0⟩
    let before := if n = 0 then none else words[n - 1]?
    let earlier := if n < 2 then none else words[n - 2]?
    match words[n]? with
    | some word => plans.push { found with cost := found.cost + breakCost before earlier word }
    | none => plans) start)

/-- The words of lines, with the blanks behind each. -/
def fillWords (uniform : Bool) (lines : List (List Char)) : List FillWord :=
  let isBlank (c : Char) : Bool := c == ' ' || c == '\t'
  let rec wordsOf : Nat → List Char → List (List Char × Nat × Bool)
    | 0, _ => []
    | fuel + 1, text =>
      let text := text.dropWhile isBlank
      let word := text.takeWhile (!isBlank ·)
      let rest := text.drop word.length
      let blanks := (rest.takeWhile isBlank).length
      if word.isEmpty then []
      else (word, blanks, (rest.dropWhile isBlank).isEmpty) :: wordsOf fuel rest
  let all := lines.flatMap fun line => wordsOf (line.length + 1) line
  all.map fun (word, blanks, isLast) =>
    let isPunct (c : Char) : Bool := inCategory "punct" c
    let trimmed := word.reverse.dropWhile fun c => "(['\x60\")]".toList.contains c
    let period := trimmed.head?.any ".?!".toList.contains
    let final := period && (isLast || 1 < blanks)
    let space := if isLast || uniform then if final then 2 else 1 else blanks
    ⟨String.ofList word, space, word.head?.any "(['\x60\"".toList.contains, period,
      word.getLast?.any isPunct, final⟩

/-- The lines that a paragraph is broken into. -/
def fillLines (words : Array FillWord) (plans : Array FillPlan) (first other : Nat) : Nat → Nat → List String
  | 0, _ => []
  | fuel + 1, n =>
    if words.size ≤ n then []
    else
      let next := ((plans[words.size - n]?).map FillPlan.next).getD words.size
      let line := (List.range (next - n)).map fun k =>
        match words[n + k]? with
        | some w => w.text ++ if n + k + 1 = next then "" else "".pushn ' ' w.space
        | none => ""
      ("".pushn ' ' (if n = 0 then first else other) ++ String.join line) ::
        fillLines words plans first other fuel (max next (n + 1))

/-- How lines are filled. -/
structure Filler where
  width : Nat
  goal : Nat
  splitsOnly : Bool
  uniform : Bool
  crown : Bool
  tagged : Bool

/-- How far a line is indented. -/
def indentOf (line : List Char) : Nat :=
  (line.takeWhile fun c => c == ' ' || c == '\t').foldl
    (fun n c => if c == '\t' then n + 8 - n % 8 else n + 1) 0

/-- The paragraph at the beginning of lines, and what follows it. -/
def takeParagraph (f : Filler) : List (List Char) → List (List Char) × List (List Char)
  | [] => ([], [])
  | first :: rest =>
    if f.splitsOnly then ([first], rest)
    else
      let isBlank (line : List Char) : Bool := line.all isSpace
      let indent := match rest with
        | second :: _ =>
          if isBlank second then indentOf first
          else if f.crown then indentOf second
          else if f.tagged && indentOf second != indentOf first then indentOf second
          else indentOf first
        | [] => indentOf first
      let more := rest.takeWhile fun line => !isBlank line && indentOf line = indent
      let alone := f.tagged && !more.isEmpty && indentOf first = indent
      if alone then ([first], rest) else (first :: more, rest.drop more.length)

/-- Fill lines, paragraph by paragraph.  The number bounds how many there are. -/
def fillText (f : Filler) : Nat → List (List Char) → List String
  | 0, _ => []
  | _, [] => []
  | fuel + 1, line :: rest =>
    if line.all isSpace then "" :: fillText f fuel rest
    else
      let (paragraph, rest) := takeParagraph f (line :: rest)
      let words := (fillWords f.uniform paragraph).toArray
      let first := indentOf line
      let other := match paragraph with
        | _ :: second :: _ => indentOf second
        | _ => first
      let plans := planFill words f.width f.goal first other 0
      fillLines words plans first other (words.size + 1) 0 ++ fillText f fuel rest

/-- Fill lines. -/
def fmtProgram (arguments : List String) : Effect Nat :=
  let arguments := match arguments with
    | first :: rest =>
      match first.toList with
      | '-' :: c :: digits => if c.isDigit then "-w" :: String.ofList (c :: digits) :: rest else arguments
      | _ => arguments
    | [] => []
  withGiven "cstuw:p:g:" [("crown-margin", 'c'), ("prefix", 'p'), ("split-only", 's'), ("tagged-paragraph", 't'),
      ("uniform-spacing", 'u'), ("width", 'w'), ("goal", 'g')] 1 arguments fun g => do
    let number (letter : Char) (usual : Nat) : Except String Nat :=
      match g.get? letter with
      | none => .ok usual
      | some text =>
        match text.toNat? with
        | some n => if 2500 < n then .error ("invalid width: " ++ quoted text ++ ": Numerical result out of range")
            else .ok n
        | none => .error ("invalid width: " ++ quoted text)
    match number 'w' 75, number 'g' 0 with
    | .error message, _ | _, .error message => failed message 1
    | .ok width, .ok goal =>
      let width := if g.has 'g' && !g.has 'w' then goal + 10 else width
      let goal := if g.has 'g' then goal else width * 187 / 200
      let f : Filler := ⟨width, goal, g.has 's', g.has 'u', g.has 'c', g.has 't'⟩
      eachInput (inputs g) (fun name fault => s!"cannot open {quotedName name} for reading: {fault.text}")
        fun _ text =>
          let lines := (linesOf text).map String.toList
          say (unlines (fillText f (lines.length + 1) lines))

end Conformance.Shell
