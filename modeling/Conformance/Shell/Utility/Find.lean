import Conformance.Shell.Process
import Conformance.Shell.Regular
import Conformance.Shell.Utility.Change

/-!
# Looking for files

A search goes through directories and asks conditions of each file.  Some conditions do something: they show
the file, remove it, or run another program for it.
-/

namespace Conformance.Shell

open Effect

/-! ## Conditions -/

/-- How a number is compared with the one that is asked for. -/
inductive Relation
  | less
  | equal
  | greater
  deriving Repr, DecidableEq

/-- Whether a number stands in a relation to another one. -/
def Relation.holds (r : Relation) (n m : Int) : Bool :=
  match r with
  | .less => n < m
  | .equal => n = m
  | .greater => m < n

/-- Where what is shown of files is written: to the output or to a file. -/
inductive FindOutput
  | output
  | file (path : Path)

/-- What a search asks of a file, or does with it. -/
inductive Criterion
  | constant (holds : Bool)
  | named (p : Pattern) (folding : Bool)
  | located (p : Pattern) (folding : Bool)
  | linked (p : Pattern) (folding : Bool)
  | fits (e : Regular) (folding : Bool)
  | kind (letters : List Char) (other : Bool)
  | empty
  | size (r : Relation) (n unit : Nat)
  | mode (sign : Char) (bits : Nat)
  | newer (time : Instant)
  /-- Old by a number of units, which a file of less than one unit has none of, or one. -/
  | age (r : Relation) (n : Int) (unit : Int) (isCeiled : Bool)
  | links (r : Relation) (n : Nat)
  | serial (r : Relation) (n : Nat)
  | owned (byUs : Bool)
  | usable (letter : Char)
  | same (path : Path)
  | shown (ending : String) (into : FindOutput)
  | written (form : String) (into : FindOutput)
  | listed (into : FindOutput)
  | runs (words : List String) (inside asking : Bool)
  /-- The files are kept for a program that is run for many of them. -/
  | gathered (number : Nat)
  | deleted
  | pruned
  | stopped
  | negation (c : Criterion)
  | both (a b : Criterion)
  | either (a b : Criterion)
  | chain (a b : Criterion)

/-- Whether a condition does something with files, so that they are not just shown. -/
def Criterion.acts : Criterion → Bool
  | .shown .. | .written .. | .listed _ | .runs .. | .gathered _ | .deleted => true
  | .negation c => c.acts
  | .both a b | .either a b | .chain a b => a.acts || b.acts
  | _ => false

/-- Which links a search follows. -/
inductive FindLinks
  | none
  | operands
  | all
  deriving Repr, DecidableEq

/-- A search for files. -/
structure FileSearch where
  links : FindLinks
  least : Nat
  most : Nat
  fromBelow : Bool
  criterion : Criterion
  /-- The programs that are run for many files, each by its words. -/
  programs : List (List String × Bool)

/-! ## Reading -/

/-- A part of the condition of a search, as it is read. -/
inductive FindMark
  | opening
  | closing
  | negation (word : String)
  | also (word : String)
  | orElse (word : String)
  | comma
  | criterion (c : Criterion)

/-- What has been read of a search. -/
structure FindReading where
  search : FileSearch
  marks : List FindMark
  form : Regular.Notation
  isEmacs : Bool
  /-- The condition that was read last, if it takes an argument. -/
  last : Option String
  daystart : Bool

/-- An expression in which brackets and bars are signs only behind a backslash, as one in which they are signs
without it. -/
def exchangeSigns : List Char → List Char
  | '\\' :: c :: rest =>
    (if "(){}|".toList.contains c then [c] else ['\\', c]) ++ exchangeSigns rest
  | c :: rest => (if "(){}|".toList.contains c then ['\\', c] else [c]) ++ exchangeSigns rest
  | [] => []

/-- A number with a sign that says how it is compared. -/
def readRelation? (text : String) : Option (Relation × Nat) :=
  let (r, digits) := match text.toList with
    | '+' :: rest => (Relation.greater, rest)
    | '-' :: rest => (.less, rest)
    | rest => (.equal, rest)
  if digits.isEmpty || !digits.all Char.isDigit then none
  else some (r, (takeNumber 10 digits).1)

/-- The size in a condition: a relation, a number and the unit. -/
def readFindSize? (text : String) : Except String (Relation × Nat × Nat) :=
  let cs := text.toList
  match cs.getLast? with
  | none => .error s!"invalid null argument to -size"
  | some letter =>
    let unit := match letter with
      | 'b' => some 512
      | 'c' => some 1
      | 'w' => some 2
      | 'k' => some 1024
      | 'M' => some 1048576
      | 'G' => some 1073741824
      | c => if c.isDigit then some 512 else none
    match unit with
    | none => .error s!"invalid -size type \x60{letter}'"
    | some unit =>
      let number := if letter.isDigit then cs else cs.dropLast
      match readRelation? (String.ofList number) with
      | some (r, n) => .ok (r, n, unit)
      | none => .error s!"Invalid argument \x60{text}' to -size"

/-- The permissions in a condition. -/
def readFindMode? (text : String) : Option (Char × Nat) :=
  let (sign, rest) := match text.toList with
    | '-' :: rest => ('-', rest)
    | '/' :: rest => ('/', rest)
    | rest => ('=', rest)
  (readMode? (String.ofList rest)).map fun changes => (sign, applyModeChanges false 0 0 changes)

/-- The words up to the end of a program that is run: the program, whether it is run for many files, and what
follows. -/
def takeProgram (isMany : Bool) : List String → List String → Option (List String × Bool × List String)
  | _, [] => none
  | done, ";" :: rest => some (done.reverse, false, rest)
  | "{}" :: done, "+" :: rest =>
    if isMany then some (("{}" :: done).reverse, true, rest) else takeProgram isMany ("+" :: "{}" :: done) rest
  | done, word :: rest => takeProgram isMany (word :: done) rest

/-- Add a part of a condition to what has been read. -/
def FindReading.add (r : FindReading) (c : Criterion) : FindReading :=
  { r with marks := .criterion c :: r.marks }

/-- The file that is written to, which is there from now on, or what is wrong with it. -/
def openFindOutput (name : String) : Effect (Except String FindOutput) := do
  let path ← pathOf name
  match ← lookUp name, ← creationFault? name with
  | .ok .sink, _ => pure (.ok (.file path))
  | .ok (.directory _), _ => pure (.error s!"{quoted name}: Is a directory")
  | .error .notFound, some fault | .error fault, _ =>
    if fault == .notFound && (← creationFault? name).isNone then
      putFile path ""
      pure (.ok (.file path))
    else pure (.error s!"{quoted name}: {fault.text}")
  | .ok _, _ =>
    putFile path ""
    pure (.ok (.file path))

/-- Read one condition with its arguments; the answer has what is left of the words. -/
def readCriterion (r : FindReading) (word : String) (rest : List String) :
    Effect (Except String (FindReading × List String)) := do
  let m ← get
  let missing : Except String (FindReading × List String) := .error s!"missing argument to \x60{word}'"
  let r' := { r with last := some word }
  let plain (c : Criterion) : Effect (Except String (FindReading × List String)) :=
    pure (.ok ({ r with last := none }.add c, rest))
  let keep (r : FindReading) (rest : List String) : Effect (Except String (FindReading × List String)) :=
    pure (.ok (r, rest))
  let taking (read : String → Except String Criterion) : Effect (Except String (FindReading × List String)) :=
    pure (match rest with
      | [] => missing
      | value :: rest => (read value).map fun c => (r'.add c, rest))
  let invalid (value : String) : String := s!"invalid argument \x60{value}' to \x60{word}'"
  let compared (make : Relation → Nat → Criterion) : Effect (Except String (FindReading × List String)) :=
    taking fun value =>
      match readRelation? value with
      | some (relation, n) => .ok (make relation n)
      | none => .error (invalid value)
  let kinds (other : Bool) : Effect (Except String (FindReading × List String)) :=
    taking fun value =>
      let parts := value.splitOn ","
      match parts.find? fun p => p.length != 1 || !"bcdpflsD".toList.contains (p.toList.headD ' ') with
      | none => .ok (.kind (value.toList.filter (· != ',')) other)
      | some p =>
        match p.toList with
        | [] =>
          if value.isEmpty then .error s!"Arguments to {word} should contain at least one letter"
          else .error s!"Last file type in list argument to {word} is missing, i.e., list is ending on: ','"
        | c :: more =>
          if !"bcdpflsD".toList.contains c then .error s!"Unknown argument to {word}: {c}"
          else if more.isEmpty then .error s!"Unknown argument to {word}: {c}"
          else .error s!"Must separate multiple arguments to {word} using: ','"
  let expression (folding : Bool) : Effect (Except String (FindReading × List String)) :=
    taking fun value =>
      let units := unitsOf value
      let units := if r.isEmacs then exchangeSigns units else units
      (Regular.read (if r.isEmacs then .extended else r.form) units).map (.fits · folding)
  let newerThan (name : String) (follow : Bool) : Except String Criterion :=
    match m.listed follow name with
    | .ok f => .ok (.newer f.attributes.changed)
    | .error fault => .error s!"{quoted name}: {fault.text}"
  let depth (set : FileSearch → Nat → FileSearch) : Effect (Except String (FindReading × List String)) :=
    pure (match rest with
      | [] => missing
      | value :: rest =>
        match (if value.toList.all Char.isDigit then value.toNat? else none) with
        | some n => .ok ({ r' with search := set r.search n }.add (.constant true), rest)
        | none => .error (s!"Expected a positive decimal integer argument to {word}, but got {quoted value}"))
  let output (make : FindOutput → List String → Except String (Criterion × List String)) :
      Effect (Except String (FindReading × List String)) := do
    match rest with
    | [] => pure missing
    | name :: rest =>
      match ← openFindOutput name with
      | .error message => pure (.error message)
      | .ok into => pure ((make into rest).map fun (c, rest) => (r'.add c, rest))
  let program (inside asking : Bool) : Effect (Except String (FindReading × List String)) :=
    match takeProgram (!asking) [] rest with
    | none | some ([], _, _) => pure missing
    | some (words, isMany, after) =>
      if !isMany then keep (r'.add (.runs words inside asking)) after
      else
        let front := words.dropLast
        match front.find? fun w => (w.splitOn "\x7b\x7d").length > 1 with
        | some "\x7b\x7d" => pure (.error s!"Only one instance of \x7b\x7d is supported with {word} ... +")
        | some w =>
          pure (.error ("In " ++ quoted (word ++ " ... \x7b\x7d +") ++ " the " ++ quoted "\x7b\x7d" ++
            " must appear by itself, but you specified " ++ quoted w))
        | none =>
          if front.isEmpty then pure missing
          else
            let s := r.search
            keep ({ r' with search := { s with programs := s.programs ++ [(front, inside)] } }.add
              (.gathered s.programs.length)) after
  let owner (what : String) : Effect (Except String (FindReading × List String)) :=
    taking fun value =>
      if value == "root" || value.toNat? == some 0 then .ok (.owned true)
      else if value.toNat?.isSome && !value.isEmpty then .ok (.owned false)
      else .error (s!"{quoted value} is not the name of {what}")
  match word with
  | "-true" | "-noleaf" | "-mount" | "-xdev" | "-ignore_readdir_race" | "-noignore_readdir_race" | "-warn"
  | "-nowarn" => plain (.constant true)
  | "-false" => plain (.constant false)
  | "-daystart" => keep ({ r with last := none, daystart := true }.add (.constant true)) rest
  | "-follow" => keep ({ r with last := none, search := { r.search with links := .all } }.add (.constant true)) rest
  | "-depth" | "-d" =>
    keep ({ r with last := none, search := { r.search with fromBelow := true } }.add (.constant true)) rest
  | "-maxdepth" => depth fun s n => { s with most := n }
  | "-mindepth" => depth fun s n => { s with least := n }
  | "-name" => taking fun value => .ok (.named (Pattern.ofText value) false)
  | "-iname" => taking fun value => .ok (.named (Pattern.ofText value.toLower) true)
  | "-path" | "-wholename" => taking fun value => .ok (.located (Pattern.ofText value) false)
  | "-ipath" | "-iwholename" => taking fun value => .ok (.located (Pattern.ofText value.toLower) true)
  | "-lname" => taking fun value => .ok (.linked (Pattern.ofText value) false)
  | "-ilname" => taking fun value => .ok (.linked (Pattern.ofText value.toLower) true)
  | "-regex" => expression false
  | "-iregex" => expression true
  | "-regextype" =>
    let types := ["findutils-default", "ed", "emacs", "gnu-awk", "grep", "posix-awk", "awk", "posix-basic",
      "posix-egrep", "egrep", "posix-extended", "posix-minimal-basic", "sed"]
    match rest with
    | [] => pure missing
    | value :: rest =>
      if !types.contains value then
        pure (.error (s!"Unknown regular expression type {quoted value}; valid types are " ++
          ", ".intercalate (types.map quoted) ++ "."))
      else
        let isEmacs := value == "emacs" || value == "findutils-default"
        let isBasic := ["ed", "grep", "posix-basic", "posix-minimal-basic", "sed"].contains value
        keep ({ r' with isEmacs := isEmacs, form := if isBasic then .basic else .extended }.add
          (.constant true)) rest
  | "-type" => kinds false
  | "-xtype" => kinds true
  | "-empty" => plain .empty
  | "-size" => taking fun value => (readFindSize? value).map fun (relation, n, unit) => .size relation n unit
  | "-perm" => taking fun value =>
      match readFindMode? value with
      | some (sign, bits) => .ok (.mode sign bits)
      | none => .error ("invalid mode " ++ quoted value)
  | "-newer" | "-anewer" | "-cnewer" => taking fun value => newerThan value (r.search.links != .none)
  | "-mtime" | "-atime" | "-ctime" => compared fun relation n => .age relation n (86400 * nanosPerSecond) false
  | "-mmin" | "-amin" | "-cmin" => compared fun relation n => .age relation n (60 * nanosPerSecond) true
  | "-used" => compared fun relation n => .age relation n (86400 * nanosPerSecond) false
  | "-links" => compared fun relation n => .links relation n
  | "-inum" => compared fun relation n => .serial relation n
  | "-uid" | "-gid" => taking fun value =>
      match readRelation? value with
      | some (relation, n) => .ok (.constant (relation.holds 0 n))
      | none => .error (invalid value)
  | "-user" => owner "a known user"
  | "-group" => owner "an existing group"
  | "-nouser" | "-nogroup" => plain (.constant false)
  | "-fstype" => taking fun value => .ok (.constant (value == "ext4"))
  | "-readable" => plain (.usable 'r')
  | "-writable" => plain (.usable 'w')
  | "-executable" => plain (.usable 'x')
  | "-samefile" => taking fun value =>
      match m.listed (r.search.links != .none) value with
      | .ok f => .ok (.same f.path)
      | .error fault => .error s!"{quoted value}: {fault.text}"
  | "-context" => pure (.error "invalid predicate -context: SELinux is not enabled.")
  | "-print" => plain (.shown "\n" .output)
  | "-print0" => plain (.shown "\x00" .output)
  | "-printf" => taking fun value => .ok (.written value .output)
  | "-ls" => plain (.listed .output)
  | "-fprint" => output fun into rest => .ok (.shown "\n" into, rest)
  | "-fprint0" => output fun into rest => .ok (.shown "\x00" into, rest)
  | "-fls" => output fun into rest => .ok (.listed into, rest)
  | "-fprintf" => output fun into rest =>
      match rest with
      | form :: rest => .ok (.written form into, rest)
      | [] => .error s!"missing argument to \x60{word}'"
  | "-exec" => program false false
  | "-execdir" => program true false
  | "-ok" => program false true
  | "-okdir" => program true true
  | "-delete" =>
    keep ({ r with last := none, search := { r.search with fromBelow := true } }.add .deleted) rest
  | "-prune" => plain .pruned
  | "-quit" => plain .stopped
  | word =>
    if word.startsWith "-newer" && word.length = 8 then
      let letters := word.toList.drop 6
      match letters, rest with
      | [x, y], _ =>
        if !"aBcm".toList.contains x || !"aBcmt".toList.contains y then
          pure (.error s!"invalid predicate \x60{word}'")
        else taking fun value =>
          if y == 't' then
            match readTime? value m.time with
            | some t => .ok (.newer t)
            | none => .error (s!"I cannot figure out how to interpret {quoted value} as a date or time")
          else newerThan value (r.search.links != .none)
      | _, _ => pure (.error s!"unknown predicate \x60{word}'")
    else if word.startsWith "-" then pure (.error s!"unknown predicate \x60{word}'")
    else
      let hint := match r.last with
        | some before => if (m.lookUp true word).isOk then
            s!"\nfind: possible unquoted pattern after predicate \x60{before}'?" else ""
        | none => ""
      pure (.error (s!"paths must precede expression: \x60{word}'" ++ hint))

/-- Read the words of a condition.  The number bounds how many there are. -/
def readFindMarks : Nat → FindReading → List String → Effect (Except String FindReading)
  | 0, r, _ => pure (.ok r)
  | _ + 1, r, [] => pure (.ok { r with marks := r.marks.reverse })
  | fuel + 1, r, word :: rest => do
    let mark (m : FindMark) : Effect (Except String FindReading) :=
      readFindMarks fuel { r with marks := m :: r.marks, last := none } rest
    match word with
    | "(" => mark .opening
    | ")" => mark .closing
    | "!" | "-not" => mark (.negation word)
    | "-a" | "-and" => mark (.also word)
    | "-o" | "-or" => mark (.orElse word)
    | "," => mark .comma
    | word =>
      match ← readCriterion r word rest with
      | .error message => pure (.error message)
      | .ok (r, rest) => readFindMarks fuel r rest

/-- The word of a sign between conditions. -/
def FindMark.sign? : FindMark → Option String
  | .also word | .orElse word => some word
  | .comma => some ","
  | _ => none

mutual

/-- Read conditions of which the last one counts, given the sign in front of them. -/
def readConditionChain : Nat → Option String → List FindMark → Except String (Criterion × List FindMark)
  | 0, _, _ => .error "invalid expression"
  | fuel + 1, before, marks => do
    let (c, rest) ← readEither fuel before marks
    chainFrom fuel c rest

/-- Go on behind a condition with those behind commas. -/
def chainFrom : Nat → Criterion → List FindMark → Except String (Criterion × List FindMark)
  | 0, _, _ => .error "invalid expression"
  | fuel + 1, c, .comma :: rest => do
    let (d, rest) ← readEither fuel (some ",") rest
    chainFrom fuel (.chain c d) rest
  | _ + 1, c, rest => .ok (c, rest)

/-- Read conditions of which one has to hold. -/
def readEither : Nat → Option String → List FindMark → Except String (Criterion × List FindMark)
  | 0, _, _ => .error "invalid expression"
  | fuel + 1, before, marks => do
    let (c, rest) ← readBoth fuel before marks
    eitherFrom fuel c rest

/-- Go on behind a condition with those of which one has to hold. -/
def eitherFrom : Nat → Criterion → List FindMark → Except String (Criterion × List FindMark)
  | 0, _, _ => .error "invalid expression"
  | fuel + 1, c, .orElse word :: rest => do
    let (d, rest) ← readBoth fuel (some word) rest
    eitherFrom fuel (.either c d) rest
  | _ + 1, c, rest => .ok (c, rest)

/-- Read conditions all of which have to hold. -/
def readBoth : Nat → Option String → List FindMark → Except String (Criterion × List FindMark)
  | 0, _, _ => .error "invalid expression"
  | fuel + 1, before, marks => do
    let (c, rest) ← readSingle fuel before marks
    bothFrom fuel c rest

/-- Go on behind a condition with those that have to hold as well. -/
def bothFrom : Nat → Criterion → List FindMark → Except String (Criterion × List FindMark)
  | 0, _, _ => .error "invalid expression"
  | fuel + 1, c, marks =>
    match marks with
    | [] | .closing :: _ | .orElse _ :: _ | .comma :: _ => .ok (c, marks)
    | .also word :: rest => do
      let (d, rest) ← readSingle fuel (some word) rest
      bothFrom fuel (.both c d) rest
    | rest => do
      let (d, rest) ← readSingle fuel none rest
      bothFrom fuel (.both c d) rest

/-- Read one condition. -/
def readSingle : Nat → Option String → List FindMark → Except String (Criterion × List FindMark)
  | 0, _, _ => .error "invalid expression"
  | fuel + 1, before, marks =>
    match marks with
    | [] =>
      match before with
      | some word => .error s!"expected an expression after '{word}'"
      | none => .error "invalid expression"
    | .criterion c :: rest => .ok (c, rest)
    | .negation word :: rest => do
      let (c, rest) ← readSingle fuel (some word) rest
      pure (.negation c, rest)
    | .opening :: [] =>
      .error ("invalid expression; expected to find a ')' but didn't see one. " ++
        "Perhaps you need an extra predicate after '('")
    | .opening :: .closing :: _ => .error "invalid expression; empty parentheses are not allowed."
    | .opening :: rest => do
      let (c, rest) ← readConditionChain fuel none rest
      match rest with
      | .closing :: rest => pure (c, rest)
      | _ => .error "invalid expression; I was expecting to find a ')' somewhere but did not see one."
    | .closing :: _ =>
      match before with
      | some word => .error s!"expected an expression between '{word}' and ')'"
      | none => .error "invalid expression; you have too many ')'"
    | mark :: _ =>
      .error ("invalid expression; you have used a binary operator '" ++ mark.sign?.getD "" ++
        "' with nothing before it.")

end

/-- The condition that its parts make up. -/
def readFindExpression (marks : List FindMark) : Except String Criterion :=
  if marks.isEmpty then .ok (.constant true)
  else
    match readConditionChain (8 * marks.length + 8) none marks with
    | .error message => .error message
    | .ok (c, []) => .ok c
    | .ok _ => .error "you have too many ')'"

/-! ## Going through directories -/

/-- A file that a search meets: the starting point that it is found from, how deep it lies, and what is known
of it and of what a link leads to. -/
structure Met where
  origin : String
  depth : Nat
  file : Listed

/-- What a search has come to. -/
structure Searching where
  isFine : Bool
  isStopped : Bool
  isPruned : Bool
  /-- The names that are kept for programs which are run for many files. -/
  kept : List (Nat × String)

/-- The last part of a name, as a search takes it. -/
def Met.last (f : Met) : String :=
  baseOf f.file.name

/-- The name of a file from the starting point on. -/
def Met.below (f : Met) : String :=
  let rest := (f.file.name.drop f.origin.length).toString
  if rest.startsWith "/" then (rest.drop 1).toString else rest

/-- Read the escape behind a backslash of a form in which files are shown. -/
def takeFindEscape (rest : List Char) : Option (Option Char × List Char) :=
  match rest with
  | 'a' :: rest => some (some '\x07', rest)
  | 'b' :: rest => some (some '\x08', rest)
  | 'f' :: rest => some (some '\x0c', rest)
  | 'n' :: rest => some (some '\n', rest)
  | 'r' :: rest => some (some '\r', rest)
  | 't' :: rest => some (some '\t', rest)
  | 'v' :: rest => some (some '\x0b', rest)
  | '\\' :: rest => some (some '\\', rest)
  | 'c' :: _ => some (none, [])
  | c :: more =>
    if '0' ≤ c && c ≤ '7' then
      let digits := (c :: more).take 3 |>.takeWhile fun d => '0' ≤ d && d ≤ '7'
      let n := digits.foldl (fun n d => n * 8 + (d.toNat - 48)) 0
      some (some (Char.ofNat (n % 256)), (c :: more).drop digits.length)
    else none
  | [] => none

/-- The fact about a file that a letter in a form asks for. -/
def findFact? (m : Machine) (f : Met) (letter : Char) : Option Fact :=
  let t := f.file.attributes.changed
  match letter with
  | 'p' => some (.text f.file.name)
  | 'f' => some (.text (if f.file.name.toList.all (· == '/') then f.file.name else f.last))
  | 'h' =>
    let cs := f.file.name.toList.reverse.dropWhile (· == '/')
    let front := (cs.dropWhile (· != '/')).drop 1
    some (.text (if !cs.contains '/' then if f.file.name.startsWith "/" then "/" else "."
      else String.ofList front.reverse))
  | 'P' => some (.text f.below)
  | 'H' => some (.text f.origin)
  | 's' => some (.number f.file.size)
  | 'b' => some (.text (toString f.file.blocks))
  | 'k' => some (.text (toString ((f.file.blocks + 1) / 2)))
  | 'm' => some (.based 8 f.file.attributes.mode)
  | 'M' => some (.text f.file.modeLine)
  | 'y' => some (.text (String.singleton (if f.file.kindLetter == '-' then 'f' else f.file.kindLetter)))
  | 'Y' => some (.text (match f.file.entry with
      | .link _ =>
        match m.listed true f.file.name with
        | .ok g => String.singleton (if g.kindLetter == '-' then 'f' else g.kindLetter)
        | .error .looping => "L"
        | .error _ => "N"
      | _ => String.singleton (if f.file.kindLetter == '-' then 'f' else f.file.kindLetter)))
  | 'd' => some (.number f.depth)
  | 'l' => some (.text (match f.file.entry with
      | .link target => octets target
      | _ => ""))
  | 'u' | 'g' => some (.text "root")
  | 'U' | 'G' => some (.text "0")
  | 'n' => some (.number f.file.links)
  | 'i' => some (.text (toString f.file.serial))
  | 'D' => some (.text "65024")
  | 'F' => some (.text "ext4")
  | 'S' => some (.text "1")
  | 't' | 'a' | 'c' => some (.text (timeText "%a %b %e %H:%M:%S." t ++ timeText "%N" t ++ "0 " ++ timeText "%Y" t))
  | _ => none

/-- The time of a file as a letter behind another one asks for it. -/
def findTime (t : Instant) (letter : Char) : String :=
  match letter with
  | '@' => timeText "%s.%N" t ++ "0"
  | '+' => timeText "%Y-%m-%d+%H:%M:%S.%N" t ++ "0"
  | 'S' => timeText "%S.%N" t ++ "0"
  | 'T' => timeText "%H:%M:%S.%N" t ++ "0"
  | 'X' => timeText "%H:%M:%S.%N" t ++ "0"
  | c => timeText (String.ofList ['%', c]) t

/-- Write a file in a form.  The number bounds how long the form is. -/
def writeFound (m : Machine) (f : Met) : Nat → List Char → String
  | 0, _ | _, [] => ""
  | fuel + 1, '\\' :: rest =>
    match takeFindEscape rest with
    | some (some c, rest) => String.singleton c ++ writeFound m f fuel rest
    | some (none, _) => ""
    | none => "\\" ++ writeFound m f fuel rest
  | fuel + 1, '%' :: '%' :: rest => "%" ++ writeFound m f fuel rest
  | fuel + 1, '%' :: rest =>
    let flags := rest.takeWhile "-+ #0".toList.contains
    let field := flags.foldl Field.flag Field.plain
    let (width, after) := takeNumber 10 (rest.drop flags.length)
    let (precision, after) := match after with
      | '.' :: more =>
        let (n, after) := takeNumber 10 more
        (some n, after)
      | after => (none, after)
    let field := { field with width := width, precision := precision }
    match after with
    | [] => "%"
    | letter :: more =>
      match letter, more with
      | 'T', k :: more | 'A', k :: more | 'C', k :: more =>
        field.text (findTime f.file.attributes.changed k) ++ writeFound m f fuel more
      | letter, more =>
        match findFact? m f letter with
        | some fact => fact.written field ++ writeFound m f fuel more
        | none => "%" ++ String.ofList (rest.take (rest.length - more.length)) ++ writeFound m f fuel more
  | fuel + 1, c :: rest => String.singleton c ++ writeFound m f fuel rest

/-- What is wrong with a form in which files are shown.  The number bounds how long it is. -/
def formWarnings : Nat → List Char → List String
  | 0, _ | _, [] => []
  | fuel + 1, '\\' :: rest =>
    match takeFindEscape rest with
    | some (some _, rest) => formWarnings fuel rest
    | some (none, _) => []
    | none =>
      match rest with
      | c :: rest => s!"warning: unrecognized escape \x60\\{c}'" :: formWarnings fuel rest
      | [] => ["warning: escape \x60\\' followed by nothing at all"]
  | fuel + 1, '%' :: '%' :: rest => formWarnings fuel rest
  | fuel + 1, '%' :: rest =>
    match rest.dropWhile fun c => c.isDigit || "-+ #0.".toList.contains c with
    | [] => [s!"error: %{String.ofList rest} at end of format string"]
    | letter :: more =>
      if "TAC".toList.contains letter then formWarnings fuel (more.drop 1)
      else if "pfhPHsbkmMyYdlugUGniDFStacZ".toList.contains letter then formWarnings fuel more
      else s!"warning: unrecognized format directive \x60%{letter}'" :: formWarnings fuel more
  | fuel + 1, _ :: rest => formWarnings fuel rest

/-- All that is wrong with the forms of a condition. -/
def Criterion.warnings : Criterion → List String
  | .written form _ => formWarnings (form.length + 1) form.toList
  | .mode '/' 0 =>
    [("warning: you have specified a mode pattern /0 (which is equivalent to /000). The meaning of -perm " ++
      "/000 has now been changed to be consistent with -perm -000; that is, while it used to match no files, " ++
      "it now matches all files.")]
  | .negation c => c.warnings
  | .both a b | .either a b | .chain a b => a.warnings ++ b.warnings
  | _ => []

/-- Write where what is shown belongs. -/
def FindOutput.write (into : FindOutput) (text : String) : Effect Unit :=
  match into with
  | .output => say text
  | .file path => do
    match (← get).tree.find path with
    | .ok .sink => pure ()
    | _ => putFile path ((← contentAt path) ++ text)

/-- The line of a long listing for a file. -/
def longLine (now : Instant) (f : Listed) : String :=
  let l : Listing := ⟨⟨[('l', "")], []⟩, now⟩
  let shown := match f.entry with
    | .link target => f.name ++ " -> " ++ octets target
    | _ => f.name
  column 9 f.serial ++ " " ++ column 6 ((f.blocks + 1) / 2) ++ " " ++ f.modeLine ++ " " ++ column 3 f.links ++
    " root     root     " ++ column 8 f.size ++ " " ++ l.timeOf f ++ " " ++ shown ++ "\n"

/-- A word of a program with the name of a file in its places. -/
def withName (name word : String) : String :=
  name.intercalate (word.splitOn "\x7b\x7d")

/-- Run a program for a file; the answer is whether it ended well. -/
def runFor (start : Starter) (directory : Option String) (words : List String) : Effect Bool := do
  let prepare : Effect Unit := do
    match directory with
    | some name =>
      let path ← pathOf name
      update fun p => { p with directory := path }
    | none => pure ()
  let ended ← runApart start (fun name => "find: " ++ quoted name) prepare (words.headD "") (words.drop 1)
  match ended with
  | .status 0 => pure true
  | .status _ => pure false
  | .signal n =>
    tell (quoted (words.headD "") ++ s!" terminated by signal {n}")
    pure false

/-- Ask a condition of a file. -/
def Criterion.ask (start : Starter) (m : Machine) (f : Met) (s : Searching) :
    Criterion → Effect (Bool × Searching)
  | .constant holds => pure (holds, s)
  | .named p folding =>
    let last := if f.file.name.toList.all (· == '/') then "/" else f.last
    pure (p.accepts (if folding then last.toLower else last).toList, s)
  | .located p folding =>
    pure (p.accepts (if folding then f.file.name.toLower else f.file.name).toList, s)
  | .linked p folding =>
    match f.file.entry with
    | .link target =>
      let text := octets target
      pure (p.accepts (if folding then text.toLower else text).toList, s)
    | _ => pure (false, s)
  | .fits e folding =>
    let subject : Regular.Subject := ⟨(unitsOf f.file.name).toArray, folding, false⟩
    pure ((e.run subject [⟨0, []⟩]).any fun spot => spot.place = subject.text.size, s)
  | .kind letters other =>
    let file := if !other then f.file else
      match f.file.entry with
      | .link _ => (m.listed true f.file.name).toOption.getD f.file
      | _ => (m.listed false f.file.name).toOption.getD f.file
    pure (letters.contains (if file.kindLetter == '-' then 'f' else file.kindLetter), s)
  | .empty =>
    pure (match f.file.entry with
      | .directory inside => inside.isEmpty
      | .file content _ => content.size == 0
      | _ => false, s)
  | .size r n unit => pure (r.holds ((f.file.size + unit - 1) / unit : Nat) n, s)
  | .mode sign bits =>
    let mode := f.file.attributes.mode
    pure (if sign == '-' then mode &&& bits == bits
      else if sign == '/' then bits = 0 || mode &&& bits != 0 else mode == bits, s)
  | .newer time => pure (decide (time < f.file.attributes.changed), s)
  | .age r n unit isCeiled =>
    let age := m.time - f.file.attributes.changed
    pure (if isCeiled then
        (match r with
          | .less => age < n * unit
          | .equal => unit * (n - 1) ≤ age && age < unit * n
          | .greater => n * unit < age)
      else r.holds (age / unit) n, s)
  | .links r n => pure (r.holds f.file.links n, s)
  | .serial r n => pure (r.holds f.file.serial n, s)
  | .owned byUs => pure (byUs, s)
  | .usable letter =>
    pure (letter != 'x' || f.file.entry.isDirectory || f.file.isRunnable ||
      (match m.listed true f.file.name with
        | .ok g => g.isRunnable || g.entry.isDirectory
        | .error _ => false), s)
  | .same path => pure (f.file.places.contains path, s)
  | .shown ending into => do
    into.write (f.file.name ++ ending)
    pure (true, s)
  | .written form into => do
    into.write (writeFound m f (form.length + 1) form.toList)
    pure (true, s)
  | .listed into => do
    into.write (longLine m.time f.file)
    pure (true, s)
  | .runs words inside asking => do
    let name := if inside then (if f.last == "/" then "/" else "./" ++ f.last) else f.file.name
    let words := words.map (withName name)
    let goes ← if asking then do
        complain ("< " ++ words.headD "" ++ s!" ... {f.file.name} > ? ")
        let (line, n, _) := takeLine true (← remaining 0) [] 0
        consume 0 n
        pure (match line with
          | (c, _) :: _ => c == 'y' || c == 'Y'
          | [] => false)
      else pure true
    if goes then
      pure (← runFor start (if inside then some (frontOf f.file.name) else none) words, s)
    else pure (false, s)
  | .gathered number => pure (true, { s with kept := s.kept ++ [(number, f.file.name)] })
  | .deleted => do
    if f.file.name == "." then pure (true, s)
    else
      match (← get).tree.find f.file.path with
      | .ok (.directory (_ :: _)) =>
        tell s!"cannot delete {quoted f.file.name}: Directory not empty"
        pure (false, { s with isFine := false })
      | .ok _ =>
        removeAt f.file.path
        pure (true, s)
      | .error fault =>
        tell s!"cannot delete {quoted f.file.name}: {fault.text}"
        pure (false, { s with isFine := false })
  | .pruned => pure (true, { s with isPruned := true })
  | .stopped => pure (true, { s with isStopped := true })
  | .negation c => do
    let (result, s) ← c.ask start m f s
    pure (!result, s)
  | .both a b => do
    let (result, s) ← a.ask start m f s
    if result && !s.isStopped then b.ask start m f s else pure (false, s)
  | .either a b => do
    let (result, s) ← a.ask start m f s
    if result || s.isStopped then pure (true, s) else b.ask start m f s
  | .chain a b => do
    let (_, s) ← a.ask start m f s
    if s.isStopped then pure (false, s) else b.ask start m f s

/-- The file with a name, as a search sees it. -/
def FileSearch.file (q : FileSearch) (m : Machine) (isOperand : Bool) (name : String) : Except Fault Listed :=
  if q.links == .all || (isOperand && q.links == .operands) then
    match m.listed true name with
    | .ok f => .ok f
    | .error _ => m.listed false name
  else m.listed false name

/-- Go through a file and what lies below it.  The number bounds how deep that is. -/
def FileSearch.visit (q : FileSearch) (start : Starter) : Nat → Met → Searching → Effect Searching
  | 0, _, s => pure s
  | fuel + 1, f, s => do
    let askHere (s : Searching) : Effect Searching := do
      if f.depth < q.least || s.isStopped then pure s
      else
        let m ← get
        let f := match q.file m (f.depth = 0) f.file.name with
          | .ok file => { f with file := file }
          | .error _ => f
        let (_, s) ← q.criterion.ask start m f s
        pure s
    let s := { s with isPruned := false }
    let s ← if q.fromBelow then pure s else askHere s
    let descends := f.file.entry.isDirectory && f.depth < q.most && !s.isStopped && (q.fromBelow || !s.isPruned)
    let s ←
      if !descends then pure s
      else
        let m ← get
        match m.tree.find f.file.path with
        | .error fault =>
          tell s!"{quoted f.file.name}: {fault.text}"
          pure { s with isFine := false }
        | .ok entry =>
          let names := (namedEntries entry).map Prod.fst
          names.foldlM (fun s inner => do
            if s.isStopped then pure s
            else
              let name := nameWithin f.file.name inner
              match q.file (← get) false name with
              | .ok file => q.visit start fuel ⟨f.origin, f.depth + 1, file⟩ s
              | .error fault =>
                if (← get).tree.find (f.file.path.child (textOf inner)) |>.isOk then
                  tell s!"{quoted name}: {fault.text}"
                pure s) s
    if q.fromBelow then askHere s else pure s

/-- How many words a program can be given at once. -/
def wordLimit : Nat := 131072

/-- Run the programs that are run for many files. -/
def FileSearch.runPrograms (q : FileSearch) (start : Starter) (s : Searching) : Effect Searching :=
  q.programs.zipIdx.foldlM (fun s ((words, inside), number) => do
    let names := (s.kept.filter fun (n, _) => n = number).map Prod.snd
    if names.isEmpty then pure s
    else if inside then
      let places := (names.map frontOf).eraseDups
      let results ← places.mapM fun place =>
        runFor start (some place)
          (words ++ (names.filter fun name => frontOf name == place).map fun name => "./" ++ baseOf name)
      pure { s with isFine := s.isFine && results.all id }
    else
      let isGood ← runFor start none (words ++ names)
      pure { s with isFine := s.isFine && isGood }) s

/-- Take the options off the words of a search that stand in front of the starting points. -/
def takeFindOptions : Nat → FindLinks → List String → Except String (FindLinks × List String × List String)
  | 0, links, words => .ok (links, [], words)
  | fuel + 1, links, words =>
    match words with
    | "-P" :: rest => takeFindOptions fuel .none rest
    | "-H" :: rest => takeFindOptions fuel .operands rest
    | "-L" :: rest => takeFindOptions fuel .all rest
    | "--" :: rest => .ok (links, [], rest)
    | ["-D"] => .error "Missing argument after the -D option."
    | "-D" :: flag :: rest => do
      let known := ["exec", "opt", "rates", "search", "stat", "time", "tree", "all", "help"]
      let (links, noted, rest) ← takeFindOptions fuel links rest
      pure (links, (if known.contains flag then [] else ["Ignoring unrecognised debug flag " ++ quoted flag]) ++
        noted, rest)
    | word :: rest =>
      if word.startsWith "-O" && word.length = 3 && (word.drop 2).toString.toNat?.isSome then
        takeFindOptions fuel links rest
      else .ok (links, [], words)
    | [] => .ok (links, [], [])

/-- Whether a word begins the condition of a search. -/
def beginsExpression (word : String) : Bool :=
  (word.startsWith "-" && 1 < word.length) || word == "(" || word == "!"

/-- Look for files. -/
def findProgram (start : Starter) (arguments : List String) : Effect Nat := do
  match takeFindOptions (arguments.length + 1) .none arguments with
  | .error message => failed message 1
  | .ok (links, noted, words) =>
    noted.forM tell
    let places := words.takeWhile (!beginsExpression ·)
    let search : FileSearch := ⟨links, 0, treeDepth, false, .constant true, []⟩
    let reading : FindReading := ⟨search, [], .basic, true, none, false⟩
    match ← readFindMarks (2 * words.length + 2) reading (words.drop places.length) with
    | .error message => failed message 1
    | .ok r =>
      match readFindExpression r.marks with
      | .error message => failed message 1
      | .ok c =>
        c.warnings.forM tell
        let c := if c.acts then c else .both c (.shown "\n" .output)
        let q := { r.search with criterion := c }
        let s ← (if places.isEmpty then ["."] else places).foldlM (fun (s : Searching) place => do
          if s.isStopped then pure s
          else
            match q.file (← get) true place with
            | .error fault =>
              tell s!"{quoted place}: {fault.text}"
              pure { s with isFine := false }
            | .ok file => q.visit start (treeDepth + 1) ⟨place, 0, file⟩ s) ⟨true, false, false, []⟩
        let s ← q.runPrograms start s
        pure (if s.isFine then 0 else 1)

end Conformance.Shell
