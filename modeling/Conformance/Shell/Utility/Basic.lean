import Conformance.Shell.Builtin

/-!
# What programs have in common

Options and operands of a program that the shell can start, the messages that programs write, the files
and lines that they read, and lengths of time.
-/

namespace Conformance.Shell

open Effect

/-! ## Messages -/

/-- A name with marks around it as messages have them that speak of any argument. -/
def quoted (text : String) : String :=
  octets (String.singleton (Char.ofNat 0x2018)) ++ text ++ octets (String.singleton (Char.ofNat 0x2019))

/-- Whether a character makes it necessary to quote the name of a file. -/
def needsQuotes (c : Char) : Bool :=
  " !\"$&'()*;<=>?[\\^\x60|".toList.contains c

/-- Whether a unit of a name can be shown as it is. -/
def isShown : Except Char Char → Bool
  | .ok c => 32 ≤ c.toNat && !(127 ≤ c.toNat && c.toNat < 160)
  | .error _ => false

/-- A byte that cannot be shown, as it is written in a name. -/
def escapedByte (c : Char) : String :=
  match [('\x07', 'a'), ('\x08', 'b'), ('\x0c', 'f'), ('\n', 'n'), ('\r', 'r'), ('\t', 't'),
      ('\x0b', 'v')].lookup c with
  | some letter => String.ofList ['\\', letter]
  | none => "\\" ++ octalText 3 c.toNat

/-- The inside of a name in single quotes, given whether bytes that cannot be shown stand in front. -/
def quotedInside : Bool → List (Except Char Char) → String
  | _, [] => ""
  | isEscaped, unit :: rest =>
    if isShown unit then
      match unit with
      | .ok '\'' => "'\\''" ++ quotedInside false rest
      | .ok c | .error c =>
        (if isEscaped then "''" else "") ++ octets (String.singleton c) ++ quotedInside false rest
    else
      let bytes := match unit with
        | .ok c => octets (String.singleton c)
        | .error c => String.singleton c
      (if isEscaped then "" else "'$'") ++ String.join (bytes.toList.map escapedByte) ++ quotedInside true rest

/-- The name of a file in quotes. -/
def quotedName (name : String) : String :=
  let units := charactersOf name
  let isPlain := units.all isShown && !name.toList.any fun c => "\"$\\\x60!".toList.contains c
  if isPlain && name.toList.contains '\'' then "\"" ++ name ++ "\"" else "'" ++ quotedInside false units ++ "'"

/-- The name of a file, in quotes where they are necessary. -/
def shownName (name : String) : String :=
  let isSpecial := name.isEmpty || name == "\x7b" || name == "\x7d" || name.startsWith "#" ||
    name.startsWith "~" || name.toList.any needsQuotes || !(charactersOf name).all isShown
  if isSpecial then quotedName name else name

/-- Write a message of the program that is running. -/
def tell (message : String) : Effect Unit := do
  complain ((← process).name ++ ": " ++ message ++ "\n")

/-- Say that a program has been called in a wrong way. -/
def misused (message : String) (status : Nat) : Effect Nat := do
  let name := (← process).name
  if !message.isEmpty then tell message
  complain s!"Try '{name} --help' for more information.\n"
  pure status

/-! ## Options -/

/-- The options and operands of a program, in their order. -/
structure Given where
  options : List (Char × String)
  operands : List String

namespace Given

/-- Whether an option is given. -/
def has (g : Given) (letter : Char) : Bool :=
  g.options.any fun (c, _) => c == letter

/-- The argument of an option; the last one counts. -/
def get? (g : Given) (letter : Char) : Option String :=
  g.options.reverse.lookup letter

/-- The last given of some options. -/
def last? (g : Given) (letters : List Char) : Option Char :=
  (g.options.reverse.find? fun (c, _) => letters.contains c).map Prod.fst

end Given

/-- What options a program has.  Options that have only a long name are known by a letter nobody can give. -/
structure Grammar where
  /-- Letters of options without an argument. -/
  plain : List Char
  /-- Letters of options with an argument. -/
  taking : List Char
  /-- Letters of options whose argument, if there is one, is joined to them. -/
  joining : List Char
  /-- Long names with the letters that they stand for. -/
  long : List (String × Char)
  /-- Whether no options are looked for behind the first operand. -/
  inOrder : Bool

/-- The letters of a description: one colon stands behind those that take an argument, and two behind those
to which it is joined. -/
def readLettersOf : List Char → List Char × List Char × List Char
  | c :: ':' :: ':' :: rest =>
    let (plain, taking, joining) := readLettersOf rest
    (plain, taking, c :: joining)
  | c :: ':' :: rest =>
    let (plain, taking, joining) := readLettersOf rest
    (plain, c :: taking, joining)
  | c :: rest =>
    let (plain, taking, joining) := readLettersOf rest
    (c :: plain, taking, joining)
  | [] => ([], [], [])

/-- The options that a description names.  A plus sign in front of it ends them at the first operand. -/
def Grammar.of (description : String) (long : List (String × Char)) : Grammar :=
  let (inOrder, letters) := match description.toList with
    | '+' :: rest => (true, rest)
    | rest => (false, rest)
  let (plain, taking, joining) := readLettersOf letters
  ⟨plain, taking, joining, long, inOrder⟩

/-- Read letters behind a dash; the answer has what is left of the further arguments. -/
def readLetters (grammar : Grammar) :
    List Char → List String → Except String (List (Char × String) × List String)
  | [], rest => .ok ([], rest)
  | c :: letters, rest =>
    if grammar.taking.contains c then
      if letters.isEmpty then
        match rest with
        | argument :: rest => .ok ([(c, argument)], rest)
        | [] => .error s!"option requires an argument -- '{c}'"
      else .ok ([(c, String.ofList letters)], rest)
    else if grammar.joining.contains c then .ok ([(c, String.ofList letters)], rest)
    else if grammar.plain.contains c then
      (readLetters grammar letters rest).map fun (more, rest) => ((c, "") :: more, rest)
    else .error s!"invalid option -- '{c}'"

/-- The long options that a name can stand for: the one that has it, or those that begin with it. -/
def Grammar.candidates (grammar : Grammar) (name : String) : List (String × Char) :=
  match grammar.long.filter fun (full, _) => full == name with
  | [] => grammar.long.filter fun (full, _) => full.startsWith name
  | exact => exact

/-- Read an option with a long name; the answer has what is left of the further arguments. -/
def readLong (grammar : Grammar) (text : String) (rest : List String) :
    Except String (List (Char × String) × List String) :=
  let (name, value) := splitAssignment text
  match grammar.candidates name with
  | [] => .error s!"unrecognized option '--{text}'"
  | (full, c) :: more =>
    if more.any fun (_, d) => d != c then
      let shown := ((full, c) :: more).map fun (full, _) => s!" '--{full}'"
      .error (s!"option '--{text}' is ambiguous; possibilities:" ++ String.join shown)
    else if grammar.taking.contains c then
      match value, rest with
      | some v, _ => .ok ([(c, v)], rest)
      | none, argument :: rest => .ok ([(c, argument)], rest)
      | none, [] => .error s!"option '--{full}' requires an argument"
    else if grammar.joining.contains c then .ok ([(c, value.getD "")], rest)
    else if value.isSome then .error s!"option '--{full}' doesn't allow an argument"
    else .ok ([(c, "")], rest)

/-- Read arguments.  The number bounds how many there are. -/
def readGiven (grammar : Grammar) : Nat → List String → Except String Given
  | 0, _ => .ok ⟨[], []⟩
  | _ + 1, [] => .ok ⟨[], []⟩
  | fuel + 1, argument :: rest =>
    match argument.toList with
    | ['-', '-'] => .ok ⟨[], rest⟩
    | '-' :: '-' :: name => do
      let (options, rest) ← readLong grammar (String.ofList name) rest
      let more ← readGiven grammar fuel rest
      pure { more with options := options ++ more.options }
    | '-' :: c :: letters => do
      let (options, rest) ← readLetters grammar (c :: letters) rest
      let more ← readGiven grammar fuel rest
      pure { more with options := options ++ more.options }
    | _ =>
      if grammar.inOrder then .ok ⟨[], argument :: rest⟩
      else (readGiven grammar fuel rest).map fun more =>
        { more with operands := argument :: more.operands }

/-- Read the arguments of a program whose options are described. -/
def Given.read (description : String) (long : List (String × Char)) (arguments : List String) :
    Except String Given :=
  readGiven (Grammar.of description long) (arguments.length + 1) arguments

/-- Read arguments and go on with them, or say what is wrong and end with a status. -/
def withGiven (description : String) (long : List (String × Char)) (status : Nat)
    (arguments : List String) (body : Given → Effect Nat) : Effect Nat :=
  match Given.read description long arguments with
  | .ok g => body g
  | .error message => misused message status

/-- Fail with a message of the program that is running, and a status. -/
def failed (message : String) (status : Nat) : Effect Nat := do
  tell message
  pure status

/-- Say that a word is none of those that an option takes, which are listed with the ones that mean the same
together. -/
def misworded (word option : String) (groups : List (List String)) (status : Nat) : Effect Nat := do
  let kind := if groups.flatten.any (·.startsWith word) then "ambiguous" else "invalid"
  tell (kind ++ " argument " ++ quoted word ++ " for " ++ quoted option)
  complain ("Valid arguments are:\n" ++
    String.join (groups.map fun group => "  - " ++ ", ".intercalate (group.map quoted) ++ "\n"))
  misused "" status

/-- The word among several that one stands for: itself, or the only one that begins with it. -/
def fullWord? (groups : List (List String)) (word : String) : Option String :=
  let words := groups.flatten
  if words.contains word then some word
  else
    match groups.filter fun group => group.any (·.startsWith word) with
    | [group] => group.find? (·.startsWith word)
    | _ => none

/-! ## Files and lines -/

/-- How many bytes are read of a device that gives zeros without end. -/
def endlessBytes : Nat := 1048576

/-- The text of a file, where a dash stands for the input, or what is wrong. -/
def readOperand? (name : String) : Effect (Except Fault String) := do
  if name == "-" || name == "/dev/stdin" then .ok <$> readAll 0
  else if name == "/dev/zero" then pure (.ok ("".pushn '\x00' endlessBytes))
  else readFile name

/-- The operands, or the input where there are none. -/
def inputs (g : Given) : List String :=
  if g.operands.isEmpty then ["-"] else g.operands

/-- Go over the texts of files; of those that cannot be read it is told why.  The answer is the status. -/
def eachInput (names : List String) (message : String → Fault → String)
    (body : String → String → Effect Unit) : Effect Nat := do
  let results ← names.mapM fun name => do
    match ← readOperand? name with
    | .ok text => body name text; pure true
    | .error fault => tell (message name fault); pure false
  pure (if results.all id then 0 else 1)

/-- The texts of files as one; of those that cannot be read it is told why.  The answer has the status. -/
def joinInputs (names : List String) (message : String → Fault → String) : Effect (String × Nat) := do
  let texts ← names.mapM fun name => do
    match ← readOperand? name with
    | .ok text => pure (some text)
    | .error fault =>
      tell (message name fault)
      pure none
  pure (String.join (texts.filterMap id), if texts.all Option.isSome then 0 else 1)

/-- What is told of a file that cannot be read: its name and the fault. -/
def nameAndFault (name : String) (fault : Fault) : String :=
  s!"{shownName name}: {fault.text}"

/-- The lines of a text with their ends; the last one may have none. -/
def wholeLines (text : String) : List String :=
  let lines := text.splitOn "\n"
  let ended := lines.dropLast.map (· ++ "\n")
  match lines.getLast? with
  | some "" | none => ended
  | some last => ended ++ [last]

/-- A line without its end. -/
def withoutBreak (line : String) : String :=
  if line.endsWith "\n" then (line.dropEnd 1).toString else line

/-- A number in a column. -/
def column (width n : Nat) : String :=
  let text := toString n
  "".pushn ' ' (width - text.length) ++ text

/-! ## Sizes -/

/-- The factor of a unit of sizes. -/
def sizeUnit? (unit : String) : Option Nat :=
  let letters := "KMGTPEZYRQ".toList
  match unit.toList with
  | [] => some 1
  | ['b'] => some 512
  | ['c'] => some 1
  | ['w'] => some 2
  | ['k'] => some 1024
  | c :: rest =>
    match letters.idxOf? (if c == 'k' then 'K' else if c == 'm' then 'M' else c), rest with
    | some n, [] | some n, ['i', 'B'] => some (List.replicate (n + 1) 1024 |>.foldl (· * ·) 1)
    | some n, ['B'] => some (List.replicate (n + 1) 1000 |>.foldl (· * ·) 1)
    | _, _ => none

/-- A size with a unit that may stand behind it. -/
def readSize? (text : String) : Option Nat :=
  let digits := text.toList.takeWhile Char.isDigit
  let unit := sizeUnit? (String.ofList (text.toList.drop digits.length))
  if digits.isEmpty then if text.isEmpty then none else unit
  else unit.map fun u => u * ((String.ofList digits).toNat?.getD 0)

/-- The greatest number that programs count with. -/
def greatestCount : Nat := 18446744073709551615

/-- A count with a unit that may stand behind it, or what is wrong with it. -/
def readCount (what text : String) : Except String Nat :=
  match (if (text.toList.headD ' ').isDigit then readSize? text else none) with
  | none => .error (s!"invalid {what}: " ++ quoted text)
  | some n =>
    if greatestCount < n then
      .error (s!"invalid {what}: " ++ quoted text ++ ": Value too large for defined data type")
    else .ok n

/-! ## Time -/

/-- The number of nanoseconds in a unit of time. -/
def unitNanoseconds? : List Char → Option Nat
  | [] | ['s'] => some 1000000000
  | ['m'] => some 60000000000
  | ['h'] => some 3600000000000
  | ['d'] => some 86400000000000
  | _ => none

/-- The number of nanoseconds in a length of time, rounded up; one without end is longer than any. -/
def nanoseconds? (text : String) : Option Nat := do
  let (x, rest) ← Fraction.take? text.toList
  let unit ← unitNanoseconds? rest
  match x with
  | .finite false num den => pure ((num * unit + den - 1) / den)
  | .finite true 0 _ => pure 0
  | .infinite false => pure (1000000000 * 1000000000 * 1000)
  | _ => none

end Conformance.Shell
