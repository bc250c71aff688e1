import Conformance.Decimal.Notation
import Conformance.Shell.Utility.Basic

/-!
# Dumps

The bytes of files are shown row by row as numbers or characters of several kinds, each row behind the place
where it stands.
-/

namespace Conformance.Shell

open Effect

/-! ## Numbers with decimal places in their machine form -/

/-- A form of numbers with decimal places: how many bytes it has, how many bits its mantissa has, whether the
first of these is written down, how few digits are tried, and how wide a column is. -/
structure FloatForm where
  size : Nat
  precision : Nat
  isExplicit : Bool
  fewest : Nat
  column : Nat
  deriving Repr, DecidableEq

namespace FloatForm

/-- Numbers of four bytes. -/
def single : FloatForm :=
  ⟨4, 24, false, 6, 15⟩

/-- Numbers of eight bytes. -/
def double : FloatForm :=
  ⟨8, 53, false, 15, 24⟩

/-- Numbers of ten bytes, which take up sixteen. -/
def extended : FloatForm :=
  ⟨16, 64, true, 18, 29⟩

/-- How many bits of the exponent there are. -/
def exponentBits (f : FloatForm) : Nat :=
  if f.isExplicit then 15 else 8 * f.size - f.precision

/-- Take a pattern of bits apart. -/
def parts (f : FloatForm) (bits : Nat) : Bool × Decimal.Parts :=
  let stored := if f.isExplicit then f.precision else f.precision - 1
  let fraction := bits % (1 <<< stored)
  let field := (bits >>> stored) % (1 <<< f.exponentBits)
  let negative := (bits >>> (stored + f.exponentBits)) % 2 == 1
  let bias : Int := (1 <<< (f.exponentBits - 1)) - 1 + (f.precision - 1)
  let hidden := if f.isExplicit then 0 else 1 <<< stored
  (negative,
    if field + 1 = 1 <<< f.exponentBits then
      if fraction % (1 <<< (f.precision - 1)) = 0 then .infinite negative else .nan
    else if field = 0 then .finite negative fraction (1 - bias)
    else if f.isExplicit && fraction < 1 <<< (f.precision - 1) then .nan
    else .finite negative (hidden + fraction) ((field : Int) - bias))

/-- What rounds to `m * 2 ^ q`. -/
def interval (f : FloatForm) (m : Nat) (q : Int) : Decimal.RoundingInterval where
  low := if m = 1 <<< (f.precision - 1) then 4 * m - 1 else 4 * m - 2
  high := 4 * m + 2
  unit := q - 2
  closed := m % 2 == 0

/-- The number of digits, from one on, with which a number reads back.  The number bounds how many more are
tried. -/
def digitsFor (f : FloatForm) (m : Nat) (q : Int) : Nat → Nat → Nat
  | 0, count => count
  | fuel + 1, count =>
    let (num, den) := Decimal.scaled m q
    let (n, e) := scientific (count - 1) num den
    if (f.interval m q).contains ⟨n, e - (count - 1 : Nat)⟩ then count else digitsFor f m q fuel (count + 1)

/-- The text of a pattern of bits, with as few digits as are needed. -/
def text (f : FloatForm) (bits : Nat) : String :=
  match f.parts bits with
  | (negative, .nan) => if negative then "-nan" else "nan"
  | (negative, .infinite _) => if negative then "-inf" else "inf"
  | (negative, .finite _ m q) =>
    let sign := if negative then "-" else ""
    let (num, den) := Decimal.scaled m q
    let first := if m < 1 <<< (f.precision - 1) then 1 else f.fewest
    sign ++ generalDigits false false (f.digitsFor m q 21 first) num den

end FloatForm

/-! ## Kinds of dumps -/

/-- What bytes are shown as. -/
inductive DumpKind
  | signed
  | unsigned
  | octal
  | hex
  | float (form : FloatForm)
  /-- Characters, those that cannot be shown by their names. -/
  | named
  /-- Characters, those that cannot be shown as they are written in programs. -/
  | escaped
  deriving Repr, DecidableEq

/-- A dump: what is shown, of how many bytes at a time, and whether the characters stand behind it. -/
structure DumpType where
  kind : DumpKind
  size : Nat
  hasText : Bool
  deriving Repr, DecidableEq

namespace DumpType

/-- How many digits a number of some bytes has in a base. -/
def digitCount (base size : Nat) : Nat :=
  (Nat.toDigits base ((1 <<< (8 * size)) - 1)).length

/-- How wide a column is. -/
def column (t : DumpType) : Nat :=
  match t.kind with
  | .signed => (Nat.toDigits 10 (1 <<< (8 * t.size - 1))).length + 1
  | .unsigned => digitCount 10 t.size
  | .octal => digitCount 8 t.size
  | .hex => digitCount 16 t.size
  | .float form => form.column
  | .named | .escaped => 3

/-- The names of the characters that cannot be shown. -/
def controlNames : List String :=
  ["nul", "soh", "stx", "etx", "eot", "enq", "ack", "bel", "bs", "ht", "nl", "vt", "ff", "cr", "so", "si",
    "dle", "dc1", "dc2", "dc3", "dc4", "nak", "syn", "etb", "can", "em", "sub", "esc", "fs", "gs", "rs", "us",
    "sp"]

/-- Whether a character has a form of its own. -/
def isGraphic (c : Char) : Bool :=
  32 ≤ c.toNat && c.toNat < 127

/-- A character by its name; only seven bits count. -/
def nameOf (c : Char) : String :=
  let n := c.toNat % 128
  if n = 127 then "del" else controlNames[n]?.getD (String.singleton (Char.ofNat n))

/-- A character as it is written in programs. -/
def escapeOf (c : Char) : String :=
  match [('\x00', '0'), ('\x07', 'a'), ('\x08', 'b'), ('\x0c', 'f'), ('\n', 'n'), ('\r', 'r'), ('\t', 't'),
      ('\x0b', 'v')].lookup c with
  | some letter => String.ofList ['\\', letter]
  | none => if isGraphic c then String.singleton c else octalText 3 c.toNat

/-- The number that bytes hold. -/
def valueOf (isBigEndian : Bool) (bytes : List Char) : Nat :=
  (if isBigEndian then bytes else bytes.reverse).foldl (fun n c => 256 * n + c.toNat) 0

/-- What is shown of the bytes at one place. -/
def shown (t : DumpType) (isBigEndian : Bool) (bytes : List Char) : String :=
  let n := valueOf isBigEndian bytes
  let digits (base : Nat) : String :=
    String.ofList (Decimal.padZeros (digitCount base t.size) (Nat.toDigits base n))
  match t.kind with
  | .signed => toString ((n : Int).bmod (1 <<< (8 * t.size)))
  | .unsigned => toString n
  | .octal => digits 8
  | .hex => digits 16
  | .float form => form.text n
  | .named => nameOf (bytes.headD '\x00')
  | .escaped => escapeOf (bytes.headD '\x00')

end DumpType

/-! ## Reading of kinds -/

/-- The number of bytes that a letter stands for. -/
def namedSizes : List (Char × Nat) :=
  [('C', 1), ('S', 2), ('I', 4), ('L', 8)]

/-- The form of numbers that a letter stands for. -/
def namedForms : List (Char × FloatForm) :=
  [('F', .single), ('D', .double), ('L', .extended)]

/-- A size in front of a text, which may be missing; nothing if it is greater than anything can be. -/
def takeDumpSize (text : List Char) : Option (Option Nat × List Char) :=
  let digits := text.takeWhile Char.isDigit
  let n := (String.ofList digits).toNat?
  if n.any (greatestCount < ·) then none else some (n, text.drop digits.length)

/-- Read one kind of dump of a text, or say what is wrong with it. -/
def readDumpKind (whole : String) (text : List Char) : Except String (DumpKind × Nat × List Char) :=
  let invalid := "invalid type string " ++ quoted whole
  let integral (kind : DumpKind) (rest : List Char) : Except String (DumpKind × Nat × List Char) :=
    match rest.head?.bind (fun c => namedSizes.lookup c), takeDumpSize rest with
    | some size, _ => .ok (kind, size, rest.drop 1)
    | none, none => .error invalid
    | none, some (none, rest) => .ok (kind, 4, rest)
    | none, some (some size, rest) =>
      if [1, 2, 4, 8].contains size then .ok (kind, size, rest)
      else .error (s!"{invalid};\nthis system doesn't provide a {size}-byte integral type")
  match text with
  | 'd' :: rest => integral .signed rest
  | 'u' :: rest => integral .unsigned rest
  | 'o' :: rest => integral .octal rest
  | 'x' :: rest => integral .hex rest
  | 'f' :: rest =>
    match rest.head?.bind (fun c => namedForms.lookup c), takeDumpSize rest with
    | some form, _ => .ok (.float form, form.size, rest.drop 1)
    | none, none => .error invalid
    | none, some (none, rest) => .ok (.float .double, 8, rest)
    | none, some (some size, rest) =>
      match [FloatForm.single, .double, .extended].find? (·.size = size) with
      | some form => .ok (.float form, size, rest)
      | none => .error (s!"{invalid};\nthis system doesn't provide a {size}-byte floating point type")
  | 'a' :: rest => .ok (.named, 1, rest)
  | 'c' :: rest => .ok (.escaped, 1, rest)
  | c :: _ => .error (s!"invalid character '{c}' in type string " ++ quoted whole)
  | [] => .error invalid

/-- Read kinds of dumps.  The number bounds how many there are. -/
def readDumpTypes (whole : String) : Nat → List Char → Except String (List DumpType)
  | 0, _ | _, [] => .ok []
  | fuel + 1, text => do
    let (kind, size, rest) ← readDumpKind whole text
    let (hasText, rest) := match rest with
      | 'z' :: rest => (true, rest)
      | rest => (false, rest)
    pure (⟨kind, size, hasText⟩ :: (← readDumpTypes whole fuel rest))

/-! ## Rows -/

/-- How dumps are laid out. -/
structure DumpPlan where
  types : List DumpType
  /-- How many bytes a row has. -/
  width : Nat
  /-- The base of the places in front of rows, and how many digits these have; none are shown without. -/
  address : Option (Nat × Nat)
  isBigEndian : Bool
  showsAll : Bool

namespace DumpPlan

/-- The text of a place. -/
def addressText (p : DumpPlan) (place : Nat) : String :=
  p.address.elim "" fun (base, digits) =>
    String.ofList (Decimal.padZeros digits (Nat.toDigits base place))

/-- The columns of a kind without blanks between them. -/
def bare (p : DumpPlan) (t : DumpType) : Nat :=
  (p.width / t.size) * t.column

/-- The width of the columns of all kinds. -/
def extent (p : DumpPlan) : Nat :=
  (p.types.map fun t => (p.width / t.size) * (t.column + 1)).foldl max 0

/-- The columns for some bytes, the number of which is a multiple of the size; the blanks that are left are
shared out among the columns. -/
def columns (p : DumpPlan) (t : DumpType) (pad fields : Nat) : Nat → List Char → List String
  | 0, _ | _, [] => []
  | left + 1, bytes =>
    let blanks := pad * (left + 1) / fields - pad * left / fields
    let text := t.shown p.isBigEndian (bytes.take t.size)
    ("".pushn ' ' (blanks + t.column - text.length) ++ text) ::
      p.columns t pad fields left (bytes.drop t.size)

/-- The part of a row for one kind. -/
def part (p : DumpPlan) (t : DumpType) (bytes : List Char) : String :=
  let fields := p.width / t.size
  let pad := p.extent - p.bare t
  let missing := (p.width - bytes.length) / t.size
  let full := bytes ++ List.replicate ((fields - missing) * t.size - bytes.length) '\x00'
  let text := if t.hasText then
      "".pushn ' ' (missing * t.column + pad * missing / fields) ++ "  >" ++
        String.ofList (bytes.map fun c => if DumpType.isGraphic c then c else '.') ++ "<"
    else ""
  String.join (p.columns t pad fields fields full) ++ text ++ "\n"

/-- A row. -/
def row (p : DumpPlan) (place : Nat) (bytes : List Char) : String :=
  let blank := "".pushn ' ' (p.address.elim 0 Prod.snd)
  String.join (p.types.zipIdx.map fun (t, i) =>
    (if i = 0 then p.addressText place else blank) ++ p.part t bytes)

/-- The rows of bytes from a place on, given the row in front of them and whether that one was left out.  The
number bounds how many rows there are. -/
def rows (p : DumpPlan) (place : Nat) (before : Option (List Char)) (isLeftOut : Bool) :
    Nat → List Char → List String
  | 0, _ => []
  | fuel + 1, bytes =>
    if bytes.isEmpty then
      [if p.address.isSome then p.addressText place ++ "\n" else ""]
    else
      let now := bytes.take p.width
      let rest := bytes.drop p.width
      let next := place + now.length
      if !p.showsAll && before == some now then
        (if isLeftOut then "" else "*\n") :: p.rows next (some now) true fuel rest
      else p.row place now :: p.rows next (some now) false fuel rest

/-- The text of a dump. -/
def text (p : DumpPlan) (place : Nat) (bytes : List Char) : String :=
  String.join (p.rows place none false (bytes.length + 1) bytes)

/-- The texts among bytes that have at least some characters and end with a zero, each behind its place.  Where
the bytes end at a limit, so does a longer text, whose place is then the one in front of it.  The number bounds
how many bytes there are. -/
def strings (p : DumpPlan) (least : Nat) (isLimited : Bool) : Nat → Nat → List Char → List String
  | 0, _, _ | _, _, [] => []
  | fuel + 1, place, bytes =>
    let found := bytes.takeWhile DumpType.isGraphic
    let shown (place : Nat) : String :=
      p.addressText place ++ (if p.address.isSome then " " else "") ++ String.ofList found ++ "\n"
    match bytes.drop found.length with
    | [] =>
      if isLimited && least < found.length then [shown (if place = 0 then greatestCount else place - 1)] else []
    | c :: rest =>
      let others := p.strings least isLimited fuel (place + found.length + 1) rest
      if c == '\x00' && least ≤ found.length then shown place :: others else others

end DumpPlan

/-! ## The program -/

/-- The long names of the options of dumps. -/
def dumpNames : List (String × Char) :=
  [("skip-bytes", 'j'), ("address-radix", 'A'), ("read-bytes", 'N'), ("format", 't'),
    ("output-duplicates", 'v'), ("strings", 'ς'), ("traditional", 'τ'), ("width", 'w'), ("endian", 'ε')]

/-- The kinds that single letters stand for. -/
def dumpShorthands : List (Char × String) :=
  [('a', "a"), ('b', "o1"), ('B', "oS"), ('c', "c"), ('D', "u4"), ('d', "u2"), ('e', "fD"), ('F', "fD"),
    ('f', "fF"), ('H', "x4"), ('X', "x4"), ('i', "dI"), ('I', "dL"), ('l', "dL"), ('L', "dL"), ('O', "o4"),
    ('o', "o2"), ('s', "d2"), ('h', "x2"), ('x', "x2")]

/-- A number in base ten, or in the base for which what stands in front of it asks, and a unit behind it. -/
def readDumpCount (text : String) : Option Nat :=
  let (base, digits) := match text.toList with
    | '0' :: 'x' :: rest | '0' :: 'X' :: rest => (16, rest)
    | '0' :: rest => (8, '0' :: rest)
    | rest => (10, rest)
  let isDigit (c : Char) : Bool := (Decimal.digitIn? base c).isSome
  let shown := digits.takeWhile isDigit
  let unit := String.ofList (digits.drop shown.length)
  if shown.isEmpty then none
  else (sizeUnit? unit).map fun u => u * Decimal.digitsValueIn base shown

/-- The place that an operand names in the old way. -/
def oldOffset? (text : String) : Option Nat :=
  let cs := if text.startsWith "+" then text.toList.drop 1 else text.toList
  let (base, digits) := match cs with
    | '0' :: 'x' :: rest => (16, rest)
    | rest => (if cs.contains '.' then 10 else 8, rest)
  let shown := digits.takeWhile fun c => (Decimal.digitIn? base c).isSome
  let n := Decimal.digitsValueIn base shown
  match shown, digits.drop shown.length with
  | [], _ => none
  | _, [] => some n
  | _, ['b'] => some (512 * n)
  | _, ['B'] => some (1024 * n)
  | _, _ => none

/-- The files and the place to begin at that operands name. -/
def dumpOperands (isOld mayOffset : Bool) : List String → List String × Option Nat
  | [operand] =>
    match if mayOffset && (isOld || operand.startsWith "+") then oldOffset? operand else none with
    | some n => ([], some n)
    | none => ([operand], none)
  | [file, operand] =>
    let first := operand.toList.headD ' '
    match if mayOffset && (isOld || first == '+' || first.isDigit) then oldOffset? operand else none with
    | some n => ([file], some n)
    | none => ([file, operand], none)
  | operands => (operands, none)

/-- The bytes of files, and whether all that are read can be; none if there is no file at all.  Files behind
those that have so many bytes are not read; something is done when the first one has been opened. -/
def dumpBytes (limit : Option Nat) (opened : Effect Unit) :
    List String → Option String → Effect (Option String × Bool)
  | [], found => pure (found, true)
  | name :: rest, found => do
    if found.isSome && limit.any (· ≤ (found.getD "").length) then pure (found, true)
    else
      let result ← readOperand? name
      let isOpen := result.toOption.isSome || (result matches .error .isDirectory)
      if isOpen && found.isNone then opened
      match result with
      | .ok text => dumpBytes limit opened rest (some (found.getD "" ++ text))
      | .error fault =>
        tell (nameAndFault name fault)
        let (found, _) ← dumpBytes limit opened rest (if isOpen then found <|> some "" else found)
        pure (found, false)

/-- The kinds of dumps that options ask for. -/
def dumpTypes (g : Given) : Except String (List DumpType) := do
  let texts := g.options.filterMap fun (letter, value) =>
    if letter == 't' then some value else dumpShorthands.lookup letter
  let found ← texts.mapM fun text => readDumpTypes text (text.length + 1) text.toList
  pure (if found.flatten.isEmpty then [⟨.octal, 2, false⟩] else found.flatten)

/-- The address that an option asks for. -/
def dumpAddress (g : Given) : Except String (Option (Nat × Nat)) :=
  match (g.get? 'A').map fun text => text.toList.headD ' ' with
  | none | some 'o' => .ok (some (8, 7))
  | some 'd' => .ok (some (10, 7))
  | some 'x' => .ok (some (16, 6))
  | some 'n' => .ok none
  | some c => .error s!"invalid output address radix '{c}'; it must be one character from [doxn]"

/-- A count that an option gives. -/
def dumpCount (g : Given) (letter : Char) : Except String (Option Nat) :=
  match g.get? letter with
  | none => .ok none
  | some text =>
    match readDumpCount text with
    | some n => .ok (some n)
    | none => .error s!"invalid -{letter} argument '{text}'"

/-- What is asked for: kinds, address, how much is passed over, how much is shown, and how long texts are. -/
def dumpRequest (g : Given) :
    Except String (List DumpType × Option (Nat × Nat) × Option Nat × Option Nat × Option Nat) := do
  let address ← dumpAddress g
  let skipped ← dumpCount g 'j'
  let count ← dumpCount g 'N'
  let least ← match g.get? 'ς' with
    | some "" => pure (some 3)
    | some text => match readDumpCount text with
      | some n => .ok (some n)
      | none => .error s!"invalid --strings argument '{text}'"
    | none => dumpCount g 'S'
  let types ← dumpTypes g
  pure (types, address, skipped, count, least)

/-- The width of rows for sizes of which each must fit into it, and what is said of another width that is asked
for; a width of zero is a failure. -/
def dumpWidth (g : Given) (types : List DumpType) : Except String (Nat × Option String) :=
  let least := types.foldl (fun n t => Nat.lcm n t.size) 1
  let usual := if least < 16 then least * (16 / least) else least
  match g.get? 'w' with
  | none => .ok (usual, none)
  | some text =>
    let wanted? := if text.isEmpty then some 32
      else if text.toList.all Char.isDigit then text.toNat? else none
    match wanted? with
    | none => .error s!"invalid -w argument '{text}'"
    | some n =>
      if n != 0 && n % least = 0 then .ok (n, none)
      else .ok (least, some s!"warning: invalid width {n}; using {least} instead")

/-- Show the bytes of files. -/
def odProgram (arguments : List String) : Effect Nat :=
  withGiven "A:aBbcDdeFfHhIij:LlN:OoS:st:vw::Xxτε:ς::" dumpNames 1 arguments fun g => do
    let order := (g.get? 'ε').map fun word => (word, fullWord? [["little"], ["big"]] word)
    match order, dumpRequest g with
    | some (word, none), _ => misworded word "--endian" [["little"], ["big"]] 1
    | _, .error message => failed message 1
    | order, .ok (types, address, skipped, count, least) =>
      let hasTypes := g.options.any fun (letter, _) => letter == 't' || (dumpShorthands.lookup letter).isSome
      match dumpWidth g types with
      | .error message => failed message 1
      | .ok (width, warning) =>
        if least.isSome && hasTypes then failed "no type may be specified when dumping strings" 1
        else
          let isModern := (g.last? ['A', 'j', 'N', 'S', 'ς', 't', 'v', 'w']).isSome
          let isOld := g.has 'τ'
          let (files, place) := dumpOperands isOld (isOld || !isModern) g.operands
          let place := (place <|> skipped).getD 0
          let plan : DumpPlan :=
            ⟨types, width, address, (order.bind Prod.snd) == some "big", g.has 'v'⟩
          let limit := count.map (· + place)
          let (found, allRead) ← dumpBytes limit (warning.forM tell) (if files.isEmpty then ["-"] else files) none
          let status := if allRead then 0 else 1
          match found with
          | none => pure status
          | some text =>
            if text.length < place then failed "cannot skip past end of combined input" 1
            else
              if g.get? 'w' == some "0" then throw (.killed 6)
              let rest := text.toList.drop place
              let rest := (count.map rest.take).getD rest
              match least with
              | some least => say (String.join (plan.strings least (limit.any (· ≤ text.length)) (rest.length + 1) place rest))
              | none => say (plan.text place rest)
              pure status

end Conformance.Shell
