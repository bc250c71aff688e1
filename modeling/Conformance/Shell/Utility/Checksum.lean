import Conformance.Shell.Digest
import Conformance.Shell.Utility.Encode

/-!
# Digests of files

The digest of a file is written in a line with its name, and lines of this kind can be checked against the
files that they name.
-/

namespace Conformance.Shell

open Effect

/-! ## Kinds of digests -/

/-- A kind of digests of files. -/
inductive DigestKind
  | bsd
  | sysv
  | crc
  | md5
  | sha1
  | sha224
  | sha256
  | sha384
  | sha512
  /-- A digest with so many bytes. -/
  | blake2b (size : Nat)
  | sm3
  deriving Repr, DecidableEq

namespace DigestKind

/-- The kinds with the words by which they are asked for. -/
def named : List (String × DigestKind) :=
  [("bsd", .bsd), ("sysv", .sysv), ("crc", .crc), ("md5", .md5), ("sha1", .sha1), ("sha224", .sha224),
    ("sha256", .sha256), ("sha384", .sha384), ("sha512", .sha512), ("blake2b", .blake2b 64), ("sm3", .sm3)]

/-- Whether a kind is one of sums, which are written in another way. -/
def isSum : DigestKind → Bool
  | .bsd | .sysv | .crc => true
  | _ => false

/-- How a kind is called in front of the name of a file. -/
def tag : DigestKind → String
  | .bsd => "BSD"
  | .sysv => "SYSV"
  | .crc => "CRC"
  | .md5 => "MD5"
  | .sha1 => "SHA1"
  | .sha224 => "SHA224"
  | .sha256 => "SHA256"
  | .sha384 => "SHA384"
  | .sha512 => "SHA512"
  | .blake2b _ => "BLAKE2b"
  | .sm3 => "SM3"

/-- The bytes of the digest. -/
def digest (kind : DigestKind) (bytes : ByteArray) : List UInt8 :=
  match kind with
  | .bsd => Digest.numberBytes true 2 (Digest.turningSum bytes)
  | .sysv => Digest.numberBytes true 2 (Digest.plainSum bytes)
  | .crc => Digest.numberBytes true 4 (Digest.crc bytes)
  | .md5 => Digest.md5 bytes
  | .sha1 => Digest.sha1 bytes
  | .sha224 => Digest.sha224 bytes
  | .sha256 => Digest.sha256 bytes
  | .sha384 => Digest.sha384 bytes
  | .sha512 => Digest.sha512 bytes
  | .blake2b size => Digest.blake2b size bytes
  | .sm3 => Digest.sm3 bytes

/-- How many bytes the digest has. -/
def size : DigestKind → Nat
  | .bsd | .sysv => 2
  | .crc => 4
  | .md5 => 16
  | .sha1 => 20
  | .sha224 => 28
  | .sha256 | .sm3 => 32
  | .sha384 => 48
  | .sha512 => 64
  | .blake2b size => size

end DigestKind

/-! ## Writing -/

/-- How digests are written. -/
structure DigestPlan where
  kind : DigestKind
  /-- Whether the kind has been asked for, or goes without saying. -/
  isChosen : Bool
  isTagged : Bool
  isBinary : Bool
  isRaw : Bool
  isBase64 : Bool
  mark : Char

/-- Whether the name of a file has characters that a line cannot have. -/
def isProblematic (name : String) : Bool :=
  name.toList.any fun c => c == '\\' || c == '\n' || c == '\r'

/-- The name of a file without the characters that a line cannot have. -/
def escapedLineName (name : String) : String :=
  String.join (name.toList.map fun
    | '\\' => "\\\\"
    | '\n' => "\\n"
    | '\r' => "\\r"
    | c => String.singleton c)

/-- The name that characters stand for which a line can have. -/
def unescapedLineName? : List Char → Option (List Char)
  | '\\' :: 'n' :: rest => (unescapedLineName? rest).map ('\n' :: ·)
  | '\\' :: 'r' :: rest => (unescapedLineName? rest).map ('\r' :: ·)
  | '\\' :: '\\' :: rest => (unescapedLineName? rest).map ('\\' :: ·)
  | '\\' :: _ => none
  | c :: rest => (unescapedLineName? rest).map (c :: ·)
  | [] => some []

/-- Write a sum with the number of blocks or bytes, and the name of the file if it is known. -/
def sumText (kind : DigestKind) (name : Option String) (bytes : ByteArray) : String :=
  let blocks (size : Nat) : Nat := (bytes.size + size - 1) / size
  let shown := (name.map (" " ++ ·)).getD ""
  match kind with
  | .bsd =>
    String.ofList (Decimal.padZeros 5 (Decimal.digits (Digest.turningSum bytes))) ++ " " ++
      column 5 (blocks 1024) ++ shown
  | .sysv => s!"{Digest.plainSum bytes} {blocks 512}{shown}"
  | _ => s!"{Digest.crc bytes} {bytes.size}{shown}"

/-- The digits of a digest. -/
def DigestPlan.digits (p : DigestPlan) (digest : List UInt8) : String :=
  if p.isBase64 then String.ofList (ByteBase.base64.encode (digest.length + 1) (digest.map charOfByte))
  else Digest.text digest

/-- The line for a file. -/
def DigestPlan.line (p : DigestPlan) (name : Option String) (bytes : ByteArray) : String :=
  let digest := p.kind.digest bytes
  let mark := String.singleton p.mark
  if p.isRaw then String.ofList (digest.map charOfByte)
  else if p.kind.isSum then sumText p.kind name bytes ++ mark
  else
    let name := name.getD "-"
    let isEscaped := p.mark == '\n' && isProblematic name
    let front := if isEscaped then "\\" else ""
    let shown := if isEscaped then escapedLineName name else name
    let digits := p.digits digest
    if p.isTagged then
      let size := match p.kind with
        | .blake2b 64 => ""
        | .blake2b size => s!"-{8 * size}"
        | _ => ""
      s!"{front}{p.kind.tag}{size} ({shown}) = {digits}{mark}"
    else s!"{front}{digits} " ++ (if p.isBinary then "*" else " ") ++ s!"{shown}{mark}"

/-- Write the lines for files. -/
def DigestPlan.write (p : DigestPlan) (operands : List String) : Effect Nat := do
  let names := if operands.isEmpty then ["-"] else operands
  eachInput names nameAndFault fun name text =>
    say (p.line (if operands.isEmpty then none else some name) (bytesOf text))

/-! ## Lines that are checked -/

/-- What a line says: the kind of digest, its digits, and the name of the file. -/
structure DigestLine where
  kind : DigestKind
  digits : String
  name : String

/-- Whether a character is a blank between the parts of a line. -/
def isLineBlank (c : Char) : Bool :=
  c == ' ' || c == '\t'

/-- Whether digits can be those of a digest. -/
def areDigestDigits (mayBeBase64 : Bool) (kind : DigestKind) (digits : List Char) : Bool :=
  let encoded := (kind.size + 2) / 3 * 4
  if mayBeBase64 && digits.length = encoded then
    let digitCount := (8 * kind.size + 5) / 6
    (digits.take digitCount).all ByteBase.base64.digits.toList.contains &&
      (digits.drop digitCount).all (· == '=')
  else
    digits.length = 2 * kind.size && digits.all fun c =>
      c.isDigit || "abcdefABCDEF".toList.contains c

/-- The name of a file in a line. -/
def lineName? (isEscaped : Bool) (name : List Char) : Option String :=
  if isEscaped then (unescapedLineName? name).map String.ofList else some (String.ofList name)

/-- Read a line behind the name of the kind and a bracket. -/
def readTagged? (mayBeBase64 isEscaped : Bool) (kind : DigestKind) (text : List Char) : Option DigestLine := do
  let behind := (text.reverse.takeWhile (· != ')')).reverse
  if behind.length = text.length then none
  else
    let name ← lineName? isEscaped (text.take (text.length - behind.length - 1))
    match behind.dropWhile isLineBlank with
    | '=' :: rest =>
      let digits := rest.dropWhile isLineBlank
      if areDigestDigits mayBeBase64 kind digits then some ⟨kind, String.ofList digits, name⟩ else none
    | _ => none

/-- The kind that stands in front of a line, and what follows it; the size may be given. -/
def takeTag? (kinds : List DigestKind) (text : List Char) : Option (Option DigestKind × List Char) := do
  let kind ← kinds.find? fun kind => kind.tag.toList.isPrefixOf text
  let rest := text.drop kind.tag.length
  match kind, rest with
  | .blake2b _, '-' :: rest =>
    let digits := rest.takeWhile Char.isDigit
    let bits := (String.ofList digits).toNat?.getD 0
    some (if 0 < bits && bits ≤ 512 && bits % 8 = 0 then some (.blake2b (bits / 8)) else none,
      rest.drop digits.length)
  | kind, rest => some (some kind, rest)

/-- Read a line that is checked.  The digits may be followed by one blank in front of the name, if all lines are
of this form; the answer says whether this one is. -/
def readDigestLine? (p : DigestPlan) (tags : List DigestKind) (mayBeBase64 mayDetect : Bool)
    (isShort : Option Bool) (line : String) : Option (DigestLine × Option Bool) := do
  let text := line.toList.dropWhile isLineBlank
  let (isEscaped, text) := match text with
    | '\\' :: rest => (true, rest)
    | rest => (false, rest)
  match takeTag? tags text with
  | some (kind, rest) =>
    let kind ← kind
    let rest := match rest with
      | ' ' :: rest => rest
      | rest => rest
    match rest with
    | '(' :: rest => (readTagged? mayBeBase64 isEscaped kind rest).map fun found => (found, isShort)
    | _ => none
  | none =>
    if !p.isChosen then none
    else
      let digits := text.takeWhile fun c => !isLineBlank c
      let kind := match p.kind with
        | .blake2b size =>
          if mayDetect && 2 ≤ digits.length && digits.length % 2 = 0 && digits.length ≤ 128 then
            .blake2b (digits.length / 2)
          else .blake2b size
        | kind => kind
      match text.drop digits.length with
      | _ :: rest =>
        if !areDigestDigits mayBeBase64 kind digits || text.length < digits.length + 2 then none
        else
          let found (name : List Char) (isShort : Option Bool) : Option (DigestLine × Option Bool) :=
            (lineName? isEscaped name).map fun name => (⟨kind, String.ofList digits, name⟩, isShort)
          match rest, isShort with
          | [_], some false => none
          | [c], _ => found [c] (some true)
          | c :: name, some true => found (c :: name) (some true)
          | ' ' :: name, _ | '*' :: name, _ => found name (some false)
          | _, some false => none
          | name, _ => found name (some true)
      | [] => none

/-! ## Checking -/

/-- How lines are checked. -/
structure CheckPlan where
  ignoresMissing : Bool
  isQuiet : Bool
  isSilent : Bool
  warns : Bool
  isStrict : Bool

/-- What has been found in the lines of a file. -/
structure CheckCounts where
  right : Nat
  wrong : Nat
  unread : Nat
  malformed : Nat

/-- Check the file that a line names; the answer has the counts with this one. -/
def checkDigestLine (c : CheckPlan) (p : DigestPlan) (line : DigestLine) (n : CheckCounts) :
    Effect CheckCounts := do
  let shown := if isProblematic line.name then "\\" ++ escapedLineName line.name else line.name
  match ← readOperand? line.name with
  | .error fault =>
    if c.ignoresMissing && fault == .notFound then pure n
    else
      tell (nameAndFault line.name fault)
      if !c.isSilent then say s!"{shown}: FAILED open or read\n"
      pure { n with unread := n.unread + 1 }
  | .ok text =>
    let digest := line.kind.digest (bytesOf text)
    let isHex := line.digits.length = 2 * line.kind.size
    let isRight := if isHex then line.digits.map Char.toLower == Digest.text digest
      else line.digits == { p with isBase64 := true : DigestPlan }.digits digest
    if !c.isSilent && !(isRight && c.isQuiet) then
      say (s!"{shown}: " ++ (if isRight then "OK\n" else "FAILED\n"))
    pure (if isRight then { n with right := n.right + 1 } else { n with wrong := n.wrong + 1 })

/-- A number of things in a warning. -/
def countedWarning (n : Nat) (one many : String) : List String :=
  if n = 0 then [] else [s!"WARNING: {n} " ++ if n = 1 then one else many]

/-- Say what has been found in the lines of a file, and whether it is all right. -/
def concludeCheck (c : CheckPlan) (name : String) (isSound : Bool) (n : CheckCounts) : Effect Bool := do
  if !isSound then
    tell s!"{name}: no properly formatted checksum lines found"
    pure false
  else
    if !c.isSilent then
      let warnings := countedWarning n.malformed "line is improperly formatted" "lines are improperly formatted" ++
        countedWarning n.unread "listed file could not be read" "listed files could not be read" ++
        countedWarning n.wrong "computed checksum did NOT match" "computed checksums did NOT match" ++
        (if c.ignoresMissing && n.right = 0 then [s!"{name}: no file was verified"] else [])
      warnings.forM tell
    pure (0 < n.right && n.wrong = 0 && n.unread = 0 && (!c.isStrict || n.malformed = 0))

/-- Check the lines of files.  All untagged lines must be of the form of the first of them. -/
def checkDigests (c : CheckPlan) (p : DigestPlan) (tags : List DigestKind) (mayBeBase64 mayDetect : Bool)
    (names : List String) : Effect Nat := do
  let (_, allRight) ← names.foldlM (fun (s : Option Bool × Bool) name => do
    let (isShort, allRight) := s
    let isInput := name == "-"
    let shown := if isInput then "'standard input'" else shownName name
    match ← readOperand? name with
    | .error .isDirectory =>
      tell s!"{shown}: read error"
      pure (isShort, false)
    | .error fault =>
      tell (nameAndFault name fault)
      pure (isShort, false)
    | .ok text =>
      let start : Option Bool × Bool × CheckCounts := (isShort, false, ⟨0, 0, 0, 0⟩)
      let (isShort, isSound, n) ← (linesOf text).zipIdx.foldlM (fun (s : Option Bool × Bool × CheckCounts) (line, i) => do
        let (isShort, isSound, n) := s
        let line := if line.endsWith "\r" then (line.dropEnd 1).toString else line
        if line.isEmpty || line.startsWith "#" then pure s
        else
          match readDigestLine? p tags mayBeBase64 mayDetect isShort line with
          | some (found, isShort) =>
            if isInput && found.name == "-" then
              pure (isShort, isSound, { n with malformed := n.malformed + 1 })
            else do
              pure (isShort, true, ← checkDigestLine c p found n)
          | none =>
            if c.warns then tell s!"{shown}: {i + 1}: improperly formatted {p.kind.tag} checksum line"
            pure (isShort, isSound, { n with malformed := n.malformed + 1 })) start
      let isRight ← concludeCheck c shown isSound n
      pure (isShort, allRight && isRight)) (none, true)
  pure (if allRight then 0 else 1)

/-! ## The programs -/

/-- The long names of the options of programs that write digests. -/
def digestNames : List (String × Char) :=
  [("binary", 'b'), ("check", 'c'), ("ignore-missing", 'ι'), ("quiet", 'κ'), ("status", 'σ'), ("strict", 'τ'),
    ("tag", 'Τ'), ("text", 't'), ("warn", 'w'), ("zero", 'z')]

/-- The options that only count where lines are checked, with the words for them. -/
def checkOnly : List (Char × String) :=
  [('ι', "ignore-missing"), ('σ', "status"), ('w', "warn"), ('κ', "quiet"), ('τ', "strict")]

/-- What is wrong with the options that are given together. -/
def digestMisuse? (g : Given) (isTagged : Bool) (mayTag : Bool) : Option String :=
  let isChecking := g.has 'c'
  let surface := g.last? ['b', 't']
  let isText := surface == some 't'
  if isTagged && isText && mayTag then some "--text mode is only supported with --untagged"
  else if isTagged && isText then some "--tag does not support --text mode"
  else if g.has 'z' && isChecking then some "the --zero option is not supported when verifying checksums"
  else if isTagged && isChecking && !mayTag then
    some "the --tag option is meaningless when verifying checksums"
  else if surface.isSome && isChecking then
    some "the --binary and --text options are meaningless when verifying checksums"
  else if isChecking then none
  else
    let effective := g.last? ['σ', 'w', 'κ']
    (checkOnly.find? fun (letter, _) =>
      if ['σ', 'w', 'κ'].contains letter then effective == some letter else g.has letter).map fun (_, word) =>
        s!"the --{word} option is meaningful only when verifying checksums"

/-- How options ask for lines to be checked. -/
def checkPlan (g : Given) : CheckPlan :=
  let last := g.last? ['σ', 'w', 'κ']
  ⟨g.has 'ι', last == some 'κ', last == some 'σ', last == some 'w', g.has 'τ'⟩

/-- Write or check digests of one kind. -/
def runDigests (g : Given) (kind : DigestKind) : Effect Nat :=
  let p : DigestPlan := ⟨kind, true, g.has 'Τ', g.last? ['b', 't'] == some 'b', false, false,
    if g.has 'z' then '\x00' else '\n'⟩
  match digestMisuse? g (g.has 'Τ') false with
  | some message => misused message 1
  | none =>
    if g.has 'c' then checkDigests (checkPlan g) p [kind] false true (inputs g) else p.write g.operands

/-- Write or check digests of one kind. -/
def digestProgram (kind : DigestKind) (arguments : List String) : Effect Nat :=
  withGiven "bctwzικστΤ" digestNames 1 arguments fun g =>
    runDigests g kind

/-- The number of bytes that a length in bits stands for, or what is wrong with it. -/
def digestSize (text : String) : Except (List String) Nat :=
  let invalid := "invalid length: " ++ quoted text
  match if !text.isEmpty && text.toList.all Char.isDigit then text.toNat? else none with
  | none => .error [invalid]
  | some n =>
    if 512 < n then .error [invalid, "maximum digest length for " ++ quoted "BLAKE2b" ++ " is 512 bits"]
    else if n % 8 != 0 then .error [invalid, "length is not a multiple of 8"]
    else .ok (if n = 0 then 64 else n / 8)

/-- Write or check digests whose length can be chosen. -/
def b2sumProgram (arguments : List String) : Effect Nat :=
  withGiven "bctwzl:ικστΤ" (("length", 'l') :: digestNames) 1 arguments fun g => do
    match digestSize ((g.get? 'l').getD "0") with
    | .error messages =>
      messages.forM tell
      pure 1
    | .ok size => runDigests g (.blake2b size)

/-- Write or check digests of a kind that is asked for. -/
def cksumProgram (arguments : List String) : Effect Nat :=
  let names := ("length", 'l') :: ("algorithm", 'a') :: ("debug", 'δ') :: ("untagged", 'υ') :: ("raw", 'ρ') ::
    ("base64", 'β') :: digestNames
  withGiven "a:bctwzl:ικστΤδυρβ" names 1 arguments fun g => do
    let word := (g.get? 'a').getD "crc"
    match DigestKind.named.lookup word with
    | none =>
      tell ("invalid argument " ++ quoted word ++ " for " ++ quoted "--algorithm")
      complain ("Valid arguments are:\n" ++
        String.join (DigestKind.named.map fun (name, _) => "  - " ++ quoted name ++ "\n"))
      misused "" 1
    | some kind =>
      let isTagged := g.last? ['Τ', 'υ'] != some 'υ'
      match digestSize ((g.get? 'l').getD "0") with
      | .error messages =>
        messages.forM tell
        pure 1
      | .ok size =>
        let isBlake := kind matches .blake2b _
        if size != 64 && !isBlake then failed "--length is only supported with --algorithm=blake2b" 1
        else if g.has 'c' && kind.isSum && g.has 'a' then
          failed "--check is not supported with --algorithm=\x7bbsd,sysv,crc\x7d" 1
        else if g.has 'β' && g.has 'ρ' then misused "--base64 and --raw are mutually exclusive" 1
        else
          match digestMisuse? g isTagged true with
          | some message => misused message 1
          | none =>
            let kind := if isBlake then .blake2b size else kind
            let p : DigestPlan := ⟨kind, g.has 'a', isTagged, g.last? ['b', 't'] == some 'b', g.has 'ρ',
              g.has 'β', if g.has 'z' then '\x00' else '\n'⟩
            if g.has 'c' then
              let tags := if g.has 'a' then [kind]
                else (DigestKind.named.map Prod.snd).filter fun kind => !kind.isSum
              checkDigests (checkPlan g) p tags true false (inputs g)
            else if g.has 'ρ' && 1 < g.operands.length then
              failed "the --raw option is not supported with multiple files" 1
            else p.write g.operands

/-- Write sums of files. -/
def sumProgram (arguments : List String) : Effect Nat :=
  withGiven "rs" [("sysv", 's')] 1 arguments fun g =>
    let kind := if g.last? ['r', 's'] == some 's' then DigestKind.sysv else .bsd
    (⟨kind, true, false, false, false, false, '\n'⟩ : DigestPlan).write g.operands

end Conformance.Shell
