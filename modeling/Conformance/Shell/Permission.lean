/-!
# Permissions

What the owner, the group and the others may do with a file, as numbers and as letters.
-/

namespace Conformance.Shell

/-- The letters of permissions with what they stand for. -/
def permissionLetters : List (Char × Nat) :=
  [('r', 4), ('w', 2), ('x', 1)]

/-- Permissions as letters. -/
def permissionText (bits : Nat) : String :=
  String.ofList ((permissionLetters.filter fun (_, bit) => bits / bit % 2 = 1).map Prod.fst)

/-- The permissions of the owner, the group and the others, that are kept by a mask. -/
def keptPermissions (mask : Nat) : List Nat :=
  [64, 8, 1].map fun unit => 7 - mask / unit % 8

/-- A mask from the permissions that it keeps. -/
def maskOf (kept : List Nat) : Nat :=
  kept.foldl (fun mask bits => 8 * mask + (7 - bits)) 0

/-- Change the permissions that are kept as a clause asks for: for whom, a sign, and letters. -/
def changePermissions? (kept : List Nat) (clause : List Char) : Option (List Nat) :=
  let whom := clause.takeWhile "ugoa".toList.contains
  match clause.drop whom.length with
  | sign :: letters =>
    let bits := (letters.filterMap fun c => permissionLetters.lookup c).foldl (· ||| ·) 0
    let changed (old : Nat) : Nat :=
      if sign == '+' then old ||| bits
      else if sign == '-' then old &&& (7 - bits)
      else bits
    if "+-=".toList.contains sign && letters.all fun c => (permissionLetters.lookup c).isSome then
      some ((kept.zip "ugo".toList).map fun (old, who) =>
        if whom.isEmpty || whom.contains 'a' || whom.contains who then changed old else old)
    else none
  | [] => none

/-- A number in base eight. -/
def octalNumber? (text : String) : Option Nat :=
  text.toList.foldl (fun n c => do
    let n ← n
    if '0' ≤ c && c < '8' then some (8 * n + (c.toNat - 48)) else none) (some 0)

/-- A number in base eight with a number of digits at least. -/
def octalText (width n : Nat) : String :=
  let digits := String.ofList (Nat.toDigits 8 n)
  "".pushn '0' (width - digits.length) ++ digits

/-! ## Modes -/

/-- The bits of a mode: those of the owner, of the group and of the others, and three before them. -/
def modeBits : Nat := 0o7777

/-- The two bits with which a program runs as its owner or with its group. -/
def takingBits : Nat := 0o6000

/-- What is put into a mode, or taken off it. -/
inductive ModeValue
  | bits (n : Nat)
  /-- Bits, and those for running where anybody can run the file or it is a directory. -/
  | bitsOrRun (n : Nat)
  /-- What one of three has, for all of them. -/
  | like (n : Nat)
  deriving Repr, DecidableEq

/-- A change of a mode. -/
structure ModeChange where
  /-- The bits that can change; where it is not said whose they are, a mask leaves some out. -/
  affected : Option Nat
  sign : Char
  value : ModeValue
  /-- The bits that are spoken of, apart from which a directory keeps two. -/
  mentioned : Nat
  deriving Repr, DecidableEq

/-- The bits that belong to whom letters name. -/
def whoBits (letters : List Char) : Nat :=
  letters.foldl (fun bits c => bits ||| match c with
    | 'u' => 0o4700
    | 'g' => 0o2070
    | 'o' => 0o1007
    | _ => modeBits) 0

/-- The bits of one permission for all. -/
def letterBits? : Char → Option Nat
  | 'r' => some 0o444
  | 'w' => some 0o222
  | 'x' => some 0o111
  | 's' => some takingBits
  | 't' => some 0o1000
  | 'X' => some 0
  | _ => none

/-- Read what stands behind a sign, given whose bits it is about, and what follows. -/
def readModeValue (affected : Option Nat) (sign : Char) (text : List Char) :
    Option (ModeChange × List Char) :=
  let change (value : ModeValue) (n : Nat) : ModeChange :=
    ⟨affected, sign, value, match affected with
      | some bits => bits &&& n
      | none => n⟩
  match text with
  | 'u' :: rest => some (change (.like 0o700) 0o700, rest)
  | 'g' :: rest => some (change (.like 0o070) 0o070, rest)
  | 'o' :: rest => some (change (.like 0o007) 0o007, rest)
  | text =>
    let digits := text.takeWhile fun c => '0' ≤ c && c < '8'
    if digits.isEmpty then
      let letters := text.takeWhile fun c => (letterBits? c).isSome
      let n := (letters.filterMap letterBits?).foldl (· ||| ·) 0
      let value := if letters.contains 'X' then ModeValue.bitsOrRun n else .bits n
      some (change value n, text.drop letters.length)
    else
      let rest := text.drop digits.length
      match octalNumber? (String.ofList digits) with
      | some n =>
        if affected.isSome || modeBits < n || (rest.head?.any (· != ',')) then none
        else some (⟨some modeBits, sign, .bits n, modeBits⟩, rest)
      | none => none

/-- Read the changes for one group of bits, and what follows.  The number bounds how many there are. -/
def readModeSigns (affected : Option Nat) : Nat → List Char → Option (List ModeChange × List Char)
  | fuel + 1, sign :: rest =>
    if "=+-".toList.contains sign then do
      let (change, rest) ← readModeValue affected sign rest
      match readModeSigns affected fuel rest with
      | some (more, rest) => some (change :: more, rest)
      | none => some ([change], rest)
    else none
  | _, _ => none

/-- Read changes with commas between them.  The number bounds how many there are. -/
def readModeClauses : Nat → List Char → Option (List ModeChange)
  | 0, _ => none
  | fuel + 1, text => do
    let whom := text.takeWhile "ugoa".toList.contains
    let affected := if whom.isEmpty then none else some (whoBits whom)
    let (changes, rest) ← readModeSigns affected (text.length + 1) (text.drop whom.length)
    match rest with
    | [] => some changes
    | ',' :: rest => (readModeClauses fuel rest).map (changes ++ ·)
    | _ => none

/-- Read a mode: a number, or changes. -/
def readMode? (text : String) : Option (List ModeChange) :=
  if (text.toList.headD ' ').isDigit then
    match octalNumber? text with
    | some n =>
      if modeBits < n then none
      else some [⟨some modeBits, '=', .bits n,
        if text.length < 5 then (n &&& takingBits) ||| 0o1777 else modeBits⟩]
    | none => none
  else readModeClauses (text.length + 1) text.toList

/-- The bits of a value, given a mode that it may look at. -/
def ModeValue.bitsFor (isDirectory : Bool) (mode : Nat) : ModeValue → Nat
  | .bits n => n
  | .bitsOrRun n => if isDirectory || mode &&& 0o111 != 0 then n ||| 0o111 else n
  | .like n =>
    let kept := mode &&& n
    [0o444, 0o222, 0o111].foldl (fun all bits => if kept &&& bits != 0 then all ||| bits else all) 0

/-- A mode after a change, where a mask leaves out some of the bits if nothing is said of whose they are. -/
def ModeChange.apply (isDirectory : Bool) (mask mode : Nat) (c : ModeChange) : Nat :=
  let spared := if isDirectory then takingBits - (takingBits &&& c.mentioned) else 0
  let reach := c.affected.getD (modeBits - (mask &&& modeBits))
  let value := c.value.bitsFor isDirectory mode &&& reach &&& (modeBits - spared)
  match c.sign with
  | '+' => mode ||| value
  | '-' => mode &&& (modeBits - value)
  | _ =>
    let kept := match c.affected with
      | some bits => (modeBits - (bits &&& modeBits)) ||| spared
      | none => spared
    (mode &&& kept) ||| value

/-- A mode after several changes. -/
def applyModeChanges (isDirectory : Bool) (mask mode : Nat) (changes : List ModeChange) : Nat :=
  changes.foldl (ModeChange.apply isDirectory mask) mode

/-- A mode as letters, three for the owner, the group and the others each. -/
def modeText (mode : Nat) : String :=
  let triple (unit : Nat) (taking : Bool) (small large : Char) : List Char :=
    let bits := mode / unit % 8
    let run := bits % 2 = 1
    [if 4 ≤ bits then 'r' else '-', if bits / 2 % 2 = 1 then 'w' else '-',
      if taking then if run then small else large else if run then 'x' else '-']
  String.ofList (triple 64 (mode &&& 0o4000 != 0) 's' 'S' ++ triple 8 (mode &&& 0o2000 != 0) 's' 'S' ++
    triple 1 (mode &&& 0o1000 != 0) 't' 'T')

/-! ## Small facts -/

/-- A mask is known by what it keeps. -/
theorem maskOf_keptPermissions (u g o : Nat) (hu : u < 8) (hg : g < 8) (ho : o < 8) :
    maskOf (keptPermissions (64 * u + 8 * g + o)) = 64 * u + 8 * g + o := by
  simp only [maskOf, keptPermissions, List.map_cons, List.map_nil, List.foldl_cons, List.foldl_nil]
  omega

/-- Setting all bits of a mode forgets what it was. -/
theorem apply_all (mask mode n : Nat) (h : modeBits &&& n = n) :
    ModeChange.apply false mask mode ⟨some modeBits, '=', .bits n, modeBits⟩ = n := by
  have whole : n &&& modeBits = n := by rw [Nat.and_comm, h]
  simp [ModeChange.apply, ModeValue.bitsFor, whole]

end Conformance.Shell
