import Conformance.FileTree.Basic
import Conformance.Shell.Octets

/-!
# Patterns

Patterns of the shell: a star stands for any text, a question mark for one character and brackets for one
character of a set; anything else, and all that is quoted, stands for itself.  They are matched with texts,
trimmed off either end of them, and with the names of files.
-/

namespace Conformance.Shell

/-! ## Sets of characters -/

/-- A part of a set of characters. -/
inductive SetItem
  | range (first last : Char)
  | category (name : String)
  deriving Repr, DecidableEq

/-- The names of categories. -/
def categoryNames : List String :=
  ["alpha", "digit", "alnum", "upper", "lower", "space", "blank", "punct", "print", "graph", "cntrl",
    "xdigit"]

/-- Whether a character belongs to a named category; a name that is not known has no members. -/
def inCategory (name : String) (c : Char) : Bool :=
  let n := c.toNat
  let letter := Char.isAlpha c
  let digit := Char.isDigit c
  match name with
  | "alpha" => letter
  | "digit" => digit
  | "alnum" => letter || digit
  | "upper" => letter && n < 97
  | "lower" => letter && 97 ≤ n
  | "space" => n == 32 || (9 ≤ n && n ≤ 13)
  | "blank" => n == 32 || n == 9
  | "punct" => 33 ≤ n && n ≤ 126 && !letter && !digit
  | "print" => 32 ≤ n && n ≤ 126
  | "graph" => 33 ≤ n && n ≤ 126
  | "cntrl" => n < 32 || n == 127
  | "xdigit" => digit || ('a' ≤ c && c ≤ 'f') || ('A' ≤ c && c ≤ 'F')
  | _ => false

/-- Whether a character belongs to a part of a set. -/
def SetItem.holds (c : Char) : SetItem → Bool
  | .range first last => first ≤ c && c ≤ last
  | .category name => inCategory name c

/-- The name of a category behind a bracket and a colon, and what follows it. -/
def categoryName? (text : List Char) : Option (String × List Char) :=
  let name := text.takeWhile Char.isAlpha
  match text.drop name.length with
  | ':' :: ']' :: rest => some (String.ofList name, rest)
  | _ => none

/-! ## Patterns -/

/-- A part of a pattern. -/
inductive PatternItem
  | one (c : Char)
  | any
  | many
  | set (negated : Bool) (items : List SetItem)
  deriving Repr, DecidableEq

/-- A pattern: its parts in order. -/
abbrev Pattern := List PatternItem

/-- A character of a word that has been expanded, and whether it was quoted. -/
abbrev Marked := Char × Bool

/-- Read the items of a set up to the bracket that ends it.  A bracket at the beginning stands for
itself. -/
def readSet : Nat → List Marked → List SetItem → Option (List SetItem × List Marked)
  | 0, _, _ => none
  | fuel + 1, text, done =>
    match text with
    | [] => none
    | (']', false) :: rest =>
      if done.isEmpty then readSetItem fuel ']' rest done else some (done.reverse, rest)
    | ('[', false) :: (':', false) :: rest =>
      match categoryName? (rest.map Prod.fst) with
      | some (name, after) =>
        readSet fuel (rest.drop (rest.length - after.length)) (.category name :: done)
      | none => readSetItem fuel '[' ((':', false) :: rest) done
    | (c, _) :: rest => readSetItem fuel c rest done
where
  /-- Read a character, or a range that begins with it. -/
  readSetItem (fuel : Nat) (c : Char) (rest : List Marked) (done : List SetItem) :
      Option (List SetItem × List Marked) :=
    match rest with
    | ('-', false) :: (']', false) :: _ => readSet fuel rest (.range c c :: done)
    | ('-', false) :: (d, _) :: rest => readSet fuel rest (.range c d :: done)
    | rest => readSet fuel rest (.range c c :: done)

/-- The pattern that the characters of a word describe. -/
def readPattern : Nat → List Marked → Pattern
  | 0, _ => []
  | _ + 1, [] => []
  | fuel + 1, (c, quoted) :: rest =>
    if quoted then .one c :: readPattern fuel rest
    else
      match c with
      | '*' => .many :: readPattern fuel rest
      | '?' => .any :: readPattern fuel rest
      | '\\' =>
        match rest with
        | (d, _) :: rest => .one d :: readPattern fuel rest
        | [] => [.one '\\']
      | '[' =>
        let (negated, inside) := match rest with
          | ('!', false) :: inside | ('^', false) :: inside => (true, inside)
          | inside => (false, inside)
        match readSet (inside.length + 1) inside [] with
        | some (items, after) => .set negated items :: readPattern fuel after
        | none => .one '[' :: readPattern fuel rest
      | c => .one c :: readPattern fuel rest

/-- The pattern that the characters of a word describe. -/
def Pattern.ofMarked (text : List Marked) : Pattern :=
  readPattern (text.length + 1) text

/-- The pattern that a text describes in which nothing is quoted. -/
def Pattern.ofText (text : String) : Pattern :=
  Pattern.ofMarked (text.toList.map fun c => (c, false))

/-- Whether a pattern describes more than one text. -/
def Pattern.isOpen (p : Pattern) : Bool :=
  p.any fun
    | .one _ => false
    | _ => true

/-! ## Matching -/

/-- Whether a part of a pattern other than a star stands for a character. -/
def PatternItem.holds (item : PatternItem) (c : Char) : Bool :=
  match item with
  | .one d => c == d
  | .any => true
  | .many => false
  | .set negated items => (items.any (SetItem.holds c)) != negated

/-- The ends of a text that a star may leave. -/
def tails : List Char → List (List Char)
  | [] => [[]]
  | c :: rest => (c :: rest) :: tails rest

/-- Whether a pattern describes a text. -/
def Pattern.accepts : Pattern → List Char → Bool
  | [], text => text.isEmpty
  | .many :: rest, text => (tails text).any (accepts rest)
  | item :: rest, c :: text => item.holds c && accepts rest text
  | _ :: _, [] => false

/-- A star in front of a pattern may leave out a character. -/
theorem Pattern.accepts_many_cons (p : Pattern) (c : Char) (text : List Char) :
    Pattern.accepts (.many :: p) (c :: text) =
      (Pattern.accepts p (c :: text) || Pattern.accepts (.many :: p) text) := by
  simp [Pattern.accepts, tails]

/-- A text without the shortest or longest part at one of its ends that a pattern describes. -/
def Pattern.trim (p : Pattern) (atEnd longest : Bool) (text : String) : String :=
  let cs := text.toList
  let sizes := List.range (cs.length + 1)
  let taken (n : Nat) : List Char := if atEnd then cs.drop (cs.length - n) else cs.take n
  match (if longest then sizes.reverse else sizes).find? fun n => p.accepts (taken n) with
  | some n => String.ofList (if atEnd then cs.take (cs.length - n) else cs.drop n)
  | none => text

/-! ## Names of files -/

/-- The parts of a word between slashes, and whether it begins with one. -/
def splitSlashes (text : List Marked) : List (List Marked) :=
  text.splitOnP fun (c, _) => c == '/'

/-- The names in a directory, in order.  Hidden ones come only where the pattern begins with a dot. -/
def namesIn (tree : FileTree) (directory : Path) (p : Pattern) : List String :=
  match tree.find directory with
  | .ok (.directory entries) =>
    let names := entries.map fun (name, _) => octets name
    let listed := if p.head? == some (.one '.') then "." :: ".." :: names else names
    listed.filter fun name =>
      (!name.startsWith "." || p.head? == some (.one '.')) && p.accepts name.toList
  | _ => []

/-- The names of files below a directory that the parts of a word describe, each with what stands in
front of it. -/
def expandParts (tree : FileTree) (base : Path) : String → List (List Marked) → List String
  | front, [] => [front]
  | front, part :: rest =>
    let p := Pattern.ofMarked part
    let glue := if rest.isEmpty then "" else "/"
    let down := fun name => expandParts tree base (front ++ name ++ glue) rest
    if part.isEmpty then down ""
    else if p.isOpen then
      (namesIn tree (base.child (textOf front)) p).flatMap fun name =>
        if rest.isEmpty || tree.isDirectory (base.child (textOf (front ++ name))) then down name else []
    else
      let name := String.ofList (p.filterMap fun | .one c => some c | _ => none)
      if (tree.find (base.child (textOf (front ++ name)))).isOk then down name else []

/-- The names of files that a word describes, in order; a word that describes none stands for itself. -/
def expandNames (tree : FileTree) (base : Path) (word : List Marked) : List String :=
  let plain := String.ofList (word.map Prod.fst)
  if !(Pattern.ofMarked word).isOpen then [plain]
  else
    match (expandParts tree base "" (splitSlashes word)).mergeSort (fun a b => decide (a ≤ b)) with
    | [] => [plain]
    | names => names

end Conformance.Shell
