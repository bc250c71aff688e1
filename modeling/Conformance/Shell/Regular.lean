import Conformance.Shell.Pattern
import Conformance.Text.Character
import Conformance.Text.Lowercase
import Conformance.Text.Printable
import Conformance.Text.Word

/-!
# Regular expressions

Regular expressions in the basic and the extended notation.  Of the matches of an expression in a text the
leftmost is taken, and of those that begin there the longest; groups remember what they have matched.
-/

namespace Conformance.Shell

/-! ## Letters -/

/-- The lower-case letter of a character. -/
def loweredChar (c : Char) : Char :=
  (Text.lowerChar c).char?.getD c

/-- The upper-case letter of a character. -/
def raisedChar (c : Char) : Char :=
  if c.toNat < 128 then c.toUpper
  else
    let capital? (run : Text.CaseRun) : Option Nat :=
      let code := ((c.toNat : Int) - run.shift).toNat
      if run.holds code && loweredChar (Char.ofNat code) == c then some code else none
    ((Text.capitalRuns.findSome? capital?).map Char.ofNat).getD c

/-- Whether a character outside of ASCII is a space at which a line may be broken. -/
def isWideSpace (c : Char) : Bool :=
  Text.blankRanges.holds c && !List.contains [0x85, 0xA0, 0x2007, 0x202F] c.toNat

/-- Whether a character belongs to a named category, be it one of ASCII or not. -/
def inWideCategory (name : String) (c : Char) : Bool :=
  if c.toNat < 128 then inCategory name c
  else
    let isPrintable := Text.isPrintable c || isWideSpace c
    match name with
    | "alpha" | "alnum" => Text.isWord c
    | "upper" => loweredChar c != c
    | "lower" => raisedChar c != c || c.toNat == 0xDF
    | "space" | "blank" => isWideSpace c
    | "punct" => Text.isPrintable c && !Text.isWord c
    | "print" => isPrintable
    | "graph" => Text.isPrintable c
    | "cntrl" => c.toNat < 160
    | _ => false

/-! ## Expressions -/

/-- A condition on a place in a text. -/
inductive Anchor
  | textStart
  | textEnd
  /-- The beginning of a line, which is that of the text unless lines are looked at one by one. -/
  | lineStart
  | lineEnd
  | wordStart
  | wordEnd
  | wordEdge
  | noWordEdge
  deriving Repr, DecidableEq

/-- A regular expression. -/
inductive Regular
  | empty
  | one (c : Char)
  | any
  | set (negated : Bool) (items : List SetItem)
  | anchor (kind : Anchor)
  | sequence (a b : Regular)
  | either (a b : Regular)
  | repeated (least : Nat) (most : Option Nat) (body : Regular)
  | group (number : Nat) (body : Regular)
  /-- What a group has matched, once more. -/
  | again (number : Nat)
  deriving Repr, DecidableEq

namespace Regular

/-- The expression that stands for one text only. -/
def ofText (text : List Char) : Regular :=
  text.foldr (fun c rest => .sequence (.one c) rest) .empty

/-! ## Matching -/

/-- How far a match has come: a place in the text, and where groups begin and end, latest first. -/
structure Spot where
  place : Nat
  groups : List (Nat × Nat × Nat)
  deriving Repr, DecidableEq

/-- A text in which matches are looked for, whether capital letters are as good as small ones, and whether
its lines are looked at one by one. -/
structure Subject where
  text : Array Char
  folding : Bool
  lined : Bool := false

/-- Whether two characters count as the same. -/
def Subject.same (s : Subject) (c d : Char) : Bool :=
  c == d || (s.folding && loweredChar c == loweredChar d)

/-- Whether a character belongs to a part of a set. -/
def holdsWide (c : Char) : SetItem → Bool
  | .range first last => first ≤ c && c ≤ last
  | .category name => inWideCategory name c

/-- Whether a character belongs to a set. -/
def Subject.holds (s : Subject) (items : List SetItem) (c : Char) : Bool :=
  items.any (holdsWide c) ||
    (s.folding && (items.any (holdsWide (loweredChar c)) || items.any (holdsWide (raisedChar c))))

/-- Whether a character is part of a word. -/
def isWordChar (c : Char) : Bool :=
  c == '_' || inWideCategory "alnum" c

/-- Whether a character ends a line where lines are looked at one by one. -/
def Subject.breaks (s : Subject) (c : Char) : Bool :=
  s.lined && c == '\n'

/-- Whether a place satisfies a condition. -/
def Subject.meets (s : Subject) (place : Nat) : Anchor → Bool :=
  let before := 0 < place && (s.text[place - 1]?).any isWordChar
  let after := (s.text[place]?).any isWordChar
  fun
    | .textStart => place == 0
    | .textEnd => place == s.text.size
    | .lineStart => place == 0 || (s.text[place - 1]?).any s.breaks
    | .lineEnd => place == s.text.size || (s.text[place]?).any s.breaks
    | .wordStart => !before && after
    | .wordEnd => before && !after
    | .wordEdge => before != after
    | .noWordEdge => before == after

/-- Go on by one character that satisfies a condition. -/
def Subject.step (s : Subject) (holds : Char → Bool) (p : Spot) : List Spot :=
  match s.text[p.place]? with
  | some c => if holds c then [{ p with place := p.place + 1 }] else []
  | none => []

/-- The spots without those that have come before. -/
def distinct (spots : List Spot) : List Spot :=
  spots.eraseDups

/-- Repeat a step a number of times. -/
def times (step : List Spot → List Spot) : Nat → List Spot → List Spot
  | 0, spots => spots
  | n + 1, spots => if spots.isEmpty then [] else times step n (step spots)

/-- Repeat a step as often as is wanted, up to a number of times; more often comes first.  A step that goes
nowhere is not repeated. -/
def upTo (step : List Spot → List Spot) : Nat → List Spot → List Spot
  | 0, spots => spots
  | n + 1, spots =>
    if spots.isEmpty then []
    else
      let least := spots.foldl (fun m p => min m p.place) ((spots.head?.map Spot.place).getD 0)
      let further := (step spots).filter fun p => least < p.place
      distinct (upTo step n further ++ spots)

/-- The spots that an expression leads to from spots, in the order in which they are preferred. -/
def run (s : Subject) : Regular → List Spot → List Spot
  | .empty, spots => spots
  | .one c, spots => spots.flatMap (s.step (s.same c))
  | .any, spots => spots.flatMap (s.step fun c => !s.breaks c)
  | .set negated items, spots =>
    spots.flatMap (s.step fun c => s.holds items c != negated && !(negated && s.breaks c))
  | .anchor kind, spots => spots.filter fun p => s.meets p.place kind
  | .sequence a b, spots => b.run s (a.run s spots)
  | .either a b, spots => distinct (a.run s spots ++ b.run s spots)
  | .repeated least most body, spots =>
    let first := times (body.run s) least spots
    let more := match most with
      | some n => n - least
      | none => s.text.size + 1
    upTo (body.run s) more first
  | .group number body, spots =>
    distinct (spots.flatMap fun p => (body.run s [p]).map fun q =>
      { q with groups := (number, p.place, q.place) :: q.groups.filter (·.1 != number) })
  | .again number, spots =>
    spots.flatMap fun p =>
      match p.groups.lookup number with
      | none => []
      | some (start, stop) =>
        let text := (s.text.extract start stop).toList
        let next := (s.text.extract p.place (p.place + text.length)).toList
        if next.length = text.length && (text.zip next).all fun (c, d) => s.same c d then
          [{ p with place := p.place + text.length }]
        else []

/-- The longest match that begins at a place. -/
def matchAt? (e : Regular) (s : Subject) (place : Nat) : Option Spot :=
  match e.run s [⟨place, []⟩] with
  | [] => none
  | p :: rest => some (rest.foldl (fun best q => if best.place < q.place then q else best) p)

/-- The leftmost of the longest matches that begin at a place or behind it, with its beginning.  The number
is that of the places which are tried. -/
def findFrom? (e : Regular) (s : Subject) : Nat → Nat → Option (Nat × Spot)
  | 0, _ => none
  | tries + 1, place =>
    match e.matchAt? s place with
    | some spot => some (place, spot)
    | none => findFrom? e s tries (place + 1)

/-- The leftmost of the longest matches from a place on. -/
def find? (e : Regular) (s : Subject) (place : Nat) : Option (Nat × Spot) :=
  e.findFrom? s (s.text.size + 1 - place) place

/-- An empty expression matches where it is tried. -/
theorem matchAt?_empty (s : Subject) (place : Nat) :
    matchAt? .empty s place = some ⟨place, []⟩ :=
  rfl

/-- Nothing is found in front of the place where the search begins. -/
theorem le_of_findFrom? {e : Regular} {s : Subject} {tries place : Nat} {found : Nat × Spot}
    (h : e.findFrom? s tries place = some found) : place ≤ found.1 := by
  induction tries generalizing place with
  | zero => simp [findFrom?] at h
  | succ n ih =>
    unfold findFrom? at h
    split at h
    · obtain rfl := Option.some.inj h
      exact Nat.le_refl _
    · exact Nat.le_of_succ_le (ih h)

/-! ## Reading -/

/-- How expressions are written. -/
structure Notation where
  /-- Whether signs have their meaning without a backslash. -/
  isExtended : Bool
  /-- Whether a sign of repetition must stand behind something. -/
  isStrict : Bool
  /-- Whether the name of a category must not stand in one pair of brackets only. -/
  isChecked : Bool
  deriving Repr, DecidableEq

/-- The notation in which signs have their meaning behind a backslash. -/
def Notation.basic : Notation := ⟨false, false, false⟩

/-- The notation in which signs have their meaning by themselves. -/
def Notation.extended : Notation := ⟨true, false, false⟩

/-- What stands at a place of an expression. -/
inductive Mark
  | char (c : Char)
  | any
  | bracket
  | opening
  | closing
  | bar
  | star
  | plus
  | question
  | brace
  | start
  | finish
  | again (number : Nat)
  | edge (kind : Anchor)
  | category (negated : Bool) (items : List SetItem)
  | trailing
  deriving Repr, DecidableEq

/-- The characters of words. -/
def wordItems : List SetItem :=
  [.category "alnum", .range '_' '_']

/-- What a character behind a backslash stands for, where it means the same in both notations. -/
def escapeMark (c : Char) : Mark :=
  match c with
  | 'w' => .category false wordItems
  | 'W' => .category true wordItems
  | 's' => .category false [.category "space"]
  | 'S' => .category true [.category "space"]
  | 'b' => .edge .wordEdge
  | 'B' => .edge .noWordEdge
  | '<' => .edge .wordStart
  | '>' => .edge .wordEnd
  | '\x60' => .edge .textStart
  | '\'' => .edge .textEnd
  | c => if '1' ≤ c && c ≤ '9' then .again (c.toNat - 48) else .char c

/-- What the character means that is a sign in one notation and in the other one behind a backslash. -/
def signMark? : Char → Option Mark
  | '(' => some .opening
  | ')' => some .closing
  | '|' => some .bar
  | '+' => some .plus
  | '?' => some .question
  | '{' => some .brace
  | _ => none

/-- What stands at the beginning of a text, and what follows it. -/
def Mark.read? (n : Notation) : List Char → Option (Mark × List Char)
  | [] => none
  | ['\\'] => some (.trailing, [])
  | '\\' :: c :: rest =>
    match signMark? c with
    | some mark => some (if n.isExtended then .char c else mark, rest)
    | none => some (escapeMark c, rest)
  | '.' :: rest => some (.any, rest)
  | '[' :: rest => some (.bracket, rest)
  | '*' :: rest => some (.star, rest)
  | '^' :: rest => some (.start, rest)
  | '$' :: rest => some (.finish, rest)
  | c :: rest =>
    match signMark? c with
    | some mark => some (if n.isExtended then mark else .char c, rest)
    | none => some (.char c, rest)

/-- How often something may be repeated, as braces say, and what follows them. -/
def readBounds? (n : Notation) (text : List Char) : Option (Nat × Option Nat × List Char) :=
  let digits := text.takeWhile Char.isDigit
  let least := ((String.ofList digits).toNat?).getD 0
  let close (bound : Option Nat) (rest : List Char) : Option (Nat × Option Nat × List Char) :=
    match n.isExtended, rest with
    | false, '\\' :: '}' :: rest => some (least, bound, rest)
    | true, '}' :: rest => some (least, bound, rest)
    | _, _ => none
  match text.drop digits.length with
  | ',' :: rest =>
    let more := rest.takeWhile Char.isDigit
    if more.isEmpty then close none rest
    else close (String.ofList more).toNat? (rest.drop more.length)
  | rest => if digits.isEmpty then none else close (some least) rest

/-- Whether what is left of an expression begins with its end or with that of a part of it. -/
def atEnd (n : Notation) (text : List Char) : Bool :=
  match Mark.read? n text with
  | none | some (.closing, _) | some (.bar, _) => true
  | _ => false

/-- What is said of brackets without an end. -/
def openBrackets : String := "Unmatched [, [^, [:, [., or [="

/-- The text up to a mark with a bracket behind it, and what follows. -/
def takeNamed (mark : Char) : List Char → Option (List Char × List Char)
  | [] => none
  | c :: rest =>
    match rest with
    | ']' :: after =>
      if c == mark then some ([], after) else (takeNamed mark rest).map fun (name, after) => (c :: name, after)
    | _ => (takeNamed mark rest).map fun (name, after) => (c :: name, after)

/-- Read a member of a set: a character, or a named category. -/
def readMember : List Char → Except String (SetItem × List Char)
  | '[' :: ':' :: rest =>
    match takeNamed ':' rest with
    | none => .error openBrackets
    | some (name, rest) =>
      let name := String.ofList name
      if categoryNames.contains name then .ok (.category name, rest) else .error "Invalid character class name"
  | '[' :: mark :: rest =>
    if mark == '.' || mark == '=' then
      match takeNamed mark rest with
      | none => .error openBrackets
      | some ([c], rest) => .ok (.range c c, rest)
      | some _ => .error "Invalid collation character"
    else .ok (.range '[' '[', mark :: rest)
  | c :: rest => .ok (.range c c, rest)
  | [] => .error openBrackets

/-- Read the members of a set up to the bracket that ends it; a bracket at the beginning stands for itself,
and a dash at either end does.  The number bounds how many there are. -/
def readMembers : Nat → Bool → List Char → Except String (List SetItem × List Char)
  | 0, _, _ => .error openBrackets
  | fuel + 1, isFirst, text => do
    match isFirst, text with
    | _, [] => .error openBrackets
    | false, ']' :: rest => pure ([], rest)
    | false, '-' :: c :: rest =>
      if c == ']' then pure ([.range '-' '-'], rest) else .error "Invalid range end"
    | _, text =>
      let (first, rest) ← readMember text
      match rest with
      | '-' :: ']' :: after => pure ([first, .range '-' '-'], after)
      | ['-'] => .error openBrackets
      | '-' :: rest =>
        let (last, rest) ← readMember rest
        match first, last with
        | .range a _, .range b _ =>
          if b < a then .error "Invalid range end"
          else
            let (items, rest) ← readMembers fuel false rest
            pure (.range a b :: items, rest)
        | _, _ => .error "Invalid range end"
      | rest =>
        let (items, rest) ← readMembers fuel false rest
        pure (first :: items, rest)

/-- What is said of a category whose name stands in one pair of brackets only. -/
def bareCategory : String := "character class syntax is [[:space:]], not [:space:]"

/-- Read a set behind its bracket. -/
def readBracket (n : Notation) (text : List Char) : Except String (Regular × List Char) := do
  let (negated, inside) := match text with
    | '^' :: inside => (true, inside)
    | inside => (false, inside)
  let (items, rest) ← readMembers (inside.length + 1) true inside
  let written := text.take (text.length - rest.length - 1)
  if n.isChecked && written.head? == some ':' && written.getLast? == some ':' && 2 < written.length then
    .error bareCategory
  else pure (.set negated items, rest)

/-- Whether the sign that ends braces stands in a text. -/
def hasBraceEnd (n : Notation) : List Char → Bool
  | [] => false
  | '\\' :: '}' :: rest => !n.isExtended || hasBraceEnd n rest
  | c :: rest => (n.isExtended && c == '}') || hasBraceEnd n rest

/-- The most often that something can be repeated. -/
def greatestBound : Nat := 32767

mutual

/-- Read alternatives, given the number of groups so far and whether a closing sign is waited for. -/
def readAlternatives (n : Notation) : Nat → Bool → Nat → List Char →
    Except String (Regular × Nat × List Char)
  | 0, _, _, _ => .error "Regular expression too big"
  | fuel + 1, inside, groups, text => do
    let (a, groups, rest) ← readBranch n fuel inside groups .empty none text
    match Mark.read? n rest with
    | some (.bar, rest) =>
      let (b, groups, rest) ← readAlternatives n fuel inside groups rest
      pure (.either a b, groups, rest)
    | _ => pure (a, groups, rest)

/-- Read what follows one another: what has been read before the last part, and the last part, which may be
repeated. -/
def readBranch (n : Notation) : Nat → Bool → Nat → Regular → Option Regular → List Char →
    Except String (Regular × Nat × List Char)
  | 0, _, _, _, _, _ => .error "Regular expression too big"
  | fuel + 1, inside, groups, before, last, text =>
    let whole := match last with
      | some e => Regular.sequence before e
      | none => before
    let next (e : Regular) (rest : List Char) := readBranch n fuel inside groups whole (some e) rest
    let bare (e : Regular) (rest : List Char) := readBranch n fuel inside groups
      (Regular.sequence whole e) none rest
    let misplaced : Except String (Regular × Nat × List Char) := .error "Invalid preceding regular expression"
    let again (least : Nat) (most : Option Nat) (literal : Char) (rest : List Char) :=
      match last with
      | some e =>
        let isRepeated := match e with
          | .repeated .. => true
          | _ => false
        if n.isStrict && !n.isExtended && isRepeated && (literal == '*' || literal == '{') then misplaced
        else readBranch n fuel inside groups before (some (.repeated least most e)) rest
      | none =>
        if n.isStrict && (n.isExtended || literal == '{') then misplaced
        else if n.isExtended then readBranch n fuel inside groups whole none rest
        else next (.one literal) rest
    match Mark.read? n text with
    | none =>
      if inside then .error "Unmatched ( or \\(" else .ok (whole, groups, [])
    | some (mark, rest) =>
      match mark with
      | .char c => next (.one c) rest
      | .any => next .any rest
      | .bracket => do
        let (e, rest) ← readBracket n rest
        next e rest
      | .category negated items => next (.set negated items) rest
      | .again number =>
        if groups < number then .error "Invalid back reference" else next (.again number) rest
      | .edge kind => bare (.anchor kind) rest
      | .trailing => .error "Trailing backslash"
      | .bar => .ok (whole, groups, text)
      | .closing =>
        if inside then .ok (whole, groups, text)
        else if n.isExtended && !n.isStrict then next (.one ')') rest
        else .error "Unmatched ) or \\)"
      | .opening => do
        let number := groups + 1
        let (e, groups, rest) ← readAlternatives n fuel true number rest
        match Mark.read? n rest with
        | some (.closing, rest) =>
          readBranch n fuel inside groups whole (some (.group number e)) rest
        | _ => .error "Unmatched ( or \\("
      | .star => again 0 none '*' rest
      | .plus => again 1 none '+' rest
      | .question => again 0 (some 1) '?' rest
      | .brace =>
        match last, readBounds? n rest with
        | none, _ =>
          if n.isExtended then
            match readBounds? n rest with
            | some (least, most, rest) => again least most '{' rest
            | none => next (.one '{') rest
          else again 0 none '{' rest
        | _, some (least, most, after) =>
          if most.any (· < least) then .error "Invalid content of \\\x7b\\\x7d"
          else if greatestBound < max least (most.getD 0) then .error "Regular expression too big"
          else again least most '{' after
        | _, none =>
          if n.isExtended && !n.isStrict then next (.one '{') rest
          else if hasBraceEnd n rest then .error "Invalid content of \\\x7b\\\x7d"
          else .error "Unmatched \\\x7b"
      | .start =>
        if n.isExtended || (before == .empty && last.isNone) then bare (.anchor .lineStart) rest
        else next (.one '^') rest
      | .finish =>
        if n.isExtended || atEnd n rest then bare (.anchor .lineEnd) rest
        else next (.one '$') rest

end

/-- Read an expression. -/
def read (n : Notation) (text : List Char) : Except String Regular := do
  let (e, _, _) ← readAlternatives n (4 * text.length + 8) false 0 text
  pure e

end Regular

/-! ## Units -/

/-- The unit that stands for a byte which belongs to no character. -/
def strayUnit (c : Char) : Char :=
  Char.ofNat (0x10FF00 + c.toNat)

/-- The characters of a text of bytes; a byte that belongs to none has a unit of its own. -/
def unitsOf (bytes : String) : List Char :=
  (charactersOf bytes).map fun
    | .ok c => c
    | .error c => strayUnit c

/-- The bytes of characters. -/
def bytesOfUnits (units : List Char) : String :=
  if units.all (·.toNat < 128) then String.ofList units
  else String.join (units.map fun c =>
    if 0x10FF80 ≤ c.toNat then String.singleton (Char.ofNat (c.toNat - 0x10FF00))
    else octets (String.singleton c))

end Conformance.Shell
