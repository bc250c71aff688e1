import Conformance.Shell.Format
import Conformance.Shell.Regular

/-!
# Patterns of programs over records

The notation for regular expressions in programs over records: signs have their meaning by themselves, a
backslash takes it away or makes an escape, and the places of the anchors are those of the whole text.
-/

namespace Conformance.Shell

/-! ## Escapes -/

/-- The characters for which a letter behind a backslash stands. -/
def awkEscapes : List (Char × Char) :=
  [('a', '\x07'), ('b', '\x08'), ('f', '\x0c'), ('n', '\n'), ('r', '\r'), ('t', '\t'), ('v', '\x0b'),
    ('\\', '\\'), ('"', '"')]

/-- The character that an escape behind a backslash stands for, and what follows; nothing if there is no such
escape. -/
def takeAwkEscape? (text : List Char) : Option (Char × List Char) :=
  match text with
  | [] => none
  | 'x' :: rest =>
    let digits := (rest.take 2).takeWhile fun c => (digitOf? 16 c).isSome
    if digits.isEmpty then none
    else some (Char.ofNat (takeNumber 16 digits).1, rest.drop digits.length)
  | c :: rest =>
    if '0' ≤ c && c ≤ '7' then
      let (n, rest) := takeOctal text
      some (Char.ofNat (n % 256), rest)
    else (awkEscapes.lookup c).map fun d => (d, rest)

/-- A text with its escapes replaced.  The number bounds how many characters there are. -/
def unescapeAwkFrom : Nat → List Char → List Char
  | 0, _ | _, [] => []
  | fuel + 1, '\\' :: rest =>
    match takeAwkEscape? rest with
    | some (c, rest) => c :: unescapeAwkFrom fuel rest
    | none => '\\' :: unescapeAwkFrom fuel rest
  | fuel + 1, c :: rest => c :: unescapeAwkFrom fuel rest

/-- A text with its escapes replaced. -/
def unescapeAwk (text : String) : String :=
  String.ofList (unescapeAwkFrom text.length text.toList)

/-- The character behind a backslash in a pattern, and what follows. -/
def takePatternEscape (text : List Char) : Char × List Char :=
  match takeAwkEscape? text, text with
  | some found, _ => found
  | none, c :: rest => (c, rest)
  | none, [] => ('\\', [])

namespace AwkPattern

/-! ## Sets -/

/-- What is said of a set that is not well formed. -/
def badClass : String := "bad class -- [], [^] or ["

/-- The members of a category, all of which have seven bits. -/
def membersOf (category : String) : List SetItem :=
  ((List.range 128).map Char.ofNat).filterMap fun c =>
    if inCategory category c then some (.range c c) else none

/-- A part of a set. -/
inductive Member
  | char (c : Char)
  | category (items : List SetItem)

/-- Read a part of a set. -/
def readMember : List Char → Except String (Member × List Char)
  | '[' :: ':' :: rest =>
    let name := rest.takeWhile Char.isAlpha
    match rest.drop name.length with
    | ':' :: ']' :: after =>
      if categoryNames.contains (String.ofList name) then
        .ok (.category (membersOf (String.ofList name)), after)
      else .error badClass
    | _ => .ok (.char '[', ':' :: rest)
  | '\\' :: c :: rest =>
    let (c, rest) := takePatternEscape (c :: rest)
    .ok (.char c, rest)
  | c :: rest => .ok (.char c, rest)
  | [] => .error badClass

/-- Read the parts of a set up to its bracket; one at the beginning stands for itself.  The number bounds how
many there are. -/
def readMembers : Nat → Bool → List Char → Except String (List SetItem × List Char)
  | 0, _, _ | _ + 1, _, [] => .error badClass
  | _ + 1, false, ']' :: rest => .ok ([], rest)
  | fuel + 1, _, text => do
    let (first, rest) ← readMember text
    let (items, rest) ← match first, rest with
      | .char c, '-' :: d :: more =>
        if d == ']' then pure ([SetItem.range c c], rest)
        else
          match ← readMember (d :: more) with
          | (.char d, after) =>
            pure (if c ≤ d then [SetItem.range c d]
              else [SetItem.range c c, SetItem.range d d, SetItem.range '-' '-'], after)
          | (.category items, after) => pure (SetItem.range c c :: SetItem.range '-' '-' :: items, after)
      | .char c, rest => pure ([SetItem.range c c], rest)
      | .category items, rest => pure (items, rest)
    let (others, rest) ← readMembers fuel false rest
    pure (items ++ others, rest)

/-- Read a set behind its bracket. -/
def readSet (text : List Char) : Except String (Regular × List Char) := do
  let (negated, text) := match text with
    | '^' :: rest => (true, rest)
    | rest => (false, rest)
  let (items, rest) ← readMembers (text.length + 1) true text
  pure (.set negated items, rest)

/-! ## Repetition -/

/-- What braces say of how often something is repeated, and what follows them; nothing if they stand for
themselves. -/
def readInterval? (text : List Char) : Option (Except String (Nat × Option Nat) × List Char) :=
  let low := text.takeWhile Char.isDigit
  let number (digits : List Char) : Nat := ((String.ofList digits).toNat?).getD 0
  let bad : Except String (Nat × Option Nat) := .error "bad interval expression"
  match text.drop low.length with
  | '}' :: rest => some (if low.isEmpty then bad else .ok (number low, some (number low)), rest)
  | ',' :: rest =>
    let high := rest.takeWhile Char.isDigit
    match rest.drop high.length with
    | '}' :: rest =>
      if high.isEmpty then some (.ok (number low, none), rest)
      else some (if number high < number low then bad else .ok (number low, some (number high)), rest)
    | _ => none
  | _ => none

/-- Read how often something is repeated. -/
def readRepetition (body : Regular) : Nat → List Char → Except String (Regular × List Char)
  | 0, text => .ok (body, text)
  | fuel + 1, text =>
    match text with
    | '*' :: rest => readRepetition (.repeated 0 none body) fuel rest
    | '+' :: rest => readRepetition (.repeated 1 none body) fuel rest
    | '?' :: rest => readRepetition (.repeated 0 (some 1) body) fuel rest
    | '{' :: rest =>
      match readInterval? rest with
      | some (.ok (least, most), rest) => readRepetition (.repeated least most body) fuel rest
      | some (.error message, _) => .error message
      | none => .ok (body, text)
    | _ => .ok (body, text)

/-! ## Expressions -/

/-- What is said where something is missing that a sign belongs to. -/
def missingOperand : String := "missing operand"

/-- What is said of a bracket without an end. -/
def missingClosing : String := "missing ')'"

mutual

/-- Read ways to match, in so many groups and behind something or not. -/
def readChoice (fuel depth : Nat) (isBehind : Bool) (text : List Char) :
    Except String (Regular × List Char) :=
  match fuel with
  | 0 => .error missingOperand
  | fuel + 1 => do
    match ← readSequence fuel depth text none with
    | (none, '|' :: rest) =>
      if isBehind then
        let (other, rest) ← readChoice fuel depth true rest
        pure (.either .empty other, rest)
      else throw missingOperand
    | (none, rest) => if isBehind then pure (.empty, rest) else throw missingOperand
    | (some first, '|' :: rest) =>
      let (other, rest) ← readChoice fuel depth isBehind rest
      pure (.either first other, rest)
    | (some first, rest) => pure (first, rest)
termination_by structural fuel

/-- Read what stands one behind the other, behind something that has been read. -/
def readSequence (fuel depth : Nat) (text : List Char) (done : Option Regular) :
    Except String (Option Regular × List Char) :=
  match fuel with
  | 0 => .ok (done, text)
  | fuel + 1 => do
    let goOn (e : Regular) (rest : List Char) : Except String (Option Regular × List Char) := do
      let (e, rest) ← readRepetition e rest.length rest
      readSequence fuel depth rest (some (match done with
        | some before => .sequence before e
        | none => e))
    match text with
    | [] | '|' :: _ => pure (done, text)
    | '*' :: _ | '+' :: _ | '?' :: _ => throw missingOperand
    | ')' :: rest => if depth = 0 then goOn (.one ')') rest else pure (done, text)
    | ['('] => throw missingClosing
    | '(' :: rest =>
      match ← readChoice fuel (depth + 1) done.isSome rest with
      | (e, ')' :: rest) => goOn e rest
      | _ => throw missingClosing
    | '[' :: rest =>
      let (e, rest) ← readSet rest
      goOn e rest
    | '^' :: rest =>
      match rest with
      | '*' :: _ | '+' :: _ => throw "syntax error ^* or ^+"
      | _ => goOn (.anchor .textStart) rest
    | '$' :: rest => goOn (.anchor .textEnd) rest
    | '.' :: rest => goOn .any rest
    | '\\' :: rest =>
      let (c, rest) := takePatternEscape rest
      goOn (.one c) rest
    | c :: rest => goOn (.one c) rest
termination_by structural fuel

end

/-- Read a pattern, or say what is wrong with it. -/
def read (text : String) : Except String Regular :=
  if text.isEmpty then .ok .empty
  else (readChoice (2 * text.length + 2) 0 false text.toList).map Prod.fst

/-- The expression that stands for one character, which may have a meaning in patterns. -/
def ofChar (c : Char) : Regular :=
  .one c

/-- A text in which matches are looked for. -/
def subject (text : String) : Regular.Subject :=
  { text := text.toList.toArray, folding := false }

/-- Whether a text has a match somewhere. -/
def isFound (e : Regular) (text : String) : Bool :=
  (e.find? (subject text) 0).isSome

end AwkPattern

end Conformance.Shell
