import Conformance.Shell.Arithmetic
import Conformance.Shell.Machine
import Conformance.Shell.Pattern

/-!
# Expansion

What words stand for: parameters, substitutions and sums are replaced, what comes out of them outside
quotes is cut into several words, and words that are patterns become the names of files.
-/

namespace Conformance.Shell

open Effect

/-! ## Atoms -/

/-- Where a character of a word comes from. -/
inductive Origin
  | written
  | quoted
  /-- From a value outside quotes, which is cut into words. -/
  | inserted
  deriving Repr, DecidableEq

/-- A part of a word that has been expanded. -/
inductive Atom
  | char (c : Char) (origin : Origin)
  /-- Quotes, which keep a word even if there is nothing in them. -/
  | quotes
  /-- The end of a word. -/
  | cut
  deriving Repr, DecidableEq

/-- The characters of a text as atoms. -/
def atomsOf (origin : Origin) (text : String) : List Atom :=
  text.toList.map fun c => .char c origin

/-- The atoms of a value that stands in quotes or does not. -/
def valueAtoms (quoted : Bool) (text : String) : List Atom :=
  if quoted then .quotes :: atomsOf .quoted text else atomsOf .inserted text

/-- Atoms of several values, each of which begins a word. -/
def separateAtoms (quoted : Bool) (values : List String) : List Atom :=
  ((values.map (valueAtoms quoted)).intersperse [.cut]).flatten

/-- The text of atoms, with blanks where words end. -/
def atomText (atoms : List Atom) : String :=
  String.ofList (atoms.filterMap fun
    | .char c _ => some c
    | .quotes => none
    | .cut => some ' ')

/-- The characters of atoms for a pattern, in which what is quoted stands for itself. -/
def atomMarks (atoms : List Atom) : List Marked :=
  atoms.filterMap fun
    | .char c origin => some (c, origin == .quoted)
    | .quotes => none
    | .cut => some (' ', true)

/-- Atoms as they are outside quotes, where they may be cut into words. -/
def loosen (atoms : List Atom) : List Atom :=
  atoms.map fun
    | .char c .written => .char c .inserted
    | atom => atom

/-! ## Words from atoms -/

/-- Words that are being cut: those that are done and the current one, all last first, whether there is a
current one, and whether white space has just ended one. -/
structure Cutting where
  done : List (List Marked)
  text : List Marked
  begun : Bool
  afterSpace : Bool

namespace Cutting

/-- End the current word, if there is one. -/
def finish (s : Cutting) : Cutting :=
  if s.begun then ⟨s.text.reverse :: s.done, [], false, s.afterSpace⟩ else s

/-- Go over an atom.  Of the characters that separate words, white space separates only what is there,
and others end a word even if it is empty. -/
def step (separators : List Char) (s : Cutting) : Atom → Cutting
  | .quotes => { s with begun := true }
  | .cut => { s.finish with afterSpace := false }
  | .char c origin =>
    if origin == .inserted && separators.contains c then
      if isSpace c then { s.finish with afterSpace := s.begun || s.afterSpace }
      else if s.begun then { s.finish with afterSpace := false }
      else if s.afterSpace then { s with afterSpace := false }
      else { s with done := [] :: s.done }
    else ⟨s.done, (c, origin == .quoted) :: s.text, true, false⟩

end Cutting

/-- The words that atoms are cut into. -/
def cutWords (separators : List Char) (atoms : List Atom) : List (List Marked) :=
  (atoms.foldl (Cutting.step separators) ⟨[], [], false, false⟩).finish.done.reverse

/-- Without separators there is one word for every run of characters between ends. -/
example : (cutWords [] (separateAtoms true ["a b", ""])).length = 2 := by decide

/-! ## Parameters -/

/-- The characters that separate words. -/
def separators : Effect (List Char) := do
  pure (((← value? "IFS").getD " \t\n").toList)

/-- The value of a parameter that is a single text. -/
def parameter? (name : String) : Effect (Option String) := do
  let p ← process
  match name with
  | "?" => pure (some (toString p.status))
  | "$" => pure (some (toString p.number))
  | "#" => pure (some (toString p.arguments.length))
  | "!" => pure (p.lastJob.map toString)
  | "-" => pure (some (String.ofList (optionLetters.reverse.filter p.options.contains)))
  | "0" => pure (some p.name)
  | _ =>
    match name.toNat? with
    | some n => pure (p.arguments[n - 1]?)
    | none => value? name

/-- The first separator, which stands between arguments that are joined. -/
def glue : Effect String := do
  match ← value? "IFS" with
  | none => pure " "
  | some text => pure (String.ofList (text.toList.take 1))

/-- The atoms of all arguments. -/
def argumentAtoms (joined quoted : Bool) : Effect (List Atom) := do
  let arguments := (← process).arguments
  if joined && quoted then
    let between ← glue
    pure (valueAtoms true (String.intercalate between arguments))
  else pure (separateAtoms quoted arguments)

/-- Whether a parameter stands for all arguments. -/
def isArguments (name : String) : Bool :=
  name == "@" || name == "*"

/-- The atoms of a parameter with a value. -/
def parameterAtoms (name : String) (quoted : Bool) (value : String) : Effect (List Atom) :=
  if isArguments name then argumentAtoms (name == "*") quoted else pure (valueAtoms quoted value)

/-- Refuse a parameter without a value where that is asked for. -/
def requireValue (name : String) (value : Option String) : Effect String := do
  match value with
  | some text => pure text
  | none =>
    if (← process).options.contains 'u' && !isArguments name then
      failWith 2 s!"{name}: parameter not set"
    else pure ""

/-- The value of a parameter, or nothing if it has none. -/
def looseValue? (name : String) : Effect (Option String) := do
  if isArguments name then
    let arguments := (← process).arguments
    pure (if arguments.isEmpty then none else some (String.intercalate " " arguments))
  else parameter? name

/-! ## Sums -/

/-- What is said about a sum without a value. -/
def NumberFault.text (shown : String) : NumberFault → String
  | .malformed wanted => s!"arithmetic expression: {wanted}: \"{shown}\""
  | .noNumber value => s!"Illegal number: {value}"

/-- Work out a sum, and give its variables their values. -/
def evaluateSum (text : String) : Effect String := do
  let bindings := (← process).bindings
  let value? (name : String) : Option String := (bindings.lookup name).bind (·.value)
  match NumberExpression.read text >>= fun e => e.value value? [] with
  | .error fault => failWith 2 (fault.text text)
  | .ok (n, assigned) =>
    assigned.reverse.forM fun (name, value) => setValue name (toString value.toInt)
    pure (toString n.toInt)

/-! ## Words -/

/-- The home directory that a tilde in front of a name stands for; without a name it is that of the user. -/
def homeOf? (name : List Char) : Effect (Option String) := do
  if name.isEmpty then value? "HOME"
  else pure (if name == "root".toList then some "/root" else none)

/-- Replace a tilde at the beginning of a text by a home directory. -/
def expandTilde (text : String) : Effect (List Atom) := do
  match text.toList with
  | '~' :: rest =>
    let name := rest.takeWhile (· != '/')
    match ← homeOf? name with
    | some home =>
      pure (.quotes :: atomsOf .quoted home ++ atomsOf .written (String.ofList (rest.drop name.length)))
    | none => pure (atomsOf .written text)
  | _ => pure (atomsOf .written text)

/-- A text without the ends of lines at its end. -/
def withoutLastBreaks (text : String) : String :=
  String.ofList (text.toList.reverse.dropWhile (· == '\n')).reverse

mutual

/-- The atoms that a piece of a word stands for.  The function gives what a script writes. -/
def expandPiece (output : Script → Effect String) : Piece → Effect (List Atom)
  | .literal text quoted =>
    pure (if quoted then .quotes :: atomsOf .quoted text else atomsOf .written text)
  | .parameter name use quoted => expandUse output name quoted use
  | .substitution script quoted => do
    let text ← output script
    pure (valueAtoms quoted (withoutLastBreaks text))
  | .arithmetic expression quoted => do
    let atoms ← expandPieces output expression
    let value ← evaluateSum (atomText atoms)
    pure (valueAtoms quoted value)

/-- The atoms that pieces of a word stand for. -/
def expandPieces (output : Script → Effect String) : List Piece → Effect (List Atom)
  | [] => pure []
  | piece :: rest => do
    let atoms ← expandPiece output piece
    let more ← expandPieces output rest
    pure (atoms ++ more)

/-- The atoms that the use of a parameter stands for. -/
def expandUse (output : Script → Effect String) (name : String) (quoted : Bool) :
    Use → Effect (List Atom)
  | .value => do
    let value ← looseValue? name
    let text ← requireValue name value
    parameterAtoms name quoted text
  | .length => do
    let value ← looseValue? name
    let text ← requireValue name value
    pure (valueAtoms quoted (toString text.length))
  | .fallback kind orEmpty word => do
    let value ← looseValue? name
    let usable := match value with
      | none => none
      | some text => if orEmpty && text.isEmpty then none else some text
    let expandWord : Effect (List Atom) := do
      let atoms ← expandPieces output word
      pure (if quoted then .quotes :: atoms else loosen atoms)
    match kind, usable with
    | .alternative, some _ => expandWord
    | .alternative, none => pure (if quoted then [.quotes] else [])
    | _, some text => parameterAtoms name quoted text
    | .word, none => expandWord
    | .assignment, none =>
      let atoms ← expandPieces output word
      if !isIdentifier name then failWith 2 s!"{name}: bad variable name"
      setValue name (atomText atoms)
      pure (valueAtoms quoted (atomText atoms))
    | .complaint, none =>
      let atoms ← expandPieces output word
      let usual := if orEmpty then "parameter not set or null" else "parameter not set"
      failWith 2 s!"{name}: {if word.isEmpty then usual else atomText atoms}"
  | .trim atEnd longest pattern => do
    let value ← looseValue? name
    let text ← requireValue name value
    let atoms ← expandPieces output pattern
    pure (valueAtoms quoted ((Pattern.ofMarked (atomMarks atoms)).trim atEnd longest text))
  | .faulty => failWith 2 "Bad substitution"

end

/-- The atoms of a word, with a tilde at its beginning replaced. -/
def expandWord (output : Script → Effect String) (w : Word) : Effect (List Atom) := do
  match w with
  | .literal text false :: rest =>
    let first ← if rest.isEmpty || text.toList.contains '/' then expandTilde text
      else pure (atomsOf .written text)
    let more ← expandPieces output rest
    pure (first ++ more)
  | w => expandPieces output w

/-- The text of a word that is not cut. -/
def expandText (output : Script → Effect String) (w : Word) : Effect String := do
  pure (atomText (← expandWord output w))

/-- The text of a value that a variable is given: a tilde may also stand behind a colon. -/
def expandValue (output : Script → Effect String) (w : Word) : Effect String := do
  match w with
  | [.literal text false] =>
    let parts ← (text.splitOn ":").mapM expandTilde
    pure (String.intercalate ":" (parts.map atomText))
  | w => expandText output w

/-- The pattern that a word describes. -/
def expandPattern (output : Script → Effect String) (w : Word) : Effect Pattern := do
  pure (Pattern.ofMarked (atomMarks (← expandWord output w)))

/-- The words that words stand for. -/
def expandWords (output : Script → Effect String) : List Word → Effect (List String)
  | [] => pure []
  | w :: rest => do
    let atoms ← expandWord output w
    let words := cutWords (← separators) atoms
    let m ← get
    let found := if m.process.options.contains 'f' then words.map (String.ofList <| ·.map Prod.fst)
      else words.flatMap (expandNames m.tree m.process.directory)
    let more ← expandWords output rest
    pure (found ++ more)

end Conformance.Shell
