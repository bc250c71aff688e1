import Conformance.Shell.Arithmetic

/-!
# Conditions

Conditions that are given as arguments: tests of texts, numbers and files, put together with signs and
parentheses.  Which arguments are signs depends on how many there are and on what follows them.
-/

namespace Conformance.Shell

/-- The kinds of signs in a condition. -/
inductive ConditionSign
  | unary (name : String)
  | binary (name : String)
  | negation
  | conjunction
  | disjunction
  | opening
  | closing
  deriving Repr, DecidableEq

/-- The sign that an argument can be. -/
def ConditionSign.of? (argument : String) : Option ConditionSign :=
  if argument == "!" then some .negation
  else if argument == "-a" then some .conjunction
  else if argument == "-o" then some .disjunction
  else if argument == "(" then some .opening
  else if argument == ")" then some .closing
  else if ["=", "!=", "<", ">", "-eq", "-ne", "-gt", "-ge", "-lt", "-le", "-nt", "-ot",
    "-ef"].contains argument then some (.binary argument)
  else
    match argument.toList with
    | ['-', c] => if "rwxefdcbpugkstznhOGLS".toList.contains c then some (.unary argument) else none
    | _ => none

/-- Whether an argument can only be a sign between two others. -/
def isBinarySign (argument : String) : Bool :=
  match ConditionSign.of? argument with
  | some (.binary _) => true
  | _ => false

/-- A condition that is being read: the arguments and the place of the current one. -/
structure ConditionReader where
  arguments : Array String
  place : Nat

/-- What the arguments of a condition are tested with: files, and two names of files. -/
structure FileTests where
  one : Char → String → Bool
  two : String → String → String → Bool

namespace ConditionReader

/-- The argument some places further on. -/
def argument? (s : ConditionReader) (ahead : Nat) : Option String :=
  s.arguments[s.place + ahead]?

/-- The sign some places further on, if it is one there: a sign in front of one argument is none at the end
or in front of a sign between two. -/
def sign? (s : ConditionReader) (ahead : Nat) : Option ConditionSign := do
  let argument ← s.argument? ahead
  let sign ← ConditionSign.of? argument
  match sign, s.argument? (ahead + 1), s.argument? (ahead + 2) with
  | .unary _, none, _ => none
  | .unary _, some next, some _ => if isBinarySign next then none else some sign
  | .opening, none, _ => none
  | sign, _, _ => some sign

/-- Go on to a further argument. -/
def step (s : ConditionReader) (n : Nat) : ConditionReader :=
  { s with place := s.place + n }

end ConditionReader

/-- The number that an argument is. -/
def conditionNumber (argument : String) : Except String Int :=
  match integer? false argument with
  | some n => .ok n
  | none => .error s!"Illegal number: {argument}"

/-- Whether a sign holds between two arguments. -/
def compare (tests : FileTests) (sign a b : String) : Except String Bool :=
  let numbers (holds : Int → Int → Bool) : Except String Bool := do
    let m ← conditionNumber a
    let n ← conditionNumber b
    pure (holds m n)
  match sign with
  | "=" => .ok (a == b)
  | "!=" => .ok (a != b)
  | "<" => .ok (decide (a < b))
  | ">" => .ok (decide (b < a))
  | "-eq" => numbers fun m n => m == n
  | "-ne" => numbers fun m n => m != n
  | "-gt" => numbers fun m n => decide (n < m)
  | "-ge" => numbers fun m n => decide (n ≤ m)
  | "-lt" => numbers fun m n => decide (m < n)
  | "-le" => numbers fun m n => decide (m ≤ n)
  | _ => .ok (tests.two sign a b)

/-- Whether a sign holds for an argument. -/
def holdsFor (tests : FileTests) (sign argument : String) : Except String Bool :=
  match sign with
  | "-z" => .ok argument.isEmpty
  | "-n" => .ok !argument.isEmpty
  | "-t" => (conditionNumber argument).map fun _ => false
  | _ => .ok (tests.one (sign.toList.getLastD '-') argument)

mutual

/-- Whether one of several conditions holds; the reader is left at the last argument of them. -/
def anyHolds (tests : FileTests) : Nat → Option ConditionSign → ConditionReader →
    Except String (Bool × ConditionReader)
  | 0, _, s => .ok (false, s)
  | fuel + 1, sign, s => do
    let (a, s) ← allHold tests fuel sign s
    match s.sign? 1 with
    | some .disjunction =>
      let s := s.step 2
      let (b, s) ← anyHolds tests fuel (s.sign? 0) s
      pure (a || b, s)
    | _ => pure (a, s)

/-- Whether all of several conditions hold. -/
def allHold (tests : FileTests) : Nat → Option ConditionSign → ConditionReader →
    Except String (Bool × ConditionReader)
  | 0, _, s => .ok (false, s)
  | fuel + 1, sign, s => do
    let (a, s) ← mayBeNegated tests fuel sign s
    match s.sign? 1 with
    | some .conjunction =>
      let s := s.step 2
      let (b, s) ← allHold tests fuel (s.sign? 0) s
      pure (a && b, s)
    | _ => pure (a, s)

/-- Whether a condition holds that may stand behind a negation. -/
def mayBeNegated (tests : FileTests) : Nat → Option ConditionSign → ConditionReader →
    Except String (Bool × ConditionReader)
  | 0, _, s => .ok (false, s)
  | fuel + 1, some .negation, s =>
    match s.argument? 1 with
    | none => .ok (true, s)
    | some _ => (mayBeNegated tests fuel (s.sign? 1) (s.step 1)).map fun (b, s) => (!b, s)
  | fuel + 1, sign, s => single tests fuel sign s

/-- Whether a single condition holds, or one in parentheses. -/
def single (tests : FileTests) : Nat → Option ConditionSign → ConditionReader →
    Except String (Bool × ConditionReader)
  | 0, _, s => .ok (false, s)
  | fuel + 1, sign, s =>
    match s.argument? 0, sign with
    | none, _ => .ok (false, s)
    | some _, some .opening => do
      let s := s.step 1
      match s.sign? 0 with
      | some .closing => pure (false, s)
      | inside =>
        let (b, s) ← anyHolds tests fuel inside s
        let s := s.step 1
        if s.sign? 0 == some .closing then pure (b, s) else throw "closing paren expected"
    | some _, some (.unary name) =>
      match s.argument? 1 with
      | some argument => (holdsFor tests name argument).map fun b => (b, s.step 1)
      | none => .error s!"{name}: argument expected"
    | some argument, _ =>
      match s.sign? 1 with
      | some (.binary name) =>
        match s.argument? 2 with
        | some other => (compare tests name argument other).map fun b => (b, s.step 2)
        | none => .error s!"{name}: argument expected"
      | _ => .ok (!argument.isEmpty, s)

end

/-- Whether the arguments of a condition hold, read from the first one on with a sign known. -/
def holdsFrom (tests : FileTests) (arguments : List String) (sign : Option ConditionSign) :
    Except String Bool := do
  let (b, s) ← anyHolds tests (4 * arguments.length + 8) sign ⟨arguments.toArray, 0⟩
  match s.argument? 0, s.argument? 1 with
  | some text, some _ =>
    throw (if text.isEmpty then "unexpected operator" else s!"{text}: unexpected operator")
  | _, _ => pure b

/-- Whether a condition holds.  Of three arguments the middle one is a sign if it can be one between two;
of three or four, parentheses around and a negation in front are seen first. -/
def holds (tests : FileTests) : List String → Except String Bool
  | [] => .ok false
  | arguments@(first :: rest) =>
    let plain : Except String Bool :=
      holdsFrom tests arguments (ConditionReader.sign? ⟨arguments.toArray, 0⟩ 0)
    let isShort := arguments.length == 3 || arguments.length == 4
    if arguments.length == 3 && (rest.head?.any isBinarySign) then holdsFrom tests arguments none
    else if isShort && first == "(" && arguments.getLast? == some ")" then
      let inside := rest.dropLast
      holdsFrom tests inside (ConditionReader.sign? ⟨inside.toArray, 0⟩ 0)
    else if isShort && first == "!" then (holds tests rest).map (!·)
    else plain

end Conformance.Shell
