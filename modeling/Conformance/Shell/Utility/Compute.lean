import Conformance.Shell.Regular
import Conformance.Shell.Utility.Basic

/-!
# Expressions as arguments

A program that works out an expression each sign of which is an argument: numbers and texts are compared,
counted with and matched.
-/

namespace Conformance.Shell

open Effect

/-- The number that an argument is. -/
def operandNumber? (text : String) : Option Int :=
  let (negative, digits) := match text.toList with
    | '-' :: rest => (true, rest)
    | rest => (false, rest)
  if digits.isEmpty || !digits.all Char.isDigit then none
  else
    let n : Int := (takeNumber 10 digits).1
    some (if negative then -n else n)

/-- Whether a value counts as none: it is empty or zero. -/
def isNullValue (text : String) : Bool :=
  text.isEmpty || operandNumber? text == some 0

/-- A truth value as a number. -/
def truthText (isTrue : Bool) : String :=
  if isTrue then "1" else "0"

/-- Match a text with an expression from its beginning on: what the first group has matched, or how much has
been matched where there is none. -/
def matchOperand (text pattern : String) : Except String String := do
  let e ← Regular.read .basic (unitsOf pattern)
  let s : Regular.Subject := ⟨(unitsOf text).toArray, false, false⟩
  let part (a b : Nat) : String := bytesOfUnits (s.text.extract a b).toList
  pure (match e.matchAt? s 0, hasGroup e with
    | some spot, true =>
      match spot.groups.lookup 1 with
      | some (a, b) => part a b
      | none => ""
    | some spot, false => toString spot.place
    | none, true => ""
    | none, false => "0")
where
  /-- Whether an expression has a group. -/
  hasGroup : Regular → Bool
    | .group .. => true
    | .repeated _ _ body => hasGroup body
    | .sequence a b | .either a b => hasGroup a || hasGroup b
    | _ => false

/-- The signs between two values, the weakest ones first. -/
def operatorLevels : List (List String) :=
  [["|"], ["&"], ["<", "<=", "=", "==", "!=", ">=", ">"], ["+", "-"], ["*", "/", "%"], [":"]]

/-- Work out an operator; where the result is not used, nothing can be wrong with it. -/
def operate (isUsed : Bool) (sign a b : String) : Except String String :=
  let compared (numbers : Int → Int → Bool) (texts : Bool) : Except String String :=
    match operandNumber? a, operandNumber? b with
    | some m, some n => .ok (truthText (numbers m n))
    | _, _ => .ok (truthText texts)
  let counted (work : Int → Int → Except String Int) : Except String String :=
    if !isUsed then .ok ""
    else
      match operandNumber? a, operandNumber? b with
      | some m, some n => (work m n).map toString
      | _, _ => .error "non-integer argument"
  let divided (work : Int → Int → Int) : Except String String :=
    counted fun m n => if n = 0 then .error "division by zero" else .ok (work m n)
  match sign with
  | "|" => .ok (if !isNullValue a then a else if isNullValue b then "0" else b)
  | "&" => .ok (if isNullValue a || isNullValue b then "0" else a)
  | "<" => compared (fun m n => decide (m < n)) (decide (a < b))
  | "<=" => compared (fun m n => decide (m ≤ n)) (decide (a ≤ b))
  | ">" => compared (fun m n => decide (n < m)) (decide (b < a))
  | ">=" => compared (fun m n => decide (n ≤ m)) (decide (b ≤ a))
  | "!=" => compared (fun m n => m != n) (a != b)
  | "+" => counted fun m n => .ok (m + n)
  | "-" => counted fun m n => .ok (m - n)
  | "*" => counted fun m n => .ok (m * n)
  | "/" => divided Int.tdiv
  | "%" => divided Int.tmod
  | ":" => if isUsed then matchOperand a b else .ok ""
  | _ => compared (fun m n => m == n) (a == b)

/-- What is said where an argument is missing behind another one. -/
def missingBehind (last : Option String) : String :=
  match last with
  | some word => "syntax error: missing argument after " ++ quoted word
  | none => "missing operand"

/-- How many characters of a text come up to the first one that is in a set, with it; zero if there is
none. -/
def placeOfAny (text set : List Char) : Nat :=
  let before := text.takeWhile (!set.contains ·)
  if before.length < text.length then before.length + 1 else 0

/-- A part of a text, given by the number of its first character and how many there are. -/
def partOf (text start count : String) : String :=
  match operandNumber? start, operandNumber? count with
  | some m, some n =>
    if 1 ≤ m && 1 ≤ n then
      bytesOfUnits (((unitsOf text).drop (m.toNat - 1)).take n.toNat)
    else ""
  | _, _ => ""

mutual

/-- Work out an expression whose signs are of some levels, from arguments and the one in front of them. -/
def evaluateLevel : Nat → Bool → List (List String) → Option String → List String →
    Except String (String × Option String × List String)
  | 0, _, _, _, _ => .error "syntax error"
  | fuel + 1, isUsed, [], last, words => evaluateSingle fuel isUsed last words
  | fuel + 1, isUsed, signs :: stronger, last, words => do
    let (value, last, rest) ← evaluateLevel fuel isUsed stronger last words
    evaluateMore fuel isUsed signs stronger value last rest

/-- Go on with the signs of a level that follow a value. -/
def evaluateMore : Nat → Bool → List String → List (List String) → String → Option String → List String →
    Except String (String × Option String × List String)
  | 0, _, _, _, _, _, _ => .error "syntax error"
  | _ + 1, _, _, _, value, last, [] => .ok (value, last, [])
  | fuel + 1, isUsed, signs, stronger, value, last, sign :: rest =>
    if signs.contains sign then do
      let needed := isUsed && !(sign == "|" && !isNullValue value) && !(sign == "&" && isNullValue value)
      let (other, last, rest) ← evaluateLevel fuel needed stronger (some sign) rest
      let result ← operate isUsed sign value other
      evaluateMore fuel isUsed signs stronger result last rest
    else .ok (value, last, sign :: rest)

/-- Work out a value that stands alone, in brackets, or behind the name of a function. -/
def evaluateSingle : Nat → Bool → Option String → List String →
    Except String (String × Option String × List String)
  | 0, _, _, _ => .error "syntax error"
  | _ + 1, _, last, [] => .error (missingBehind last)
  | fuel + 1, isUsed, _, word :: rest =>
    let next (last : String) (words : List String) := evaluateSingle fuel isUsed (some last) words
    match word with
    | "+" =>
      match rest with
      | value :: rest => .ok (value, some value, rest)
      | [] => .error (missingBehind (some word))
    | "(" => do
      let (value, last, rest) ← evaluateLevel fuel isUsed operatorLevels (some word) rest
      match rest with
      | ")" :: rest => pure (value, some ")", rest)
      | other :: _ => .error ("syntax error: expecting ')' instead of " ++ quoted other)
      | [] => .error ("syntax error: expecting ')' after " ++ quoted (last.getD word))
    | ")" => .error "syntax error: unexpected ')'"
    | "length" => do
      let (value, last, rest) ← next word rest
      pure (toString (unitsOf value).length, last, rest)
    | "match" => do
      let (value, last, rest) ← next word rest
      let (pattern, last, rest) ← next (last.getD word) rest
      let result ← operate isUsed ":" value pattern
      pure (result, last, rest)
    | "index" => do
      let (value, last, rest) ← next word rest
      let (set, last, rest) ← next (last.getD word) rest
      pure (toString (placeOfAny (unitsOf value) (unitsOf set)), last, rest)
    | "substr" => do
      let (value, last, rest) ← next word rest
      let (start, last, rest) ← next (last.getD word) rest
      let (count, last, rest) ← next (last.getD word) rest
      pure (partOf value start count, last, rest)
    | word => .ok (word, some word, rest)

end

/-- The value of an expression. -/
def evaluateWords (words : List String) : Except String String := do
  let (value, _, rest) ← evaluateLevel (16 * (words.length + 1)) true operatorLevels none words
  match rest with
  | [] => pure value
  | ")" :: _ => .error "syntax error: unexpected ')'"
  | word :: _ => .error ("syntax error: unexpected argument " ++ quoted word)

/-- Work out an expression and write its value. -/
def exprProgram (arguments : List String) : Effect Nat := do
  let words := match arguments with
    | "--" :: rest => rest
    | words => words
  if words.isEmpty then misused "missing operand" 2
  else
    match evaluateWords words with
    | .ok value =>
      say s!"{value}\n"
      pure (if isNullValue value then 1 else 0)
    | .error message =>
      tell message
      pure 2

end Conformance.Shell
