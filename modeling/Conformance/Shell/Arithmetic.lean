import Conformance.Shell.Script
import Conformance.Shell.Octets

/-!
# Expressions of numbers

Expressions over whole numbers of sixty-four bits: sums and products, comparisons, single bits, conditions
and assignments.  An expression is read as a whole before it is worked out, so that nothing is worked out
that a condition rules out.
-/

namespace Conformance.Shell

/-! ## Numbers -/

/-- The least number of sixty-four bits. -/
def leastNumber : Int := -9223372036854775808

/-- The greatest number of sixty-four bits. -/
def greatestNumber : Int := 9223372036854775807

/-- The number of sixty-four bits nearest to a number. -/
def clampNumber (n : Int) : Int :=
  max leastNumber (min greatestNumber n)

/-- The value of a digit in a base up to sixteen. -/
def digitOf? (base : Nat) (c : Char) : Option Nat :=
  let n := c.toNat
  let value :=
    if '0' ≤ c ∧ c ≤ '9' then n - 48
    else if 'a' ≤ c ∧ c ≤ 'z' then n - 87
    else if 'A' ≤ c ∧ c ≤ 'Z' then n - 55
    else 99
  if value < base then some value else none

/-- The digits in a base at the beginning of a text, as a number, and what follows them. -/
def takeNumber (base : Nat) (text : List Char) : Nat × List Char :=
  let digits := text.takeWhile fun c => (digitOf? base c).isSome
  (digits.foldl (fun n c => n * base + (digitOf? base c).getD 0) 0, text.drop digits.length)

/-- The number at the beginning of a text, whose base its first characters tell, and what follows it. -/
def takeConstant (text : List Char) : Nat × List Char :=
  match text with
  | '0' :: 'x' :: c :: rest | '0' :: 'X' :: c :: rest =>
    if (digitOf? 16 c).isSome then takeNumber 16 (c :: rest) else (0, text.drop 1)
  | '0' :: rest => takeNumber 8 ('0' :: rest)
  | text => takeNumber 10 text

/-- The whole number that a text is, in base ten or in the base that it tells. -/
def integer? (anyBase : Bool) (text : String) : Option Int :=
  let cs := text.toList.dropWhile isSpace
  let (negative, cs) := match cs with
    | '-' :: rest => (true, rest)
    | '+' :: rest => (false, rest)
    | rest => (false, rest)
  let (n, rest) := if anyBase then takeConstant cs else takeNumber 10 cs
  let found := rest.length < cs.length
  if !(rest.all isSpace) then none
  else if !found then if anyBase && cs.isEmpty then some 0 else none
  else
    let value : Int := if negative then -n else n
    if clampNumber value = value then some value else none

/-! ## Expressions -/

/-- An operator between two numbers. -/
inductive NumberOperator
  | add | sub | mul | div | rem | shiftLeft | shiftRight
  | less | greater | atMost | atLeast | equal | different
  | bitAnd | bitXor | bitOr
  deriving Repr, DecidableEq

/-- An expression of numbers. -/
inductive NumberExpression
  | constant (value : Int64)
  | named (name : String)
  | negative (body : NumberExpression)
  | complement (body : NumberExpression)
  | isZero (body : NumberExpression)
  | binary (op : NumberOperator) (a b : NumberExpression)
  | both (a b : NumberExpression)
  | either (a b : NumberExpression)
  | choice (condition a b : NumberExpression)
  /-- Give a variable a value, which may be worked out from its old value. -/
  | assign (name : String) (op : Option NumberOperator) (value : NumberExpression)
  deriving Repr

/-- Why an expression has no value. -/
inductive NumberFault
  /-- The expression is not well formed. -/
  | malformed (wanted : String)
  /-- A variable holds what is no number. -/
  | noNumber (text : String)
  deriving Repr, DecidableEq

/-- A token of an expression. -/
inductive NumberToken
  | constant (value : Int64)
  | named (name : String)
  | sign (text : String)
  /-- A character that has no meaning. -/
  | unknown
  deriving Repr, DecidableEq

/-- The signs of expressions, longer ones before those that they begin with. -/
def numberSigns : List String :=
  ["<<=", ">>=", "<<", ">>", "<=", ">=", "==", "!=", "&&", "||", "+=", "-=", "*=", "/=", "%=", "&=",
    "^=", "|=", "<", ">", "=", "+", "-", "*", "/", "%", "&", "^", "|", "!", "~", "?", ":", "(", ")"]

/-- The tokens of an expression.  The number bounds how many there are. -/
def numberTokens : Nat → List Char → List NumberToken
  | 0, _ => []
  | _ + 1, [] => []
  | fuel + 1, c :: rest =>
    if isSpace c then numberTokens fuel rest
    else if Char.isDigit c then
      let (n, after) := takeConstant (c :: rest)
      .constant (Int64.ofInt (clampNumber n)) :: numberTokens fuel after
    else if isNameStart c then
      let name := (c :: rest).takeWhile isNameChar
      .named (String.ofList name) :: numberTokens fuel ((c :: rest).drop name.length)
    else
      match numberSigns.find? fun s => s.toList.isPrefixOf (c :: rest) with
      | some s => .sign s :: numberTokens fuel ((c :: rest).drop s.length)
      | none => .unknown :: numberTokens fuel rest

/-- The operator that a sign stands for and how tightly it binds. -/
def numberOperator? (sign : String) : Option (Nat × NumberOperator) :=
  [("|", 3, NumberOperator.bitOr), ("^", 4, .bitXor), ("&", 5, .bitAnd), ("==", 6, .equal),
    ("!=", 6, .different), ("<", 7, .less), (">", 7, .greater), ("<=", 7, .atMost),
    (">=", 7, .atLeast), ("<<", 8, .shiftLeft), (">>", 8, .shiftRight), ("+", 9, .add),
    ("-", 9, .sub), ("*", 10, .mul), ("/", 10, .div), ("%", 10, .rem)].lookup sign

/-- The operator of a sign that gives a value. -/
def assignmentOperator? (sign : String) : Option (Option NumberOperator) :=
  if sign == "=" then some none
  else if ["<=", ">=", "==", "!="].contains sign then none
  else
    match sign.toList.reverse with
    | '=' :: front => (numberOperator? (String.ofList front.reverse)).map fun (_, op) => some op
    | _ => none

mutual

/-- Read an expression that may give a variable a value. -/
def readAssignment : Nat → List NumberToken →
    Except NumberFault (NumberExpression × List NumberToken)
  | 0, _ => .error (.malformed "expecting primary")
  | fuel + 1, .named name :: .sign s :: rest =>
    match assignmentOperator? s with
    | some op => do
      let (value, rest) ← readAssignment fuel rest
      pure (.assign name op value, rest)
    | none => readCondition fuel (.named name :: .sign s :: rest)
  | fuel + 1, tokens => readCondition fuel tokens

/-- Read an expression that may be a choice. -/
def readCondition : Nat → List NumberToken →
    Except NumberFault (NumberExpression × List NumberToken)
  | 0, _ => .error (.malformed "expecting primary")
  | fuel + 1, tokens => do
    let (a, rest) ← readOperand fuel tokens
    let (a, rest) ← readOperators fuel 1 a rest
    match rest with
    | .sign "?" :: rest =>
      let (b, rest) ← readAssignment fuel rest
      match rest with
      | .sign ":" :: rest =>
        let (c, rest) ← readCondition fuel rest
        pure (.choice a b c, rest)
      | _ => .error (.malformed "expecting ':'")
    | rest => pure (a, rest)

/-- Read the operators behind an operand that bind at least as tightly as a number says. -/
def readOperators : Nat → Nat → NumberExpression → List NumberToken →
    Except NumberFault (NumberExpression × List NumberToken)
  | 0, _, _, _ => .error (.malformed "expecting primary")
  | fuel + 1, least, a, .sign s :: rest =>
    let (level, make) : Nat × (NumberExpression → NumberExpression → NumberExpression) :=
      if s == "||" then (1, .either)
      else if s == "&&" then (2, .both)
      else
        match numberOperator? s with
        | some (level, op) => (level, .binary op)
        | none => (0, fun a _ => a)
    if level < least || level == 0 then .ok (a, .sign s :: rest)
    else do
      let (b, rest) ← readOperand fuel rest
      let (b, rest) ← readOperators fuel (level + 1) b rest
      readOperators fuel least (make a b) rest
  | _ + 1, _, a, rest => .ok (a, rest)

/-- Read a number, a variable, or an expression in parentheses or behind a sign. -/
def readOperand : Nat → List NumberToken →
    Except NumberFault (NumberExpression × List NumberToken)
  | 0, _ => .error (.malformed "expecting primary")
  | fuel + 1, tokens =>
    match tokens with
    | .constant value :: rest => .ok (.constant value, rest)
    | .named name :: rest => .ok (.named name, rest)
    | .sign "(" :: rest => do
      let (e, rest) ← readAssignment fuel rest
      match rest with
      | .sign ")" :: rest => pure (e, rest)
      | _ => .error (.malformed "expecting ')'")
    | .sign "+" :: rest => readOperand fuel rest
    | .sign "-" :: rest => (readOperand fuel rest).map fun (e, rest) => (.negative e, rest)
    | .sign "!" :: rest => (readOperand fuel rest).map fun (e, rest) => (.isZero e, rest)
    | .sign "~" :: rest => (readOperand fuel rest).map fun (e, rest) => (.complement e, rest)
    | _ => .error (.malformed "expecting primary")

end

/-- Read an expression. -/
def NumberExpression.read (text : String) : Except NumberFault NumberExpression := do
  let tokens := numberTokens (text.length + 1) text.toList
  let (e, rest) ← readAssignment (4 * tokens.length + 8) tokens
  if rest.isEmpty then pure e else .error (.malformed "expecting EOF")

/-! ## Values -/

/-- The number of a truth value. -/
def truthNumber (b : Bool) : Int64 :=
  if b then 1 else 0

/-- What an operator gives for two numbers; nothing can be divided by zero. -/
def NumberOperator.apply (op : NumberOperator) (a b : Int64) : Except NumberFault Int64 :=
  match op with
  | .add => .ok (a + b)
  | .sub => .ok (a - b)
  | .mul => .ok (a * b)
  | .div => if b == 0 then .error (.malformed "division by zero") else .ok (a / b)
  | .rem => if b == 0 then .error (.malformed "division by zero") else .ok (a % b)
  | .shiftLeft => .ok (a <<< b)
  | .shiftRight => .ok (a >>> b)
  | .less => .ok (truthNumber (a < b))
  | .greater => .ok (truthNumber (b < a))
  | .atMost => .ok (truthNumber (a ≤ b))
  | .atLeast => .ok (truthNumber (b ≤ a))
  | .equal => .ok (truthNumber (a == b))
  | .different => .ok (truthNumber (a != b))
  | .bitAnd => .ok (a &&& b)
  | .bitXor => .ok (a ^^^ b)
  | .bitOr => .ok (a ||| b)

/-- The values that an expression has given to variables, latest first. -/
abbrev Assigned := List (String × Int64)

/-- The value of a variable. -/
def variableNumber (value? : String → Option String) (assigned : Assigned) (name : String) :
    Except NumberFault Int64 :=
  match assigned.lookup name, value? name with
  | some n, _ => .ok n
  | none, none => .ok 0
  | none, some text =>
    match integer? true text with
    | some n => .ok (Int64.ofInt n)
    | none => .error (.noNumber text)

/-- The value of an expression, given those of variables, and what it gives to variables. -/
def NumberExpression.value (value? : String → Option String) :
    NumberExpression → Assigned → Except NumberFault (Int64 × Assigned)
  | .constant n, s => .ok (n, s)
  | .named name, s => (variableNumber value? s name).map fun n => (n, s)
  | .negative e, s => (e.value value? s).map fun (n, s) => (-n, s)
  | .complement e, s => (e.value value? s).map fun (n, s) => (~~~n, s)
  | .isZero e, s => (e.value value? s).map fun (n, s) => (truthNumber (n == 0), s)
  | .binary op a b, s => do
    let (m, s) ← a.value value? s
    let (n, s) ← b.value value? s
    let r ← op.apply m n
    pure (r, s)
  | .both a b, s => do
    let (m, s) ← a.value value? s
    if m == 0 then pure (0, s)
    else
      let (n, s) ← b.value value? s
      pure (truthNumber (n != 0), s)
  | .either a b, s => do
    let (m, s) ← a.value value? s
    if m != 0 then pure (1, s)
    else
      let (n, s) ← b.value value? s
      pure (truthNumber (n != 0), s)
  | .choice c a b, s => do
    let (m, s) ← c.value value? s
    if m != 0 then a.value value? s else b.value value? s
  | .assign name op e, s => do
    let (n, s) ← e.value value? s
    let r ← match op with
      | none => pure n
      | some op => do
        let old ← variableNumber value? s name
        op.apply old n
    pure (r, (name, r) :: s)

end Conformance.Shell
