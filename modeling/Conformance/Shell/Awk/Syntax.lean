import Conformance.Shell.Awk.Pattern
import Conformance.Shell.Awk.Table

/-!
# Programs over records

A program over records consists of rules and functions.  A rule says when statements are carried out: at the
beginning, at the end, or for records that satisfy a condition.
-/

namespace Conformance.Shell

/-! ## Expressions -/

/-- Where a value or a table with a name is kept: for the whole program, or among what a function has for
itself. -/
inductive AwkName
  | shared (name : String)
  | own (place : Nat)
  deriving Repr, DecidableEq

/-- An operation on numbers. -/
inductive AwkOperator
  | add
  | subtract
  | multiply
  | divide
  | remainder
  | power
  deriving Repr, DecidableEq

/-- A way to compare values. -/
inductive AwkRelation
  | less
  | atMost
  | equal
  | unequal
  | greater
  | atLeast
  deriving Repr, DecidableEq

/-- Whether values that compare in a way are related. -/
def AwkRelation.holds : AwkRelation → Ordering → Bool
  | .less, o => o.isLT
  | .atMost, o => o.isLE
  | .equal, o => o.isEq
  | .unequal, o => o.isNe
  | .greater, o => o.isGT
  | .atLeast, o => o.isGE

/-- A function that every program has. -/
inductive AwkBuiltin
  | length
  | index
  | substr
  | sprintf
  | sin
  | cos
  | atan2
  | exp
  | log
  | sqrt
  | int
  | rand
  | srand
  | toLower
  | toUpper
  | system
  | close
  | flush
  | time
  | makeTime
  | formatTime
  | find
  deriving Repr, DecidableEq

/-- The name of a function that every program has, and how many arguments it takes. -/
def AwkBuiltin.table : List (String × AwkBuiltin × Nat × Nat) :=
  [("length", .length, 0, 1), ("index", .index, 2, 2), ("substr", .substr, 2, 3),
    ("sprintf", .sprintf, 1, 255), ("sin", .sin, 1, 1), ("cos", .cos, 1, 1), ("atan2", .atan2, 2, 2),
    ("exp", .exp, 1, 1), ("log", .log, 1, 1), ("sqrt", .sqrt, 1, 1), ("int", .int, 1, 1),
    ("rand", .rand, 0, 0), ("srand", .srand, 0, 1), ("tolower", .toLower, 1, 1),
    ("toupper", .toUpper, 1, 1), ("system", .system, 1, 1), ("close", .close, 1, 1),
    ("fflush", .flush, 0, 1), ("systime", .time, 0, 0), ("mktime", .makeTime, 1, 1),
    ("strftime", .formatTime, 0, 3)]

/-- An expression. -/
inductive AwkExpr
  | number (x : Float)
  | text (s : String)
  /-- An expression that is looked for in the record. -/
  | pattern (e : Regular)
  | variable (name : AwkName)
  | element (table : AwkName) (key : List AwkExpr)
  | field (index : AwkExpr)
  /-- A variable or an element in brackets, to which nothing can be assigned. -/
  | group (e : AwkExpr)
  | assign (place : AwkExpr) (operator : Option AwkOperator) (value : AwkExpr)
  /-- A place whose number grows or shrinks by one, of which the value before or after counts. -/
  | step (place : AwkExpr) (isUp isAfter : Bool)
  | negate (e : AwkExpr)
  | positive (e : AwkExpr)
  | not (e : AwkExpr)
  | compute (operator : AwkOperator) (a b : AwkExpr)
  | compare (relation : AwkRelation) (a b : AwkExpr)
  | matching (isWanted : Bool) (text pattern : AwkExpr)
  | both (a b : AwkExpr)
  | either (a b : AwkExpr)
  | choose (test yes no : AwkExpr)
  | join (a b : AwkExpr)
  | contains (table : AwkName) (key : List AwkExpr)
  | call (name : String) (arguments : List AwkExpr)
  | builtin (f : AwkBuiltin) (arguments : List AwkExpr)
  /-- The length of a text, or the size of a table. -/
  | extent (name : AwkName)
  | split (text : AwkExpr) (table : AwkName) (separator : Option AwkExpr)
  | substitute (isGlobal : Bool) (pattern text : AwkExpr) (place : Option AwkExpr)
  | readRecord (place : Option AwkExpr)
  | readFile (name : AwkExpr) (place : Option AwkExpr)
  | readCommand (command : AwkExpr) (place : Option AwkExpr)

instance : Inhabited AwkExpr := ⟨.number 0⟩

/-- Whether something can be assigned to an expression. -/
def AwkExpr.isPlace : AwkExpr → Bool
  | .variable _ | .element .. | .field _ => true
  | _ => false

/-! ## Statements -/

/-- Where values are written. -/
inductive AwkTarget
  | output
  | file (name : AwkExpr) (isAppended : Bool)
  | command (command : AwkExpr)

/-- A statement. -/
inductive AwkStatement
  | evaluate (e : AwkExpr)
  | print (values : List AwkExpr) (target : AwkTarget)
  /-- Write values as the first of them says. -/
  | printFilled (values : List AwkExpr) (target : AwkTarget)
  | block (body : List AwkStatement)
  | branch (test : AwkExpr) (yes no : AwkStatement)
  /-- Do something and a step as long as a test holds, which may be made after the first time only. -/
  | loop (isTestedFirst : Bool) (test : Option AwkExpr) (step : Option AwkExpr) (body : AwkStatement)
  | eachKey (name table : AwkName) (body : AwkStatement)
  | leaveLoop
  | nextTurn
  | nextRecord
  | nextFile
  | exit (status : Option AwkExpr)
  | answer (value : Option AwkExpr)
  | delete (table : AwkName) (key : Option (List AwkExpr))

instance : Inhabited AwkStatement := ⟨.block []⟩

/-! ## Programs -/

/-- When the statements of a rule are carried out. -/
inductive AwkTrigger
  | start
  | finish
  | always
  | when (test : AwkExpr)
  | between (first last : AwkExpr)

/-- A rule; one without statements writes the record. -/
structure AwkRule where
  trigger : AwkTrigger
  body : AwkStatement

/-- A function: which of the places that it has for itself are tables, and what it does. -/
structure AwkFunction where
  tables : List Bool
  body : AwkStatement

instance : Inhabited AwkFunction := ⟨⟨[], default⟩⟩

/-- A program. -/
structure AwkProgram where
  rules : List AwkRule
  functions : List (String × AwkFunction)
  /-- The names that stand for tables in the whole program. -/
  tables : List String

/-- The variables that every program has, with their values. -/
def awkVariables : List (String × AwkValue) :=
  [("NF", .number 0), ("NR", .number 0), ("FNR", .number 0), ("FS", .text " "), ("OFS", .text " "),
    ("RS", .text "\n"), ("ORS", .text "\n"), ("CONVFMT", .text AwkValue.usualPattern),
    ("OFMT", .text AwkValue.usualPattern), ("SUBSEP", .text "\x1c"), ("RSTART", .unset),
    ("RLENGTH", .unset), ("FILENAME", .unset)]

/-- The tables that every program has. -/
def awkTables : List String :=
  ["ARGV", "ENVIRON"]

/-- The variables that are kept together with the fields of the record. -/
def awkFieldVariables : List String :=
  ["NF", "FS", "RS", "CONVFMT", "OFMT"]

end Conformance.Shell
