import Conformance.Compile.Result
import Conformance.Source.Token

/-!
# Structure of a source

Brackets have to close in the order in which they were opened, and every module has to end.  The two
checks do not depend on each other: a module may begin inside brackets that it does not close.
-/

namespace Conformance.Source

/-! ## Tokens that open and close -/

/-- The three pairs of brackets. -/
inductive Bracket
  | round
  | square
  | curly
  deriving Repr, DecidableEq

/-- What a token means for the structure of a source. -/
inductive Role
  | opens (bracket : Bracket)
  | closes (bracket : Bracket)
  | opensModule
  | closesModule
  | neutral
  deriving Repr, DecidableEq

/-- The role of a symbol. -/
def symbolRole (value : Text) : Role :=
  if value = "(" then .opens .round
  else if value = "[" then .opens .square
  else if value = "\x7b" then .opens .curly
  else if value = ")" then .closes .round
  else if value = "]" then .closes .square
  else if value = "\x7d" then .closes .curly
  else .neutral

/-- The role of an identifier. -/
def wordRole (value : Text) : Role :=
  if value = "module" ∨ value = "macromodule" then .opensModule
  else if value = "endmodule" then .closesModule
  else .neutral

/-- The role of a token.  Strings and numbers have none. -/
def Token.role (t : Token) : Role :=
  match t.kind with
  | .identifier => wordRole t.value
  | .symbol => symbolRole t.value
  | .string | .number => .neutral

/-! ## Checking -/

/-- An error about a token. -/
def Token.error (t : Token) (message : Text) : CompileError :=
  ⟨message, t.line, t.column, none, .syntactic⟩

/-- What is open at a place in a source, innermost first, and the errors so far, last first. -/
structure Nesting where
  brackets : List (Bracket × Token)
  modules : List Token
  errors : List CompileError
  deriving Repr

namespace Nesting

/-- Nothing is open at the beginning. -/
def empty : Nesting :=
  ⟨[], [], []⟩

/-- Close a bracket.  One that does not fit the innermost open one is an error and closes nothing. -/
def close (n : Nesting) (bracket : Bracket) (t : Token) : Nesting :=
  match n.brackets with
  | (innermost, _) :: rest =>
    if innermost = bracket then { n with brackets := rest }
    else { n with errors := t.error ("unexpected '" ++ t.value ++ "'") :: n.errors }
  | [] => { n with errors := t.error ("unexpected '" ++ t.value ++ "'") :: n.errors }

/-- End a module.  It is an error if none is open. -/
def endModule (n : Nesting) (t : Token) : Nesting :=
  match n.modules with
  | _ :: rest => { n with modules := rest }
  | [] => { n with errors := t.error "'endmodule' without 'module'" :: n.errors }

/-- Take in a token. -/
def step (n : Nesting) (t : Token) : Nesting :=
  match t.role with
  | .opens bracket => { n with brackets := (bracket, t) :: n.brackets }
  | .closes bracket => n.close bracket t
  | .opensModule => { n with modules := t :: n.modules }
  | .closesModule => n.endModule t
  | .neutral => n

/-- Take in tokens, one after another. -/
def run (n : Nesting) (tokens : List Token) : Nesting :=
  tokens.foldl step n

/-- All errors of a whole source: those on the way, then the brackets that are still open, then the
modules that do not end. -/
def allErrors (n : Nesting) : List CompileError :=
  n.errors.reverse ++
    n.brackets.reverse.map (fun (_, t) => t.error ("unclosed '" ++ t.value ++ "'")) ++
    n.modules.reverse.map (·.error "'module' without 'endmodule'")

@[simp]
theorem run_nil (n : Nesting) : n.run [] = n :=
  rfl

@[simp]
theorem run_cons (n : Nesting) (t : Token) (rest : List Token) :
    n.run (t :: rest) = (n.step t).run rest :=
  rfl

end Nesting

/-- The errors in the structure of a source. -/
def structureErrors (tokens : List Token) : List CompileError :=
  (Nesting.empty.run tokens).allErrors

/-! ## Names -/

/-- The name behind the first `module` that an identifier follows. -/
def moduleName? : List Token → Option Text
  | t :: next :: rest =>
    if t.value = "module" ∧ next.kind = .identifier then some next.value
    else moduleName? (next :: rest)
  | _ => none

theorem moduleName?_cons_cons (t next : Token) (rest : List Token) :
    moduleName? (t :: next :: rest) =
      if t.value = "module" ∧ next.kind = .identifier then some next.value else moduleName? (next :: rest) :=
  rfl

/-- The name that a source is known by. -/
def moduleName (tokens : List Token) : Text :=
  (moduleName? tokens).getD "unknown_module"

end Conformance.Source
