import Conformance.Decimal.Arithmetic
import Conformance.Document.Basic
import Conformance.Text.Basic

/-!
# Results of compilations

What a compiler says about a source, what it says about itself, and the result that it gives.
-/

namespace Conformance

/-! ## Diagnostics

What a compiler says about a source: errors, each from a stage of the compilation, and warnings, each
of a kind.  Both name a place as far as it is known. -/

/-! ### Categories -/

/-- The stage of a compilation that an error comes from. -/
inductive ErrorCategory
  | lexical
  | syntactic
  | semantic
  | typeCheck
  | elaboration
  | other
  deriving Repr, DecidableEq

/-- The kind of a warning. -/
inductive WarningCategory
  | unused
  | outdated
  | performance
  | portability
  | general
  deriving Repr, DecidableEq

/-- The name of a stage. -/
def ErrorCategory.text : ErrorCategory → Text
  | .lexical => "lexical"
  | .syntactic => "syntax"
  | .semantic => "semantic"
  | .typeCheck => "type_check"
  | .elaboration => "elaboration"
  | .other => "other"

/-- The name of a kind of warning. -/
def WarningCategory.text : WarningCategory → Text
  | .unused => "unused"
  | .outdated => "deprecated"
  | .performance => "performance"
  | .portability => "portability"
  | .general => "general"

/-- All stages. -/
def ErrorCategory.all : List ErrorCategory :=
  [.lexical, .syntactic, .semantic, .typeCheck, .elaboration, .other]

/-- All kinds of warnings. -/
def WarningCategory.all : List WarningCategory :=
  [.unused, .outdated, .performance, .portability, .general]

/-- The stage with a name. -/
def ErrorCategory.ofText? (name : Text) : Option ErrorCategory :=
  ErrorCategory.all.find? (·.text == name)

/-- The kind of warning with a name. -/
def WarningCategory.ofText? (name : Text) : Option WarningCategory :=
  WarningCategory.all.find? (·.text == name)

@[simp]
theorem ErrorCategory.ofText?_text (c : ErrorCategory) : ErrorCategory.ofText? c.text = some c := by
  cases c <;> decide

@[simp]
theorem WarningCategory.ofText?_text (c : WarningCategory) :
    WarningCategory.ofText? c.text = some c := by
  cases c <;> decide

/-! ### Diagnostics -/

/-- A statement about a place in a source.  Line and column are zero where they are not known. -/
structure Diagnostic (Category : Type) where
  message : Text
  line : Int
  column : Int
  file : Option Text
  category : Category
  deriving Repr, DecidableEq

/-- An error of a compilation. -/
abbrev CompileError := Diagnostic ErrorCategory

/-- A warning of a compilation. -/
abbrev CompileWarning := Diagnostic WarningCategory

namespace Diagnostic

/-- The known parts of a place.  A column counts only behind a line. -/
def placeParts {Category : Type} (d : Diagnostic Category) : List Text :=
  (d.file.filter (!·.isEmpty)).toList ++
    (if d.line = 0 then []
      else .ofString (toString d.line) ::
        (if d.column = 0 then [] else [.ofString (toString d.column)]))

/-- The place in front of a message. -/
def place {Category : Type} (d : Diagnostic Category) : Text :=
  if d.placeParts.isEmpty then "" else Text.intercalate ":" d.placeParts ++ ": "

/-- The text of a diagnostic, given the name of its category. -/
def textWith {Category : Type} (d : Diagnostic Category) (category : Text) : Text :=
  d.place ++ category ++ ": " ++ d.message

end Diagnostic

/-- The text of an error. -/
def CompileError.text (e : CompileError) : Text :=
  e.textWith e.category.text

/-- The text of a warning. -/
def CompileWarning.text (w : CompileWarning) : Text :=
  w.textWith w.category.text

/-! ## What compilers say about themselves

The name and version of a compiler, the language standards that it claims to support, and its features. -/

/-- A language standard. -/
inductive Standard
  | verilog1995
  | verilog2001
  | verilog2005
  | systemVerilog2005
  | systemVerilog2009
  | systemVerilog2012
  | systemVerilog2017
  | systemVerilog2023
  deriving Repr, DecidableEq

namespace Standard

/-- The name of a standard. -/
def text : Standard → Text
  | .verilog1995 => "ieee1364_1995"
  | .verilog2001 => "ieee1364_2001"
  | .verilog2005 => "ieee1364_2005"
  | .systemVerilog2005 => "ieee1800_2005"
  | .systemVerilog2009 => "ieee1800_2009"
  | .systemVerilog2012 => "ieee1800_2012"
  | .systemVerilog2017 => "ieee1800_2017"
  | .systemVerilog2023 => "ieee1800_2023"

/-- All standards. -/
def all : List Standard :=
  [.verilog1995, .verilog2001, .verilog2005, .systemVerilog2005, .systemVerilog2009,
    .systemVerilog2012, .systemVerilog2017, .systemVerilog2023]

/-- The standard with a name. -/
def ofText? (name : Text) : Option Standard :=
  all.find? (·.text == name)

@[simp]
theorem ofText?_text (s : Standard) : ofText? s.text = some s := by
  cases s <;> decide

end Standard

/-- What a compiler says about itself. -/
structure CompilerInfo where
  name : Text
  version : Text
  standards : List Standard
  features : List Text
  deriving Repr, DecidableEq

namespace CompilerInfo

/-- What is known of a compiler that says nothing but its name. -/
def named (name : Text) : CompilerInfo :=
  ⟨name, "0.0.0", [], []⟩

/-- What is assumed of a compiler that cannot say anything about itself, given the name of its type. -/
def assumed (typeName : Text) : CompilerInfo :=
  ⟨typeName, "dev", [.systemVerilog2017], []⟩

end CompilerInfo

/-! ## Results of compilations

A result says whether a source was accepted, with the diagnostics, the counters and the tree that the
compiler gave.  Adding an error makes a result a rejection; adding a warning does not. -/

/-- The counters of a compilation. -/
structure CompileMetrics where
  compileTimeNs : Int
  lexingTimeNs : Int
  parsingTimeNs : Int
  semanticTimeNs : Int
  tokensProcessed : Int
  linesProcessed : Int
  astNodesCreated : Int
  memoryUsedBytes : Int
  deriving Repr, DecidableEq

/-- Counters that all stand at zero. -/
def CompileMetrics.zero : CompileMetrics :=
  ⟨0, 0, 0, 0, 0, 0, 0, 0⟩

/-- The compile time in milliseconds. -/
def CompileMetrics.compileTimeMs (m : CompileMetrics) : Decimal.Computed Float :=
  Decimal.quotient m.compileTimeNs 1000000

/-- The outcome of a compilation. -/
structure CompileResult where
  success : Bool
  errors : List CompileError
  warnings : List CompileWarning
  metrics : CompileMetrics
  /-- The tree that the compiler made, if it made one. -/
  ast : Option Document
  deriving Repr

namespace CompileResult

/-- An accepted source about which nothing was said. -/
def accepted (metrics : CompileMetrics) : CompileResult :=
  ⟨true, [], [], metrics, none⟩

/-- A rejection with exactly one error, which names no place. -/
def rejected (message : Text) (category : ErrorCategory) (metrics : CompileMetrics) :
    CompileResult :=
  ⟨false, [⟨message, 0, 0, none, category⟩], [], metrics, none⟩

/-- Add an error.  A result with an error is no success. -/
def addError (r : CompileResult) (e : CompileError) : CompileResult :=
  { r with success := false, errors := r.errors ++ [e] }

/-- Add a warning. -/
def addWarning (r : CompileResult) (w : CompileWarning) : CompileResult :=
  { r with warnings := r.warnings ++ [w] }

/-- Add errors, one after another. -/
def addErrors (r : CompileResult) (errors : List CompileError) : CompileResult :=
  { r with success := r.success && errors.isEmpty, errors := r.errors ++ errors }

@[simp]
theorem addErrors_nil (r : CompileResult) : r.addErrors [] = r := by
  simp [addErrors]

/-- Adding errors together is adding them one after another. -/
theorem addErrors_cons (r : CompileResult) (e : CompileError) (rest : List CompileError) :
    r.addErrors (e :: rest) = (r.addError e).addErrors rest := by
  simp [addErrors, addError]

@[simp]
theorem success_addError (r : CompileResult) (e : CompileError) :
    (r.addError e).success = false :=
  rfl

@[simp]
theorem success_addWarning (r : CompileResult) (w : CompileWarning) :
    (r.addWarning w).success = r.success :=
  rfl

end CompileResult

end Conformance
