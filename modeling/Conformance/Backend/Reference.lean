import Conformance.Compile.Result
import Conformance.Source.Structure
import Conformance.Text.Lines
import Conformance.Text.Search

/-!
# The reference backend

A stand-in for a compiler: it cuts a source into tokens, checks its structure and names the module that
it found.  It measures no time of its own.
-/

namespace Conformance.Backend

open Source Text

/-- A reference compiler: whether it gives warnings, and the counters of the last source it could cut into
tokens. -/
structure Reference where
  warns : Bool
  lastMetrics : CompileMetrics
  deriving Repr, DecidableEq

namespace Reference

/-- The name under which the backend is known. -/
def name : Text := "reference"

/-- A new reference compiler. -/
def create (warns : Bool) : Reference :=
  ⟨warns, .zero⟩

/-- What the reference compiler says about itself. -/
def info : CompilerInfo where
  name := "svconform-reference"
  version := "0.1.0"
  standards := [.systemVerilog2017, .systemVerilog2012]
  features := ["lexical_analysis", "structure_check", "performance_metrics"]

/-! ## Warnings -/

/-- A warning about no place in particular. -/
def warning (message : Text) (category : WarningCategory) : CompileWarning :=
  ⟨message, 0, 0, none, category⟩

/-- The warnings about the text of a source. -/
def sourceWarnings (source : Text) : List CompileWarning :=
  (if contains source "synthesis" || contains source "synopsys" then
    [warning "Synthesis pragmas detected - may not be portable" .portability] else []) ++
  (if contains source "always @(*)" then
    [warning "Consider using always_comb for combinational logic" .performance] else [])

/-! ## Compiling -/

/-- The error of a source that cannot be cut into tokens. -/
def lexicalError (e : LexicalError) : CompileError :=
  ⟨"Lexical analysis failed: " ++ e.message, e.line, e.column, none, .lexical⟩

/-- The counters of a source before anything is known of its tokens. -/
def lineMetrics (source : Text) : CompileMetrics :=
  { CompileMetrics.zero with linesProcessed := countLines source }

/-- The result for a source that was cut into tokens. -/
def judge (warns : Bool) (source : Text) (tokens : List Token) : CompileResult :=
  let errors := structureErrors tokens
  let counted := { lineMetrics source with tokensProcessed := tokens.length }
  if errors.isEmpty then
    { success := true
      errors := []
      warnings := if warns then sourceWarnings source else []
      metrics := { counted with astNodesCreated := 1 }
      ast := some (.record [("module", .text (moduleName tokens))]) }
  else ⟨false, errors, [], counted, none⟩

/-- The result for a source. -/
def result (warns : Bool) (source : Text) : CompileResult :=
  match tokenize source with
  | .error e => ⟨false, [lexicalError e], [], lineMetrics source, none⟩
  | .ok tokens => judge warns source tokens

/-- Whether a source can be cut into tokens. -/
def hasTokens (source : Text) : Bool :=
  (tokenize source).toBool

/-- Compile a source.  The counters of a source that cannot be cut into tokens are not remembered. -/
def compile (r : Reference) (source : Text) : CompileResult × Reference :=
  let found := result r.warns source
  (found, if hasTokens source then { r with lastMetrics := found.metrics } else r)

end Reference

end Conformance.Backend
