import Conformance.Compile.Compiler
import Conformance.Text.Lines

/-!
# Adapters

An adapter drives any compiler through one set of operations.  The operations that the compiler offers
are looked up once, when it is adapted; a compiler that cannot compile cannot be adapted.
-/

namespace Conformance

/-- Which of the two ways to compile a compiler offers. -/
inductive CompileMode
  /-- The compiler returns a result. -/
  | advanced
  /-- The compiler returns anything and fails if it rejects a source. -/
  | simple
  deriving Repr, DecidableEq

/-- The name of a way to compile. -/
def CompileMode.text : CompileMode → Text
  | .advanced => "advanced"
  | .simple => "simple"

/-- Which operations a compiler offers. -/
structure Capabilities where
  mode : CompileMode
  prepare : Bool
  shutdown : Bool
  describe : Bool
  deriving Repr, DecidableEq

namespace Capabilities

/-- The way to compile that a compiler offers; the advanced one comes first. -/
def modeOf? (c : Compiler) : Option CompileMode :=
  if c.compileAdvanced.isCallable then some .advanced
  else if c.compile.isCallable then some .simple
  else none

/-- Look up which operations a compiler offers. -/
def negotiate (c : Compiler) : Except Failure Capabilities :=
  match modeOf? c with
  | some mode => .ok ⟨mode, c.prepare.isCallable, c.shutdown.isCallable, c.describe.isCallable⟩
  | none => .error (.unadaptable (c.typeName ++ " exposes no compatible compile operation"))

end Capabilities

/-- A compiler together with the operations that it offers. -/
structure Adapter where
  built : Built
  capabilities : Capabilities

namespace Adapter

/-- Adapt a compiler. -/
def adapt (built : Built) : Except Failure Adapter :=
  (Capabilities.negotiate built.compiler).map (⟨built, ·⟩)

/-- Build a compiler and adapt it. -/
def create (factory : Factory) : Act Adapter := do
  let built ← factory.build
  Act.ofExcept (adapt built)

/-- The compiler that is driven. -/
def compiler (a : Adapter) : Compiler :=
  a.built.compiler

/-! ## Preparing and releasing -/

/-- Prepare the compiler, if it can be prepared. -/
def prepare (a : Adapter) : Act Unit :=
  match a.compiler.prepare with
  | .callable behaviour => a.built.ask .prepare behaviour
  | .missing | .attribute => pure ()

/-- Shut the compiler down, if it can be shut down. -/
def shutdown (a : Adapter) : Act Unit :=
  match a.compiler.shutdown with
  | .callable behaviour => a.built.ask .shutdown behaviour
  | .missing | .attribute => pure ()

/-- What the compiler says about itself, or what is assumed of one that says nothing usable. -/
def describe (a : Adapter) : Act CompilerInfo :=
  let assumed := CompilerInfo.assumed a.compiler.typeName
  match a.compiler.describe with
  | .missing | .attribute => pure assumed
  | .callable behaviour => do
    match ← a.built.ask .describe behaviour with
    | .expected info => pure info
    | .other typeName =>
      Act.note (.warning
        (a.compiler.typeName ++ ".describe() returned " ++ typeName ++ ", using default info"))
      pure assumed

/-! ## Compiling -/

/-- A result with the time that passed, unless the compiler measured it itself. -/
def withTime (r : CompileResult) (elapsed : Int) : CompileResult :=
  if r.metrics.compileTimeNs = 0 then
    { r with metrics := { r.metrics with compileTimeNs := elapsed } }
  else r

/-- The result for a source that a compiler of the simple kind took. -/
def simpleAccepted (source : Text) (elapsed : Int) : CompileResult :=
  .accepted { CompileMetrics.zero with
    compileTimeNs := elapsed, linesProcessed := Text.countLines source }

/-- The result for a source that a compiler of the simple kind failed on. -/
def simpleRejected (f : Failure) (elapsed : Int) : CompileResult :=
  .rejected ("Compilation failed: " ++ f.summary) .syntactic
    { CompileMetrics.zero with compileTimeNs := elapsed }

/-- Compile with a compiler that returns results. -/
def compileAdvanced (a : Adapter) (source : Text)
    (behaviour : Trace → Text → Reply (Returned CompileResult)) : Act CompileResult := do
  let start := (← get).clock
  let returned ← a.built.ask (.compileAdvanced source) fun trace => behaviour trace source
  let elapsed := (← get).clock - start
  match returned with
  | .expected result => pure (withTime result elapsed)
  | .other typeName =>
    throw (.host (a.compiler.typeName ++ ".compile_advanced returned " ++ typeName ++ ", " ++
      "expected CompileResult"))

/-- Compile with a compiler that fails if it rejects a source.  What tells of a broken host, and what is no
ordinary failure, is passed on. -/
def compileSimple (a : Adapter) (source : Text)
    (behaviour : Trace → Text → Reply Unit) : Act CompileResult := do
  let start := (← get).clock
  let ending ← (a.built.ask (.compile source) fun trace => behaviour trace source).attempt
  let elapsed := (← get).clock - start
  match ending with
  | .ok () => pure (simpleAccepted source elapsed)
  | .error f =>
    if f.isHostFailure || !f.isOrdinary then throw f else pure (simpleRejected f elapsed)

/-- Compile a source. -/
def compile (a : Adapter) (source : Text) : Act CompileResult :=
  match a.capabilities.mode, a.compiler.compileAdvanced, a.compiler.compile with
  | .advanced, .callable behaviour, _ => a.compileAdvanced source behaviour
  | .simple, _, .callable behaviour => a.compileSimple source behaviour
  | _, _, _ => throw (.wrongKind "compile operation is not callable")

/-- Compile sources between preparing the compiler and shutting it down.  It is shut down also when a
source could not be compiled. -/
def within {α : Type} (a : Adapter) (work : Act α) : Act α := do
  a.prepare
  let ending ← work.attempt
  a.shutdown
  Act.ofExcept ending

end Adapter

end Conformance
