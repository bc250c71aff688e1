import Conformance.Compile.Result
import Conformance.Session

/-!
# Compilers

A compiler is known by the operations that it offers and by how each of them behaves.  What an operation
does may depend on everything that has happened to compilers so far.
-/

namespace Conformance

/-- An operation that a compiler may offer. -/
inductive Slot (β : Type)
  | missing
  /-- Something that bears the name of the operation but cannot be called. -/
  | attribute
  | callable (behaviour : β)

namespace Slot

variable {β : Type}

/-- The behaviour of an operation that can be called. -/
def behaviour? : Slot β → Option β
  | .callable behaviour => some behaviour
  | .missing | .attribute => none

/-- Whether an operation can be called. -/
def isCallable (s : Slot β) : Bool :=
  s.behaviour?.isSome

@[simp]
theorem behaviour?_callable (b : β) : (callable b).behaviour? = some b :=
  rfl

end Slot

/-- How an operation ends: with a value or a failure, after some time, with some notes. -/
structure Reply (α : Type) where
  ending : Except Failure α
  /-- Nanoseconds that have passed. -/
  elapsed : Int
  log : List LogRecord

/-- A reply at once, without notes. -/
def Reply.now {α : Type} (ending : Except Failure α) : Reply α :=
  ⟨ending, 0, []⟩

/-- What an operation returns: a value of the expected kind, or something of another type. -/
inductive Returned (α : Type)
  | expected (value : α)
  | other (typeName : Text)

/-- A compiler: the name of its type and its operations. -/
structure Compiler where
  typeName : Text
  prepare : Slot (Trace → Reply Unit)
  compileAdvanced : Slot (Trace → Text → Reply (Returned CompileResult))
  compile : Slot (Trace → Text → Reply Unit)
  describe : Slot (Trace → Reply (Returned CompilerInfo))
  shutdown : Slot (Trace → Reply Unit)

/-- A source of compilers.  What it builds may depend on everything that has happened so far. -/
abbrev Factory := Trace → Except Failure Compiler

/-- A compiler that has been built, and its number. -/
structure Built where
  number : Nat
  compiler : Compiler

namespace Factory

/-- Build a compiler.  A construction that fails counts as well. -/
def build (factory : Factory) : Act Built := do
  let trace := (← get).trace
  let number := trace.nextNumber
  Act.happen (.built number)
  let compiler ← Act.ofExcept (factory trace)
  pure ⟨number, compiler⟩

end Factory

namespace Built

variable {α : Type}

/-- Ask a compiler for something: the request is added to the trace, time passes and notes are taken. -/
def ask (b : Built) (request : Request) (behaviour : Trace → Reply α) : Act α := do
  let reply := behaviour (← get).trace
  Act.happen (.asked b.number b.compiler.typeName request)
  modify fun s => { s with clock := s.clock + reply.elapsed, log := reply.log.reverse ++ s.log }
  Act.ofExcept reply.ending

end Built

end Conformance
