import Conformance.Backend.Command
import Conformance.Backend.Reference
import Conformance.Document.Operand
import Conformance.Signature

/-!
# The table of backends

Backends are known by name.  The table starts with those that come with the harness, in the order of their
names, and then takes what the entry points of installed packages refer to.  A class that is registered
under a name in use takes the place of the class that had it; an entry point never does.
-/

namespace Conformance.Backend

open Decimal

/-! ## Classes -/

/-- The options that an instance is made with, in the order in which they were given. -/
abbrev Options := List (Text × Document)

/-- An instance of a backend: its name, its settings, and the compiler that it is under a number. -/
structure Instance where
  name : Text
  settings : Options
  compiler : Nat → Compiler

/-- A class of backends. -/
structure BackendClass where
  className : Text
  instantiate : Options → Except Failure Instance

namespace Options

/-- The value of an option. -/
def get? (name : Text) : Options → Option Document
  | [] => none
  | (other, value) :: rest => if other == name then some value else get? name rest

/-- Refuse options that a class does not take.  Of several the first one is told. -/
def check (className : Text) (known : List Text) (options : Options) : Except Failure Unit :=
  (Signature.ofClass className [] known).check (options.map (·.1))

/-- Options are taken exactly if each of them is. -/
theorem check_eq_ok_iff {className : Text} {known : List Text} {options : Options} :
    check className known options = .ok () ↔
      ∀ option ∈ options, (Signature.ofClass className [] known).takes option.1 = true := by
  simp [check, Signature.check_eq_ok_iff, Signature.ofClass]

end Options

/-! ## The reference class -/

namespace Reference

/-- The reference compiler as a compiler. -/
def compiler (warns : Bool) : Compiler where
  typeName := "ReferenceCompiler"
  prepare := .callable fun _ => .now (.ok ())
  compileAdvanced := .callable fun _ source => .now (.ok (.expected (result warns source)))
  compile := .missing
  describe := .callable fun _ => .now (.ok (.expected info))
  shutdown := .callable fun _ => .now (.ok ())

/-- The class of reference compilers. -/
def backendClass : BackendClass where
  className := "ReferenceCompiler"
  instantiate options := do
    Options.check "ReferenceCompiler" ["enable_warnings"] options
    let warns := (Options.get? "enable_warnings" options).getD (.bool true)
    pure ⟨name, [("enable_warnings", warns)], fun _ => compiler warns.isTruthy⟩

end Reference

/-! ## The command class -/

/-- The surroundings of command backends: what is on the search path, and how tools are run behind the work
directories that were in use before. -/
structure Surroundings where
  isOnPath : Text → Bool
  tool : List Command.Former → Command.Tool

namespace Command

/-- The command line that an option stands for. -/
def readArguments (value : Document) : Except Failure (List Text) := do
  if value.isTruthy then
    let parts ← value.parts
    parts.mapM Document.displayed
  else pure []

/-- The settings that options stand for. -/
def readSettings (options : Options) : Except Failure CommandSettings := do
  let arguments ← match options.get? "argv" with
    | some value => readArguments value
    | none => .ok defaultArguments
  CommandSettings.create arguments
    ((options.get? "timeout").getD (.ofNumber defaultTimeout))
    ((options.get? "env").getD .null)

/-- The class of command backends. -/
def backendClass (s : Surroundings) : BackendClass where
  className := "CommandCompiler"
  instantiate options := do
    Options.check "CommandCompiler" ["argv", "timeout", "env"] options
    let settings ← readSettings options
    pure {
      name := name
      settings :=
        [("argv", .texts settings.arguments), ("timeout", settings.timeout),
          ("env", settings.environment)]
      compiler := compiler settings s.isOnPath s.tool }

end Command

/-! ## The table -/

/-- What an entry point refers to. -/
inductive EntryTarget
  | backend (backend : BackendClass)
  /-- Something that is no backend, and how it is shown. -/
  | other (shown : Text)
  | failing (failure : Failure)

/-- An entry point of an installed package. -/
structure EntryPoint where
  name : Text
  target : EntryTarget

/-- The backends that are known, in the order in which their names were first registered. -/
structure Table where
  entries : List (Text × BackendClass)

namespace Table

/-- The class that a name is registered for. -/
def find? (name : Text) : List (Text × BackendClass) → Option BackendClass
  | [] => none
  | (other, backend) :: rest => if other == name then some backend else find? name rest

/-- Put a class under a name; a name in use keeps its place. -/
def insert (name : Text) (backend : BackendClass) :
    List (Text × BackendClass) → List (Text × BackendClass)
  | [] => [(name, backend)]
  | (other, old) :: rest =>
    if other == name then (other, backend) :: rest else (other, old) :: insert name backend rest

/-- The names of the backends. -/
def names (t : Table) : List Text :=
  t.entries.map (·.1)

/-- The name of the instances of a class.  A class that cannot be instantiated has none. -/
def nameOf? (backend : BackendClass) : Act (Option Text) :=
  match backend.instantiate [] with
  | .ok instanceOf => pure (some instanceOf.name)
  | .error f =>
    if f.isOrdinary then do
      Act.note (.warning ("Failed to instantiate backend " ++ backend.className ++ ": " ++ f.message))
      pure none
    else throw f

/-- Register a class, and give the name under which it is known now. -/
def register (t : Table) (backend : BackendClass) : Act (Option Text × Table) := do
  match ← nameOf? backend with
  | some name => pure (some name, ⟨insert name backend t.entries⟩)
  | none => pure (none, t)

/-- Take what an entry point refers to, unless it is no backend or its name is in use. -/
def take (t : Table) (e : EntryPoint) : Act Table := do
  match e.target with
  | .failing f =>
    if f.isOrdinary then do
      Act.note (.warning ("Failed to load entry point " ++ e.name ++ ": " ++ f.message))
      pure t
    else throw f
  | .other shown =>
    Act.note (.warning
      ("Entry point " ++ e.name ++ " does not refer to an SVCompiler subclass: " ++ shown))
    pure t
  | .backend backend =>
    match ← nameOf? backend with
    | none => pure t
    | some name =>
      if (find? name t.entries).isSome then
        Act.note (.warning ("Backend " ++ name ++ " from entry point " ++ e.name ++ " conflicts with " ++
          "an existing backend, skipping"))
        pure t
      else pure ⟨insert name backend t.entries⟩

/-- The backends that come with the harness. -/
def builtIn (s : Surroundings) : Table :=
  ⟨[(Command.name, Command.backendClass s), (Reference.name, Reference.backendClass)]⟩

/-- The backends that come with the harness and those of the entry points. -/
def discover (s : Surroundings) (points : List EntryPoint) : Act Table :=
  points.foldlM take (builtIn s)

/-! ## Looking up -/

/-- The names of the backends as an error shows them. -/
def namesText (t : Table) : Text :=
  let shown := Text.intercalate ", " (t.names.mergeSort fun a b => decide (a ≤ b))
  if shown.isEmpty then "none" else shown

/-- The class that a name is registered for, or the failure that names those that are. -/
def classOf (t : Table) (name : Text) : Except Failure BackendClass :=
  match find? name t.entries with
  | some backend => .ok backend
  | none => .error (.unknownBackend
      ("Unknown backend " ++ (Text.quoted name) ++ " (available: " ++ t.namesText ++ ")"))

/-- A new instance of the backend with a name. -/
def instantiate (t : Table) (name : Text) (options : Options) : Except Failure Instance := do
  (← t.classOf name).instantiate options

/-- A source of instances of the backend with a name.  The name is looked up at once, but nothing is made
before it is asked for. -/
def factory (t : Table) (name : Text) (options : Options) : Except Failure Factory :=
  (t.classOf name).map fun backend trace =>
    (backend.instantiate options).map (·.compiler trace.nextNumber)

end Table

end Conformance.Backend
