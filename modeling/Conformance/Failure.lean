import Conformance.Text.Utf8

/-!
# Failures

A failure ends an operation early.  What is done about it depends only on its family; its type name
and its message are what reports show.
-/

namespace Conformance

/-- The families of failures that are treated differently. -/
inductive Failure.Family
  /-- A request to stop, which nothing but the outermost layer takes up. -/
  | interrupt
  /-- A failure that nothing takes up. -/
  | fatal
  /-- Any failure without a family of its own. -/
  | plain
  /-- A value of the right kind that cannot be used. -/
  | badValue
  /-- A failure of reading or writing. -/
  | inputOutput
  /-- Exhausted resources or a broken host. -/
  | exhausted
  /-- A failure that the harness itself reports. -/
  | harness
  /-- A failure of the host of a compiler. -/
  | host
  /-- A compiler without any operation to compile with. -/
  | unadaptable
  deriving Repr, DecidableEq

/-- A failure: its family, the name of its type and its message. -/
structure Failure where
  family : Failure.Family
  typeName : Text
  message : Text
  deriving Repr, DecidableEq

namespace Failure

/-! ## Families -/

/-- Whether a failure is one that a case may end with. -/
def isOrdinary (f : Failure) : Bool :=
  f.family != .interrupt && f.family != .fatal

/-- Whether a failure tells of a broken host and not of a rejected source. -/
def isHostFailure (f : Failure) : Bool :=
  f.family == .exhausted || f.family == .host

/-- Whether a failure means that the chosen backend cannot be used. -/
def isUnusableBackend (f : Failure) : Bool :=
  match f.family with
  | .badValue | .harness | .host | .unadaptable => true
  | .interrupt | .fatal | .plain | .inputOutput | .exhausted => false

/-- Whether a failure tells of a configuration that cannot be used. -/
def isConfiguration (f : Failure) : Bool :=
  f.typeName == "ConfigError"

/-- The type and the message of a failure. -/
def summary (f : Failure) : Text :=
  f.typeName ++ ": " ++ f.message

/-! ## The failures of the harness -/

/-- A failure of the host of a compiler. -/
def host (message : Text) : Failure :=
  ⟨.host, "HostFailure", message⟩

/-- A compiler without any operation to compile with. -/
def unadaptable (message : Text) : Failure :=
  ⟨.unadaptable, "AdapterConstructionError", message⟩

/-- A value that cannot be used. -/
def badValue (message : Text) : Failure :=
  ⟨.badValue, "ValueError", message⟩

/-- A null character in what is handed to the system. -/
def nullCharacter : Failure :=
  badValue "embedded null byte"

/-- A text that cannot be written as bytes. -/
def unencodable (fault : Text.EncodingFault) : Failure :=
  ⟨.badValue, "UnicodeEncodeError", fault.message⟩

/-- A value of the wrong kind. -/
def wrongKind (message : Text) : Failure :=
  ⟨.plain, "TypeError", message⟩

/-- A value of a kind that has nothing under a name. -/
def lacking (kind name : Text) : Failure :=
  ⟨.plain, "AttributeError", "'" ++ kind ++ "' object has no attribute '" ++ name ++ "'"⟩

/-- Something under a name that every value of a kind has, and that cannot be replaced. -/
def fixed (kind name : Text) : Failure :=
  ⟨.plain, "AttributeError", "'" ++ kind ++ "' object attribute '" ++ name ++ "' is read-only"⟩

/-- A part of the values of a kind that cannot be replaced. -/
def unwritable (kind name : Text) : Failure :=
  ⟨.plain, "AttributeError", "attribute '" ++ name ++ "' of '" ++ kind ++ "' objects is not writable"⟩

/-- Something under a name that follows from the rest of a value. -/
def derived (kind name : Text) : Failure :=
  ⟨.plain, "AttributeError", "property '" ++ name ++ "' of '" ++ kind ++ "' object has no setter"⟩

/-- A number that is too large. -/
def overflow (message : Text) : Failure :=
  ⟨.plain, "OverflowError", message⟩

/-- Something that memory does not hold. -/
def outOfMemory : Failure :=
  ⟨.exhausted, "MemoryError", ""⟩

/-- A name under which no backend is known. -/
def unknownBackend (message : Text) : Failure :=
  ⟨.harness, "BackendNotFoundError", message⟩

/-- A fixture that cannot be read. -/
def unreadable (message : Text) : Failure :=
  ⟨.inputOutput, "FixtureReadError", message⟩

/-- A configuration that cannot be used. -/
def configuration (message : Text) : Failure :=
  ⟨.badValue, "ConfigError", message⟩

@[simp]
theorem isOrdinary_host (message : Text) : (host message).isOrdinary = true :=
  rfl

@[simp]
theorem isHostFailure_host (message : Text) : (host message).isHostFailure = true :=
  rfl

/-- What tells of a broken host is something that a case may end with. -/
theorem isOrdinary_of_isHostFailure {f : Failure} (h : f.isHostFailure = true) :
    f.isOrdinary = true := by
  rcases f with ⟨family, typeName, message⟩
  cases family <;> simp_all [isHostFailure, isOrdinary]

end Failure

end Conformance
