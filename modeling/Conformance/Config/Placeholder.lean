import Conformance.Document.Operand
import Conformance.Environment
import Conformance.Log
import Conformance.Text.Word

/-!
# Placeholders

A text of a configuration may name variables of the environment, each between a dollar sign with a brace
and a closing brace.  The value of a variable is put in as it is; a variable that is not set becomes
nothing, and a warning is taken down.
-/

namespace Conformance.Config

open Text

/-- A value and what was noted while it was made. -/
abbrev Noted (α : Type) := α × List LogRecord

/-- The name of a placeholder behind its opening brace, and what follows it. -/
def placeholderName? (text : List CodePoint) : Option (List CodePoint × List CodePoint) :=
  match text.takeWhile isWord, text.dropWhile isWord with
  | c :: name, .char '}' :: rest => some (c :: name, rest)
  | _, _ => none

theorem length_of_placeholderName? {text name rest : List CodePoint}
    (h : placeholderName? text = some (name, rest)) : rest.length < text.length := by
  unfold placeholderName? at h
  split at h
  · rename_i c more after hw hd
    have length := congrArg List.length (List.takeWhile_append_dropWhile (p := isWord) (l := text))
    rw [hw, hd] at length
    simp only [Option.some.injEq, Prod.mk.injEq] at h
    obtain ⟨-, rfl⟩ := h
    simp only [List.length_append, List.length_cons] at length
    omega
  · simp at h

/-- The warning about a variable that is not set. -/
def unsetWarning (name : Text) : LogRecord :=
  .warning ("Environment variable " ++ name ++ " is not set (referenced in config)")

/-- Put in the variables of a text, behind what has been read of it so far, last first. -/
def resolveChars (e : Environment) (done : List CodePoint) (notes : List LogRecord) :
    List CodePoint → Noted (List CodePoint)
  | [] => (done.reverse, notes.reverse)
  | .char '$' :: .char '{' :: rest =>
    match h : placeholderName? rest with
    | some (name, after) =>
      have : after.length < rest.length := length_of_placeholderName? h
      match e.get? (Text.ofList name) with
      | some value => resolveChars e (value.toList.reverse ++ done) notes after
      | none => resolveChars e done (unsetWarning (Text.ofList name) :: notes) after
    | none => resolveChars e (.char '{' :: .char '$' :: done) notes rest
  | c :: rest => resolveChars e (c :: done) notes rest
termination_by text => text.length
decreasing_by all_goals (simp only [List.length_cons]; omega)

/-- Put in the variables of a text. -/
def resolveText (e : Environment) (text : Text) : Noted Text :=
  let (chars, notes) := resolveChars e [] [] text.toList
  (Text.ofList chars, notes)

/-- Put in the variables of an item of a list.  What is nested deeper in a list is left alone. -/
def resolveItem (e : Environment) : Document → Noted Document
  | .text value =>
    let (resolved, notes) := resolveText e value
    (.text resolved, notes)
  | other => (other, [])

mutual

/-- Put in the variables of a value. -/
def resolve (e : Environment) : Document → Noted Document
  | .text value =>
    let (resolved, notes) := resolveText e value
    (.text resolved, notes)
  | .map entries =>
    let (resolved, notes) := resolveEntries e entries
    (.map resolved, notes)
  | .list items =>
    let resolved := items.map (resolveItem e)
    (.list (resolved.map (·.1)), resolved.flatMap (·.2))
  | other => (other, [])

/-- Put in the variables of the values of a mapping; its keys are left alone. -/
def resolveEntries (e : Environment) : List (Document × Document) →
    Noted (List (Document × Document))
  | [] => ([], [])
  | (key, value) :: rest =>
    let (first, firstNotes) := resolve e value
    let (others, otherNotes) := resolveEntries e rest
    ((key, first) :: others, firstNotes ++ otherNotes)

end

/-- Put in the variables of a mapping, which nothing else stands in for. -/
def resolveMapping (e : Environment) : Document → Noted (Except Failure Document)
  | .map entries =>
    let (resolved, notes) := resolveEntries e entries
    (.ok (.map resolved), notes)
  | other => (.error (other.lacking "items"), [])

/-- The keys of a mapping stay as they are. -/
theorem keys_resolveEntries (e : Environment) (entries : List (Document × Document)) :
    (resolveEntries e entries).1.map (·.1) = entries.map (·.1) := by
  induction entries with
  | nil => simp [resolveEntries]
  | cons entry rest ih =>
    rcases entry with ⟨key, value⟩
    simp [resolveEntries, ih]

end Conformance.Config
