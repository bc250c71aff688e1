import Conformance.Document.Operand
import Conformance.Text.Character
import Conformance.Text.Lowercase

/-!
# Scrubbing events

Before an event is reported, what could tell about the user is taken out: names of home directories, secrets,
the values of variables, and whatever may be the text of a fixture.
-/

namespace Conformance.Telemetry

open Text

/-! ## Texts -/

/-- What stands for something that was taken out. -/
def redacted : Text := "[REDACTED]"

/-- The words that directories of users stand below. -/
def homeWords : List (List CodePoint) :=
  [("/home/" : Text).toList, ("/Users/" : Text).toList]

/-- What follows a home directory at the start of a text. -/
def afterHome? (text : List CodePoint) : Option (List CodePoint) :=
  match homeWords.find? (·.isPrefixOf text) with
  | some word =>
    match text.drop word.length with
    | [] | .char '/' :: _ => none
    | rest => some (rest.dropWhile (· != .char '/'))
  | none => none

/-- The words that announce a secret. -/
def secretWords : List (List Char) :=
  ["dsn".toList, "token".toList, "password".toList, "secret".toList]

/-- What follows a secret at the start of a text: a word, a colon or an equals sign, and what is not
blank. -/
def afterSecret? (text : List CodePoint) : Option (List CodePoint) :=
  match splitAnyWord? secretWords text with
  | some (_, rest) =>
    match rest.dropWhile isBlank with
    | sign :: value =>
      if sign = ':' ∨ sign = '=' then
        match value.dropWhile isBlank with
        | [] => none
        | shown => some (shown.dropWhile fun c => !isBlank c)
      else none
    | [] => none
  | none => none

/-- Put something in the place of all that a rule finds, behind what has been written so far, last first.
The number bounds the steps and is the length of the text. -/
def substituteFrom (after? : List CodePoint → Option (List CodePoint)) (image : List CodePoint) :
    Nat → List CodePoint → List CodePoint → List CodePoint
  | 0, done, _ => done.reverse
  | fuel + 1, done, text =>
    match text with
    | [] => done.reverse
    | c :: rest =>
      match after? text with
      | some tail => substituteFrom after? image fuel (image.reverse ++ done) tail
      | none => substituteFrom after? image fuel (c :: done) rest

/-- Put something in the place of all that a rule finds. -/
def substitute (after? : List CodePoint → Option (List CodePoint)) (image : Text) (text : List CodePoint) :
    List CodePoint :=
  substituteFrom after? image.toList (text.length + 1) [] text

/-- A text without home directories and secrets. -/
def scrubText (text : Text) : Text :=
  Text.ofList (substitute afterSecret? redacted (substitute afterHome? "/~" text.toList))

/-! ## Values -/

/-- The keys whose values may be the text of a fixture. -/
def sourceKeys : List Text := ["source", "text", "stdout", "stderr"]

/-- Whether the value of a key may be the text of a fixture. -/
def isSourceKey : Document → Bool
  | .text key => sourceKeys.contains (lowercase key)
  | _ => false

mutual

/-- A value of a scrubbed mapping.  Lists are left alone. -/
def scrubValue : Document → Document
  | .text value => .text (scrubText value)
  | .map entries => .map (scrubEntries entries)
  | other => other

/-- The entries of a scrubbed mapping. -/
def scrubEntries : List (Document × Document) → List (Document × Document)
  | [] => []
  | (key, value) :: rest =>
    (key, if isSourceKey key then .text redacted else scrubValue value) :: scrubEntries rest

end

/-- The keys of a mapping stay as they are. -/
theorem keys_scrubEntries (entries : List (Document × Document)) :
    (scrubEntries entries).map (·.1) = entries.map (·.1) := by
  induction entries with
  | nil => simp [scrubEntries]
  | cons entry rest ih =>
    rcases entry with ⟨key, value⟩
    simp [scrubEntries, ih]

/-! ## Events -/

/-- The entries of a mapping that is asked for a value. -/
def askedEntries : Document → Except Failure (List (Document × Document))
  | .map entries => .ok entries
  | other => .error (other.lacking "get")

/-- The entries of a mapping that a value is taken out of. -/
def openedEntries : Document → Except Failure (List (Document × Document))
  | .map entries => .ok entries
  | .list _ => .error (.wrongKind "pop expected at most 1 argument, got 2")
  | other => .error (other.lacking "pop")

/-- The values that are gone through one by one. -/
def members : Document → Except Failure (List Document)
  | .list items | .tuple items | .set items => .ok items
  | .map entries => .ok (entries.map (·.1))
  | .text value => .ok (value.toList.map fun c => .text (.ofList [c]))
  | other => .error (.wrongKind ("'" ++ other.kind ++ "' object is not iterable"))

/-- Entries without those of a key. -/
def without (name : Text) (entries : List (Document × Document)) :
    List (Document × Document) :=
  entries.filter fun (key, _) => !key.isText name

/-- Change the value of a key, if it is there. -/
def change (name : Text) (f : Document → Document) (entries : List (Document × Document)) :
    List (Document × Document) :=
  entries.map fun (key, value) => (key, if key.isText name then f value else value)

/-- A scrubbed text; anything else is left alone. -/
def scrubIfText : Document → Document
  | .text value => .text (scrubText value)
  | other => other

/-- The value of a text key among entries. -/
def valueOf? (name : Text) (entries : List (Document × Document)) : Option Document :=
  Document.lookupBy (Document.isText name) entries

/-- Change each of the members of the value of a key.  Only a list keeps the changed ones. -/
def changeMembers (name : Text) (f : Document → Except Failure Document)
    (entries : List (Document × Document)) : Except Failure (List (Document × Document)) := do
  match valueOf? name entries with
  | none => pure entries
  | some value =>
    let changed ← (← members value).mapM f
    match value with
    | .list _ => pure (change name (fun _ => .list changed) entries)
    | _ => pure entries

/-- Take the values of variables out of a frame, and scrub where it stands. -/
def scrubFrame (frame : Document) : Except Failure Document := do
  let entries ← openedEntries frame
  pure (.map (change "abs_path" scrubIfText (change "filename" scrubIfText
    (without "vars" entries))))

/-- Scrub the frames of an exception. -/
def scrubException (exception : Document) : Except Failure Document := do
  let entries ← askedEntries exception
  match valueOf? "stacktrace" entries with
  | some (.map inner) =>
    let changed ← changeMembers "frames" scrubFrame inner
    pure (.map (change "stacktrace" (fun _ => .map changed) entries))
  | _ => pure exception

/-- Scrub the message of a step that led to an event. -/
def scrubCrumb (crumb : Document) : Except Failure Document := do
  let entries ← askedEntries crumb
  pure (.map (change "message" scrubIfText entries))

/-- Change the value of a key if it is a mapping. -/
def changeMap (name : Text)
    (f : List (Document × Document) → Except Failure (List (Document × Document)))
    (entries : List (Document × Document)) : Except Failure (List (Document × Document)) := do
  match valueOf? name entries with
  | some (.map inner) =>
    let changed ← f inner
    pure (change name (fun _ => .map changed) entries)
  | _ => pure entries

/-- Scrub an event.  One that is not made as events are is a failure. -/
def scrubEvent (event : Document) : Except Failure Document := do
  let entries ← askedEntries event
  let entries ← changeMap "exception" (changeMembers "values" scrubException) entries
  let entries ← changeMap "logentry" (fun inner => .ok (change "message" scrubIfText inner)) entries
  let entries ← changeMap "breadcrumbs" (changeMembers "values" scrubCrumb) entries
  let entries ← changeMap "extra" (fun inner => .ok (scrubEntries inner)) entries
  pure (.map (without "server_name" entries))

/-- The name of the host is never told. -/
theorem valueOf?_without_self (name : Text) (entries : List (Document × Document)) :
    valueOf? name (without name entries) = none := by
  induction entries with
  | nil => simp [without, valueOf?, Document.lookupBy]
  | cons entry rest ih =>
    rcases entry with ⟨key, value⟩
    by_cases h : key.isText name
    · simpa [without, h] using ih
    · simp [without, h, valueOf?, Document.lookupBy] at ih ⊢
      exact ih

end Conformance.Telemetry
