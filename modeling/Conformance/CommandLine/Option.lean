import Conformance.Text.Basic

/-!
# Options on a command line

A command knows some options, by long and short names.  An option is a flag or takes the next argument, or
what follows an equals sign, as its value.  Two dashes alone end the options.
-/

namespace Conformance.CommandLine

/-- What the value of an option has to be. -/
inductive ValueKind
  | text
  /-- A path at which there is something. -/
  | existingPath
  /-- A path at which there is no file. -/
  | noFile
  /-- A path at which there is no directory. -/
  | noDirectory
  /-- A path at which there is something other than a directory. -/
  | existingFile
  /-- A number of repetitions. -/
  | repetitions
  deriving Repr, DecidableEq

/-- An option that a command knows. -/
structure OptionRule where
  /-- The names of the option, with their dashes. -/
  names : List Text
  /-- The kind of its value; a flag has none. -/
  value : Option ValueKind
  deriving Repr, DecidableEq

/-- An option that was given, by its first name, with its value. -/
structure GivenOption where
  name : Text
  value : Option Text
  deriving Repr, DecidableEq

/-- The options that were given, in order, and the other arguments. -/
structure Given where
  options : List GivenOption
  arguments : List Text
  deriving Repr, DecidableEq

namespace OptionRule

/-- A flag with a long name. -/
def flag (name : Text) : OptionRule :=
  ⟨[name], none⟩

/-- An option with a long name that takes a value of a kind. -/
def valued (name : Text) (kind : ValueKind) : OptionRule :=
  ⟨[name], some kind⟩

/-- Whether an option takes a value. -/
def takesValue (r : OptionRule) : Bool :=
  r.value.isSome

/-- The first of the names of an option. -/
def key (r : OptionRule) : Text :=
  r.names.headD ""

/-- The rule with a name. -/
def find? (rules : List OptionRule) (name : Text) : Option OptionRule :=
  rules.find? (·.names.contains name)

end OptionRule

/-- Whether an argument is written like an option. -/
def isOptionLike (argument : Text) : Bool :=
  match argument.toList with
  | .char '-' :: _ :: _ => true
  | _ => false

/-- An argument up to its first equals sign, and what follows the sign if there is one. -/
def splitValue (argument : Text) : Text × Option Text :=
  let chars := argument.toList
  match chars.dropWhile (· != .char '=') with
  | .char '=' :: value => (Text.ofList (chars.takeWhile (· != .char '=')), some (Text.ofList value))
  | _ => (argument, none)

/-- The flags of an argument of one dash and several letters; a letter whose option takes a value takes what
follows it.  The value is missing if nothing follows. -/
def readLetters (rules : List OptionRule) : List CodePoint → List GivenOption →
    Option (List GivenOption × Option OptionRule)
  | [], given => some (given.reverse, none)
  | c :: rest, given =>
    match OptionRule.find? rules (Text.ofList ['-', c]) with
    | none => none
    | some rule =>
      if rule.takesValue then
        if rest.isEmpty then some (given.reverse, some rule)
        else some ((⟨rule.key, some (Text.ofList rest)⟩ :: given).reverse, none)
      else readLetters rules rest (⟨rule.key, none⟩ :: given)

/-- What an argument that is written like an option gives: options, and perhaps one that still needs its
value. -/
def readOption (rules : List OptionRule) (argument : Text) :
    Option (List GivenOption × Option OptionRule) :=
  let (name, value) := splitValue argument
  match OptionRule.find? rules name, value with
  | some rule, some value =>
    if rule.takesValue then some ([⟨rule.key, some value⟩], none) else none
  | some rule, none =>
    if rule.takesValue then some ([], some rule) else some ([⟨rule.key, none⟩], none)
  | none, _ =>
    match argument.toList with
    | .char '-' :: .char '-' :: _ => none
    | _ :: letters => readLetters rules letters []
    | [] => none

/-- Read arguments behind those that were read already.  Where options may stand between other arguments
all are read, and otherwise only up to the first other argument.  Nothing is given for options that are not
known, lack a value, or have one that they do not take. -/
def readArguments (rules : List OptionRule) (mixed : Bool) (before : Given) :
    List Text → Option Given
  | [] => some before
  | argument :: rest =>
    if argument = "--" then some { before with arguments := before.arguments ++ rest }
    else if isOptionLike argument then
      match readOption rules argument with
      | none => none
      | some (given, none) =>
        readArguments rules mixed { before with options := before.options ++ given } rest
      | some (given, some rule) =>
        match rest with
        | [] => none
        | value :: rest =>
          readArguments rules mixed
            { before with options := before.options ++ given ++ [⟨rule.key, some value⟩] } rest
    else if mixed then
      readArguments rules mixed { before with arguments := before.arguments ++ [argument] } rest
    else some { before with arguments := before.arguments ++ argument :: rest }

namespace Given

/-- Nothing was given. -/
def none : Given :=
  ⟨[], []⟩

/-- Read the arguments of a command. -/
def read? (rules : List OptionRule) (mixed : Bool) (arguments : List Text) : Option Given :=
  readArguments rules mixed .none arguments

/-- Whether an option was given. -/
def has (g : Given) (name : Text) : Bool :=
  g.options.any (·.name == name)

/-- The names of the options that were given, in the order in which they first were. -/
def names (g : Given) : List Text :=
  (g.options.map (·.name)).eraseDups

/-- The value of an option; the last one counts. -/
def value? (g : Given) (name : Text) : Option Text :=
  ((g.options.reverse.find? (·.name == name)).bind GivenOption.value)

end Given

/-- Nothing is known of a command line that gives an unknown long option. -/
example : Given.read? [.flag "--stats"] true ["--bogus"] = .none := by
  decide +kernel

/-- A value may look like an option. -/
example : Given.read? [.flag "--stats", .valued "--tag" .text] true ["--tag", "--stats", "x"] =
    some ⟨[⟨"--tag", some "--stats"⟩], ["x"]⟩ := by
  decide +kernel

end Conformance.CommandLine
