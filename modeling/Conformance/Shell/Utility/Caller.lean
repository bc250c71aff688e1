import Conformance.Shell.Utility.Basic
import Conformance.Shell.Process

/-!
# Programs that run other ones

Another program is run in a changed environment, for a limited time, with other signals, or once and again
for arguments that are read.
-/

namespace Conformance.Shell

open Effect

/-- Let a program take the place of the one that is running, whose messages speak of it in quotes. -/
def startQuoted (start : Starter) (front name : String) (arguments : List String) : Effect Nat := do
  let own := (← process).name
  startNamed start (fun name => own ++ ": " ++ front ++ quoted name) name arguments
  pure (← process).status

/-! ## The environment -/

/-- What reading words has come to: the words that are complete, last first, the one that has begun, both
backwards, and whether it has. -/
structure WordReading where
  words : List String
  current : List Char
  hasBegun : Bool

namespace WordReading

/-- Go on with a character. -/
def add (r : WordReading) (c : Char) : WordReading :=
  { r with current := c :: r.current, hasBegun := true }

/-- End a word that has begun. -/
def close (r : WordReading) : WordReading :=
  if r.hasBegun then ⟨String.ofList r.current.reverse :: r.words, [], false⟩ else r

/-- The words that have been read. -/
def result (r : WordReading) : List String :=
  r.close.words.reverse

/-- The name in braces behind a dollar sign, and what follows. -/
def takeBraced : List Char → Option (String × List Char)
  | '{' :: rest =>
    let name := rest.takeWhile fun c => c.isAlphanum || c == '_'
    match rest.drop name.length with
    | '}' :: after =>
      if (name.headD '0').isDigit then none else some (String.ofList name, after)
    | _ => none
  | _ => none

/-- The characters that letters behind a backslash stand for. -/
def lineEscapes : List (Char × Char) :=
  [('f', '\x0c'), ('n', '\n'), ('r', '\r'), ('t', '\t'), ('v', '\x0b')]

/-- The words in a text with quotes, escapes and variables, given the quote that is open. -/
def readFrom (value? : String → Option String) : Nat → Option Char → WordReading → List Char →
    Except String WordReading
  | 0, _, r, _ => .ok r
  | _ + 1, none, r, [] => .ok r
  | _ + 1, some _, _, [] => .error "no terminating quote in -S string"
  | fuel + 1, quote, r, c :: rest =>
    let next (r : WordReading) (rest : List Char) := readFrom value? fuel quote r rest
    let begun := { r with hasBegun := true }
    if quote == some c then readFrom value? fuel none begun rest
    else if (c == '\'' || c == '"') && quote.isNone then readFrom value? fuel (some c) begun rest
    else if isSpace c && quote.isNone then next r.close rest
    else if c == '#' && quote.isNone && !r.hasBegun then .ok r
    else if c == '\\' then
      match quote, rest with
      | some '\'', d :: more => if d == '\\' || d == '\'' then next (r.add d) more else next (r.add c) rest
      | _, [] => .error "invalid backslash at end of string in -S"
      | quote, d :: more =>
        if "\"#$'\\".toList.contains d then next (r.add d) more
        else if d == '_' then next (if quote.isNone then r.close else r.add ' ') more
        else if d == 'c' then
          if quote.isSome then .error "'\\c' must not appear in double-quoted -S string" else .ok r
        else
          match lineEscapes.lookup d with
          | some e => next (r.add e) more
          | none => .error ("invalid sequence '\\" ++ String.singleton d ++ "' in -S")
    else if c == '$' && quote != some '\'' then
      match takeBraced rest with
      | some (name, after) =>
        next (((value? name).map fun text => text.toList.foldl add begun).getD r) after
      | none =>
        .error ("only $\x7bVARNAME\x7d expansion is supported, error at: " ++ String.ofList (c :: rest))
    else next (r.add c) rest

/-- The words in a text with quotes, escapes and variables. -/
def read (value? : String → Option String) (text : String) : Except String (List String) :=
  (readFrom value? (text.length + 1) none ⟨[], [], false⟩ text.toList).map result

end WordReading

/-- The options of the program that changes the environment. -/
def environmentOptions : String := "+C:iS:u:v0"

/-- The long options of the program that changes the environment. -/
def environmentNames : List (String × Char) :=
  [("ignore-environment", 'i'), ("null", '0'), ("unset", 'u'), ("chdir", 'C'), ("debug", 'v'),
    ("split-string", 'S'), ("default-signal", 'α'), ("ignore-signal", 'β'), ("block-signal", 'γ'),
    ("list-signal-handling", 'δ')]

/-- The signals that the argument of an option lists; without one, all that can be caught. -/
def listedSignals (text : String) : Except String (List Nat) :=
  if text.isEmpty then .ok (((List.range 65).drop 1).filter fun n => n != 9 && n != 19 && n != 32 && n != 33)
  else
    (text.splitOn ",").mapM fun word =>
      let name := if word.startsWith "SIG" then (word.drop 3).toString else word
      match signal? name with
      | some n => if n = 0 then .error (quoted word ++ ": invalid signal") else .ok n
      | none => .error (quoted word ++ ": invalid signal")

/-- What is wrong, if anything is. -/
def faultOf? {α : Type} : Except String α → Option String
  | .error message => some message
  | .ok _ => none

/-- The arguments behind the options in which those are split that are given as one text.  The number bounds
how often that is done. -/
def withSplitWords (value? : String → Option String) : Nat → List String →
    Except String (List (String × List String) × List String)
  | 0, arguments => .ok ([], arguments)
  | fuel + 1, arguments => do
    match arguments with
    | [] => pure ([], [])
    | argument :: rest =>
      let letters := argument.toList
      let again (front : List String) (text : String) (rest : List String) :
          Except String (List (String × List String) × List String) := do
        let words ← WordReading.read value? text
        let (noted, all) ← withSplitWords value? fuel (words ++ rest)
        pure ((text, words) :: noted, front ++ all)
      if argument.startsWith "--split-string=" then again [] (argument.drop 15).toString rest
      else if argument == "--split-string" then
        match rest with
        | text :: rest => again [] text rest
        | [] => pure ([], arguments)
      else if argument.startsWith "--" then
        if argument == "--" then pure ([], arguments)
        else
          let (noted, all) ← withSplitWords value? fuel rest
          pure (noted, argument :: all)
      else
        match letters with
        | '-' :: c :: more =>
          let plain := (c :: more).takeWhile fun d => d == 'i' || d == 'v' || d == '0'
          match (c :: more).drop plain.length with
          | 'S' :: text =>
            let front := if plain.isEmpty then [] else [String.ofList ('-' :: plain)]
            match text, rest with
            | [], given :: rest => again front given rest
            | [], [] => pure ([], arguments)
            | text, rest => again front (String.ofList text) rest
          | d :: text =>
            let taken := if (d == 'u' || d == 'C') && text.isEmpty then 1 else 0
            let (noted, all) ← withSplitWords value? fuel (rest.drop taken)
            pure (noted, argument :: rest.take taken ++ all)
          | [] =>
            let (noted, all) ← withSplitWords value? fuel rest
            pure (noted, argument :: all)
        | ['-'] =>
          let (noted, all) ← withSplitWords value? fuel rest
          pure (noted, "-" :: all)
        | _ => pure ([], arguments)

/-- Let a signal be ignored, or not. -/
def ignoreSignal (isIgnored : Bool) (n : Nat) : Effect Unit :=
  update fun p =>
    let others := p.traps.filter (·.1 != signalName n)
    { p with traps := if isIgnored then others ++ [(signalName n, "")] else others }

/-- Show the environment, or run a program in a changed one. -/
def envProgram (start : Starter) (arguments : List String) : Effect Nat := do
  let bindings := (← process).bindings
  let value? (name : String) : Option String := (bindings.lookup name).bind (·.value)
  match withSplitWords value? (2 * (String.join arguments).length + arguments.length + 4) arguments with
  | .error message => failed message 125
  | .ok (split, arguments) =>
    match Given.read environmentOptions environmentNames arguments with
    | .error message => misused message 125
    | .ok g =>
      let note (text : String) : Effect Unit := do
        if g.has 'v' then complain (text ++ "\n")
      split.forM fun (text, words) => do
        note ("split -S:  " ++ quoted text)
        (words.zipIdx).forM fun (word, n) =>
          note ((if n = 0 then " into:    " else "     &    ") ++ quoted word)
      let (clears, operands) := match g.operands with
        | "-" :: rest => (true, rest)
        | operands => (g.has 'i', operands)
      if clears then
        note "cleaning environ"
        update fun p => { p with bindings := [] }
      let unset := (g.options.filter (·.1 == 'u')).map Prod.snd
      match unset.find? fun name => name.isEmpty || name.toList.contains '=' with
      | some bad => failed ("cannot unset " ++ quoted bad ++ ": Invalid argument") 125
      | none =>
        unset.forM fun name => do
          note ("unset:    " ++ name)
          update fun p => { p with bindings := p.bindings.filter (·.1 != name) }
        let assigned := operands.takeWhile (·.toList.contains '=')
        assigned.forM fun text => do
          note ("setenv:   " ++ text)
          let (name, value) := splitAssignment text
          putBinding name ⟨some (value.getD ""), true, false⟩
        let command := operands.drop assigned.length
        if g.has '0' && !command.isEmpty then misused "cannot specify --null (-0) with command" 125
        else if g.has 'C' && command.isEmpty then misused "must specify command with --chdir (-C)" 125
        else
          let signals ← g.options.filterMapM fun (letter, text) => do
            if letter == 'α' || letter == 'β' || letter == 'γ' then pure (some (letter, listedSignals text))
            else pure none
          match signals.findSome? fun (_, found) => faultOf? found with
          | some message => misused message 125
          | none =>
            signals.forM fun (letter, found) =>
              (found.toOption.getD []).forM fun n =>
                if letter == 'γ' then pure () else ignoreSignal (letter == 'β') n
            if g.has 'δ' then
              (← process).traps.forM fun (name, _) => do
                let n := toString ((signal? name).getD 0)
                complain (name ++ "".pushn ' ' (10 - name.length) ++ " (" ++ "".pushn ' ' (2 - n.length) ++ n ++
                  "): IGNORE\n")
            let entered ← match g.get? 'C' with
              | none => pure true
              | some directory => do
                note ("chdir:    " ++ quotedName directory)
                match ← lookUp directory with
                | .ok entry =>
                  if entry.isDirectory then
                    let place ← pathOf directory
                    update fun p => { p with directory := place }
                    pure true
                  else
                    tell ("cannot change directory to " ++ quotedName directory ++ ": Not a directory")
                    pure false
                | .error fault =>
                  tell ("cannot change directory to " ++ quotedName directory ++ ": " ++ fault.text)
                  pure false
            match entered, command with
            | false, _ => pure 125
            | true, [] =>
              let ended := if g.has '0' then "\x00" else "\n"
              (← process).bindings.forM fun (name, b) => say (name ++ "=" ++ b.value.getD "" ++ ended)
              pure 0
            | true, name :: rest =>
              note ("executing: " ++ name)
              ((name :: rest).zipIdx).forM fun (word, n) => note (s!"   arg[{n}]= " ++ quoted word)
              let status ← startQuoted start "" name rest
              if status = 127 && name.toList.any isSpace && !(← soughtFile name).isOk then
                tell "use -[v]S to pass options in shebang lines"
              pure status

/-! ## Limits and other circumstances -/

/-- Run a program for a limited time. -/
def timeoutProgram (start : Starter) (arguments : List String) : Effect Nat :=
  withGiven "+k:s:v" [("foreground", 'α'), ("kill-after", 'k'), ("preserve-status", 'β'), ("signal", 's'),
    ("verbose", 'v')] 125 arguments fun g => do
    let signal : Except String Nat := match g.get? 's' with
      | none => .ok 15
      | some text => (listedSignals text).map fun found => found.headD 15
    match g.operands, signal, (g.get? 'k').map fun text => (text, nanoseconds? text) with
    | _, .error message, _ => misused message 125
    | _, _, some (text, none) => misused ("invalid time interval " ++ quoted text) 125
    | duration :: name :: rest, .ok signal, grace =>
      match nanoseconds? duration with
      | none => misused ("invalid time interval " ++ quoted duration) 125
      | some length =>
        let before ← get
        let ends := before.now + length
        let further := ((grace.bind Prod.snd).filter (0 < ·)).map fun more => (ends + more, 9)
        let alarms := if length = 0 then [] else (ends, signal) :: further.toList
        let teller (name : String) : String := "timeout: failed to run command " ++ quoted name
        modify fun m => { m with alarms := alarms ++ m.alarms, steps := m.steps / 2 }
        let result ← attempt (runApart start teller (pure ()) name rest)
        let after ← get
        let isEndless := (result matches .error .timedOut) && after.now < after.limit && length != 0 &&
          ends < after.limit
        let now := if isEndless then max after.now ends else after.now
        modify fun m => { m with
          alarms := before.alarms, now := now, steps := m.steps + (before.steps - before.steps / 2) }
        let fired := alarms.filter fun (time, _) => time ≤ now
        if g.has 'v' then
          fired.forM fun (_, n) => tell (s!"sending signal {signalName n} to command " ++ quoted name)
        if fired.any (·.2 == 9) && !g.has 'α' then throw (.killed 9)
        match result, isEndless with
        | .error leave, false => throw leave
        | .error _, true => pure (if g.has 'β' then 128 + signal else 124)
        | .ok ended, _ =>
          match ended, fired.isEmpty with
          | .signal n, true => throw (.killed n)
          | ended, true => pure ended.code
          | ended, false => pure (if g.has 'β' || ended == .signal 9 then ended.code else 124)
    | _, _, _ => misused "" 125

/-- Run a program that is more patient than others, or show how patient this one is. -/
def niceProgram (start : Starter) (arguments : List String) : Effect Nat :=
  let plainNumber (text : String) : List String :=
    match text.toList with
    | '-' :: c :: rest =>
      if Char.isDigit c || ((c == '-' || c == '+') && rest.all Char.isDigit && !rest.isEmpty) then
        ["-n", String.ofList (c :: rest)]
      else [text]
    | _ => [text]
  let arguments := match arguments with
    | first :: rest => plainNumber first ++ rest
    | [] => []
  withGiven "+n:" [("adjustment", 'n')] 125 arguments fun g => do
    let current := (← process).patience
    let amount := match g.get? 'n' with
      | none => some 10
      | some text => integer? false text
    match amount, g.operands with
    | none, _ => failed ("invalid adjustment " ++ quoted ((g.get? 'n').getD "")) 125
    | some _, [] =>
      if g.has 'n' then misused "a command must be given with an adjustment" 125
      else
        say s!"{current}\n"
        pure 0
    | some amount, name :: rest =>
      update fun p => { p with patience := max (-20) (min 19 (current + amount)) }
      startQuoted start "" name rest

/-- Run a program that goes on when nobody listens any more. -/
def nohupProgram (start : Starter) (arguments : List String) : Effect Nat :=
  withGiven "+" [] 125 arguments fun g => do
    match g.operands with
    | [] => misused "missing operand" 125
    | name :: rest =>
      ignoreSignal true 1
      startNamed start (fun name => "nohup: failed to run command " ++ quotedName name) name rest
      pure (← process).status

/-- Run a program in a session of its own. -/
def setsidProgram (start : Starter) (arguments : List String) : Effect Nat :=
  withGiven "+cfw" [("ctty", 'c'), ("fork", 'f'), ("wait", 'w')] 1 arguments fun g => do
    match g.operands with
    | [] => misused "no command specified" 1
    | name :: rest =>
      startNamed start (fun name => "setsid: failed to execute " ++ name) name rest
      pure (← process).status

/-- Run a program that keeps what it writes and reads for another length of time. -/
def stdbufProgram (start : Starter) (arguments : List String) : Effect Nat :=
  withGiven "+i:o:e:" [("input", 'i'), ("output", 'o'), ("error", 'e')] 125 arguments fun g => do
    let isMode (text : String) : Bool := text == "L" || (readSize? text).isSome
    match g.options.find? fun (letter, text) => (letter == 'i' && text == "L") || !isMode text, g.operands with
    | some ('i', "L"), _ => misused "line buffering stdin is meaningless" 125
    | some (_, text), _ => failed ("invalid mode " ++ quoted text) 125
    | none, [] => misused "missing operand" 125
    | none, name :: rest =>
      if g.options.isEmpty then misused "you must specify a buffering mode option" 125
      else startQuoted start "failed to run command " name rest

/-! ## Arguments that are read -/

/-- How arguments that are read are handed to a program: how many lines or arguments at once, the text in
whose place each is put, the character that ends each where it is not white space, the argument that ends
them all, and how long a command can be. -/
structure ArgumentPlan where
  words : List String
  mostLines : Option Nat
  mostArguments : Option Nat
  mark : Option String
  separator : Option Char
  ending : Option String
  size : Nat
  isStrict : Bool
  isSkipped : Bool

namespace ArgumentPlan

/-- How long a command can be unless something else is asked for. -/
def usualSize : Nat := 131072

/-- A number that an option takes, at least as great as another one; the warning says what is wrong with one
that is used all the same. -/
def readNumber (letter : Char) (least : Int) (text : String) : Except String Nat :=
  let front := "value " ++ text ++ " for -" ++ String.singleton letter ++ " option should be >= "
  match integer? false text with
  | none => .error ("invalid number \"" ++ text ++ "\" for -" ++ String.singleton letter ++ " option")
  | some n => if n < least then .error (front ++ toString least) else .ok n.toNat

/-- The character that an argument means which separates others. -/
def readSeparator (text : String) : Except String Char :=
  let named := [('a', '\x07'), ('b', '\x08'), ('f', '\x0c'), ('n', '\n'), ('r', '\r'), ('t', '\t'),
    ('v', '\x0b'), ('\\', '\\')]
  let counted (base : Nat) (digits : List Char) : Except String Char :=
    let (n, rest) := takeNumber base digits
    if rest.length = digits.length then
      .error ("Invalid escape sequence " ++ text ++ " in input delimiter specification.")
    else if 255 < n then
      .error ("Invalid escape sequence " ++ text ++
        " in input delimiter specification; character values must not exceed " ++
          (if base = 16 then "ff" else "377") ++ ".")
    else if !rest.isEmpty then
      .error ("Invalid escape sequence " ++ text ++
        " in input delimiter specification; trailing characters " ++ String.ofList rest ++ " not recognised.")
    else .ok (Char.ofNat n)
  match text.toList with
  | [c] => .ok c
  | '\\' :: 'x' :: digits => counted 16 digits
  | '\\' :: c :: rest =>
    if Char.isDigit c && c < '8' then counted 8 (c :: rest)
    else
      match named.lookup c with
      | some d => .ok d
      | none => .error ("Invalid escape sequence " ++ text ++ " in input delimiter specification.")
  | _ => .error ("Invalid input delimiter specification " ++ text ++
      ": the delimiter must be either a single character or an escape sequence starting with \\.")

/-- Take one option; the answer has a warning where it undoes another one. -/
def withOption (p : ArgumentPlan) (letter : Char) (text : String) :
    Except String (ArgumentPlan × Option String) :=
  let undone (first second : String) : String :=
    s!"warning: options {first} and {second} are mutually exclusive, ignoring previous {first} value"
  match letter with
  | 'I' | 'i' =>
    let plan := { p with
      mark := some (if letter == 'i' && text.isEmpty then "\x7b\x7d" else text)
      mostLines := none, mostArguments := none }
    .ok (plan, if p.mostArguments.isSome then some (undone "--max-args" "--replace/-I/-i")
      else if p.mostLines.isSome then some (undone "--max-lines" "--replace/-I/-i") else none)
  | 'L' | 'l' => do
    let n ← if letter == 'l' && text.isEmpty then pure 1 else readNumber 'L' 1 text
    pure ({ p with mostLines := some n, mostArguments := none, mark := none },
      if p.mostArguments.isSome then some (undone "--max-args" "-L")
      else if p.mark.isSome then some (undone "--replace" "-L") else none)
  | 'n' => do
    let n ← readNumber 'n' 1 text
    if n = 1 && p.mark.isSome then pure (p, none)
    else
      pure ({ p with mostArguments := some n, mostLines := none, mark := none },
        if p.mostLines.isSome then some (undone "--max-lines" "--max-args/-n")
        else if p.mark.isSome then some (undone "--replace" "--max-args/-n") else none)
  | '0' => .ok ({ p with separator := some '\x00' }, none)
  | 'd' => do pure ({ p with separator := some (← readSeparator text) }, none)
  | 'E' | 'e' => .ok ({ p with ending := if text.isEmpty then none else some text }, none)
  | 'r' => .ok ({ p with isSkipped := true }, none)
  | 'x' => .ok ({ p with isStrict := true }, none)
  | _ => .ok (p, none)

/-- How long the words in front of the arguments are, each with its end. -/
def room (p : ArgumentPlan) : Nat :=
  (p.words.map (·.length + 1)).foldl (· + ·) 0

end ArgumentPlan

/-- What is read for arguments: an argument, or the end of a line, or what is wrong. -/
inductive ArgumentPart
  | argument (text : String)
  | lineEnd
  | fault (message : String)

/-- An argument that is being read: the quote that is open, and what has been read, backwards, if it has
begun. -/
structure ArgumentReading where
  quote : Option Char
  current : Option (List Char)

namespace ArgumentReading

/-- Nothing has been read. -/
def empty : ArgumentReading := ⟨none, none⟩

/-- An argument up to the first zero byte in it. -/
def cut (cs : List Char) : String :=
  String.ofList (cs.reverse.takeWhile (· != '\x00'))

/-- What is said about a quote that is not closed. -/
def unmatched (quote : Char) : String :=
  "unmatched " ++ (if quote == '"' then "double" else "single") ++
    " quote; by default quotes are special to xargs unless you use the -0 option"

/-- Go on with a character of an argument, unless it gets longer than there is room. -/
def add? (r : ArgumentReading) (room : Nat) (c : Char) : Option ArgumentReading :=
  let cs := r.current.getD []
  if room ≤ cs.length then none else some { r with current := some (c :: cs) }

/-- What an argument comes to that nothing follows. -/
def finish (r : ArgumentReading) : List ArgumentPart :=
  match r.quote, r.current with
  | _, none | _, some [] => []
  | some c, some _ => [.fault (unmatched c)]
  | none, some cs => [.argument (cut cs)]

/-- The arguments in a text, in which quotes and backslashes keep white space together; blanks end an
argument unless lines are taken as a whole.  No argument is longer than there is room. -/
def parts (wholeLines : Bool) (room : Nat) : ArgumentReading → List Char → List ArgumentPart
  | r, [] => r.finish
  | ⟨none, none⟩, '\\' :: c :: rest =>
    match empty.add? room c with
    | some r => parts wholeLines room r rest
    | none => [.fault "argument line too long"]
  | ⟨none, some cs⟩, '\\' :: c :: rest =>
    match add? ⟨none, some cs⟩ room c with
    | some r => parts wholeLines room r rest
    | none => [.fault "argument line too long"]
  | r, c :: rest =>
    if r.quote == some c then parts wholeLines room ⟨none, r.current⟩ rest
    else if r.quote.isSome && c == '\n' then [.fault (unmatched (r.quote.getD c))]
    else if r.quote.isNone && r.current.isNone && isSpace c then parts wholeLines room r rest
    else if r.quote.isNone && c == '\n' then
      .argument (cut (r.current.getD [])) :: .lineEnd :: parts wholeLines room empty rest
    else if r.quote.isNone && !wholeLines && (c == ' ' || c == '\t') then
      .argument (cut (r.current.getD [])) :: parts wholeLines room empty rest
    else if r.quote.isNone && (c == '\'' || c == '"') then
      parts wholeLines room ⟨some c, some (r.current.getD [])⟩ rest
    else if r.quote.isNone && c == '\\' then r.finish
    else
      match r.add? room c with
      | some r => parts wholeLines room r rest
      | none => [.fault "argument line too long"]

/-- The arguments in a text that end with a separator. -/
def separated (room : Nat) (separator : Char) (text : String) : List ArgumentPart :=
  let texts := text.splitOn (String.singleton separator)
  let texts := if texts.getLast? == some "" then texts.dropLast else texts
  let long := texts.takeWhile fun t => t.length ≤ room
  long.flatMap (fun t => [.argument (cut t.toList.reverse), .lineEnd]) ++
    (if long.length < texts.length then [.fault "argument line too long"] else [])

end ArgumentReading

/-- The commands that come of what is read, in their order, and what is wrong in the end. -/
structure ArgumentCommands where
  commands : List (List String)
  fault : Option String

/-- What is being put together: the arguments so far, last first, how long the command is with them, how many
lines they come from, and the commands that are complete, last first. -/
structure CommandReading where
  arguments : List String
  length : Nat
  lines : Nat
  done : List (List String)

namespace ArgumentPlan

/-- Nothing has been put together behind the words that come first. -/
def start (p : ArgumentPlan) (done : List (List String)) : CommandReading :=
  ⟨[], p.room, 0, done⟩

/-- A command is complete. -/
def complete (p : ArgumentPlan) (r : CommandReading) : CommandReading :=
  p.start ((p.words ++ r.arguments.reverse) :: r.done)

/-- Put commands together of arguments that are added to the words; what stands before a fault is run as
well if there is anything. -/
def gather (p : ArgumentPlan) : CommandReading → List ArgumentPart → ArgumentCommands
  | r, [] =>
    let isMissing := r.done.isEmpty && r.arguments.isEmpty && !p.isSkipped
    let r := if isMissing || !r.arguments.isEmpty then p.complete r else r
    ⟨r.done.reverse, none⟩
  | r, .fault message :: _ =>
    let r := if r.arguments.isEmpty || p.isStrict then r else p.complete r
    ⟨r.done.reverse, some message⟩
  | r, .lineEnd :: rest =>
    let r := { r with lines := r.lines + 1 }
    p.gather (if p.mostLines.any (· ≤ r.lines) then p.complete r else r) rest
  | r, .argument text :: rest =>
    let full := p.size < r.length + text.length + 1
    if full && r.arguments.isEmpty then
      ⟨r.done.reverse, some "cannot fit single argument within argument list size limit"⟩
    else if full && p.isStrict && (p.mostLines.isSome || p.mostArguments.isSome) then
      ⟨r.done.reverse, some "argument list too long"⟩
    else
      let r := if full then { p.complete r with lines := r.lines } else r
      let r := { r with arguments := text :: r.arguments, length := r.length + text.length + 1 }
      p.gather (if p.mostArguments.any (· ≤ r.arguments.length) then p.complete r else r) rest

/-- A text in which a mark is replaced, if it does not get too long. -/
def replaced? (p : ArgumentPlan) (mark text : String) (word : String) : Option String :=
  let result := if mark.isEmpty then word else word.replace mark text
  if mark.isEmpty && !word.isEmpty || p.size ≤ result.length + 1 then none else some result

/-- The commands in which the argument is put in the place of a mark in the words. -/
def insert (p : ArgumentPlan) (mark : String) (done : List (List String)) :
    List ArgumentPart → ArgumentCommands
  | [] => ⟨done.reverse, none⟩
  | .fault message :: _ => ⟨done.reverse, some message⟩
  | .lineEnd :: rest => p.insert mark done rest
  | .argument text :: rest =>
    match (p.words.drop 1).mapM (p.replaced? mark text) with
    | none => ⟨done.reverse, some "command too long"⟩
    | some words =>
      let command := p.words.take 1 ++ words
      if p.size < (command.map (·.length + 1)).foldl (· + ·) 0 then
        ⟨done.reverse, some "argument list too long"⟩
      else p.insert mark (command :: done) rest

/-- The commands that come of what is read. -/
def commands (p : ArgumentPlan) (input : String) : ArgumentCommands :=
  let room := p.size - p.room - 1
  let parts := match p.separator with
    | some c => ArgumentReading.separated room c input
    | none => ArgumentReading.parts p.mark.isSome room .empty input.toList
  let parts := match p.ending, p.separator with
    | some text, none => parts.takeWhile fun part => !(part matches .argument _) || !isEnding text part
    | _, _ => parts
  if p.size < p.room then
    ⟨[], some "cannot fit single argument within argument list size limit"⟩
  else
    match p.mark with
    | some mark => p.insert mark [] parts
    | none => p.gather (p.start []) parts
where
  /-- Whether a part is the argument that ends them all. -/
  isEnding (text : String) : ArgumentPart → Bool
    | .argument other => other == text
    | _ => false

/-- Run commands one after another; the answer is the status, unless one of them ends it all. -/
def runAll (start : Starter) (isShown isAsked : Bool) (slot : Option String) (prepare : Effect Unit) :
    Nat → List (List String) → Effect (Nat × Bool)
  | status, [] => pure (status, false)
  | status, command :: rest => do
    let name := command.headD ""
    if isShown || isAsked then
      complain (" ".intercalate (command.map shownName) ++ (if isAsked then "" else "\n"))
    if isAsked then
      tell "failed to open /dev/tty for reading: No such device or address"
      pure (1, true)
    else
      let own := (← process).name
      let isThere := (← soughtFile name).isOk
      let ended ← runApart start (fun name => own ++ ": " ++ name) (do
        prepare
        match slot with
        | some counter => putBinding counter ⟨some "0", true, false⟩
        | none => pure ()) name (command.drop 1)
      match isThere, ended with
      | false, ended => pure (ended.code, true)
      | true, .signal n =>
        tell s!"{name}: terminated by signal {n}"
        pure (125, true)
      | true, .status 255 =>
        tell s!"{name}: exited with status 255; aborting"
        pure (124, true)
      | true, .status n => runAll start isShown isAsked slot prepare (if n = 0 then status else 123) rest

end ArgumentPlan

/-- The long options of the program that reads arguments. -/
def argumentNames : List (String × Char) :=
  [("null", '0'), ("arg-file", 'a'), ("delimiter", 'd'), ("eof", 'e'), ("replace", 'i'), ("max-lines", 'l'),
    ("max-args", 'n'), ("open-tty", 'o'), ("interactive", 'p'), ("no-run-if-empty", 'r'), ("max-chars", 's'),
    ("verbose", 't'), ("show-limits", 'σ'), ("exit", 'x'), ("max-procs", 'P'), ("process-slot-var", 'π')]

/-- How long the arguments of a program and its environment can be together. -/
def systemSize : Nat := 2097152

/-- Run a program for arguments that are read. -/
def xargsProgram (start : Starter) (arguments : List String) : Effect Nat :=
  withGiven "+0a:E:e::i::I:l::L:n:prs:txP:d:o" argumentNames 1 arguments fun g => do
    let words := if g.operands.isEmpty then ["echo"] else g.operands
    let environment := (← process).bindings.map fun (name, b) =>
      name.length + (b.value.getD "").length + 2
    let used := environment.foldl (· + ·) 0
    let greatest := systemSize - 2048 - used
    let plan : ArgumentPlan := ⟨words, none, none, none, none, none, ArgumentPlan.usualSize, false, g.has 'r'⟩
    let plan ← g.options.foldlM (fun (plan : Except String ArgumentPlan) (letter, text) => do
      match plan with
      | .error message => pure (.error message)
      | .ok plan =>
        match letter with
        | 's' =>
          match integer? false text with
          | none => pure (.error ("invalid number \"" ++ text ++ "\" for -s option"))
          | some n =>
            if n < 1 then
              tell ("value " ++ text ++ " for -s option should be >= 1")
              pure (.ok { plan with size := 1 })
            else if greatest < n then
              tell ("value " ++ text ++ s!" for -s option should be <= {greatest}")
              pure (.ok { plan with size := greatest })
            else pure (.ok { plan with size := n.toNat })
        | 'P' => pure ((ArgumentPlan.readNumber 'P' 0 text).map fun _ => plan)
        | letter =>
          match plan.withOption letter text with
          | .error message => pure (.error message)
          | .ok (plan, warning) =>
            warning.forM tell
            pure (.ok plan)) (.ok plan)
    match plan with
    | .error message =>
      if message.startsWith "Invalid" then failed message 1 else misused message 1
    | .ok plan =>
      if plan.ending.isSome && plan.separator.isSome then
        tell "warning: the -E option has no effect if -0 or -d is used.\n"
      if g.has 'σ' then
        complain (s!"Your environment variables take up {used} bytes\n" ++
          s!"POSIX upper limit on argument length (this system): {greatest}\n" ++
          "POSIX smallest allowable upper limit on argument length (all systems): 4096\n" ++
          s!"Maximum length of command we could actually use: {greatest - used}\n" ++
          s!"Size of command buffer we are actually using: {plan.size}\n" ++
          "Maximum parallelism (--max-procs must be no greater): 2147483647\n")
      let file := (g.get? 'a').getD "-"
      match ← readOperand? file with
      | .error fault => failed ("Cannot open input file " ++ quoted file ++ ": " ++ fault.text) 1
      | .ok input =>
        if plan.separator.isNone && input.toList.contains '\x00' then
          tell ("WARNING: a NUL character occurred in the input.  It cannot be passed through in the " ++
            "argument list.  Did you mean to use the --null option?")
        let found := plan.commands input
        let prepare : Effect Unit := do
          if file == "-" then
            let place ← openChannel .sink
            connect 0 (some place)
        let (status, isOver) ←
          ArgumentPlan.runAll start (g.has 't') (g.has 'p') (g.get? 'π') prepare 0 found.commands
        match found.fault, isOver with
        | some message, false => failed message 1
        | _, _ => pure status


end Conformance.Shell
