import Conformance.Shell.Awk.State

/-!
# What programs over records read and write

Records are taken from the files that the operands name, from other files and from what commands write.  What
is written to the standard output shows when it must be there, which is before another program runs and at
the end.
-/

namespace Conformance.Shell

open Effect

/-! ## Records -/

/-- The first place from one on whose character satisfies a condition, or the end.  The number bounds how many
places are tried. -/
def soughtFrom (isSought : Char → Bool) (text : Array Char) : Nat → Nat → Nat
  | 0, place => place
  | fuel + 1, place =>
    match text[place]? with
    | none => place
    | some c => if isSought c then place else soughtFrom isSought text fuel (place + 1)

/-- The first place from one on where a line ends that an empty one follows, or the end. -/
def paragraphEnd (text : Array Char) : Nat → Nat → Nat
  | 0, place => place
  | fuel + 1, place =>
    let place := soughtFrom (· == '\n') text (text.size + 1) place
    if text.size ≤ place + 1 || text[place + 1]? == some '\n' then place else paragraphEnd text fuel (place + 1)

/-- Take the next record of a text, if there is one. -/
def AwkInput.next? (ending : AwkEnding) (input : AwkInput) : Option (String × AwkInput) :=
  let text := input.text
  let taken (start stop next : Nat) : Option (String × AwkInput) :=
    some (String.ofList (text.extract start stop).toList, { input with place := next })
  match ending with
  | .char c =>
    if text.size ≤ input.place then none
    else
      let stop := soughtFrom (· == c) text (text.size + 1) input.place
      taken input.place stop (stop + 1)
  | .paragraph =>
    let start := soughtFrom (· != '\n') text (text.size + 1) input.place
    if text.size ≤ start then none
    else
      let stop := paragraphEnd text text.size start
      taken start stop (soughtFrom (· != '\n') text (text.size + 1) stop)
  | .pattern e =>
    if text.size ≤ input.place then none
    else
      match AwkRun.findWide? e { text := text, folding := false } (text.size + 1) input.place with
      | some (stop, next) => taken input.place stop next
      | none => taken input.place text.size text.size

namespace AwkRun

/-! ## Writing -/

/-- Let what has been written to the standard output show. -/
def flushStandard : AwkRun Unit := do
  let text := String.join (← get).pending.reverse
  modify fun s => { s with pending := [] }
  onMachine (say text)

/-- Let what has been written to a file show. -/
def flushOutput (output : AwkOutput) : AwkRun AwkOutput := do
  if output.isCommand || output.parts.isEmpty then pure output
  else
    onMachine (writeAt output.place (String.join output.parts.reverse))
    pure { output with parts := [] }

/-- Let all show that has been written, but for what commands get. -/
def flushAll : AwkRun Unit := do
  flushStandard
  let outputs ← (← get).outputs.mapM flushOutput
  modify fun s => { s with outputs := outputs }

/-- Count what is written. -/
def countWritten (text : String) : AwkRun Unit := do
  let s ← get
  if writeLimit < s.written + text.length then throw .endless
  set { s with written := s.written + text.length }

/-- Write a text to the standard output. -/
def sayLater (text : String) : AwkRun Unit := do
  countWritten text
  modify fun s => { s with pending := text :: s.pending }

/-- Open a file that is written to; the answer is the place of its channel, or what is wrong. -/
def openWritten (isAppended : Bool) (name : String) : Effect (Except Fault Nat) := do
  let path ← pathOf name
  match ← lookUp name with
  | .ok .sink => .ok <$> openChannel .sink
  | .ok (.directory _) => pure (.error .isDirectory)
  | .ok (.link _) => pure (.error .looping)
  | .ok (.file ..) =>
    if !isAppended then putFile path ""
    .ok <$> openChannel (.file path 0 isAppended)
  | .error .notFound =>
    match ← creationFault? name with
    | some fault => pure (.error fault)
    | none =>
      putFile path ""
      .ok <$> openChannel (.file path 0 isAppended)
  | .error fault => pure (.error fault)

/-- Write a text to a file or command, which is opened if it is not yet; the one that was used last comes
first. -/
def writeTo (isCommand isAppended : Bool) (name text : String) : AwkRun Unit := do
  countWritten text
  let s ← get
  match s.outputs.find? fun o => o.name == name && o.isCommand == isCommand with
  | some output =>
    let others := s.outputs.filter fun o => o.name != name || o.isCommand != isCommand
    set { s with outputs := { output with parts := text :: output.parts } :: others }
  | none =>
    if isCommand then
      flushAll
      modify fun s => { s with outputs := ⟨name, true, 0, [text]⟩ :: s.outputs }
    else
      match ← onMachine (openWritten isAppended name) with
      | .ok place => modify fun s => { s with outputs := ⟨name, false, place, [text]⟩ :: s.outputs }
      | .error fault => throw (.broken s!"cannot open \"{name}\" for output ({fault.text})")

/-- Write a text where a sign says. -/
def writeText (isCommand isAppended : Bool) (name text : String) : AwkRun Unit :=
  match isCommand, name with
  | false, "/dev/stdout" => sayLater text
  | false, "/dev/stderr" => do
    countWritten text
    onMachine (complain text)
  | _, _ => writeTo isCommand isAppended name text

/-! ## Commands -/

/-- The number for the way in which a process has ended. -/
def endNumber : Ended → Nat
  | .status n => n
  | .signal n => 256 + n

/-- Hand a command what has been written to it, and wait for it. -/
def finishCommand (start : Starter) (output : AwkOutput) : AwkRun Nat := do
  let text := String.join output.parts.reverse
  let ended ← onMachine (shellApart start "/bin/sh" (do
    let place ← openChannel (.source text.toList 0)
    connect 0 (some place)) output.name)
  pure (endNumber ended)

/-- Close all that has a name; the answer is how the last command ended, or a number below zero if there is
nothing with this name. -/
def closeNamed (start : Starter) (name : String) : AwkRun Int := do
  let s ← get
  let outputs := s.outputs.filter (·.name == name)
  let inputs := s.inputs.filter (·.1.2 == name)
  set { s with
    outputs := s.outputs.filter (·.name != name)
    inputs := s.inputs.filter (·.1.2 != name) }
  let results ← outputs.mapM fun output => do
    if output.isCommand then do
      pure ((← finishCommand start output : Nat) : Int)
    else
      let _ ← flushOutput output
      pure 0
  let read := inputs.map fun (_, input) =>
    match input.origin with
    | .command status => (status : Int)
    | _ => 0
  pure (if name == "/dev/stdout" || name == "/dev/stderr" then 0 else (results ++ read).getLast?.getD (-1))

/-- Close all that is open: what was used last comes first, and the standard output shows at the end. -/
def closeAll (start : Starter) : AwkRun Unit := do
  let outputs := (← get).outputs
  outputs.forM fun output => do
    let _ ← if output.isCommand then finishCommand start output else do
      let _ ← flushOutput output
      pure 0
  modify fun s => { s with outputs := [] }
  flushStandard

/-! ## Reading -/

/-- How much of the standard input is read in one go. -/
def blockSize : Nat := 4096

/-- Read of the standard input what a record needs that has been taken from it. -/
def consumeFor (input : AwkInput) : AwkRun AwkInput := do
  match input.origin with
  | .standard before =>
    let blocks := (input.place + blockSize - 1) / blockSize
    let wanted := min input.text.size (blocks * blockSize)
    if before < wanted then
      onMachine (consume 0 (wanted - before))
      pure { input with origin := .standard wanted }
    else pure input
  | _ => pure input

/-- The text of the file with a name. -/
def openInput (name : String) : AwkRun (Except Fault AwkInput) := do
  if name == "-" || name == "/dev/stdin" then
    let text ← onMachine (remaining 0)
    pure (.ok ⟨text.toArray, 0, .standard 0⟩)
  else
    match ← onMachine (readOperand? name) with
    | .ok text => pure (.ok ⟨text.toList.toArray, 0, .file⟩)
    | .error .isDirectory => throw (.broken "read error (Is a directory)")
    | .error fault => pure (.error fault)

/-- Take a record of a file or of what a command writes; the answer has none at the end, and says what is wrong
where there is nothing to read. -/
def nextOf (start : Starter) (isCommand : Bool) (name : String) :
    AwkRun (Except Fault (Option String)) := do
  let key := (isCommand, name)
  let found ← match (← get).inputs.lookup key with
    | some input => pure (Except.ok input)
    | none => do
      if isCommand then
        flushAll
        let (text, ended) ← onMachine (shellOutput start "/bin/sh" name)
        pure (.ok ⟨text.toList.toArray, 0, .command (endNumber ended)⟩)
      else openInput name
  match found with
  | .error fault => pure (.error fault)
  | .ok input =>
    let result := input.next? (← get).ending
    let input := (result.map Prod.snd).getD { input with place := input.text.size }
    let input ← consumeFor input
    modify fun s => { s with inputs := (key, input) :: s.inputs.filter (·.1 != key) }
    pure (.ok (result.map Prod.fst))

end AwkRun

end Conformance.Shell
