import Conformance.Shell.EditScript

/-!
# Editing lines

Each line of the inputs is put into a space where the commands of a script change it, and what is there at
the end of the script is written.  Editing itself changes nothing: what it writes, and where, is its result.
-/

namespace Conformance.Shell

/-! ## Lines and places -/

/-- A line, and whether it has an end. -/
structure EditLine where
  text : String
  isEnded : Bool
  deriving Repr, DecidableEq

/-- The lines of a text whose ends are marks. -/
def editLines (mark : Char) (text : String) : List EditLine :=
  let pieces := text.splitOn (String.singleton mark)
  let ended := pieces.dropLast.map fun piece => ⟨piece, true⟩
  match pieces.getLast? with
  | some "" | none => ended
  | some last => ended ++ [⟨last, false⟩]

/-- A text whose lines are edited. -/
inductive EditInput
  | text (name : String) (lines : List EditLine)
  /-- One that could not be read: what is said of it, and the status for that. -/
  | absent (message : String) (status : Nat)
  /-- One at which editing stops. -/
  | broken (message : String)
  deriving Repr, DecidableEq

/-- Where something is written. -/
inductive EditTarget
  | output
  /-- The output as a file that commands write, which knows nothing of what else is written there. -/
  | outputFile
  | errors
  | file (name : String)
  /-- In the place of the input with a number. -/
  | input (n : Nat)
  deriving Repr, DecidableEq

/-- What editing asks for while it goes on: what commands write, and what files hold. -/
structure EditAccess (m : Type → Type) where
  outputOf : String → m String
  contentOf : String → m (Option String)

/-- Whether editing stops at an input. -/
def EditInput.isBroken : EditInput → Bool
  | .broken _ => true
  | _ => false

/-- A script with how it is run. -/
structure EditPlan where
  commands : Array EditCommand
  isQuiet : Bool
  /-- Whether the inputs are edited one by one. -/
  isSeparate : Bool
  /-- Whether what is written takes the place of what was read. -/
  inPlace : Bool
  /-- What ends a line. -/
  mark : Char
  width : Nat

/-! ## Replacing -/

/-- A text with its letters changed, and those of its first character. -/
def withLetters (whole first : LetterCase) (text : List Char) : List Char :=
  let change (k : LetterCase) (c : Char) : Char :=
    match k with
    | .same => c
    | .upper => raisedChar c
    | .lower => loweredChar c
  match text with
  | [] => []
  | c :: rest => change (if first == .same then whole else first) c :: rest.map (change whole)

/-- What is put in the place of a match; the letters of a first character are changed even where it comes
from a later part, if this one is empty. -/
def replacementOf (s : Regular.Subject) (start : Nat) (spot : Regular.Spot) :
    LetterCase → List ReplacementPart → List Char
  | _, [] => []
  | waiting, p :: rest =>
    let first := if p.first == .same then waiting else p.first
    let text := withLetters p.whole first p.text
    let remaining := if p.text.isEmpty then first else .same
    match p.group with
    | none => text ++ replacementOf s start spot .same rest
    | some number =>
      let found := match number with
        | 0 => (s.text.extract start spot.place).toList
        | number =>
          match spot.groups.lookup number with
          | some (a, b) => (s.text.extract a b).toList
          | none => []
      let still := if found.isEmpty && p.first != .same then remaining else .same
      text ++ withLetters p.whole remaining found ++ replacementOf s start spot still rest

/-- Replace the matches from a place on, of which some have been passed; the answer says whether there was
one.  An empty match right behind another one does not count.  The number bounds how many places are
tried. -/
def replaceFrom (q : Substitution) (e : Regular) (s : Regular.Subject) :
    Nat → Nat → Nat → Option Nat → List Char → List Char × Bool
  | 0, place, _, _, done => (done.reverse ++ (s.text.extract place s.text.size).toList, false)
  | fuel + 1, place, passed, last, done =>
    let finish := done.reverse ++ (s.text.extract place s.text.size).toList
    match e.find? s place with
    | none => (finish, false)
    | some (start, spot) =>
      let skipped := (s.text.extract place start).toList
      let isEmpty := spot.place = start
      let front := skipped.reverse ++ done
      -- One character is passed behind an empty match, so that the next one lies further on.
      let goOn (place : Nat) (passed : Nat) (front : List Char) : List Char × Bool :=
        if isEmpty then
          match s.text[place]? with
          | some c => replaceFrom q e s fuel (place + 1) passed (some spot.place) (c :: front)
          | none => (front.reverse, false)
        else replaceFrom q e s fuel place passed (some spot.place) front
      if isEmpty && last == some start then goOn spot.place passed front
      else if passed + 1 < q.first then
        goOn spot.place (passed + 1) ((s.text.extract start spot.place).toList.reverse ++ front)
      else
        let front := (replacementOf s start spot .same q.parts).reverse ++ front
        if q.isGlobal then ((goOn spot.place (passed + 1) front).1, true)
        else (front.reverse ++ (s.text.extract spot.place s.text.size).toList, true)

/-! ## Showing -/

/-- A byte as it is shown where nothing may be hidden. -/
def listedByte (c : Char) : String :=
  if c == '\\' then "\\\\"
  else if 32 ≤ c.toNat && c.toNat < 127 then String.singleton c
  else
    match [('\x07', 'a'), ('\x08', 'b'), ('\x0c', 'f'), ('\n', 'n'), ('\r', 'r'), ('\t', 't'),
        ('\x0b', 'v')].lookup c with
    | some letter => String.ofList ['\\', letter]
    | none =>
      let n := c.toNat
      String.ofList ('\\' :: [n / 64, n / 8 % 8, n % 8].map fun d => Char.ofNat (48 + d))

/-- Pieces of a text one after another, on lines of a width that end with a mark; zero stands for any
width. -/
def listedPieces (mark : String) (width : Nat) : Nat → List String → String
  | _, [] => ""
  | used, piece :: rest =>
    if 0 < width && width - 1 < used + piece.length then
      "\\" ++ mark ++ piece ++ listedPieces mark width piece.length rest
    else piece ++ listedPieces mark width (used + piece.length) rest

/-! ## Running -/

/-- What is written behind a line: a text, or the content of a file. -/
inductive Appended
  | text (t : String)
  | line (t : String)
  | file (name : String)
  deriving Repr, DecidableEq

/-- How far a range of lines has come. -/
inductive RangeState
  /-- It has begun and ends where its last address is met. -/
  | running
  /-- It has begun and ends with the line that has a number. -/
  | upTo (n : Nat)
  /-- It has ended and does not begin again. -/
  | closed
  deriving Repr, DecidableEq

/-- What editing has come to: the space with the line and the one that is held, what is left to be read,
and what has been written, last first. -/
structure Editing where
  space : EditLine
  held : EditLine
  number : Nat
  /-- How many inputs have been begun. -/
  place : Nat
  name : String
  lines : List EditLine
  inputs : List EditInput
  /-- What is said of inputs that could not be read, last first, and the status for that. -/
  complaints : List String
  failure : Nat
  queue : List Appended
  hasChanged : Bool
  /-- The commands whose ranges have begun. -/
  begun : List (Nat × RangeState)
  lastPattern : Option EditPattern
  written : List (EditTarget × String)
  /-- Where what has been written lacks the end of its line. -/
  lacking : List EditTarget
  /-- What is left of the files that are read line by line. -/
  rows : List (String × List EditLine)

/-- How editing goes on after a command. -/
inductive EditMove
  | goTo (n : Nat)
  | cycle (printing : Bool)
  /-- Once more from the first command, without a new line. -/
  | again
  | quit (printing : Bool) (status : Nat)
  /-- Stop at once with a message. -/
  | fault (message : String) (status : Nat)

/-- How editing ends. -/
inductive EditEnd
  | status (n : Nat)
  /-- With a message and a status. -/
  | fault (message : String) (status : Nat)
  /-- It goes on for longer than anybody waits. -/
  | endless
  deriving Repr, DecidableEq

namespace EditPlan

/-- Where lines are written by themselves. -/
def target (plan : EditPlan) (s : Editing) : EditTarget :=
  if plan.inPlace then .input s.place else .output

/-- The ranges that have begun before the first line. -/
def openRanges (plan : EditPlan) : List (Nat × RangeState) :=
  plan.commands.toList.zipIdx.filterMap fun (c, n) =>
    match c.choice with
    | .range (.line 0) _ => some (n, .running)
    | _ => none

end EditPlan

namespace Editing

/-- Write a text where the end of a line may be lacking. -/
def put (plan : EditPlan) (s : Editing) (target : EditTarget) (text : String) : Editing :=
  let front := if s.lacking.contains target then String.singleton plan.mark else ""
  { s with
    written := (target, front ++ text) :: s.written
    lacking := s.lacking.filter (· != target) }

/-- Write a line, with its end if it has one. -/
def putLine (plan : EditPlan) (s : Editing) (target : EditTarget) (line : EditLine) : Editing :=
  if line.isEnded then s.put plan target (line.text ++ String.singleton plan.mark)
  else
    let s := s.put plan target line.text
    { s with lacking := target :: s.lacking }

/-- Write the space. -/
def putSpace (plan : EditPlan) (s : Editing) : Editing :=
  s.putLine plan (plan.target s) s.space

/-- Write what has been kept for the end of a line. -/
def flush {m : Type → Type} [Monad m] (access : EditAccess m) (plan : EditPlan) (s : Editing) :
    m Editing := do
  let target := plan.target s
  let s ← s.queue.reverse.foldlM (fun s appended =>
    match appended with
    | .text t | .line t => pure (s.put plan target t)
    | .file name => do
      match ← access.contentOf name with
      | some content => pure (s.put plan target content)
      | none => pure (s.put plan target "")) s
  pure { s with queue := [] }

/-- Begin the next input that has lines; where inputs are edited one by one, those without lines count. -/
def beginInput (plan : EditPlan) : Editing → List EditInput → Editing
  | s, [] => { s with inputs := [] }
  | s, .absent message status :: rest =>
    beginInput plan { s with complaints := message :: s.complaints, failure := max s.failure status } rest
  | s, .broken message :: rest => { s with inputs := .broken message :: rest }
  | s, .text name lines :: rest =>
    let s := { s with place := s.place + 1, name := name, lines := lines, inputs := rest }
    let s := if plan.isSeparate then
        { s with number := 0, held := { s.held with text := "" }, begun := plan.openRanges, rows := [] }
      else s
    if lines.isEmpty then beginInput plan s rest else s

/-- Whether the line is the last one; inputs behind it are looked at. -/
def isLast (plan : EditPlan) (s : Editing) : Bool × Editing :=
  if !s.lines.isEmpty then (false, s)
  else if plan.isSeparate then (true, s)
  else
    let s := beginInput plan s (s.inputs.filter (!·.isBroken))
    (s.lines.isEmpty, s)

/-- How editing ends where there is no further line: one that cannot be read stops it. -/
def conclusion (s : Editing) (status : Nat) : EditEnd :=
  match s.lines, s.inputs with
  | [], .broken message :: _ => .fault message 4
  | _, _ => .status (if s.failure = 0 then status else s.failure)

/-- Take the next line, if there is one. -/
def advance {m : Type → Type} [Monad m] (access : EditAccess m) (plan : EditPlan) (s : Editing) :
    m (Option EditLine × Editing) := do
  let s ← s.flush access plan
  let s := if s.lines.isEmpty then beginInput plan s s.inputs else s
  match s.lines with
  | [] => pure (none, s)
  | line :: rest => pure (some line, { s with number := s.number + 1, lines := rest, hasChanged := false })

/-- The text that matches are looked for in. -/
def subject (plan : EditPlan) (s : Editing) (p : EditPattern) : Regular.Subject :=
  ⟨(unitsOf s.space.text).toArray, p.folding, p.lined && plan.mark == '\n'⟩

/-- Whether the line has a match of an expression, or of the one that was used last.  Without any, there is
no answer. -/
def meets (plan : EditPlan) (s : Editing) (p : Option EditPattern) : Option (Bool × Editing) :=
  (p.or s.lastPattern).map fun p =>
    ((p.expression.find? (s.subject plan p) 0).isSome, { s with lastPattern := some p })

/-- Whether an address is that of the line. -/
def isAt (plan : EditPlan) (s : Editing) : LineAddress → Option (Bool × Editing)
  | .line n => some (s.number == n, s)
  | .last => some (s.isLast plan)
  | .matching p => s.meets plan p
  | .every first step => some (first ≤ s.number && (s.number - first) % step == 0, s)

/-- Change how far the range of a command has come. -/
def withRange (s : Editing) (place : Nat) (state : Option RangeState) : Editing :=
  let others := s.begun.filter (·.1 != place)
  { s with begun := match state with
      | some state => (place, state) :: others
      | none => others }

/-- The range of a command ends; one that begins with a number does so only once. -/
def leaveRange (s : Editing) (place : Nat) : LineAddress → Editing
  | .line _ => s.withRange place (some .closed)
  | _ => s.withRange place none

/-- Whether a range begins with the line; where it does, how far it has come. -/
def enterRange (plan : EditPlan) (s : Editing) (place : Nat) (first : LineAddress) (final : RangeEnd) :
    Option (Bool × Editing) := do
  let (isFirst, s) ← match first with
    | .line n => some (decide (n ≤ s.number), s)
    | first => s.isAt plan first
  if !isFirst then some (false, s)
  else
    let single := s.leaveRange place first
    let going (n : Nat) : Editing := s.withRange place (some (.upTo n))
    match final with
    | .address (.line n) =>
      if s.number < n then some (true, going n)
      else
        match first with
        | .line m => some (s.number == m || s.number == n, single)
        | _ => some (true, single)
    | .address (.matching _) => some (true, s.withRange place (some .running))
    | .address a =>
      let (isFinal, s) ← s.isAt plan a
      some (true, if isFinal then s.leaveRange place first else s.withRange place (some .running))
    | .further n => some (true, if n = 0 then single else going (s.number + n))
    | .multiple n => some (true, if n = 0 then single else going ((s.number / n + 1) * n))

/-- Whether a command is for the line. -/
def chooses (plan : EditPlan) (s : Editing) (place : Nat) (choice : LineChoice) : Option (Bool × Editing) :=
  match choice with
  | .all => some (true, s)
  | .one a => s.isAt plan a
  | .range first final =>
    match s.begun.lookup place, final with
    | none, final => s.enterRange plan place first final
    | some .closed, _ => some (false, s)
    | some (.upTo n), .address _ =>
      some (decide (s.number ≤ n), if n ≤ s.number then s.leaveRange place first else s)
    | some (.upTo n), _ => some (true, if n ≤ s.number then s.leaveRange place first else s)
    | some .running, .address a =>
      (s.isAt plan a).map fun (isFinal, s) => (true, if isFinal then s.leaveRange place first else s)
    | some .running, _ => some (true, s)

/-- The space up to the end of its first line, and what follows. -/
def firstLine (plan : EditPlan) (s : Editing) : EditLine × Option String :=
  match s.space.text.splitOn (String.singleton plan.mark) with
  | line :: next :: more => (⟨line, true⟩, some ((String.singleton plan.mark).intercalate (next :: more)))
  | _ => (s.space, none)

/-- Where something is written that goes to a file with a name. -/
def targetOf (name : String) : EditTarget :=
  match name with
  | "/dev/stdout" => .outputFile
  | "/dev/stderr" => .errors
  | name => .file name

/-- A text without a mark at its end. -/
def withoutMark (plan : EditPlan) (text : String) : String :=
  if text.endsWith (String.singleton plan.mark) then (text.dropEnd 1).toString else text

/-- Replace matches in the space; without an expression there is no answer. -/
def substitute {m : Type → Type} [Monad m] (access : EditAccess m) (plan : EditPlan) (s : Editing)
    (q : Substitution) : m (Option Editing) := do
  match q.pattern.or s.lastPattern with
  | none => pure none
  | some p =>
    let subject := s.subject plan p
    let (units, hasChanged) := replaceFrom q p.expression subject (2 * subject.text.size + 2) 0 0 none []
    let s := { s with lastPattern := some p }
    if !hasChanged then pure (some s)
    else
      let text := bytesOfUnits units
      let text ← if q.isRun then do pure (withoutMark plan (← access.outputOf text)) else pure text
      let s := { s with space := { s.space with text := text }, hasChanged := true }
      let s := if q.isShown then s.putSpace plan else s
      match q.file with
      | some name => pure (some (s.putLine plan (targetOf name) s.space))
      | none => pure (some s)

/-- The next line of a file that is read line by line. -/
def nextRow {m : Type → Type} [Monad m] (access : EditAccess m) (plan : EditPlan) (s : Editing)
    (name : String) : m (Option EditLine × Editing) := do
  let lines ← match s.rows.lookup name with
    | some lines => pure lines
    | none => do pure (editLines plan.mark ((← access.contentOf name).getD ""))
  let s := { s with rows := (name, lines.drop 1) :: s.rows.filter (·.1 != name) }
  pure (lines.head?, s)

/-- Do what a command does that is for the line; it stands at a place of the script. -/
def perform {m : Type → Type} [Monad m] (access : EditAccess m) (plan : EditPlan) (s : Editing)
    (place : Nat) (c : EditCommand) : m (Editing × EditMove) := do
  let target := plan.target s
  let mark := String.singleton plan.mark
  let onward (s : Editing) : m (Editing × EditMove) := pure (s, .goTo (place + 1))
  let added (text : String) : Editing :=
    s.put plan target (if text.isEmpty then "" else (text.dropEnd 1).toString ++ mark)
  let withText (text : String) : Editing := { s with space := { s.space with text := text } }
  match c.action with
  | .block _ | .blockEnd | .label _ => onward s
  | .substitute q =>
    match ← s.substitute access plan q with
    | some s => onward s
    | none => pure (s, .fault "no previous regular expression" 1)
  | .exchangeChars pairs =>
    let units := (unitsOf s.space.text).map fun c => (pairs.lookup c).getD c
    onward (withText (bytesOfUnits units))
  | .delete => pure (s, .cycle false)
  | .deleteFirst =>
    match s.firstLine plan with
    | (_, some more) => pure (withText more, .again)
    | (_, none) => pure (s, .cycle false)
  | .clear => onward (withText "")
  | .show => onward (s.putSpace plan)
  | .showFirst => onward (s.putLine plan target (s.firstLine plan).1)
  | .list width =>
    let pieces := s.space.text.toList.map listedByte
    onward (s.put plan target (listedPieces mark (width.getD plan.width) 0 pieces ++ "$" ++ mark))
  | .number => onward (s.put plan target (toString s.number ++ mark))
  | .fileName => onward (s.put plan target (s.name ++ mark))
  | .quit printing status => pure (s, .quit printing status)
  | .append text => onward { s with queue := .text text :: s.queue }
  | .insert text => onward (added text)
  | .change text =>
    let goesOn := !c.isNegated && match s.begun.lookup place with
      | none | some .closed => false
      | some _ => true
    pure (if goesOn then s else added text, .cycle false)
  | .next =>
    let (isLast, s) := s.isLast plan
    if isLast then pure (s, .cycle true)
    else
      let s := if plan.isQuiet then s else s.putSpace plan
      match ← s.advance access plan with
      | (some line, s) => onward { s with space := line }
      | (none, s) => pure (s, .cycle false)
  | .join =>
    let (isLast, s) := s.isLast plan
    if isLast then pure (s, .cycle true)
    else
      match ← s.advance access plan with
      | (some line, s) => onward { s with space := { line with text := s.space.text ++ mark ++ line.text } }
      | (none, s) => pure (s, .cycle true)
  | .hold adding =>
    let text := if adding then s.held.text ++ mark ++ s.space.text else s.space.text
    onward { s with held := { s.space with text := text } }
  | .recall adding =>
    let text := if adding then s.space.text ++ mark ++ s.held.text else s.held.text
    onward { s with space := { s.held with text := text } }
  | .exchange => onward { s with space := s.held, held := s.space }
  | .branch onChange name =>
    let taken := match onChange with
      | none => true
      | some wanted => s.hasChanged == wanted
    let s := if onChange.isSome then { s with hasChanged := false } else s
    if !taken then onward s
    else if name.isEmpty then pure (s, .goTo plan.commands.size)
    else
      let isTarget (c : EditCommand) : Bool :=
        match c.action with
        | .label other => other == name
        | _ => false
      pure (s, .goTo ((plan.commands.findIdx? isTarget).getD plan.commands.size))
  | .readFile name => onward { s with queue := .file name :: s.queue }
  | .readLine name =>
    match ← s.nextRow access plan name with
    | (some line, s) =>
      let text := if line.isEnded then line.text ++ mark else line.text
      onward { s with queue := .line text :: s.queue }
    | (none, s) => onward s
  | .writeFile name onlyFirst =>
    onward (s.putLine plan (targetOf name) (if onlyFirst then (s.firstLine plan).1 else s.space))
  | .run command =>
    if command.isEmpty then
      let text ← access.outputOf s.space.text
      onward (withText (withoutMark plan text))
    else
      let text ← access.outputOf command
      onward (s.put plan target text)
  | .unknown c => pure (s, .fault ("INTERNAL ERROR: Bad cmd " ++ String.singleton c) 4)

/-- How much the spaces can hold before editing is taken to have no end. -/
def spaceLimit : Nat := 4000000

/-- Run the commands from a place on, and then those for the lines that follow; the answer has how editing
ends.  The number bounds how many steps are made. -/
def run {m : Type → Type} [Monad m] (access : EditAccess m) (plan : EditPlan) :
    Nat → Nat → Editing → m (Editing × EditEnd)
  | 0, _, s => pure (s, .endless)
  | fuel + 1, place, s => do
    let stop (s : Editing) (status : Nat) : m (Editing × EditEnd) :=
      pure (s, .status (if s.failure = 0 then status else s.failure))
    let goOn (s : Editing) (move : EditMove) : m (Editing × EditEnd) := do
      match move with
      | .goTo n => run access plan fuel n s
      | .cycle printing =>
        let s := if printing && !plan.isQuiet then s.putSpace plan else s
        match ← s.advance access plan with
        | (some line, s) => run access plan fuel 0 { s with space := line }
        | (none, s) => pure (s, s.conclusion 0)
      | .again =>
        let s ← s.flush access plan
        run access plan fuel 0 s
      | .quit printing status =>
        if !printing then stop s status
        else
          let s := if plan.isQuiet then s else s.putSpace plan
          let s ← s.flush access plan
          let target := plan.target s
          stop (if s.lacking.contains target then s.put plan target "" else s) status
      | .fault message status => pure (s, .fault message status)
    if spaceLimit < s.space.text.utf8ByteSize + s.held.text.utf8ByteSize then pure (s, .endless)
    else match plan.commands[place]? with
    | none => goOn s (.cycle true)
    | some c =>
      match s.chooses plan place c.choice with
      | none => goOn s (.fault "no previous regular expression" 1)
      | some (chosen, s) =>
        if chosen != c.isNegated then
          let (s, move) ← s.perform access plan place c
          goOn s move
        else
          match c.action with
          | .block stop => goOn s (.goTo (stop + 1))
          | _ => goOn s (.goTo (place + 1))

end Editing

/-- How many steps editing can take. -/
def editLimit : Nat := 400000

/-- What editing comes to: how many inputs have been begun, what is written, in order, what is said of inputs,
and how it ends. -/
structure EditResult where
  begun : Nat
  written : List (EditTarget × String)
  complaints : List String
  final : EditEnd

/-- Edit inputs. -/
def EditPlan.edit {m : Type → Type} [Monad m] (access : EditAccess m) (plan : EditPlan)
    (inputs : List EditInput) : m EditResult := do
  let start : Editing :=
    ⟨⟨"", true⟩, ⟨"", true⟩, 0, 0, "-", [], inputs, [], 0, [], false, plan.openRanges, none, [], [], []⟩
  let (done, final) ← match ← start.advance access plan with
    | (some line, s) => Editing.run access plan editLimit 0 { s with space := line }
    | (none, s) => pure (s, s.conclusion 0)
  pure ⟨done.place, done.written.reverse, done.complaints.reverse, final⟩

end Conformance.Shell
