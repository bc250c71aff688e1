import Conformance.Shell.Awk.Replace
import Conformance.Shell.Awk.Stream
import Conformance.Shell.Calendar

/-!
# Running programs over records

Expressions are worked out and statements carried out.  The numbers that bound how deep this goes are greater
than that of the steps a program makes.
-/

namespace Conformance.Shell

open Effect

/-- What stays the same while a program runs. -/
structure AwkSetting where
  start : Starter
  functions : Std.HashMap String AwkFunction

/-- How a statement ends. -/
inductive AwkFlow
  | goOn
  | leaveLoop
  | nextTurn
  | nextRecord
  | nextFile
  | answer (v : AwkValue)

/-- Where something is assigned to. -/
inductive AwkSpot
  | variable (name : AwkName)
  | element (table : Nat) (key : AwkKey)
  | field (n : Nat)

namespace AwkRun

/-! ## Places -/

/-- The value at a place. -/
def valueAt (spot : AwkSpot) : AwkRun AwkValue :=
  match spot with
  | .variable name => valueOf name
  | .element table key => withTable table (·.get key)
  | .field n => fieldAt n

/-- Put a value at a place. -/
def putAt (spot : AwkSpot) (v : AwkValue) : AwkRun Unit :=
  match spot with
  | .variable name => putValue name v
  | .element table key => withTable table fun t => (t.put key v, ())
  | .field n => putField n v

/-- The number of a field. -/
def fieldNumber (v : AwkValue) : AwkRun Nat := do
  let n := AwkValue.toInteger v.toNumber
  if n < 0 then throw (.fault ("negative field index $" ++ toString n))
  pure n.toNat

/-! ## Records -/

/-- Count a record that has been read from the operands. -/
def countRecord : AwkRun Unit := do
  for name in ["NR", "FNR"] do
    let n := ((← get).shared[name]?.getD .unset).toNumber
    modify fun s => { s with shared := s.shared.insert name (.number (n + 1)) }

/-- The variable and the value that an operand assigns. -/
def assignment? (operand : String) : Option (String × String) :=
  match splitAssignment operand with
  | (name, some value) => if isIdentifier name then some (name, unescapeAwk value) else none
  | _ => none

/-- Whether an operand can give a value to a name. -/
def isAssignable (p : AwkSetting) (name : String) : AwkRun Bool := do
  pure !(awkKeywords.contains name || (AwkBuiltin.table.lookup name).isSome || p.functions.contains name ||
    (← get).places.contains name)

/-- What is said where no value can be given to a name. -/
def assignmentMessage (name : String) : String :=
  "cannot command line assign to " ++ name ++ "\n\ttype clash or keyword"

/-- How many operands are looked at. -/
def operandLimit : Nat := 100000

/-- Go on to the next operand that is a file; assignments are made on the way.  The answer says whether there is
something to read; the number bounds how many operands there are. -/
def nextOperand (p : AwkSetting) : Nat → AwkRun Bool
  | 0 => pure false
  | fuel + 1 => do
    let operands := (← get).operands
    let count := AwkValue.toInteger ((← get).shared["ARGC"]?.getD .unset).toNumber
    let place := operands.next
    let opened (name : String) : AwkRun Bool := do
      match ← openInput name with
      | .ok input =>
        modify fun s => { s with
          operands := { s.operands with input := some input, hasRead := true }
          shared := (s.shared.insert "FILENAME" (.text name)).insert "FNR" (.number 0) }
        pure true
      | .error fault => throw (.broken s!"cannot open \"{name}\" ({fault.text})")
    if (place : Int) < count then
      modify fun s => { s with operands := { s.operands with next := place + 1 } }
      let operand ← withTable (← tablePlace (.shared "ARGV")) (·.find? (.number place))
      let text ← toText (operand.getD .unset)
      if text.isEmpty then nextOperand p fuel
      else
        match assignment? text with
        | some (name, value) =>
          if !(← isAssignable p name) then throw (.fault (assignmentMessage name))
          putValue (.shared name) (.given value)
          nextOperand p fuel
        | none => opened text
    else if operands.hasRead then
      modify fun s => { s with operands := { s.operands with isFinished := true } }
      pure false
    else opened "-"

/-- Take the next record of the operands, if there is one.  The number bounds how many operands there are. -/
def nextMain (p : AwkSetting) : Nat → AwkRun (Option String)
  | 0 => pure none
  | fuel + 1 => do
    let s ← get
    if s.operands.isFinished then pure none
    else
      match s.operands.input with
      | some input =>
        match input.next? s.ending with
        | some (text, input) =>
          let input ← consumeFor input
          modify fun s => { s with operands := { s.operands with input := some input } }
          countRecord
          pure (some text)
        | none =>
          let _ ← consumeFor { input with place := input.text.size }
          modify fun s => { s with operands := { s.operands with input := none } }
          nextMain p fuel
      | none => if ← nextOperand p operandLimit then nextMain p fuel else pure none

/-- Take a record of a file or of what a command writes, and put it at a place; the answer says whether there
was one, or that nothing can be read. -/
def readFrom (p : AwkSetting) (isCommand : Bool) (name : String) (spot : AwkSpot) : AwkRun AwkValue := do
  match ← nextOf p.start isCommand name with
  | .ok (some text) =>
    putAt spot (.given text)
    pure (.number 1)
  | .ok none => pure (.number 0)
  | .error _ => pure (.number (-1))

/-! ## Functions -/

/-- A number that nobody can foresee, between zero and one. -/
def chance : AwkRun Float := do
  let n := (← get).chance * 6364136223846793005 + 1442695040888963407
  modify fun s => { s with chance := n }
  pure ((n >>> 11).toFloat / 9007199254740992)

/-- The seconds since the start of 1970. -/
def secondsNow : AwkRun Int := do
  pure ((← onMachine get).time / nanosPerSecond)

/-- The number that an integer is. -/
def numberOfInt (n : Int) : AwkValue :=
  .number (Decimal.nearest (decide (n < 0)) n.natAbs 1)

/-- The result of an operation. -/
def computed (operator : AwkOperator) (x y : Float) : Float :=
  match operator with
  | .add => x + y
  | .subtract => x - y
  | .multiply => x * y
  | .divide => x / y
  | .remainder => remainderOf x y
  | .power => x.pow y

/-- Fill a pattern with values, for a function with a name; the answer has the text that has been made, and what
is wrong. -/
def filledFor (function : String) (values : List AwkValue) : AwkRun (String × Option String) := do
  let convert ← textOfVariable "CONVFMT"
  match values with
  | [] => pure ("", none)
  | pattern :: values =>
    let pattern ← toText pattern
    let result := AwkValue.fillPattern (AwkValue.toText convert) pattern values
    let call := s!"{function}(\"{pattern}\")"
    pure (result.text, result.fault.map fun
      | .missing => "not enough arguments passed to " ++ call
      | .improper n => s!"improper conversion(number {n}) in {call}")

/-- The value of a text as it is written. -/
def shownText (v : AwkValue) : AwkRun String := do
  match v with
  | .number x =>
    match AwkValue.whole? x with
    | some n => pure (toString n)
    | none => pure (AwkValue.numberText (← textOfVariable "OFMT") x)
  | v => toText v

/-- The place of the first match in a text, which is kept with its length. -/
def findIn (text : String) (e : Regular) : AwkRun AwkValue := do
  let (start, length) : Nat × AwkValue := match e.find? (AwkPattern.subject text) 0 with
    | some (start, spot) => (start + 1, .ofNat (spot.place - start))
    | none => (0, .number (-1))
  modify fun s => { s with
    shared := (s.shared.insert "RSTART" (.ofNat start)).insert "RLENGTH" length }
  pure (.ofNat start)

/-- What a shell that runs a command ends with. -/
def runCommand (p : AwkSetting) (command : String) : AwkRun AwkValue := do
  flushAll
  let ended ← onMachine (shellApart p.start "sh" (pure ()) command)
  pure (.ofNat (endNumber ended))

/-- Let what has been written show, for one name or for all. -/
def flushNamed (name : Option String) : AwkRun AwkValue := do
  match name with
  | none =>
    flushStandard
    pure (.number 0)
  | some name =>
    if name.isEmpty || name == "/dev/stdout" then
      flushAll
      pure (.number 0)
    else
      let isOpen := (← get).outputs.any (·.name == name)
      let outputs ← (← get).outputs.mapM fun o => if o.name == name then flushOutput o else pure o
      modify fun s => { s with outputs := outputs }
      pure (.number (if isOpen then 0 else -1))

/-- The result of a function that every program has. -/
def builtin (p : AwkSetting) (f : AwkBuiltin) (arguments : List AwkValue) : AwkRun AwkValue := do
  let ofNumber (f : Float → Float) (v : AwkValue) : AwkRun AwkValue := pure (.number (f v.toNumber))
  match f, arguments with
  | .length, [] => do pure (.ofNat (← toText (← fieldAt 0)).length)
  | .length, v :: _ => do pure (.ofNat (← toText v).length)
  | .index, [text, sought] => do pure (.ofNat (indexOf (← toText text) (← toText sought)))
  | .substr, text :: start :: rest => do
    pure (.text (stretchOf (← toText text) start.toNumber (rest.head?.map AwkValue.toNumber)))
  | .sprintf, values => do
    match ← filledFor "sprintf" values with
    | (_, some message) => throw (.fault message)
    | (text, none) => pure (.text text)
  | .sin, [v] => ofNumber Float.sin v
  | .cos, [v] => ofNumber Float.cos v
  | .atan2, [y, x] => pure (.number (Float.atan2 y.toNumber x.toNumber))
  | .exp, [v] => ofNumber Float.exp v
  | .log, [v] => ofNumber Float.log v
  | .sqrt, [v] => ofNumber Float.sqrt v
  | .int, [v] => ofNumber truncated v
  | .rand, _ => .number <$> chance
  | .srand, arguments => do
    let before := (← get).seed
    let seed ← match arguments with
      | v :: _ => pure v
      | [] => numberOfInt <$> secondsNow
    modify fun s => { s with seed := seed }
    pure before
  | .toLower, [v] => do pure (.text ((← toText v).map Char.toLower))
  | .toUpper, [v] => do pure (.text ((← toText v).map Char.toUpper))
  | .system, [v] => do runCommand p (← toText v)
  | .close, [v] => do numberOfInt <$> closeNamed p.start (← toText v)
  | .flush, [] => flushNamed none
  | .flush, v :: _ => do flushNamed (some (← toText v))
  | .time, _ => numberOfInt <$> secondsNow
  | .makeTime, [v] => do
    match madeTime? (← toText v) with
    | some (year :: month :: day :: hour :: minute :: second :: _) =>
      pure (numberOfInt (dayNumber year month day * 86400 + hour * 3600 + minute * 60 + second))
    | _ => pure (.number (-1))
  | .formatTime, values => do
    let pattern ← match values with
      | v :: _ => toText v
      | [] => pure "%c"
    let seconds ← match values with
      | _ :: v :: _ => pure (AwkValue.toInteger v.toNumber)
      | _ => secondsNow
    pure (.text (timeText pattern (seconds * nanosPerSecond)))
  | .find, [text, pattern] => do findIn (← toText text) (← patternOf (← toText pattern))
  | _, _ => pure .unset

/-! ## Expressions and statements -/

/-- How many values a program can hold while it calls functions. -/
def holdLimit : Nat := 1006

/-- How deep functions can be called. -/
def callLimit : Nat := 4000

/-- What is said where a program would hold more values than it can. -/
def holdMessage : String := "program limit exceeded: eval stack size=1024"

/-- What a table is for a function to which it is handed over, or which has it for itself. -/
def slotOfTable (name : Option AwkName) : AwkRun AwkSlot := do
  match name with
  | some name => .table <$> tablePlace name
  | none =>
    let place := (← get).tables.size
    modify fun s => { s with tables := s.tables.push .empty }
    pure (.table place)

/-- The size of the table with a name, or the length of the value that it stands for. -/
def extentOf (name : AwkName) : AwkRun AwkValue := do
  let ofTable (place : Nat) : AwkRun AwkValue := withTable place fun t => (t, .ofNat t.size)
  match name with
  | .shared s =>
    match (← get).places[s]? with
    | some place => ofTable place
    | none => do pure (.ofNat (← toText (← valueOf name)).length)
  | .own place =>
    match (← get).own[place]? with
    | some (.table place) => ofTable place
    | _ => do pure (.ofNat (← toText (← valueOf name)).length)

mutual

/-- The value of an expression, given how many values are held already. -/
def evaluate (fuel : Nat) (p : AwkSetting) (depth held : Nat) (e : AwkExpr) : AwkRun AwkValue :=
  match fuel with
  | 0 => throw .endless
  | fuel + 1 =>
    match e with
    | .number x => pure (.number x)
    | .text s => pure (.text s)
    | .pattern e => do pure (.ofBool (AwkPattern.isFound e (← toText (← fieldAt 0))))
    | .variable name => valueOf name
    | .element table key => do
      let place ← tablePlace table
      let values ← evaluateAll fuel p depth held key
      let key ← keyOfAll values
      withTable place (·.get key)
    | .field index => do
      let v ← evaluate fuel p depth held index
      fieldAt (← fieldNumber v)
    | .group e => evaluate fuel p depth held e
    | .assign place operator value => do
      let spot ← spotOf fuel p depth held place
      let v ← evaluate fuel p depth (held + 1) value
      let v ← match operator with
        | none => pure v
        | some operator => do
          pure (AwkValue.number (computed operator (← valueAt spot).toNumber v.toNumber))
      putAt spot v
      pure v
    | .step place isUp isAfter => do
      let spot ← spotOf fuel p depth held place
      let before := (← valueAt spot).toNumber
      let after := if isUp then before + 1 else before - 1
      putAt spot (.number after)
      pure (.number (if isAfter then after else before))
    | .negate e => do pure (.number (-(← evaluate fuel p depth held e).toNumber))
    | .positive e => do pure (.number (← evaluate fuel p depth held e).toNumber)
    | .not e => do pure (.ofBool (!(← evaluate fuel p depth held e).isTrue))
    | .compute operator a b => do
      let x ← evaluate fuel p depth held a
      let y ← evaluate fuel p depth (held + 1) b
      pure (.number (computed operator x.toNumber y.toNumber))
    | .compare relation a b => do
      let x ← evaluate fuel p depth held a
      let y ← evaluate fuel p depth (held + 1) b
      let convert ← match x, y with
        | .number _, .number _ => pure ""
        | _, _ => textOfVariable "CONVFMT"
      pure (.ofBool (relation.holds (AwkValue.compareWith convert x y)))
    | .matching isWanted text pattern => do
      let text ← toText (← evaluate fuel p depth held text)
      let e ← evaluatePattern fuel p depth (held + 1) pattern
      pure (.ofBool (AwkPattern.isFound e text == isWanted))
    | .both a b => do
      if (← evaluate fuel p depth held a).isTrue then do
        pure (.ofBool (← evaluate fuel p depth held b).isTrue)
      else pure (.ofBool false)
    | .either a b => do
      if (← evaluate fuel p depth held a).isTrue then pure (.ofBool true)
      else do pure (.ofBool (← evaluate fuel p depth held b).isTrue)
    | .choose test yes no => do
      if (← evaluate fuel p depth held test).isTrue then evaluate fuel p depth held yes
      else evaluate fuel p depth held no
    | .join a b => do
      let x ← evaluate fuel p depth held a
      let y ← evaluate fuel p depth (held + 1) b
      pure (.text ((← toText x) ++ (← toText y)))
    | .contains table key => do
      let values ← evaluateAll fuel p depth held key
      let key ← keyOfAll values
      let place ← tablePlace table
      let found ← withTable place (·.find? key)
      pure (.ofBool found.isSome)
    | .call name arguments => call fuel p depth held name arguments
    | .builtin .find [text, pattern] => do
      let text ← toText (← evaluate fuel p depth held text)
      findIn text (← evaluatePattern fuel p depth (held + 1) pattern)
    | .builtin f arguments => do
      let values ← evaluateAll fuel p depth held arguments
      builtin p f values
    | .extent name => extentOf name
    | .split text table separator => do
      let text ← toText (← evaluate fuel p depth held text)
      let place ← tablePlace table
      let splitter ← match separator with
        | none => do pure (← get).splitter
        | some (.pattern e) => pure (AwkSplitter.pattern e)
        | some e => do splitterOf (← toText (← evaluate fuel p depth (held + 2) e))
      let found := fieldsOf splitter text
      withTable place fun _ => (AwkTable.ofList (found.map AwkValue.given), ())
      pure (.ofNat found.length)
    | .substitute isGlobal pattern replacement place => do
      let e ← evaluatePattern fuel p depth held pattern
      let replacement ← toText (← evaluate fuel p depth (held + 1) replacement)
      let spot ← match place with
        | none => pure (AwkSpot.field 0)
        | some place => spotOf fuel p depth (held + 2) place
      let text ← toText (← valueAt spot)
      let (text, count) := replaceIn e isGlobal replacement text
      if 0 < count then putAt spot (.text text)
      pure (.ofNat count)
    | .readRecord place => do
      let spot ← spotOfOptional fuel p depth held place
      match ← nextMain p operandLimit with
      | some text => do
        putAt spot (.given text)
        pure (.number 1)
      | none => pure (.number 0)
    | .readFile name place => do
      let spot ← spotOfOptional fuel p depth held place
      let name ← toText (← evaluate fuel p depth (held + 1) name)
      readFrom p false name spot
    | .readCommand command place => do
      let command ← toText (← evaluate fuel p depth held command)
      let spot ← spotOfOptional fuel p depth (held + 1) place
      readFrom p true command spot
termination_by structural fuel

/-- The values of expressions. -/
def evaluateAll (fuel : Nat) (p : AwkSetting) (depth held : Nat) (expressions : List AwkExpr) :
    AwkRun (List AwkValue) :=
  match fuel with
  | 0 => throw .endless
  | fuel + 1 =>
    match expressions with
    | [] => pure []
    | e :: rest => do
      let v ← evaluate fuel p depth held e
      let rest ← evaluateAll fuel p depth (held + 1) rest
      pure (v :: rest)
termination_by structural fuel

/-- The pattern that an expression stands for. -/
def evaluatePattern (fuel : Nat) (p : AwkSetting) (depth held : Nat) (e : AwkExpr) : AwkRun Regular :=
  match fuel with
  | 0 => throw .endless
  | fuel + 1 =>
    match e with
    | .pattern e => pure e
    | e => do patternOf (← toText (← evaluate fuel p depth held e))
termination_by structural fuel

/-- The place that an expression stands for. -/
def spotOf (fuel : Nat) (p : AwkSetting) (depth held : Nat) (place : AwkExpr) : AwkRun AwkSpot :=
  match fuel with
  | 0 => throw .endless
  | fuel + 1 =>
    match place with
    | .variable name => pure (.variable name)
    | .element table key => do
      let place ← tablePlace table
      let values ← evaluateAll fuel p depth held key
      let key ← keyOfAll values
      let _ ← withTable place (·.get key)
      pure (.element place key)
    | .field index => do
      let v ← evaluate fuel p depth held index
      .field <$> fieldNumber v
    | _ => pure (.field 0)
termination_by structural fuel

/-- The place that an expression stands for, or that of the record. -/
def spotOfOptional (fuel : Nat) (p : AwkSetting) (depth held : Nat) (place : Option AwkExpr) :
    AwkRun AwkSpot :=
  match fuel with
  | 0 => throw .endless
  | fuel + 1 =>
    match place with
    | none => pure (.field 0)
    | some place => spotOf fuel p depth held place
termination_by structural fuel

/-- What a function is handed over, given which of its places are tables. -/
def slotsFor (fuel : Nat) (p : AwkSetting) (depth held : Nat) (tables : List Bool)
    (arguments : List AwkExpr) : AwkRun (List AwkSlot) :=
  match fuel with
  | 0 => throw .endless
  | fuel + 1 =>
    match tables with
    | [] => pure []
    | isTable :: tables => do
      let slot ← match isTable, arguments with
        | true, .variable name :: _ => slotOfTable (some name)
        | true, _ => slotOfTable none
        | false, [] => pure (.value .unset)
        | false, e :: _ => do pure (AwkSlot.value (← evaluate fuel p depth held e))
      let rest ← slotsFor fuel p depth (held + 1) tables (arguments.drop 1)
      pure (slot :: rest)
termination_by structural fuel

/-- The value that a function answers. -/
def call (fuel : Nat) (p : AwkSetting) (depth held : Nat) (name : String) (arguments : List AwkExpr) :
    AwkRun AwkValue :=
  match fuel with
  | 0 => throw .endless
  | fuel + 1 => do
    countStep
    let f := p.functions[name]?.getD default
    let before := (← get).tables.size
    let slots ← slotsFor fuel p depth held f.tables arguments
    if holdLimit < held + slots.length then throw (.broken holdMessage)
    if callLimit < depth then throw .crashed
    let outside := (← get).own
    modify fun s => { s with own := slots.toArray }
    let flow ← execute fuel p (depth + 1) (held + slots.length) f.body
    modify fun s => { s with own := outside, tables := s.tables.shrink before }
    match flow with
    | .answer v => pure v
    | _ => pure .unset
termination_by structural fuel

/-- Carry out a statement. -/
def execute (fuel : Nat) (p : AwkSetting) (depth held : Nat) (s : AwkStatement) : AwkRun AwkFlow :=
  match fuel with
  | 0 => throw .endless
  | fuel + 1 =>
    match s with
    | .evaluate e => do
      let _ ← evaluate fuel p depth held e
      pure .goOn
    | .print values target => do
      let values ← evaluateAll fuel p depth held values
      let texts ← match values with
        | [] => do pure [← shownText (← fieldAt 0)]
        | values => values.mapM shownText
      let text := (← textOfVariable "OFS").intercalate texts ++ (← textOfVariable "ORS")
      writeOut fuel p depth (held + values.length) target text
      pure .goOn
    | .printFilled values target => do
      let values ← evaluateAll fuel p depth held values
      let (text, fault) ← filledFor "printf" values
      writeOut fuel p depth (held + values.length) target text
      match fault with
      | some message => throw (.fault message)
      | none => pure .goOn
    | .block body => executeAll fuel p depth held body
    | .branch test yes no => do
      if (← evaluate fuel p depth held test).isTrue then execute fuel p depth held yes
      else execute fuel p depth held no
    | .loop isTestedFirst test step body => turn fuel p depth held isTestedFirst test step body
    | .eachKey name table body => do
      let place ← tablePlace table
      let keys ← withTable place AwkTable.keys
      eachOf fuel p depth (held + 1) name body keys
    | .leaveLoop => pure .leaveLoop
    | .nextTurn => pure .nextTurn
    | .nextRecord => pure .nextRecord
    | .nextFile => pure .nextFile
    | .exit status => do
      match status with
      | none => pure ()
      | some e => do
        let n := AwkValue.toInteger (← evaluate fuel p depth held e).toNumber
        modify fun s => { s with status := (n.emod 256).toNat }
      throw .exit
    | .answer value => do
      match value with
      | none => pure (.answer .unset)
      | some e => do pure (.answer (← evaluate fuel p depth held e))
    | .delete table key => do
      let place ← tablePlace table
      match key with
      | none => withTable place fun _ => (.empty, ())
      | some key => do
        let values ← evaluateAll fuel p depth held key
        let key ← keyOfAll values
        withTable place fun t => (t.delete key, ())
      pure .goOn
termination_by structural fuel

/-- Carry out statements. -/
def executeAll (fuel : Nat) (p : AwkSetting) (depth held : Nat) (statements : List AwkStatement) :
    AwkRun AwkFlow :=
  match fuel with
  | 0 => throw .endless
  | fuel + 1 =>
    match statements with
    | [] => pure .goOn
    | s :: rest => do
      match ← execute fuel p depth held s with
      | .goOn => executeAll fuel p depth held rest
      | flow => pure flow
termination_by structural fuel

/-- Go through a loop. -/
def turn (fuel : Nat) (p : AwkSetting) (depth held : Nat) (isTested : Bool) (test step : Option AwkExpr)
    (body : AwkStatement) : AwkRun AwkFlow :=
  match fuel with
  | 0 => throw .endless
  | fuel + 1 => do
    countStep
    let goesOn ← match isTested, test with
      | true, some test => do pure (← evaluate fuel p depth held test).isTrue
      | _, _ => pure true
    if goesOn then
      match ← execute fuel p depth held body with
      | .goOn | .nextTurn =>
        match step with
        | some e => let _ ← evaluate fuel p depth held e
        | none => pure ()
        turn fuel p depth held true test step body
      | .leaveLoop => pure .goOn
      | flow => pure flow
    else pure .goOn
termination_by structural fuel

/-- Carry out a statement for each of some keys. -/
def eachOf (fuel : Nat) (p : AwkSetting) (depth held : Nat) (name : AwkName) (body : AwkStatement)
    (keys : List String) : AwkRun AwkFlow :=
  match fuel with
  | 0 => throw .endless
  | fuel + 1 =>
    match keys with
    | [] => pure .goOn
    | key :: rest => do
      countStep
      putValue name (.text key)
      match ← execute fuel p depth held body with
      | .goOn | .nextTurn => eachOf fuel p depth held name body rest
      | .leaveLoop => pure .goOn
      | flow => pure flow
termination_by structural fuel

/-- Write a text where a statement says. -/
def writeOut (fuel : Nat) (p : AwkSetting) (depth held : Nat) (target : AwkTarget) (text : String) :
    AwkRun Unit :=
  match fuel with
  | 0 => throw .endless
  | fuel + 1 =>
    match target with
    | .output => sayLater text
    | .file e isAppended => do
      let name ← toText (← evaluate fuel p depth held e)
      writeText false isAppended name text
    | .command e => do
      let command ← toText (← evaluate fuel p depth held e)
      writeText true false command text
termination_by structural fuel

end

end AwkRun

end Conformance.Shell
