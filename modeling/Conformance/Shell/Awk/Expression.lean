import Conformance.Shell.Awk.Token

/-!
# Reading of expressions in programs over records

Words are put together into expressions, as strongly as the signs between them bind.  Where a name is used
for the first time, it is settled whether it stands for a value or for a table.
-/

namespace Conformance.Shell

namespace AwkReading

/-! ## Names -/

/-- What a name stands for. -/
def nameOf (name : String) : AwkReading AwkName := do
  pure (match (← get).own.idxOf? name with
    | some place => .own place
    | none => .shared name)

/-- How messages call a kind of thing. -/
def kindText (isOwn : Bool) (kind : AwkKind) : String :=
  (if isOwn then "local " else "") ++ match kind with
    | .variable => "variable"
    | .table => "array"
    | .function => "function"

/-- Use a name for a kind of thing; one that is known for another kind is told of. -/
def useAs (kind : AwkKind) (name : String) : AwkReading AwkName := do
  let found ← nameOf name
  let r ← get
  let known := match found with
    | .own place => (r.ownKinds[place]?).join
    | .shared name => r.kinds[name]?
  match known, found with
  | some other, found =>
    let isOwn := match found with
      | .own _ => true
      | .shared _ => false
    if other != kind then complain s!"illegal reference to {kindText isOwn other} {name}"
  | none, .own place => set { r with ownKinds := r.ownKinds.set place (some kind) }
  | none, .shared name => set { r with kinds := r.kinds.insert name kind }
  pure found

/-- Take a name that stands for a table. -/
def expectTable : AwkReading AwkName := do
  match ← peek with
  | .name s =>
    advance
    useAs .table s
  | _ => fail

/-- Take a certain word. -/
def expectWord (word : String) : AwkReading Unit :=
  expect (.word word)

/-- An expression where a pattern is meant: a text stands for the pattern that it holds. -/
def asPattern (e : AwkExpr) : AwkReading AwkExpr := do
  match e with
  | .text s =>
    match AwkPattern.read s with
    | .ok e => pure (.pattern e)
    | .error message => giveUp (s!"regular expression compile failed ({message})\n" ++ s)
  | e => pure e

/-- What stands in brackets. -/
def asGroup (e : AwkExpr) : AwkExpr :=
  match e with
  | .variable (.shared s) => if awkFieldVariables.contains s then e else .group e
  | .variable _ | .element .. => .group e
  | e => e

/-- How strongly a word binds that stands between two expressions. -/
def strength? : AwkToken → Option Nat
  | .either => some 2
  | .both => some 3
  | .word "in" => some 4
  | .matching _ => some 5
  | .relation _ => some 6
  | _ => none

/-- Whether an expression can begin with a word that follows another one. -/
def canFollow : AwkToken → Bool
  | .number .. | .text _ | .pattern _ | .name _ | .fieldName _ | .called _ | .builtin _ | .openParen
  | .dollar | .field _ | .not | .step _ => true
  | .word s => ["getline", "split", "match", "sub", "gsub", "length"].contains s
  | _ => false

/-- Whether a place can begin with a word. -/
def beginsPlace : AwkToken → Bool
  | .name _ | .fieldName _ | .dollar | .field _ | .openParen => true
  | _ => false

/-- Whether a word ends a statement. -/
def endsStatement : AwkToken → Bool
  | .lineEnd | .semicolon | .suppliedSemicolon => true
  | _ => false

/-- Try to read something; if it is not there, nothing has been read. -/
def attempt {α : Type} (body : AwkReading (Option α)) : AwkReading (Option α) := do
  let before ← get
  let result ← tryCatch body fun _ => pure none
  if result.isNone then set before
  pure result

/-- The kind of a name in a function or outside of all functions. -/
def kindIn? (r : AwkReader) (caller : Option String) : AwkName → Option AwkKind
  | .shared name => r.kinds[name]?
  | .own place =>
    let kinds := if caller == r.function then r.ownKinds
      else ((caller.bind fun f => r.outlines.lookup f).map AwkOutline.kinds).getD []
    kinds[place]?.join

/-- Set the kind of a parameter of a function. -/
def withParameterKind (function : String) (place : Nat) (kind : AwkKind) (r : AwkReader) : AwkReader :=
  { r with outlines := r.outlines.map fun (f, o) =>
      if f == function then (f, { o with kinds := o.kinds.set place (some kind) }) else (f, o) }

/-- Set the kind of a name in a function or outside of all functions. -/
def withKindIn (caller : Option String) (name : AwkName) (kind : AwkKind) (r : AwkReader) : AwkReader :=
  match name, caller with
  | .shared name, _ => { r with kinds := r.kinds.insert name kind }
  | .own place, caller =>
    if caller == r.function then { r with ownKinds := r.ownKinds.set place (some kind) }
    else caller.elim r fun f => withParameterKind f place kind r

/-- Settle an argument of a call: it takes the kind of the parameter, or the other way round.  The answer has the
argument if no kind is known. -/
def settleArgument (call : AwkCall) (argument : AwkArgument) : AwkReading (Option AwkArgument) := do
  let r ← get
  let wanted? := ((r.outlines.lookup call.function).bind fun o => o.kinds[argument.place]?).join
  let given? := argument.kind <|> argument.name.bind (kindIn? r call.caller)
  match given?, wanted?, argument.name with
  | some given, some wanted, _ =>
    if given != wanted then
      complainIn call.line (s!"type error in arg({argument.place + 1}) in call to {call.function} " ++
        s!"(actual {kindText true given} vs {kindText true wanted})")
    pure none
  | some given, none, _ =>
    modify (withParameterKind call.function argument.place given)
    pure none
  | none, some wanted, some name =>
    modify (withKindIn call.caller name wanted)
    pure none
  | none, some _, none => pure none
  | none, none, _ => pure (some argument)

/-- Settle the arguments of a call; the answer has the call if some are left. -/
def settleCall (call : AwkCall) : AwkReading (Option AwkCall) := do
  let results ← call.arguments.mapM (settleArgument call)
  let left := (results.filterMap id).reverse
  pure (if left.isEmpty then none else some { call with isCounted := true, arguments := left })

/-- Say that there are more arguments than parameters. -/
def complainOfExtent (call : AwkCall) : AwkReading Unit :=
  complainIn call.line s!"too many arguments in call to {call.function}"

/-- Note a call of a function.  It is settled if the function has been read. -/
def noteCall (function : String) (arguments : List (Option AwkName)) : AwkReading Unit := do
  let r ← get
  let handed := arguments.zipIdx.map fun (name, place) =>
    AwkArgument.mk place (name.elim (some .variable) (kindIn? r r.function)) name
  let call : AwkCall := ⟨function, r.function, r.wordLine, false, handed.reverse⟩
  match r.outlines.lookup function with
  | some ⟨kinds, some _⟩ =>
    if kinds.length < call.extent then complainOfExtent call
    else
      match ← settleCall call with
      | some call => modify fun r => { r with calls := call :: r.calls }
      | none => pure ()
  | _ => set { r with calls := call :: r.calls }

/-! ## Expressions -/

mutual

/-- Read an expression. -/
def readExpr (fuel : Nat) : AwkReading AwkExpr :=
  match fuel with
  | 0 => fail
  | fuel + 1 => do
    let test ← readBinary fuel 2
    if (← peek) == .question then
      advance
      let yes ← readExpr fuel
      expect .colon
      let no ← readExpr fuel
      pure (.choose test yes no)
    else pure test
termination_by structural fuel

/-- Read expressions with words between them that bind strongly enough. -/
def readBinary (fuel level : Nat) : AwkReading AwkExpr :=
  match fuel with
  | 0 => fail
  | fuel + 1 => do
    let first ← readJoined fuel
    readBinaryRest fuel level first
termination_by structural fuel

/-- Read what follows an expression, with words between that bind strongly enough. -/
def readBinaryRest (fuel level : Nat) (left : AwkExpr) : AwkReading AwkExpr :=
  match fuel with
  | 0 => fail
  | fuel + 1 => do
    let token ← peek
    match strength? token with
    | none => pure left
    | some strength =>
      if strength < level then pure left
      else
        advance
        match token with
        | .word _ =>
          let table ← expectTable
          readBinaryRest fuel level (.contains table [left])
        | token =>
          let right ← readBinary fuel (strength + 1)
          let both ← match token with
            | .either => pure (AwkExpr.either left right)
            | .both => pure (AwkExpr.both left right)
            | .matching isWanted => do pure (AwkExpr.matching isWanted left (← asPattern right))
            | .relation r => pure (AwkExpr.compare r left right)
            | _ => pure left
          readBinaryRest fuel level both
termination_by structural fuel

/-- Read an assignment, or expressions that stand one behind the other. -/
def readJoined (fuel : Nat) : AwkReading AwkExpr :=
  match fuel with
  | 0 => fail
  | fuel + 1 => do
    let first ← readSum fuel
    match first.isPlace, ← peek with
    | true, .assign operator =>
      advance
      let value ← readExpr fuel
      pure (.assign first operator value)
    | _, _ => readJoinedRest fuel first
termination_by structural fuel

/-- Read expressions that stand behind another one. -/
def readJoinedRest (fuel : Nat) (left : AwkExpr) : AwkReading AwkExpr :=
  match fuel with
  | 0 => fail
  | fuel + 1 => do
    if canFollow (← peek) then
      let right ← readSum fuel
      readJoinedRest fuel (.join left right)
    else pure left
termination_by structural fuel

/-- Read a sum. -/
def readSum (fuel : Nat) : AwkReading AwkExpr :=
  match fuel with
  | 0 => fail
  | fuel + 1 => do
    let first ← readProduct fuel
    readSumRest fuel first
termination_by structural fuel

/-- Read what is added to an expression. -/
def readSumRest (fuel : Nat) (left : AwkExpr) : AwkReading AwkExpr :=
  match fuel with
  | 0 => fail
  | fuel + 1 => do
    match ← peek with
    | .operator o =>
      if o == .add || o == .subtract then
        advance
        let right ← readProduct fuel
        readSumRest fuel (.compute o left right)
      else pure left
    | _ => pure left
termination_by structural fuel

/-- Read a product. -/
def readProduct (fuel : Nat) : AwkReading AwkExpr :=
  match fuel with
  | 0 => fail
  | fuel + 1 => do
    let first ← readSigned fuel
    readProductRest fuel first
termination_by structural fuel

/-- Read what an expression is multiplied with or divided by. -/
def readProductRest (fuel : Nat) (left : AwkExpr) : AwkReading AwkExpr :=
  match fuel with
  | 0 => fail
  | fuel + 1 => do
    match ← peek with
    | .operator o =>
      if o == .multiply || o == .divide || o == .remainder then
        advance
        let right ← readSigned fuel
        readProductRest fuel (.compute o left right)
      else pure left
    | _ => pure left
termination_by structural fuel

/-- Read an expression that may have signs in front. -/
def readSigned (fuel : Nat) : AwkReading AwkExpr :=
  match fuel with
  | 0 => fail
  | fuel + 1 => do
    match ← peek with
    | .not =>
      advance
      .not <$> readSigned fuel
    | .operator .subtract =>
      advance
      .negate <$> readSigned fuel
    | .operator .add =>
      advance
      .positive <$> readSigned fuel
    | _ =>
      let first ← readPower fuel
      readPiped fuel first
termination_by structural fuel

/-- Read where a line goes that a command writes. -/
def readPiped (fuel : Nat) (left : AwkExpr) : AwkReading AwkExpr :=
  match fuel with
  | 0 => fail
  | fuel + 1 => do
    if (← peek) == .pipe then
      advance
      expectWord "getline"
      let place ← readOptionalPlace fuel
      readPiped fuel (.readCommand left place)
    else pure left
termination_by structural fuel

/-- Read an expression that may have a power. -/
def readPower (fuel : Nat) : AwkReading AwkExpr :=
  match fuel with
  | 0 => fail
  | fuel + 1 => do
    let base ← readStepped fuel
    if (← peek) == .operator .power then
      advance
      let power ← match ← peek with
        | .not | .operator .subtract | .operator .add => readSigned fuel
        | _ => readPower fuel
      pure (.compute .power base power)
    else pure base
termination_by structural fuel

/-- Read an expression behind which there may be a step. -/
def readStepped (fuel : Nat) : AwkReading AwkExpr :=
  match fuel with
  | 0 => fail
  | fuel + 1 => do
    let e ← readPrimary fuel
    match e.isPlace, ← peek with
    | true, .step isUp =>
      advance
      pure (.step e isUp false)
    | _, _ => pure e
termination_by structural fuel

/-- Read the name of a variable, or an element of a table. -/
def readNamed (fuel : Nat) (name : String) : AwkReading AwkExpr :=
  match fuel with
  | 0 => fail
  | fuel + 1 => do
    if (← peek) == .openBracket then
      advance
      let table ← useAs .table name
      let key ← readList fuel
      expect .closeBracket
      pure (.element table key)
    else .variable <$> useAs .variable name
termination_by structural fuel

/-- Read a field. -/
def readField (fuel : Nat) : AwkReading AwkExpr :=
  match fuel with
  | 0 => fail
  | fuel + 1 => do
    match ← peek with
    | .field n =>
      advance
      pure (.field (.number (UInt64.ofNat n).toFloat))
    | .fieldName s =>
      advance
      pure (.variable (.shared s))
    | .dollar =>
      advance
      match ← peek with
      | .name s =>
        advance
        .field <$> readNamed fuel s
      | .not | .operator .subtract | .operator .add => .field <$> readSigned fuel
      | token =>
        let e ← readPrimary fuel
        let isField := match token, e with
          | .dollar, _ | .field _, _ | .fieldName _, _ | .openParen, .field _ => true
          | _, _ => false
        match isField, ← peek with
        | true, .step isUp =>
          advance
          pure (.field (.step e isUp false))
        | _, _ => pure (.field e)
    | .openParen =>
      advance
      let e ← readField fuel
      expect .closeParen
      pure e
    | _ => fail
termination_by structural fuel

/-- Read a place to which something can be assigned. -/
def readPlace (fuel : Nat) : AwkReading AwkExpr :=
  match fuel with
  | 0 => fail
  | fuel + 1 => do
    match ← peek with
    | .name s =>
      advance
      readNamed fuel s
    | _ => readField fuel
termination_by structural fuel

/-- Read a place if there is one. -/
def readOptionalPlace (fuel : Nat) : AwkReading (Option AwkExpr) :=
  match fuel with
  | 0 => fail
  | fuel + 1 => do
    if beginsPlace (← peek) then some <$> readPlace fuel else pure none
termination_by structural fuel

/-- Read expressions with commas between them. -/
def readList (fuel : Nat) : AwkReading (List AwkExpr) :=
  match fuel with
  | 0 => fail
  | fuel + 1 => do
    let first ← readExpr fuel
    if (← peek) == .comma then
      advance
      let rest ← readList fuel
      pure (first :: rest)
    else pure [first]
termination_by structural fuel

/-- Read the arguments of a function of the program, and which of them are names. -/
def readArguments (fuel : Nat) : AwkReading (List (AwkExpr × Option AwkName)) :=
  match fuel with
  | 0 => fail
  | fuel + 1 => do
    let bare? ← attempt do
      match ← peek with
      | .name s =>
        advance
        let next ← peek
        pure (if next == .comma || next == .closeParen then some s else none)
      | _ => pure none
    let first ← match bare? with
      | some s => do
        let name ← nameOf s
        pure (AwkExpr.variable name, some name)
      | none => do pure (← readExpr fuel, none)
    if (← peek) == .comma then
      advance
      let rest ← readArguments fuel
      pure (first :: rest)
    else pure [first]
termination_by structural fuel

/-- Read an expression without words between its parts. -/
def readPrimary (fuel : Nat) : AwkReading AwkExpr :=
  match fuel with
  | 0 => fail
  | fuel + 1 => do
    match ← peek with
    | .number x _ =>
      advance
      pure (.number x)
    | .text s =>
      advance
      pure (.text s)
    | .pattern s =>
      advance
      asPattern (.text s)
    | .name s =>
      advance
      readNamed fuel s
    | .dollar | .field _ | .fieldName _ => readField fuel
    | .step isUp =>
      advance
      let place ← readPlace fuel
      pure (.step place isUp true)
    | .openParen =>
      advance
      let first ← readExpr fuel
      if (← peek) == .comma then
        advance
        let rest ← readList fuel
        expect .closeParen
        expectWord "in"
        let table ← expectTable
        pure (.contains table (first :: rest))
      else
        expect .closeParen
        pure (asGroup first)
    | .called s =>
      advance
      expect .openParen
      let arguments ← match ← peek with
        | .closeParen => pure []
        | _ => readArguments fuel
      expect .closeParen
      noteCall s (arguments.map Prod.snd)
      pure (.call s (arguments.map Prod.fst))
    | .builtin s =>
      advance
      expect .openParen
      let arguments ← match ← peek with
        | .closeParen => pure []
        | _ => readList fuel
      expect .closeParen
      match AwkBuiltin.table.lookup s with
      | some (f, least, most) =>
        if arguments.length < least || most < arguments.length then
          complain s!"wrong number of arguments in call to {s}"
        pure (.builtin f arguments)
      | none => fail
    | .word "length" =>
      advance
      if (← peek) == .openParen then
        advance
        let bare? ← attempt do
          match ← peek with
          | .name s =>
            advance
            pure (if (← peek) == .closeParen then some s else none)
          | _ => pure none
        match bare?, ← peek with
        | some s, _ =>
          expect .closeParen
          .extent <$> nameOf s
        | none, .closeParen =>
          advance
          pure (.builtin .length [])
        | none, _ =>
          let e ← readExpr fuel
          expect .closeParen
          pure (.builtin .length [e])
      else pure (.builtin .length [])
    | .word "split" =>
      advance
      expect .openParen
      let text ← readExpr fuel
      expect .comma
      let table ← expectTable
      if (← peek) == .comma then
        advance
        let separator ← readExpr fuel
        expect .closeParen
        pure (.split text table (some separator))
      else
        expect .closeParen
        pure (.split text table none)
    | .word "match" =>
      advance
      expect .openParen
      let text ← readExpr fuel
      expect .comma
      let pattern ← readExpr fuel
      expect .closeParen
      pure (.builtin .find [text, ← asPattern pattern])
    | .word "getline" =>
      advance
      modify fun r => { r with isReading := true }
      let place ← readOptionalPlace fuel
      let found ← match ← peek with
        | .reading => do
          advance
          let name ← readPower fuel
          pure (AwkExpr.readFile name place)
        | _ => pure (AwkExpr.readRecord place)
      modify fun r => { r with isReading := false }
      pure found
    | .word s =>
      if s == "sub" || s == "gsub" then
        advance
        expect .openParen
        let pattern ← asPattern (← readExpr fuel)
        expect .comma
        let text ← readExpr fuel
        let place ← match ← peek with
          | .comma => do
            advance
            some <$> readPlace fuel
          | _ => pure none
        expect .closeParen
        pure (.substitute (s == "gsub") pattern text place)
      else fail
    | _ => fail
termination_by structural fuel

end

end AwkReading

end Conformance.Shell
