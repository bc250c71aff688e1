import Conformance.Shell.Awk.Expression

/-!
# Reading of programs over records

Expressions are put together into statements and rules.  Reading goes on behind a fault, so that several can
be told, and at the end it is settled which names that calls hand over stand for tables.
-/

namespace Conformance.Shell

namespace AwkReading

/-! ## Statements -/

/-- Take the end of a statement. -/
def readSeparator : AwkReading Unit := do
  if endsStatement (← peek) then advance else fail

/-- Forget the state of the statement that is being read. -/
def forget : AwkReading Unit :=
  modify fun r => { r with isWriting := false, isReading := false, parens := 0 }

/-- Pass over words behind a fault up to the end of a statement, or to that of the block.  The number bounds how
many there are. -/
def recover (mayEnd : Bool) : Nat → AwkReading Unit
  | 0 => throw .fatal
  | fuel + 1 => do
    match ← peek with
    | .finish => throw .fatal
    | .lineEnd | .semicolon | .suppliedSemicolon =>
      advance
      forget
      modify fun r => { r with quiet := 0 }
    | token =>
      if mayEnd && token == .closeBrace then
        forget
        modify fun r => { r with quiet := 0 }
      else
        modify fun r => { r with ahead := none }
        recover mayEnd fuel

/-- Read where values are written. -/
def readTarget (fuel : Nat) : AwkReading AwkTarget := do
  match ← peek with
  | .writing sign =>
    advance
    let e ← readExpr fuel
    pure (if sign == "|" then .command e else .file e (sign == ">>"))
  | _ =>
    modify fun r => { r with isWriting := false }
    pure .output

/-- Read the values that a statement writes. -/
def readValues (fuel : Nat) : AwkReading (List AwkExpr) := do
  let ends (token : AwkToken) : Bool := endsStatement token || match token with
    | .writing _ => true
    | _ => false
  let bracketed? ← attempt do
    match ← peek with
    | .openParen =>
      advance
      let values ← match ← peek with
        | .closeParen => pure []
        | _ => readList fuel
      expect .closeParen
      pure (if ends (← peek) then some values else none)
    | _ => pure none
  match bracketed? with
  | some values => pure values
  | none => if ends (← peek) then pure [] else readList fuel

/-- Read statements of which each is read in a given way up to the end of a block. -/
def readUpTo (read : Bool → AwkReading AwkStatement) : Nat → Bool → AwkReading (List AwkStatement)
  | 0, _ => fail
  | fuel + 1, isFirst => do
    if !isFirst && (← peek) == .closeBrace then pure []
    else
      let first ← read isFirst
      if (← peek) == .closeBrace then pure [first]
      else
        let rest ← readUpTo read fuel false
        pure (first :: rest)

/-- Read what belongs to a loop. -/
def inLoop (read : AwkReading AwkStatement) : AwkReading AwkStatement := do
  modify fun r => { r with loops := r.loops + 1 }
  let body ← read
  modify fun r => { r with loops := r.loops - 1 }
  pure body

/-- Read a condition in brackets, and pass over ends of lines behind it. -/
def readTest (fuel : Nat) : AwkReading AwkExpr := do
  expect .openParen
  let test ← readExpr fuel
  expect .closeParen
  skipLines
  pure test

/-- Read an expression unless a certain word comes next. -/
def readUnless (fuel : Nat) (isEnd : AwkToken → Bool) : AwkReading (Option AwkExpr) := do
  if isEnd (← peek) then pure none else some <$> readExpr fuel

/-- Take the beginning of a loop over the keys of a table. -/
def readEach? : AwkReading (Option (String × String)) :=
  attempt do
    expect .openParen
    match ← peek with
    | .name key =>
      advance
      expectWord "in"
      match ← peek with
      | .name table =>
        advance
        if (← peek) == .closeParen then
          advance
          pure (some (key, table))
        else pure none
      | _ => pure none
    | _ => pure none

/-- A statement without parts that belongs to a certain word. -/
def plainStatement? (word : String) : Option AwkStatement :=
  [("break", .leaveLoop), ("continue", .nextTurn), ("next", .nextRecord), ("nextfile", .nextFile)].lookup word

/-- What is wrong with a statement at the place where it stands. -/
def misplaced? (r : AwkReader) (word : String) : Option String :=
  match word with
  | "break" | "continue" => if r.loops = 0 then some (word ++ " statement outside of loop") else none
  | "next" | "nextfile" => if r.scope != .record then some ("improper use of " ++ word) else none
  | "return" => if r.scope != .function then some "return outside function body" else none
  | _ => none

mutual

/-- Read a statement; behind a fault, reading goes on behind its end. -/
def readStatement (fuel : Nat) (isFirst : Bool) : AwkReading AwkStatement :=
  match fuel with
  | 0 => fail
  | fuel + 1 => do
    let loops := (← get).loops
    tryCatch (readStatementHere fuel) fun halt => do
      match halt with
      | .fatal => throw .fatal
      | .misplaced =>
        modify fun r => { r with loops := loops }
        let r ← get
        recover isFirst (r.rest.length + r.sources.length + 2)
        pure (.block [])
termination_by structural fuel

/-- Read a block. -/
def readBlock (fuel : Nat) : AwkReading AwkStatement :=
  match fuel with
  | 0 => fail
  | fuel + 1 => do
    expect .openBrace
    let body ← readUpTo (readStatement fuel) fuel true
    expect .closeBrace
    pure (.block body)
termination_by structural fuel

/-- Read the condition at the end of a loop; behind a fault, it is read where the next statement begins. -/
def readLoopEnd (fuel : Nat) : AwkReading AwkExpr :=
  match fuel with
  | 0 => fail
  | fuel + 1 =>
    tryCatch (do
      expectWord "while"
      expect .openParen
      let test ← readExpr fuel
      expect .closeParen
      readSeparator
      pure test) fun halt => do
        match halt with
        | .fatal => throw .fatal
        | .misplaced =>
          let r ← get
          recover false (r.rest.length + r.sources.length + 2)
          readLoopEnd fuel
termination_by structural fuel

/-- Read the statement that comes next. -/
def readStatementHere (fuel : Nat) : AwkReading AwkStatement :=
  match fuel with
  | 0 => fail
  | fuel + 1 => do
    match ← peek with
    | .openBrace => readBlock fuel
    | .lineEnd | .semicolon | .suppliedSemicolon =>
      advance
      pure (.block [])
    | .word "if" =>
      advance
      let test ← readTest fuel
      let yes ← readStatement fuel false
      if (← peek) == .word "else" then
        advance
        skipLines
        let no ← readStatement fuel false
        pure (.branch test yes no)
      else pure (.branch test yes (.block []))
    | .word "while" =>
      advance
      let test ← readTest fuel
      let body ← inLoop (readStatement fuel false)
      pure (.loop true (some test) none body)
    | .word "do" =>
      advance
      skipLines
      let body ← inLoop (readStatement fuel false)
      let test ← readLoopEnd fuel
      pure (.loop false (some test) none body)
    | .word "for" =>
      advance
      match ← readEach? with
      | some (key, table) =>
        let key ← useAs .variable key
        let table ← useAs .table table
        skipLines
        let body ← inLoop (readStatement fuel false)
        pure (.eachKey key table body)
      | none =>
        expect .openParen
        let start ← readUnless fuel (· == .semicolon)
        expect .semicolon
        let test ← readUnless fuel (· == .semicolon)
        expect .semicolon
        let step ← readUnless fuel (· == .closeParen)
        expect .closeParen
        skipLines
        let body ← inLoop (readStatement fuel false)
        let loop := AwkStatement.loop true test step body
        pure (match start with
          | some e => .block [.evaluate e, loop]
          | none => loop)
    | .word "exit" =>
      advance
      let status ← readUnless fuel endsStatement
      readSeparator
      pure (.exit status)
    | .word "return" =>
      advance
      match misplaced? (← get) "return" with
      | some message => complain message
      | none => pure ()
      let value ← readUnless fuel endsStatement
      readSeparator
      pure (.answer value)
    | .word "delete" =>
      advance
      let table ← expectTable
      let key ← match ← peek with
        | .openBracket => do
          advance
          let key ← readList fuel
          expect .closeBracket
          pure (some key)
        | _ => pure none
      readSeparator
      pure (.delete table key)
    | .word "print" =>
      advance
      modify fun r => { r with isWriting := true }
      let values ← readValues fuel
      let target ← readTarget fuel
      readSeparator
      pure (.print values target)
    | .word "printf" =>
      advance
      modify fun r => { r with isWriting := true }
      let values ← readValues fuel
      let target ← readTarget fuel
      if values.isEmpty then complain "no arguments in call to printf"
      readSeparator
      pure (.printFilled values target)
    | .word s =>
      match plainStatement? s with
      | some statement =>
        advance
        match misplaced? (← get) s with
        | some message => complain message
        | none => pure ()
        readSeparator
        pure statement
      | none =>
        let e ← readExpr fuel
        readSeparator
        pure (.evaluate e)
    | _ =>
      let e ← readExpr fuel
      readSeparator
      pure (.evaluate e)
termination_by structural fuel

end

/-! ## Rules and functions -/

/-- The statement that writes the record. -/
def printRecord : AwkStatement :=
  .print [] .output

/-- Read the block of a rule. -/
def readBody (fuel : Nat) (scope : AwkScope) : AwkReading AwkStatement := do
  modify fun r => { r with scope := scope, loops := 0 }
  readBlock fuel

/-- Read what follows the condition of a rule: a block, or nothing. -/
def readBodyOrEnd (fuel : Nat) : AwkReading AwkStatement := do
  match ← peek with
  | .openBrace => readBody fuel .record
  | _ =>
    readSeparator
    pure printRecord

/-- Read the names of parameters. -/
def readParameters (function : String) : Nat → List String → AwkReading (List String)
  | 0, _ => fail
  | fuel + 1, before => do
    match ← peek with
    | .name s =>
      advance
      if before.contains s then complain s!"{s} is duplicated in argument list"
      let before := before ++ [s]
      if (← peek) == .comma then
        advance
        readParameters function fuel before
      else pure before
    | .called s =>
      if s == function then complain "function parameter cannot be the function"
      fail
    | _ => fail

/-- What is known of the parameters of a function from calls that stand in front of it: the last one that hands
over something of a known kind tells that of one parameter. -/
def kindsFromCalls (r : AwkReader) (function : String) (count : Nat) : List (Option AwkKind) :=
  let known? (call : AwkCall) : Option (Nat × AwkKind) :=
    call.arguments.reverse.findSome? fun argument => argument.kind.map fun kind => (argument.place, kind)
  let unknown := List.replicate count none
  match (r.calls.filter (·.function == function)).findSome? known? with
  | some (place, kind) => unknown.set place (some kind)
  | none => unknown

/-- Put what is known of a function in the place of what was known before. -/
def putOutline (name : String) (outline : AwkOutline) (outlines : List (String × AwkOutline)) :
    List (String × AwkOutline) :=
  outlines.filter (·.1 != name) ++ [(name, outline)]

/-- Read a function behind its word. -/
def readFunction (fuel : Nat) : AwkReading Unit := do
  let name ← match ← peek with
    | .name s | .called s => pure s
    | _ => fail
  advance
  match ← kindOf? name with
  | some .function => pure ()
  | some kind => complain s!"illegal reference to {kindText false kind} {name}"
  | none => modify fun r => { r with kinds := r.kinds.insert name .function }
  if ((← get).outlines.lookup name).isSome then complain s!"redefinition of {name}"
  expect .openParen
  let parameters ← match ← peek with
    | .closeParen => pure []
    | _ => readParameters name fuel []
  expect .closeParen
  skipLines
  modify fun r =>
    let kinds := kindsFromCalls r name parameters.length
    { r with
      own := parameters
      ownKinds := kinds
      function := some name
      outlines := putOutline name ⟨kinds, none⟩ r.outlines }
  let body ← readBody fuel .function
  modify fun r =>
    { r with
      own := []
      ownKinds := []
      function := none
      outlines := putOutline name ⟨r.ownKinds, some body⟩ r.outlines }

/-- Pass over words behind a fault up to a block, and read it. -/
def recoverOutside (fuel : Nat) : Nat → AwkReading Unit
  | 0 => throw .fatal
  | count + 1 => do
    match ← peek with
    | .finish => throw .fatal
    | .openBrace =>
      let _ ← readBody fuel .record
      modify fun r => { r with own := [], ownKinds := [], function := none }
    | _ =>
      modify fun r => { r with ahead := none }
      recoverOutside fuel count

/-- Read a rule, or a function, which is kept. -/
def readItem (fuel : Nat) : AwkReading (Option AwkRule) := do
  match ← peek with
  | .word "BEGIN" =>
    advance
    some <$> .mk .start <$> readBody fuel .start
  | .word "END" =>
    advance
    some <$> .mk .finish <$> readBody fuel .finish
  | .word "function" =>
    advance
    readFunction fuel
    pure none
  | .openBrace => some <$> .mk .always <$> readBody fuel .record
  | _ =>
    let test ← readExpr fuel
    if (← peek) == .comma then
      advance
      let last ← readExpr fuel
      some <$> .mk (.between test last) <$> readBodyOrEnd fuel
    else some <$> .mk (.when test) <$> readBodyOrEnd fuel

/-- Read rules and functions up to the end. -/
def readItems (fuel : Nat) : Nat → AwkReading (List AwkRule)
  | 0 => pure []
  | count + 1 => do
    if (← peek) == .finish then pure []
    else
      let item ← tryCatch (readItem fuel) fun halt => do
        match halt with
        | .fatal => throw .fatal
        | .misplaced =>
          modify fun r =>
            { r with isWriting := false, isReading := false, own := [], ownKinds := [], function := none }
          recoverOutside fuel ((← get).rest.length + 2)
          pure none
      let rest ← readItems fuel count
      pure (item.toList ++ rest)

/-! ## What names stand for -/

/-- Settle calls as long as this leads on.  The number bounds how often. -/
def settleCalls : Nat → List AwkCall → AwkReading Unit
  | 0, _ => pure ()
  | fuel + 1, calls => do
    let size (calls : List AwkCall) : Nat := (calls.map (·.arguments.length)).sum
    let left := ((← calls.mapM settleCall).filterMap id).reverse
    if size left < size calls then settleCalls fuel left

/-- Whether the arguments of a call can be settled; if they cannot, it is said why. -/
def checkCall (call : AwkCall) : AwkReading Bool := do
  match (← get).outlines.lookup call.function with
  | some ⟨kinds, some _⟩ =>
    let fits := call.isCounted || call.extent ≤ kinds.length
    if !fits then complainOfExtent call
    pure fits
  | _ =>
    complain s!"function {call.function} never defined"
    pure false

/-- Settle what names stand for, and note what is wrong with calls, unless there are other faults. -/
def finish (rules : List AwkRule) : AwkReading AwkProgram := do
  if (← get).faults.isEmpty then
    let calls ← (← get).calls.filterM checkCall
    settleCalls (calls.foldl (fun n call => n + call.arguments.length) 0 + 1) calls
  let r ← get
  let functions := r.outlines.map fun (name, o) =>
    (name, AwkFunction.mk (o.kinds.map (· == some .table)) (o.body.getD (.block [])))
  pure ⟨rules, functions, r.kinds.toList.filterMap fun (name, kind) =>
    if kind == .table then some name else none⟩

end AwkReading

/-! ## Programs -/

/-- The state in which reading of texts begins, given the names that have a value already. -/
def AwkReader.start (known : List String) (sources : List (Option String × String)) : AwkReader :=
  let texts := sources.map fun (file, text) => (file, text.toList ++ ['\n'])
  { sources := texts.drop 1
    file := (texts.head?.bind Prod.fst)
    rest := (texts.head?.map Prod.snd).getD []
    line := 1
    wordLine := 1
    braces := 0
    parens := 0
    last := .lineEnd
    ahead := none
    isWriting := false
    isReading := false
    quiet := 0
    faults := []
    kinds := .ofList ((known ++ awkVariables.map Prod.fst).map (fun name => (name, .variable)) ++
      awkTables.map (fun name => (name, .table)))
    outlines := []
    calls := []
    scope := .record
    function := none
    own := []
    ownKinds := []
    loops := 0 }

/-- Read a program from texts with the names of their files, or say what is wrong with it; some names are known
for those of variables. -/
def AwkProgram.read (known : List String) (sources : List (Option String × String)) :
    Except (List String) AwkProgram :=
  let size := sources.foldl (fun n (_, text) => n + text.length + 1) 0
  let reading : AwkReading AwkProgram := do
    AwkReading.skipLines
    let rules ← AwkReading.readItems (20 * size + 100) (size + 1)
    AwkReading.finish rules
  match reading.run (AwkReader.start known sources) with
  | (.ok program, r) => if r.faults.isEmpty then .ok program else .error r.faults.reverse
  | (.error _, r) => .error r.faults.reverse

end Conformance.Shell
