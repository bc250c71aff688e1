import Conformance.Shell.Utility.Listing

/-!
# Programs that make and remove files

Directories and links are made, files are removed, and what is known of files is changed.
-/

namespace Conformance.Shell

open Effect

/-! ## Questions -/

/-- Ask something on the error output; the answer is a line of the input. -/
def confirms (question : String) : Effect Bool := do
  complain ((← process).name ++ ": " ++ question)
  let (line, n, _) := takeLine true (← remaining 0) [] 0
  consume 0 n
  pure (match line with
    | (c, _) :: _ => c == 'y' || c == 'Y'
    | [] => false)

/-- Do something for all operands; the answer is the status. -/
def forOperands (names : List String) (body : String → Effect Bool) : Effect Nat := do
  let results ← names.mapM body
  pure (if results.all id then 0 else 1)

/-- Tell something, and that it did not work. -/
def refuse (message : String) : Effect Bool := do
  tell message
  pure false

/-! ## Putting and taking away -/

/-- Whether a path is another one or lies below it; both lead from the top of the tree. -/
def isWithin (path above : Path) : Bool :=
  above.names.isPrefixOf path.names

/-- Remove what lies at a path, with what is known of it. -/
def removeAt (path : Path) : Effect Unit :=
  modify fun m =>
    let m := if (m.tree.find path).isOk then m.withChangeAbove path else m
    { m with
      tree := m.tree.remove path
      attributes := m.attributes.filter fun (p, _) => !isWithin p path
      twins := (m.twins.map fun places => places.filter (!isWithin · path)).filter (1 < ·.length) }

/-- Put something new at a path. -/
def putNew (path : Path) (entry : FileTree.Entry) (mode : Nat) : Effect Unit :=
  modify fun m =>
    let m := m.withChangeAbove path
    { m with
      tree := m.tree.put path entry
      attributes := (path, ⟨mode, m.time⟩) :: m.attributes.filter (·.1 != path) }

/-- Put what lies at a path at another one, where nothing is left of what was there. -/
def moveAt (source target : Path) : Effect Unit := do
  match (← get).tree.find source with
  | .error _ => pure ()
  | .ok entry =>
    removeAt target
    let m ← get
    let moved (p : Path) : Path := ⟨.top, target.names ++ p.names.drop source.names.length⟩
    let known := m.attributes.filterMap fun (p, a) => if isWithin p source then some (moved p, a) else none
    removeAt source
    modify fun after => { after.withChangeAbove target with
      tree := after.tree.put target entry
      attributes := (target, attributesIn m.attributes source entry) :: known ++
        (after.withChangeAbove target).attributes
      twins := m.twins.map fun places => places.map fun p => if isWithin p source then moved p else p }

/-- Give a file a further place. -/
def shareAt (source target : Path) : Effect Unit := do
  match (← get).tree.find source with
  | .error _ => pure ()
  | .ok entry =>
    modify fun m =>
      let m := m.withChangeAbove target
      let places := m.twinsOf source
      { m with
        tree := m.tree.put target entry
        attributes := (target, attributesIn m.attributes source entry) :: m.attributes.filter (·.1 != target)
        twins := (places ++ [target]) :: m.twins.filter (!·.contains source) }

/-- Why nothing can be made at a name: what is in front of it is not there, or no directory. -/
def parentFault? (name : String) : Effect (Option Fault) := do
  let m ← get
  match m.here.destination false (textOf name) with
  | .error fault => pure (some fault)
  | .ok _ => pure none

/-! ## Directories -/

/-- Make one directory; the answer is what is wrong. -/
def makeOne (mode : Nat) (name : String) : Effect (Option Fault) := do
  let m ← get
  match m.lookUp false name, m.here.destination false (textOf name) with
  | .ok _, _ => pure (some .exists)
  | .error .notFound, .ok path =>
    putNew path (.directory []) mode
    pure none
  | .error .notFound, .error fault => pure (some fault)
  | .error fault, _ => pure (some (if fault == .notDirectory && (m.lookUp false
      (frontOf name)).toOption.any FileTree.Entry.isDirectory then .exists else fault))

/-- The names of the directories that a name leads through, down to the one that it names. -/
def namesThrough (name : String) : List String :=
  let parts := (name.splitOn "/").filter (!·.isEmpty)
  let top := if name.startsWith "/" then "/" else ""
  (List.range parts.length).map fun n => top ++ "/".intercalate (parts.take (n + 1))

/-- Make those of some directories that are not there, up to one that cannot be made. -/
def makeAll (modeOf : Bool → Nat) (made : String → Effect Unit) :
    List String → Effect (Option (String × Fault))
  | [] => pure none
  | name :: rest => do
    if ← isDirectory name then makeAll modeOf made rest
    else
      match ← makeOne (modeOf rest.isEmpty) name with
      | none =>
        made name
        makeAll modeOf made rest
      | some fault => pure (some (name, if fault == .exists && !rest.isEmpty then .notDirectory else fault))

/-- Make directories. -/
def mkdirProgram (arguments : List String) : Effect Nat :=
  withGiven "pm:vZ" [("mode", 'm'), ("parents", 'p'), ("verbose", 'v'), ("context", 'Z')] 1 arguments
    fun g => do
    let mask := (← process).mask
    let usual := 0o777 &&& (0o777 - mask)
    let wanted := (g.get? 'm').map readMode?
    match wanted with
    | some none => failed ("invalid mode " ++ quoted ((g.get? 'm').getD "")) 1
    | _ =>
      let mode := match wanted with
        | some (some changes) => applyModeChanges true mask 0o777 changes
        | _ => usual
      if g.operands.isEmpty then misused "missing operand" 1
      else
        let made (name : String) : Effect Unit := do
          if g.has 'v' then say s!"{(← process).name}: created directory {quotedName name}\n"
        forOperands g.operands fun name => do
          let trouble ←
            if g.has 'p' && !name.isEmpty then
              makeAll (fun isLast => if isLast then mode else usual ||| 0o300) made (namesThrough name)
            else
              match ← makeOne mode name with
              | none =>
                made name
                pure none
              | some fault => pure (some (name, fault))
          match trouble with
          | none => pure true
          | some (name, fault) => refuse s!"cannot create directory {quoted name}: {fault.text}"

/-- Remove directories that are empty, up to one that is not. -/
def removeEmpty (verbose lenient : Bool) : List String → Effect Bool
  | [] => pure true
  | name :: rest => do
    if verbose then say s!"{(← process).name}: removing directory, {quotedName name}\n"
    let cannot (text : String) : Effect Bool := refuse s!"failed to remove {quotedName name}: {text}"
    let plain := String.ofList (name.toList.reverse.dropWhile (· == '/')).reverse
    match (← get).lookUp false name, (← get).lookUp false plain with
    | .ok _, .ok (.link _) => cannot "Symbolic link not followed"
    | .ok (.directory []), _ =>
      removeAt (← linkPathOf name)
      removeEmpty verbose lenient rest
    | .ok (.directory _), _ => if lenient then pure true else cannot "Directory not empty"
    | .ok _, _ => cannot "Not a directory"
    | .error fault, _ => cannot fault.text

/-- Remove empty directories, and those above them where that is asked for. -/
def rmdirProgram (arguments : List String) : Effect Nat :=
  withGiven "pvι" [("parents", 'p'), ("verbose", 'v'), ("ignore-fail-on-non-empty", 'ι')] 1 arguments
    fun g => do
    if g.operands.isEmpty then misused "missing operand" 1
    else forOperands g.operands fun name =>
      removeEmpty (g.has 'v') (g.has 'ι') (if g.has 'p' then (namesThrough name).reverse else [name])

/-! ## Removing -/

/-- How files are removed. -/
structure Removal where
  deep : Bool
  directories : Bool
  force : Bool
  asking : Bool
  verbose : Bool

/-- Remove a file by its name, and what is below it.  The number bounds how deep that is. -/
def Removal.remove (r : Removal) : Nat → Listed → Effect Bool
  | 0, _ => pure false
  | fuel + 1, f => do
    let done (what : String) : Effect Bool := do
      removeAt f.path
      if r.verbose then say (what ++ quotedName f.name ++ "\n")
      pure true
    match f.entry with
    | .directory inside =>
      if !r.deep && !(r.directories && inside.isEmpty) then
        refuse (s!"cannot remove {quotedName f.name}: " ++
          if r.directories then "Directory not empty" else "Is a directory")
      else
        let descends ← if r.asking && !inside.isEmpty then confirms s!"descend into directory {quotedName f.name}? "
          else pure true
        if !descends then pure true
        else
          let m ← get
          let results ← (f.inside m).mapM fun g => r.remove fuel { g with name := nameWithin f.name g.name }
          let goes ← if r.asking then confirms s!"remove directory {quotedName f.name}? " else pure true
          match (← get).tree.find f.path, goes with
          | .ok (.directory []), true => done "removed directory "
          | .ok (.directory _), true =>
            if results.all id && !r.asking then done "removed directory "
            else refuse s!"cannot remove {quotedName f.name}: Directory not empty"
          | _, _ => pure (results.all id)
    | _ =>
      let goes ← if r.asking then confirms s!"remove {f.kindName} {quotedName f.name}? " else pure true
      if goes then done "removed " else pure true

/-- Remove files, and directories where that is asked for. -/
def rmProgram (arguments : List String) : Effect Nat :=
  withGiven "dfirvIRι::πν" [("force", 'f'), ("interactive", 'ι'), ("one-file-system", 'ο'),
      ("no-preserve-root", 'ν'), ("preserve-root", 'π'), ("recursive", 'r'), ("dir", 'd'), ("verbose", 'v')] 1
    arguments fun g => do
    let deep := g.has 'r' || g.has 'R'
    let asking := match g.last? ['f', 'i', 'I', 'ι'] with
      | some 'i' => true
      | some 'ι' => (["", "always", "yes"] : List String).contains ((g.get? 'ι').getD "")
      | _ => false
    let once := match g.last? ['f', 'i', 'I', 'ι'] with
      | some 'I' => true
      | some 'ι' => g.get? 'ι' == some "once"
      | _ => false
    let r : Removal := ⟨deep, g.has 'd', g.has 'f', asking, g.has 'v'⟩
    if g.operands.isEmpty then if r.force then pure 0 else misused "missing operand" 1
    else
      let count := g.operands.length
      let goes ← if once && (3 < count || deep) then
          confirms (s!"remove {count} argument" ++ (if count = 1 then "" else "s") ++
            (if deep then " recursively? " else "? "))
        else pure true
      if !goes then pure 0
      else forOperands g.operands fun name => do
        let m ← get
        let plain := String.ofList (name.toList.reverse.dropWhile (· == '/')).reverse
        let trailing := name.endsWith "/"
        let isDots := [".", ".."].contains (baseOf name)
        match m.lookUp false name, m.lookUp false plain with
        | .ok _, .ok (.link _) =>
          if trailing then refuse s!"cannot remove {quotedName name}: Not a directory"
          else
            match m.listed false name with
            | .ok f => r.remove treeDepth f
            | .error _ => pure false
        | .ok entry, _ =>
          if deep && entry.isDirectory && isDots then
            refuse s!"refusing to remove '.' or '..' directory: skipping {quotedName name}"
          else if deep && plain.isEmpty && !g.has 'ν' then do
            tell s!"it is dangerous to operate recursively on {quotedName name}"
            refuse "use --no-preserve-root to override this failsafe"
          else
            match m.listed false name with
            | .ok f => r.remove treeDepth f
            | .error _ => pure false
        | .error fault, _ =>
          if r.force && (fault == .notFound || fault == .notDirectory) then pure true
          else refuse s!"cannot remove {quotedName name}: {fault.text}"

/-- Remove one name. -/
def unlinkProgram (arguments : List String) : Effect Nat :=
  withGiven "" [] 1 arguments fun g => do
    match g.operands with
    | [] => misused "missing operand" 1
    | _ :: extra :: _ => misused ("extra operand " ++ quoted extra) 1
    | [name] =>
      match (← get).lookUp false name with
      | .ok (.directory _) => failed s!"cannot unlink {quotedName name}: Is a directory" 1
      | .ok _ => removeAt (← linkPathOf name); pure 0
      | .error fault => failed s!"cannot unlink {quotedName name}: {fault.text}" 1

/-! ## Times -/

/-- The point in time that is written with digits: a year that may be missing, month, day, hour and minute,
and the second behind a point. -/
def stampTime? (text : String) (now : Instant) : Option Instant := do
  let (digits, second) ← match text.splitOn "." with
    | [digits] => some (digits, "00")
    | [digits, second] => if second.length = 2 then some (digits, second) else none
    | _ => none
  if !digits.toList.all Char.isDigit || !second.toList.all Char.isDigit then none
  let n : Int := (digits.toNat?.getD 0 : Nat)
  let year ← match digits.length with
    | 8 => some (Moment.of now).day.year
    | 10 =>
      let y := n / 100000000
      some (if y < 69 then 2000 + y else 1900 + y)
    | 12 => some (n / 100000000)
    | _ => none
  let s : Int := (second.toNat?.getD 0 : Nat)
  let p ← TimePhrase.empty.withDate? year (n / 1000000 % 100) (n / 10000 % 100)
  let p ← p.withClock? (n / 100 % 100) (n % 100) s ""
  pure (p.resolve now)

/-- Make files that are not there, and set the times of those that are. -/
def touchProgram (arguments : List String) : Effect Nat :=
  withGiven "acd:fhmr:t:τ:" [("time", 'τ'), ("no-create", 'c'), ("date", 'd'), ("reference", 'r'),
      ("no-dereference", 'h')] 1 arguments fun g => do
    let m ← get
    let reference := (g.get? 'r').map fun name => (name, m.timeOf? name)
    let time : Except (Bool × String) Instant :=
      match reference, g.get? 'd', g.get? 't' with
      | some (name, none), _, _ =>
        .error (false, s!"failed to get attributes of {quotedName name}: {Fault.notFound.text}")
      | some (_, some t), none, none => .ok t
      | some (_, some t), some phrase, none =>
        match readTime? phrase t with
        | some t => .ok t
        | none => .error (false, "invalid date format " ++ quoted phrase)
      | none, some phrase, none =>
        match readTime? phrase m.time with
        | some t => .ok t
        | none => .error (false, "invalid date format " ++ quoted phrase)
      | none, none, some stamp =>
        match stampTime? stamp m.time with
        | some t => .ok t
        | none => .error (false, "invalid date format " ++ quoted stamp)
      | none, none, none => .ok m.time
      | _, _, _ => .error (true, "cannot specify times from more than one source")
    let words := ["atime", "access", "use", "mtime", "modify"]
    match (g.get? 'τ').filter (!words.contains ·), time with
    | some word, _ => misworded word "--time" [["atime", "access", "use"], ["mtime", "modify"]] 1
    | none, .error (true, message) => misused message 1
    | none, .error (false, message) => failed message 1
    | none, .ok time =>
      let isOther := (g.has 'a' && !g.has 'm') || (g.get? 'τ').any (["atime", "access", "use"].contains ·)
      if g.operands.isEmpty then misused "missing file operand" 1
      else forOperands g.operands fun name => do
        if name == "-" then return true
        let known := (← get).lookUp (!g.has 'h') name
        match known with
        | .ok entry =>
          let path ← if g.has 'h' then linkPathOf name else pathOf name
          if !isOther then changeAttributes path entry fun a => { a with changed := time }
          pure true
        | .error fault =>
          if g.has 'c' then pure true
          else
            match fault == .notFound && !name.isEmpty && !name.endsWith "/", ← creationFault? name with
            | true, none =>
              let path ← pathOf name
              putFile path ""
              changeAttributes path (.plain .empty) fun a => { a with changed := time }
              pure true
            | true, some fault => refuse s!"cannot touch {quotedName name}: {fault.text}"
            | false, _ =>
              if fault == .notDirectory && name.endsWith "/" then
                refuse s!"setting times of {quotedName name}: {fault.text}"
              else refuse s!"cannot touch {quotedName name}: {fault.text}"

/-! ## Sizes -/

/-- A size that is made of another one as a sign in front of it asks for. -/
def changedSize (old : Nat) (sign : Char) (n : Nat) : Nat :=
  match sign with
  | '+' => old + n
  | '-' => old - n
  | '<' => min old n
  | '>' => max old n
  | '/' => if n = 0 then old else old / n * n
  | '%' => if n = 0 then old else (old + n - 1) / n * n
  | _ => n

/-- Cut files off, or fill them up with zeros. -/
def truncateProgram (arguments : List String) : Effect Nat :=
  withGiven "cor:s:" [("no-create", 'c'), ("io-blocks", 'o'), ("reference", 'r'), ("size", 's')] 1 arguments
    fun g => do
    let m ← get
    let text := ((g.get? 's').getD "").trimAscii.toString
    let signed := match text.toList with
      | c :: rest => if "+-<>/%".toList.contains c then (c, String.ofList rest) else ('=', text)
      | [] => ('=', text)
    let reference := (g.get? 'r').map fun name => (name, m.listed true name)
    match g.get? 's', readSize? signed.2, reference with
    | some _, none, _ => failed ("Invalid number: " ++ quoted signed.2) 1
    | none, _, none =>
      misused ("you must specify either " ++ quoted "--size" ++ " or " ++ quoted "--reference") 1
    | _, _, some (name, .error fault) => failed s!"cannot stat {quotedName name}: {fault.text}" 1
    | size?, n, reference =>
      let base := match reference with
        | some (_, .ok f) => some f.size
        | _ => none
      if g.operands.isEmpty then misused "missing file operand" 1
      else forOperands g.operands fun name => do
        let cannot (fault : Fault) : Effect Bool :=
          refuse s!"cannot open {quotedName name} for writing: {fault.text}"
        let path ← pathOf name
        let resize (content : String) : Effect Bool := do
          let old := base.getD content.length
          let size := if size?.isSome then changedSize old signed.1 (n.getD 0) else old
          putFile path (overwrite (String.ofList (content.toList.take size)) "" size)
          pure true
        match ← lookUp name with
        | .ok (.file content _) => resize (ofBytes content)
        | .ok (.directory _) => cannot .isDirectory
        | .ok _ => pure true
        | .error .notFound =>
          if g.has 'c' then pure true
          else
            match ← creationFault? name with
            | none => if name.endsWith "/" then cannot .isDirectory else resize ""
            | some fault => cannot fault
        | .error fault => cannot fault

/-! ## Permissions -/

/-- What is told of a mode that has been set. -/
def modeChangeText (name : String) (old new : Nat) : String :=
  let shown (mode : Nat) : String := s!"{octalText 4 mode} ({modeText mode})"
  if old = new then s!"mode of {quotedName name} retained as {shown old}\n"
  else s!"mode of {quotedName name} changed from {shown old} to {shown new}\n"

/-- Whether an argument that looks like an option is a mode that takes something away. -/
def isModeArgument (argument : String) : Bool :=
  match argument.toList with
  | '-' :: c :: _ => "rwxXstugoa,+=01234567".toList.contains c
  | _ => false

/-- Change what may be done with files. -/
def chmodProgram (arguments : List String) : Effect Nat :=
  let given := arguments.takeWhile (· != "--")
  let modes := given.filter isModeArgument
  let others := (given.filter fun a => !isModeArgument a) ++ arguments.drop given.length
  withGiven "Rcfvρ:πν" [("changes", 'c'), ("recursive", 'R'), ("no-preserve-root", 'ν'), ("preserve-root", 'π'),
      ("quiet", 'f'), ("silent", 'f'), ("reference", 'ρ'), ("verbose", 'v')] 1 others fun g => do
    let m ← get
    let mask := (← process).mask
    let reference := (g.get? 'ρ').map fun name => (name, m.listed true name)
    let (mode, names) := if reference.isSome then ("", g.operands)
      else if modes.isEmpty then (g.operands.headD "", g.operands.drop 1)
      else (",".intercalate modes, g.operands)
    let changes : Except String (List ModeChange) := match reference with
      | some (_, .ok f) => .ok [⟨some modeBits, '=', .bits f.attributes.mode, modeBits⟩]
      | some (name, .error fault) =>
        .error s!"failed to get attributes of {quotedName name}: {fault.text}"
      | none =>
        match readMode? mode with
        | some changes => .ok changes
        | none => .error ("invalid mode: " ++ quoted mode)
    if names.isEmpty then
      if g.operands.isEmpty && modes.isEmpty then misused "missing operand" 1
      else misused ("missing operand after " ++ quoted mode) 1
    else
      match changes with
      | .error message => if reference.isSome then failed message 1 else misused message 1
      | .ok changes =>
        let change (f : Listed) : Effect Bool := do
          let isDirectory := f.entry.isDirectory
          let old := f.attributes.mode
          let new := applyModeChanges isDirectory mask old changes
          changeAttributes f.path f.entry fun a => { a with mode := new }
          if g.has 'v' || (g.has 'c' && old != new) then say (modeChangeText f.name old new)
          let plain := applyModeChanges isDirectory 0 old changes
          if !modes.isEmpty && new &&& (modeBits - plain) != 0 then
            refuse s!"{shownName f.name}: new permissions are {modeText new}, not {modeText plain}"
          else pure true
        forOperands names fun name => do
          let m ← get
          match m.listed true name with
          | .ok f =>
            let first ← change f
            if g.has 'R' && f.entry.isDirectory then
              let below := ((f.deepFirst m treeDepth 0).map Prod.snd).filter fun h =>
                h.path != f.path && !h.entry.isLink
              let results ← below.mapM change
              pure (first && results.all id)
            else pure first
          | .error fault =>
            let message := if (m.lookUp false name).isOk then s!"cannot operate on dangling symlink {quotedName name}"
              else s!"cannot access {quotedName name}: {fault.text}"
            if !g.has 'f' then tell message
            if g.has 'v' then
              if (m.lookUp false name).isOk then pure () else say s!"{quotedName name} could not be accessed\n"
            pure false

/-- Change the owner or the group of files, which are the same for all of them here. -/
def chownProgram (arguments : List String) : Effect Nat :=
  withGiven "HLPRcfhvρ:" [("changes", 'c'), ("recursive", 'R'), ("quiet", 'f'), ("silent", 'f'),
      ("reference", 'ρ'), ("verbose", 'v'), ("no-dereference", 'h')] 1 arguments fun g => do
    let kind := if (← process).name.endsWith "grp" then "group" else "user"
    let known (name : String) : Bool := (["", "root", "0"] : List String).contains name
    let (owner, names) := if g.has 'ρ' then ("", g.operands) else (g.operands.headD "", g.operands.drop 1)
    let parts := owner.splitOn ":"
    if g.operands.isEmpty then misused "missing operand" 1
    else if names.isEmpty then misused ("missing operand after " ++ quoted owner) 1
    else
      match parts.find? (fun name => !known name && !(name.toList.all Char.isDigit)) with
      | some bad =>
        let wrong := if kind == "user" && parts.head? != some bad then "group" else kind
        failed (s!"invalid {wrong}: " ++ quoted owner) 1
      | none =>
        forOperands names fun name => do
          match (← get).lookUp true name with
          | .ok _ => pure true
          | .error fault =>
            if g.has 'f' then pure false else refuse s!"cannot access {quotedName name}: {fault.text}"

end Conformance.Shell
