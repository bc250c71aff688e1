import Conformance.Shell.Utility.Basic

/-!
# Programs for names of files

Programs that take names apart, follow them to the places that they lead to, and make up new ones.
-/

namespace Conformance.Shell

open Effect

/-! ## Parts of names -/

/-- The last part of a name without slashes at its end. -/
def baseOf (name : String) : String :=
  let cs := name.toList.reverse.dropWhile (· == '/')
  if cs.isEmpty then if name.isEmpty then "" else "/"
  else String.ofList (cs.takeWhile (· != '/')).reverse

/-- What stands in front of the last part of a name. -/
def frontOf (name : String) : String :=
  let cs := name.toList.reverse.dropWhile (· == '/')
  let front := (cs.dropWhile (· != '/')).dropWhile (· == '/')
  if front.isEmpty then if name.startsWith "/" then "/" else "."
  else String.ofList front.reverse

/-- A name in a directory. -/
def nameWithin (directory name : String) : String :=
  if directory.endsWith "/" then directory ++ name else directory ++ "/" ++ name

/-- A name without an ending, unless it is nothing else. -/
def withoutEnding (name ending : String) : String :=
  if name.endsWith ending && name != ending then (name.dropEnd ending.length).toString else name

/-- What ends each of several results. -/
def resultEnd (g : Given) : String :=
  if g.has 'z' then "\x00" else "\n"

/-- Write the last parts of names. -/
def basenameProgram (arguments : List String) : Effect Nat :=
  withGiven "+as:z" [("multiple", 'a'), ("suffix", 's'), ("zero", 'z')] 1 arguments fun g => do
    match g.operands with
    | [] => misused "missing operand" 1
    | name :: rest =>
      let several := g.has 'a' || g.has 's'
      match several, rest with
      | false, _ :: extra :: _ => misused ("extra operand " ++ quoted extra) 1
      | _, _ =>
        let names := if several then g.operands else [name]
        let ending := if several then (g.get? 's').getD "" else rest.headD ""
        names.forM fun name => say (withoutEnding (baseOf name) ending ++ resultEnd g)
        pure 0

/-- Write what stands in front of the last parts of names. -/
def dirnameProgram (arguments : List String) : Effect Nat :=
  withGiven "z" [("zero", 'z')] 1 arguments fun g => do
    if g.operands.isEmpty then misused "missing operand" 1
    else
      g.operands.forM fun name => say (frontOf name ++ resultEnd g)
      pure 0

/-! ## Following names -/

/-- Follow names through links, where nothing has to be there.  The numbers bound how many names and links
there are. -/
def settle (tree : FileTree) : Nat → Nat → List Text → List Text → Except Fault (List Text)
  | 0, _, _, _ => .error .looping
  | _ + 1, _, passed, [] => .ok passed
  | fuel + 1, links, passed, name :: rest =>
    if name = ".." then settle tree fuel links passed.dropLast rest
    else
      match tree.find ⟨.top, passed ++ [name]⟩, links with
      | .ok (.link _), 0 => .error .looping
      | .ok (.link target), links + 1 =>
        let path := (Path.ofText target).asRead
        settle tree fuel links (if path.isAbsolute then [] else passed) (path.names ++ rest)
      | _, _ => settle tree fuel links (passed ++ [name]) rest

/-- Which of the parts of a name have to be there when it is followed. -/
inductive Needed
  | all
  | allButLast
  | none
  deriving Repr, DecidableEq

/-- The place that a name leads to, of which only some parts have to be there.  Links may be left as they
are. -/
def placeFrom (m : Machine) (needed : Needed) (keepLinks : Bool) (name : String) : Except Fault Path := do
  let text := textOf name
  if text.isEmpty then throw .notFound
  let here := m.here
  let lexical := (here.resolve (Path.ofText text)).asRead
  match needed with
  | .none =>
    if keepLinks then pure { lexical with root := .top }
    else (settle here 100000 FileTree.linkLimit [] (here.absoluteNames (Path.ofText text))).map (⟨.top, ·⟩)
  | .all =>
    let (path, _) ← here.reach (!keepLinks) text
    pure (if keepLinks then { lexical with root := .top } else path)
  | .allButLast =>
    let path ← here.destination (!keepLinks) text
    match here.reach (!keepLinks) text with
    | .error .notDirectory => throw .notDirectory
    | _ => pure (if keepLinks then { lexical with root := .top } else path)

/-- The parts that the options of a program ask to be there. -/
def neededOf (g : Given) (usual : Needed) : Needed :=
  match g.last? ['e', 'f', 'm', 'E'] with
  | some 'e' => .all
  | some 'm' => .none
  | some _ => .allButLast
  | none => usual

/-- A path as a program writes it. -/
def writtenPath (path : Path) : String :=
  octets path.toText

/-- One path as it is named from another one. -/
def pathFrom (base path : Path) : String :=
  let common := ((base.names.zip path.names).takeWhile fun (a, b) => a == b).length
  let ups := List.replicate (base.names.length - common) ".."
  let parts := ups ++ (path.names.drop common).map octets
  if parts.isEmpty then "." else "/".intercalate parts

/-- Write the places that names lead to. -/
def realpathProgram (arguments : List String) : Effect Nat :=
  withGiven "EeLmPqszτ:β:" [("canonicalize", 'E'), ("canonicalize-existing", 'e'),
      ("canonicalize-missing", 'm'), ("relative-to", 'τ'), ("relative-base", 'β'), ("quiet", 'q'), ("strip", 's'),
      ("no-symlinks", 's'), ("zero", 'z'), ("logical", 'L'), ("physical", 'P')] 1 arguments fun g => do
    let arguments := g.operands
    let m ← get
    let needed := neededOf g .allButLast
    let keeps := g.has 's'
    let follow (name : String) : Except Fault Path := do
      let place ← placeFrom m needed (keeps || g.has 'L') name
      if g.has 'L' && !keeps then placeFrom m needed false (writtenPath place) else pure place
    if arguments.isEmpty then misused "missing operand" 1
    else
      let base := g.get? 'β'
      let from? := (g.get? 'τ').or base
      match from?.mapM follow, base.mapM follow with
      | .error fault, _ => failed (nameAndFault (from?.getD "") fault) 1
      | _, .error fault => failed (nameAndFault (base.getD "") fault) 1
      | .ok start, .ok base =>
        let within (above path : Path) : Bool := above.names.isPrefixOf path.names
        let start := match start, base with
          | some s, some b => if within b s then some s else none
          | start, _ => start
        let results ← arguments.mapM fun name => do
          match follow name with
          | .error fault =>
            if !g.has 'q' then tell (nameAndFault name fault)
            pure false
          | .ok place =>
            let shown := match start, base with
              | some s, some b => if within b place then pathFrom s place else writtenPath place
              | some s, none => pathFrom s place
              | none, _ => writtenPath place
            say (shown ++ resultEnd g)
            pure true
        pure (if results.all id then 0 else 1)

/-- Write what links stand for, or the places that names lead to. -/
def readlinkProgram (arguments : List String) : Effect Nat :=
  withGiven "efmnqsvz" [("canonicalize", 'f'), ("canonicalize-existing", 'e'), ("canonicalize-missing", 'm'),
      ("no-newline", 'n'), ("quiet", 'q'), ("silent", 's'), ("verbose", 'v'), ("zero", 'z')] 1 arguments
    fun g => do
    let m ← get
    let several := g.operands.length > 1
    if g.operands.isEmpty then misused "missing operand" 1
    else
      if several && g.has 'n' then tell "ignoring --no-newline with multiple arguments"
      let follow (name : String) : Except String String :=
        if ['e', 'f', 'm'].any g.has then
          match placeFrom m (neededOf g .all) false name with
          | .ok place => .ok (writtenPath place)
          | .error fault => .error fault.text
        else
          match m.lookUp false name with
          | .ok (.link target) => .ok (octets target)
          | .ok _ => .error "Invalid argument"
          | .error fault => .error fault.text
      let results ← g.operands.mapM fun name => do
        match follow name with
        | .ok text =>
          say (text ++ if g.has 'n' && !several then "" else resultEnd g)
          pure true
        | .error text =>
          if g.last? ['q', 's', 'v'] == some 'v' then tell s!"{shownName name}: {text}"
          pure false
      pure (if results.all id then 0 else 1)

/-! ## New names -/

/-- The characters of which new names are made up. -/
def freshLetters : Array Char :=
  "abcdefghijklmnopqrstuvwxyzABCDEFGHIJKLMNOPQRSTUVWXYZ0123456789".toList.toArray

/-- A number of characters that differ for different numbers. -/
def freshText : Nat → Nat → String
  | 0, _ => ""
  | count + 1, n =>
    let c := freshLetters[n % 62]?.getD 'x'
    String.ofList (c :: (freshText count (n / 62 + 7919 * (n % 62) + 104729)).toList)

/-- The pattern of a new name: what stands in front of the characters that are made up, how many these are,
and what stands behind them. -/
structure FreshPattern where
  front : String
  count : Nat
  ending : String

/-- Read the pattern of a new name, whose ending may be given apart. -/
def FreshPattern.read (template : String) (ending : Option String) : Except String FreshPattern := do
  let cs := template.toList.reverse
  let own := if ending.isSome then [] else if cs.contains 'X' then cs.takeWhile (· != 'X') else []
  let rest := cs.drop own.length
  let ending := ending.getD (String.ofList own.reverse)
  let count := (rest.takeWhile (· == 'X')).length
  if ending.toList.contains '/' then throw s!"invalid suffix {quoted ending}, contains directory separator"
  if count < 3 then throw s!"too few X's in template {quoted template}"
  pure ⟨String.ofList (rest.drop count).reverse, count, ending⟩

/-- Make a file or a directory with a new name. -/
def mktempProgram (arguments : List String) : Effect Nat :=
  withGiven "dp:qtuVσ:τ::" [("directory", 'd'), ("quiet", 'q'), ("dry-run", 'u'), ("suffix", 'σ'),
      ("tmpdir", 'τ')] 1 arguments fun g => do
    let template := g.operands.headD "tmp.XXXXXXXXXX"
    let ending := g.get? 'σ'
    let refuse (text : String) (status : Nat) : Effect Nat := failed text status
    if 1 < g.operands.length then misused "too many templates" 1
    else if ending.isSome && !template.endsWith "X" then
      refuse s!"with --suffix, template {quoted template} must end in X" 1
    else
      match FreshPattern.read template ending with
      | .error message => refuse message 1
      | .ok pattern =>
        let place := (g.options.reverse.find? fun (c, _) => c == 'p' || c == 'τ').map Prod.snd
        let set := ((← value? "TMPDIR").getD "")
        let given := place.getD ""
        let home := if set.isEmpty then "/tmp" else set
        let below := if g.has 't' then if set.isEmpty then if given.isEmpty then "/tmp" else given else set
          else if given.isEmpty then home else given
        let inside := g.operands.isEmpty || place.isSome || g.has 't'
        let shown := template ++ ending.getD ""
        if g.has 't' && template.toList.contains '/' then
          refuse s!"invalid template, {quoted template}, contains directory separator" 1
        else if inside && template.startsWith "/" then
          refuse s!"invalid template, {quoted template}; with --tmpdir, it may not be absolute" 1
        else
          let serial := (← get).serial + 1
          modify fun m => { m with serial := serial }
          let fresh := pattern.front ++ freshText pattern.count (serial * 1000003) ++ pattern.ending
          let name := if inside then nameWithin below fresh else fresh
          let template := if inside then nameWithin below shown else shown
          let kind := if g.has 'd' then "directory" else "file"
          let m ← get
          let fault := match m.here.destination true (textOf name), m.lookUp true (frontOf name) with
            | .error fault, _ | _, .error fault => some fault
            | _, .ok entry => if entry.isDirectory then none else some .notDirectory
          match fault with
          | some fault =>
            if !g.has 'q' then
              tell s!"failed to create {kind} via template {quoted template}: {fault.text}"
            pure 1
          | none =>
            if !g.has 'u' then
              let path ← pathOf name
              if g.has 'd' then modify fun m => { m with tree := m.tree.putDirectory path }
              else putFile path ""
              let entry := if g.has 'd' then FileTree.Entry.directory [] else .plain .empty
              changeAttributes path entry fun a => { a with mode := if g.has 'd' then 0o700 else 0o600 }
            say (name ++ "\n")
            pure 0

end Conformance.Shell
