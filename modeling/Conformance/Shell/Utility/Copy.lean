import Conformance.Shell.Utility.Change

/-!
# Programs that copy and move files

Files are put under other names: as copies, moved, or as links.  What is there already may be kept,
replaced, or put aside under a name of its own.
-/

namespace Conformance.Shell

open Effect

/-! ## Putting files aside -/

/-- How the names are made under which files are put aside. -/
inductive BackupKind
  | simple
  | numbered
  /-- With a number where there are such names already. -/
  | existing
  deriving Repr, DecidableEq

/-- The words for ways to put files aside. -/
def backupWords : List (List String) :=
  [["none", "off"], ["simple", "never"], ["existing", "nil"], ["numbered", "t"]]

/-- What a word for a way to put files aside means: nothing at all for some, and none for a wrong word. -/
def BackupKind.named? (word : String) : Option (Option BackupKind) :=
  (fullWord? backupWords word).map fun
    | "simple" | "never" => some .simple
    | "numbered" | "t" => some .numbered
    | "existing" | "nil" => some .existing
    | _ => none

/-- The way to put files aside that options ask for, or the word that is wrong. -/
def readBackup (g : Given) (control : Option String) : Except String (Option BackupKind) :=
  let asked := ['b', 'β', 'S'].any g.has
  let word := match (g.get? 'β').filter (!·.isEmpty) with
    | some word => word
    | none => (control.filter (!·.isEmpty)).getD "existing"
  if !asked then .ok none
  else
    match BackupKind.named? word with
    | some kind => .ok kind
    | none => .error word

/-- The numbers of the names under which a file has been put aside. -/
def backupNumbers (m : Machine) (name : String) : List Nat :=
  let front := baseOf name ++ ".~"
  match m.lookUp true (frontOf name) with
  | .ok directory =>
    (namedEntries directory).filterMap fun (inner, _) =>
      if inner.startsWith front && inner.endsWith "~" then
        ((inner.drop front.length).toString.dropEnd 1).toString.toNat?
      else none
  | .error _ => []

/-- The name under which a file is put aside. -/
def backupName (m : Machine) (kind : BackupKind) (ending name : String) : String :=
  let numbers := backupNumbers m name
  if kind == .numbered || (kind == .existing && !numbers.isEmpty) then
    name ++ s!".~{numbers.foldl max 0 + 1}~"
  else name ++ ending

/-! ## How files are copied -/

/-- What is done where a name is taken. -/
inductive OnClash
  | replace
  | ask
  | skip
  /-- Nothing is done, and this counts as a failure. -/
  | refuse
  deriving Repr, DecidableEq

/-- Which links are followed. -/
inductive Followed
  | none
  | operands
  | all
  deriving Repr, DecidableEq

/-- What is made of a file. -/
inductive Produced
  | copy
  | link
  | hardLink
  /-- A file without content. -/
  | outline
  deriving Repr, DecidableEq

/-- How files are copied or moved. -/
structure Copying where
  moving : Bool
  deep : Bool
  followed : Followed
  clash : OnClash
  onlyNewer : Bool
  backup : Option BackupKind
  ending : String
  verbose : Bool
  produced : Produced
  removesFirst : Bool
  keepsMode : Bool
  keepsTime : Bool
  /-- The permissions of what is made, where they are not those of the file that is copied. -/
  mode : Option (List ModeChange)

/-- What has been done so far for the operands of one call. -/
structure CopyState where
  /-- The places that have been copied. -/
  sources : List Path
  /-- The places that have been made. -/
  made : List Path
  /-- The first directory that was made for the operand. -/
  begun : Option Path
  /-- The names of the operand and of what is made of it. -/
  source : String
  target : String

namespace Copying

/-- Tell of a file that is put under another name. -/
def announce (c : Copying) (front source target : String) (backup : Option String) : Effect Unit := do
  if c.verbose then
    say (front ++ quotedName source ++ " -> " ++ quotedName target ++
      ((backup.map fun name => s!" (backup: {quotedName name})").getD "") ++ "\n")

/-- The permissions of something new, given those of the file that is copied. -/
def newMode (c : Copying) (mask : Nat) (isDirectory : Bool) (mode : Nat) : Nat :=
  match c.mode with
  | some changes => applyModeChanges isDirectory 0 0 changes
  | none => if c.keepsMode then mode else mode &&& (0o777 - mask)

/-- The message about a file that cannot be moved. -/
def moveFault (source target : String) (fault : Fault) : String :=
  if fault == .exists || fault == .isDirectory then s!"cannot overwrite {quotedName target}: {fault.text}"
  else s!"cannot move {quotedName source} to {quotedName target}: {fault.text}"

/-- Whether what is there under a name is replaced; the answer has a status where it is not. -/
def mayReplace (c : Copying) (isDirectory : Bool) (target : String) : Effect (Option Bool) := do
  if isDirectory && !c.moving then pure none
  else
    match c.clash with
    | .replace => pure none
    | .skip => pure (some true)
    | .refuse =>
      tell s!"not replacing {quotedName target}"
      pure (some false)
    | .ask =>
      if ← confirms s!"overwrite {quotedName target}? " then pure none else pure (some false)

/-- Put a file under a name, where nothing is in the way; the answer is what is wrong. -/
def makeFile (c : Copying) (onPlace : Path) (f : Listed) (source target : String) (isNew : Bool) :
    Effect (Option String) := do
  let mask := (← process).mask
  match c.produced, f.entry with
  | .link, _ =>
    if !source.startsWith "/" && target.toList.contains '/' && frontOf target != "." then
      pure (some s!"{shownName target}: can make relative symbolic links only in current directory")
    else
      putNew onPlace (.link (textOf source)) 0o777
      pure none
  | .hardLink, _ =>
    shareAt f.path onPlace
    pure none
  | _, .link target =>
    putNew onPlace (.link target) 0o777
    pure none
  | produced, entry =>
    let content := if produced == .outline then "" else (entry.content?.map ofBytes).getD ""
    putFile onPlace content
    changeAttributes onPlace (.plain .empty) fun a =>
      { mode := if isNew || c.keepsMode || c.mode.isSome then c.newMode mask false f.attributes.mode else a.mode
        changed := if c.keepsTime then f.attributes.changed else a.changed }
    pure none

/-- Whether two names lead to the same file, so that one cannot be put in the place of the other. -/
def isSameFile (c : Copying) (m : Machine) (source target : Path) (throughTarget : Path) : Bool :=
  if c.moving then source == target
  else if c.produced == .link || c.produced == .hardLink then source == target && c.produced == .link
  else (m.twinsOf source).contains throughTarget && !(c.removesFirst && source != target)

/-- What keeps a file from being put over another one: their kinds do not fit. -/
def kindFault? (c : Copying) (s : CopyState) (onLine : Bool) (f : Listed) (source target : String) (place : Path)
    (old : FileTree.Entry) : Option String :=
  let backed := c.moving && c.backup.isSome
  match f.entry.isDirectory, old.isDirectory with
  | true, false => if backed then none
      else some s!"cannot overwrite non-directory {quotedName target} with directory {quotedName source}"
  | false, true => if backed then none
      else some s!"cannot overwrite directory {quotedName target} with non-directory"
  | false, false =>
    if onLine && c.backup != some .numbered && s.made.contains place then
      some s!"will not overwrite just-created {quotedName target} with {quotedName source}"
    else none
  | true, true => none

mutual

/-- Copy or move a file, and what is below it, to a name.  The number bounds how deep that is. -/
def place (c : Copying) (fuel : Nat) (onLine : Bool) (s : CopyState) (source target : String) :
    Effect (Bool × CopyState) :=
  match fuel with
  | 0 => pure (false, s)
  | fuel + 1 => do
    let failure (message : String) : Effect (Bool × CopyState) := do
      tell message
      pure (false, s)
    let m ← get
    let follows := !c.moving && (c.followed == .all || (onLine && c.followed == .operands))
    match m.listed follows source with
    | .error fault => failure s!"cannot stat {quotedName source}: {fault.text}"
    | .ok f =>
      let isDirectory := f.entry.isDirectory
      if isDirectory && !c.deep then
        failure ((if c.mode.isSome then "" else "-r not specified; ") ++ s!"omitting directory {quotedName source}")
      else if onLine && !isDirectory && !c.moving && c.backup.isNone && s.sources.contains f.path then
        tell s!"warning: source file {quotedName source} specified more than once"
        pure (true, s)
      else
        let s := if onLine then { s with sources := f.path :: s.sources } else s
        let isPlain := match f.entry with
          | .file .. | .sink => true
          | _ => false
        let usesLink := !isPlain || c.moving || c.produced == .link || c.produced == .hardLink ||
          c.backup.isSome || c.removesFirst
        let known := m.lookUp (!usesLink) target
        let same (p : Path) : Bool :=
          c.isSameFile m f.path p ((m.placeOf true target).toOption.getD p)
        match known, m.placeOf (!usesLink) target with
        | .error .notFound, .ok path =>
          let linkPath := (m.placeOf false target).toOption.getD path
          if isPlain && !usesLink && (m.lookUp false target).toOption.any FileTree.Entry.isLink then
            failure s!"not writing through dangling symlink {quotedName target}"
          else c.finish fuel onLine s f source target linkPath none none
        | .error .notFound, .error fault =>
          if c.moving then failure (moveFault source target fault)
          else if isDirectory then failure s!"cannot create directory {quotedName target}: {fault.text}"
          else if c.produced == .link then
            failure s!"cannot create symbolic link {quotedName target} to {quotedName source}: {fault.text}"
          else if c.produced == .hardLink then
            failure s!"cannot create hard link {quotedName target} to {quotedName source}: {fault.text}"
          else if f.entry.isLink then failure s!"cannot create symbolic link {quotedName target}: {fault.text}"
          else failure s!"cannot create regular file {quotedName target}: {fault.text}"
        | .error fault, _ => failure (if c.moving && fault != .notDirectory then moveFault source target fault
            else s!"cannot stat {quotedName target}: {fault.text}")
        | .ok _, .error fault => failure s!"cannot stat {quotedName target}: {fault.text}"
        | .ok old, .ok path =>
          let linkPath := (m.placeOf false target).toOption.getD path
          if same path && c.backup.isNone then
            failure s!"{quotedName source} and {quotedName target} are the same file"
          else if !c.moving && c.produced == .hardLink && (m.twinsOf f.path).contains path then pure (true, s)
          else
            let age := (attributesIn m.attributes path old).changed
            if c.onlyNewer && !isDirectory && f.attributes.changed ≤ age then pure (true, s)
            else
              match ← c.mayReplace isDirectory target with
              | some result => pure (result, s)
              | none =>
                match c.kindFault? s onLine f source target path old with
                | some message => failure message
                | none =>
                  let keepsAside := match c.backup with
                    | some kind =>
                      if [".", ".."].contains (baseOf source) || (old.isDirectory && !c.moving) then none
                      else some (backupName m kind c.ending target)
                    | none => none
                  match keepsAside with
                  | some backup =>
                    moveAt linkPath (← linkPathOf backup)
                    c.finish fuel onLine s f source target linkPath none (some backup)
                  | none =>
                    if c.removesFirst && !old.isDirectory && !c.moving then
                      removeAt linkPath
                      if c.verbose then say s!"removed {quotedName target}\n"
                      c.finish fuel onLine s f source target linkPath none none
                    else
                      let into := if usesLink then linkPath else path
                      c.finish fuel onLine s f source target into (some old) none
termination_by structural fuel

/-- Go on where it is clear that a file is put at a place, on which something may lie. -/
def finish (c : Copying) (fuel : Nat) (onLine : Bool) (s : CopyState) (f : Listed) (source target : String)
    (path : Path) (old : Option FileTree.Entry) (backup : Option String) : Effect (Bool × CopyState) :=
  match fuel with
  | 0 => pure (false, s)
  | fuel + 1 => do
    let failure (message : String) : Effect (Bool × CopyState) := do
      tell message
      pure (false, s)
    let isDirectory := f.entry.isDirectory
    let noted := if onLine then { s with made := path :: s.made } else s
    if c.moving then
      if isWithin path f.path && path != f.path then
        failure s!"cannot move {quotedName s.source} to a subdirectory of itself, {quotedName s.target}"
      else if target.endsWith "/" && !isDirectory then failure (moveFault source target .notDirectory)
      else if old.any fun e => !e.entries.isEmpty then
        failure s!"cannot overwrite {quotedName target}: Directory not empty"
      else
        let source' := (← get).placeOf false source |>.toOption.getD f.path
        moveAt source' path
        c.announce "renamed " source target backup
        pure (true, noted)
    else if isDirectory then
      if s.begun == some f.path then
        failure s!"cannot copy a directory, {quotedName s.source}, into itself, {quotedName s.target}"
      else
        let before ← get
        let isNew := !(old.any FileTree.Entry.isDirectory)
        if isNew then
          putNew path (.directory []) (c.newMode before.process.mask true f.attributes.mode ||| 0o700)
          c.announce "" source target none
        let s := if isNew && s.begun.isNone then { noted with begun := some path } else noted
        let now ← get
        let inside := match now.tree.find f.path with
          | .ok entry => (namedEntries entry).map Prod.fst
          | .error _ => []
        let (result, s) ← inside.foldlM (fun ((result, s) : Bool × CopyState) name => do
          let (done, s) ← c.place fuel false s (nameWithin source name) (nameWithin target name)
          pure (result && done, s)) (true, s)
        if isNew || c.keepsMode || c.keepsTime then
          changeAttributes path (.directory []) fun a =>
            { mode := if isNew || c.keepsMode then c.newMode before.process.mask true f.attributes.mode else a.mode
              changed := if c.keepsTime then f.attributes.changed else a.changed }
        pure (result, s)
    else if target.endsWith "/" then
      failure s!"cannot create regular file {quotedName target}: Not a directory"
    else
      c.announce "" source target backup
      match ← c.makeFile path f source target old.isNone with
      | some message => failure message
      | none => pure (true, noted)
termination_by structural fuel

end

end Copying

/-! ## Where files are put -/

/-- Where operands are put: in a directory, or one of them under a name. -/
inductive Destination
  | within (directory : String)
  | under (name : String)

/-- The operands that are put somewhere and where they are put, or a message with whether it tells of a wrong
call. -/
def readDestination (g : Given) (m : Machine) (operands : List String) :
    Except (Bool × String) (List String × Destination) :=
  match g.get? 't', operands.reverse with
  | none, [] | some _, [] => .error (true, "missing file operand")
  | none, [single] => .error (true, s!"missing destination file operand after {quotedName single}")
  | some directory, _ =>
    if g.has 'T' then
      .error (false, "cannot combine --target-directory (-t) and --no-target-directory (-T)")
    else
      match m.lookUp true directory with
      | .ok entry => if entry.isDirectory then .ok (operands, .within directory)
          else .error (false, s!"target directory {quotedName directory}: Not a directory")
      | .error fault => .error (false, s!"target directory {quotedName directory}: {fault.text}")
  | none, target :: others =>
    if g.has 'T' then
      match operands with
      | _ :: _ :: extra :: _ => .error (true, s!"extra operand {quotedName extra}")
      | _ => .ok (others.reverse, .under target)
    else
      let fault? := match m.lookUp true target with
        | .ok entry => if entry.isDirectory then none else some Fault.notDirectory
        | .error fault => some fault
      match fault?, others with
      | none, _ => .ok (others.reverse, .within target)
      | some _, [_] => .ok (others.reverse, .under target)
      | some fault, _ => .error (false, s!"target {quotedName target}: {fault.text}")

/-- A name without the slashes at its end. -/
def withoutSlashes (name : String) : String :=
  let cs := (name.toList.reverse.dropWhile (· == '/')).reverse
  if cs.isEmpty then if name.isEmpty then "" else "/" else String.ofList cs

/-- The name that an operand gets in a directory. -/
def nameInside (directory source : String) : String :=
  let last := baseOf source
  if last == ".." then directory else if last == "/" then directory else nameWithin directory last

/-- Make the directories of a name below a directory that are not there; the answer is whether all are. -/
def makeParents (verbose : Bool) (directory source : String) : Effect Bool := do
  let parts := ((withoutSlashes source).splitOn "/").filter (!·.isEmpty)
  let names := (List.range (parts.length - 1)).map fun n => "/".intercalate (parts.take (n + 1))
  let results ← names.mapM fun name => do
    let full := nameWithin directory name
    match (← get).lookUp true full, (← get).listed true name with
    | .ok entry, _ =>
      if entry.isDirectory then pure true
      else refuse s!"{quotedName full} exists but is not a directory"
    | .error _, .ok f =>
      putNew (← pathOf full) (.directory []) f.attributes.mode
      if verbose then say s!"{name} -> {full}\n"
      pure true
    | .error _, .error fault => refuse s!"failed to get attributes of {quotedName name}: {fault.text}"
  pure (results.all id)

/-- Put operands where they belong, one after another; the answer is the status. -/
def Copying.placeOperands (c : Copying) (withParents : Bool) (sources : List String)
    (destination : Destination) : Effect Nat := do
  let start : CopyState := ⟨[], [], none, "", ""⟩
  let (result, _) ← sources.foldlM (fun ((result, s) : Bool × CopyState) source => do
    let (target, ready) ← match destination with
      | .under name => pure (name, true)
      | .within directory =>
        if withParents then
          pure (nameWithin directory (withoutSlashes source), ← makeParents c.verbose directory source)
        else pure (nameInside directory source, true)
    if !ready then pure (false, s)
    else
      let s := { s with begun := none, source := source, target := target }
      let (done, s) ← c.place (2 * treeDepth) true s source target
      pure (result && done, s)) (true, start)
  pure (if result then 0 else 1)

/-! ## Programs -/

/-- What the words mean that say which files are replaced. -/
def updateWords : List (List String) :=
  [["all"], ["none"], ["older"]]

/-- What is done with names that are taken, and whether only older files are replaced. -/
def readClash (g : Given) (moving : Bool) : Except String (OnClash × Bool) :=
  let letters := if moving then ['i', 'f', 'n'] else ['i', 'n']
  let base := match g.last? letters with
    | some 'i' => OnClash.ask
    | some 'n' => if moving then .refuse else .skip
    | _ => .replace
  match g.last? ['u', 'υ'] with
  | none => .ok (base, false)
  | some 'u' => .ok (base, base != .skip && base != .refuse)
  | some _ =>
    match (g.get? 'υ').getD "" with
    | "" => .ok (base, base != .skip && base != .refuse)
    | word =>
      match fullWord? updateWords word with
      | some "none" => .ok (.skip, false)
      | some "older" => .ok (base, true)
      | some _ => .ok (base, false)
      | none => .error word

/-- Run a program that copies or moves, given how that is done apart from what all such programs can be
told. -/
def runCopying (g : Given) (c : Copying) (withParents : Bool) (destinationFault : String → String) :
    Effect Nat := do
  let control ← value? "VERSION_CONTROL"
  let suffix ← value? "SIMPLE_BACKUP_SUFFIX"
  match readClash g c.moving, readBackup g control with
  | .error word, _ => misworded word "--update" updateWords 1
  | _, .error word => misworded word "backup type" backupWords 1
  | .ok (clash, onlyNewer), .ok backup =>
    if g.has 'n' && !c.moving then
      tell "warning: behavior of -n is non-portable and may change in future; use --update=none instead"
    if g.has 'n' && backup.isSome then
      misused "options --backup and --no-clobber are mutually exclusive" 1
    else
      let operands := if g.has 'τ' then g.operands.map withoutSlashes else g.operands
      match readDestination g (← get) operands with
      | .error (true, message) => misused message 1
      | .error (false, message) => failed (destinationFault message) 1
      | .ok (sources, destination) =>
        match withParents, destination with
        | true, .under _ => misused "with --parents, the destination must be a directory" 1
        | _, _ =>
          let c := { c with
            clash := clash, onlyNewer := onlyNewer, backup := backup
            ending := (g.get? 'S').getD (suffix.getD "~"), verbose := g.has 'v' }
          c.placeOperands withParents sources destination

/-- Files are copied as they are. -/
def Copying.plain : Copying :=
  ⟨false, false, .all, .replace, false, none, "~", false, .copy, false, false, false, none⟩

/-- What is kept of files that are copied, as words say. -/
def keptWords : List (List String) :=
  [["mode"], ["timestamps"], ["ownership"], ["links"], ["context"], ["xattr"], ["all"]]

/-- Copy files. -/
def cpProgram (arguments : List String) : Effect Nat :=
  withGiven "abdfHilLnprst:uvxPRS:TZβ::υ::πκ::ν:δτωρ::σ:"
    [("archive", 'a'), ("attributes-only", 'ω'), ("backup", 'β'), ("copy-contents", 'γ'), ("debug", 'δ'),
      ("dereference", 'L'), ("force", 'f'), ("interactive", 'i'), ("link", 'l'), ("no-clobber", 'n'),
      ("no-dereference", 'P'), ("no-preserve", 'ν'), ("no-target-directory", 'T'), ("one-file-system", 'x'),
      ("parents", 'π'), ("path", 'π'), ("preserve", 'κ'), ("recursive", 'R'), ("remove-destination", 'θ'),
      ("sparse", 'σ'), ("reflink", 'ρ'), ("strip-trailing-slashes", 'τ'), ("suffix", 'S'),
      ("symbolic-link", 's'), ("target-directory", 't'), ("update", 'υ'), ("verbose", 'v')] 1 arguments
    fun g => do
    let deep := ['r', 'R', 'a'].any g.has
    let words (letter : Char) : List String :=
      (g.options.filter fun (c, _) => c == letter).flatMap fun (_, text) =>
        if text.isEmpty then ["mode", "timestamps"] else text.splitOn ","
    match (words 'κ' ++ words 'ν').find? fun word => (fullWord? keptWords word).isNone with
    | some word =>
      misworded word (if (words 'κ').contains word then "--preserve" else "--no-preserve") keptWords 1
    | none =>
      let keeps (what : String) : Bool :=
        (g.has 'a' || g.has 'p' || (words 'κ').any fun word =>
          (fullWord? keptWords word).any fun full => full == what || full == "all") &&
        !(words 'ν').any fun word => (fullWord? keptWords word).any fun full => full == what || full == "all"
      let followed := match g.last? ['L', 'P', 'H', 'a', 'd'] with
        | some 'L' => Followed.all
        | some 'H' => .operands
        | some _ => .none
        | none => if deep && !g.has 'l' then .none else .all
      let c : Copying := { Copying.plain with
        deep := deep
        followed := followed
        produced := if g.has 's' then .link else if g.has 'l' then .hardLink
          else if g.has 'ω' then .outline else .copy
        removesFirst := g.has 'θ'
        keepsMode := keeps "mode"
        keepsTime := keeps "timestamps"
        mode := none }
      if g.has 's' && g.has 'l' then misused "cannot make both hard and symbolic links" 1
      else runCopying g c (g.has 'π') id

/-- Move files. -/
def mvProgram (arguments : List String) : Effect Nat :=
  withGiven "bfint:uvS:TZβ::υ::δτω"
    [("backup", 'β'), ("context", 'Z'), ("debug", 'δ'), ("force", 'f'), ("interactive", 'i'),
      ("no-clobber", 'n'), ("no-copy", 'ω'), ("no-target-directory", 'T'), ("strip-trailing-slashes", 'τ'),
      ("suffix", 'S'), ("target-directory", 't'), ("update", 'υ'), ("verbose", 'v')] 1 arguments
    fun g => runCopying g { Copying.plain with moving := true, deep := true, followed := .none } false id

/-- Make the directories that lead to a name. -/
def makeLeading (verbose : Bool) (name : String) : Effect (Option (String × Fault)) :=
  makeAll (fun _ => 0o755) (fun made => do
    if verbose then say s!"{(← process).name}: creating directory {quotedName made}\n") (namesThrough name)

/-- Copy files with the permissions that they need, or make directories. -/
def installProgram (arguments : List String) : Effect Nat :=
  withGiven "bcCsDdg:m:o:pt:TvS:Zβ::δσ:" [("backup", 'β'), ("compare", 'C'), ("context", 'Z'), ("debug", 'δ'),
      ("directory", 'd'), ("group", 'g'), ("mode", 'm'), ("no-target-directory", 'T'), ("owner", 'o'),
      ("preserve-timestamps", 'p'), ("strip", 's'), ("strip-program", 'σ'), ("suffix", 'S'),
      ("target-directory", 't'), ("verbose", 'v')] 1 arguments fun g => do
    match readMode? ((g.get? 'm').getD "755") with
    | none => failed ("invalid mode " ++ quoted ((g.get? 'm').getD "")) 1
    | some changes =>
      if g.has 'd' then
        if g.operands.isEmpty then misused "missing file operand" 1
        else forOperands g.operands fun name => do
          match ← makeLeading (g.has 'v') name with
          | some (name, fault) => refuse s!"cannot create directory {quoted name}: {fault.text}"
          | none =>
            changeAttributes (← pathOf name) (.directory []) fun a =>
              { a with mode := applyModeChanges true 0 0 changes }
            pure true
      else
        let c : Copying := { Copying.plain with
          removesFirst := true, keepsTime := g.has 'p', mode := some changes }
        let aim := (g.get? 't').or (if g.has 'D' && g.operands.length = 2 then
          g.operands.getLast?.map frontOf else none)
        let trouble ← match g.has 'D', aim with
          | true, some directory => makeLeading (g.has 'v') directory
          | _, _ => pure none
        match trouble with
        | some (name, fault) => failed s!"cannot create directory {quoted name}: {fault.text}" 1
        | none => runCopying g c false id

/-! ## Links -/

/-- How links are made. -/
structure Linking where
  symbolic : Bool
  relative : Bool
  force : Bool
  asking : Bool
  verbose : Bool
  /-- Whether the file behind a link is linked rather than the link. -/
  logical : Bool
  backup : Option BackupKind
  ending : String

namespace Linking

/-- What is said where a link cannot be made. -/
def faultText (l : Linking) (source target : String) (fault : Fault) : String :=
  if l.symbolic then
    if fault != .nameTooLong && !source.isEmpty then
      s!"failed to create symbolic link {quotedName target}: {fault.text}"
    else s!"failed to create symbolic link {quotedName target} -> {quotedName source}: {fault.text}"
  else if fault == .exists then s!"failed to create hard link {quotedName target}: {fault.text}"
  else s!"failed to create hard link {quotedName target} => {quotedName source}: {fault.text}"

/-- A name as it is written in a link that lies under another name. -/
def relativeName (m : Machine) (source target : String) : String :=
  match placeFrom m .none false (frontOf target), placeFrom m .none false source with
  | .ok base, .ok path => pathFrom base path
  | _, _ => source

/-- Make one link; the places in front of it are those that have been made. -/
def make (l : Linking) (made : List Path) (source target : String) : Effect (Bool × List Path) := do
  let failure (message : String) : Effect (Bool × List Path) := do
    tell message
    pure (false, made)
  let m ← get
  let known := m.listed l.logical source
  match l.symbolic, known with
  | false, .error fault => failure s!"failed to access {quotedName source}: {fault.text}"
  | symbolic, known =>
    if !symbolic && known.toOption.any fun f => f.entry.isDirectory then
      failure s!"{shownName source}: hard link not allowed for directory"
    else
      let content := if l.relative then relativeName m source target else source
      let make (path : Path) (backup : Option String) : Effect (Bool × List Path) := do
        match symbolic, known with
        | false, .ok f => shareAt f.path path
        | _, _ => putNew path (.link (textOf content)) 0o777
        if l.verbose then
          let arrow := if symbolic then " -> " else " => "
          let shown := (backup.map fun name => quotedName name ++ " ~ ").getD ""
          say (shown ++ quotedName target ++ arrow ++ quotedName content ++ "\n")
        pure (true, if symbolic then made else path :: made)
      if content.isEmpty then failure (l.faultText content target .notFound)
      else
        match m.lookUp false target, m.placeOf false target with
        | .error .notFound, .ok path =>
          if target.endsWith "/" then failure (l.faultText content target .notFound) else make path none
        | .error .notFound, .error fault => failure (l.faultText content target fault)
        | .error fault, _ =>
          if l.force || l.asking || l.backup.isSome then failure s!"failed to access {quotedName target}: {fault.text}"
          else failure (l.faultText content target fault)
        | .ok _, .error fault => failure (l.faultText content target fault)
        | .ok old, .ok path =>
          if !(l.force || l.asking || l.backup.isSome) then failure (l.faultText content target .exists)
          else if old.isDirectory then failure s!"{shownName target}: cannot overwrite directory"
          else if made.contains path then
            failure s!"will not overwrite just-created {quotedName target} with {quotedName source}"
          else
            let through := (m.placeOf true source).toOption
            let isSame := if l.backup.isSome then !symbolic && through == some path
              else l.force && through == some path
            if isSame then failure s!"{quotedName source} and {quotedName target} are the same file"
            else
              let goes ← if l.asking then confirms s!"replace {quotedName target}? " else pure true
              if !goes then pure (true, made)
              else
                match l.backup with
                | some kind =>
                  let backup := backupName m kind l.ending target
                  moveAt path (← linkPathOf backup)
                  make path (some backup)
                | none =>
                  removeAt path
                  make path none

end Linking

/-- Make links. -/
def lnProgram (arguments : List String) : Effect Nat :=
  withGiven "bdfFiLnPrsS:t:Tvβ::" [("backup", 'β'), ("directory", 'F'), ("no-dereference", 'n'),
      ("no-target-directory", 'T'), ("force", 'f'), ("interactive", 'i'), ("suffix", 'S'),
      ("target-directory", 't'), ("logical", 'L'), ("physical", 'P'), ("relative", 'r'), ("symbolic", 's'),
      ("verbose", 'v')] 1 arguments fun g => do
    let m ← get
    match readBackup g (← value? "VERSION_CONTROL") with
    | .error word => misworded word "backup type" backupWords 1
    | .ok backup =>
      let l : Linking :=
        ⟨g.has 's', g.has 'r', g.last? ['f', 'i'] == some 'f', g.last? ['f', 'i'] == some 'i', g.has 'v',
          g.last? ['L', 'P'] == some 'L', backup, (g.get? 'S').getD "~"⟩
      let keepsLink := g.has 'n'
      let directoryFault? (name : String) : Option Fault :=
        match m.lookUp (!keepsLink) name with
        | .ok entry => if entry.isDirectory then none else some .notDirectory
        | .error fault => some fault
      let run (sources : List String) (nameOf : String → String) : Effect Nat := do
        let (result, _) ← sources.foldlM (fun ((result, made) : Bool × List Path) source => do
          let (done, made) ← l.make made source (nameOf source)
          pure (result && done, made)) (true, [])
        pure (if result then 0 else 1)
      let inside (directory source : String) : String := nameWithin directory (baseOf source)
      match g.operands, g.get? 't' with
      | [], _ => misused "missing file operand" 1
      | first :: others, directory? =>
        if l.relative && !l.symbolic then failed "cannot do --relative without --symbolic" 1
        else if g.has 'T' then
          if directory?.isSome then
            failed "cannot combine --target-directory and --no-target-directory" 1
          else
            match others with
            | [] => misused s!"missing destination file operand after {quotedName first}" 1
            | [target] => run [first] fun _ => target
            | _ :: extra :: _ => misused s!"extra operand {quotedName extra}" 1
        else
          match directory?, others.reverse with
          | some directory, _ =>
            match directoryFault? directory with
            | none => run g.operands (inside directory)
            | some fault => failed s!"target directory {quotedName directory}: {fault.text}" 1
          | none, [] => run g.operands (inside ".")
          | none, [target] =>
            if (directoryFault? target).isNone then run [first] (inside target) else run [first] fun _ => target
          | none, target :: more =>
            match directoryFault? target with
            | none => run (first :: more.reverse) (inside target)
            | some fault => failed s!"target {quotedName target}: {fault.text}" 1

/-- Give one file a further name. -/
def linkProgram (arguments : List String) : Effect Nat :=
  withGiven "" [] 1 arguments fun g => do
    match g.operands with
    | [] => misused "missing operand" 1
    | [single] => misused ("missing operand after " ++ quoted single) 1
    | _ :: _ :: extra :: _ => misused ("extra operand " ++ quoted extra) 1
    | [source, target] =>
      let m ← get
      let cannot (reason : String) : Effect Nat :=
        failed s!"cannot create link {quotedName target} to {quotedName source}: {reason}" 1
      match m.listed false source, m.lookUp false target, m.placeOf false target with
      | .error fault, _, _ => cannot fault.text
      | .ok f, known, place =>
        if f.entry.isDirectory then cannot "Operation not permitted"
        else
          match known, place with
          | .ok _, _ => cannot Fault.exists.text
          | .error .notFound, .ok path => shareAt f.path path; pure 0
          | .error fault, _ => cannot fault.text

end Conformance.Shell
