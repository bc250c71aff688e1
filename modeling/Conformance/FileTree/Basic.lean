import Conformance.Failure
import Conformance.FileTree.Path
import Conformance.Text.Printable

/-!
# File trees

A tree of directories and files, the place in it from which relative paths start, and the faults that
looking up, making and writing can meet.  The entries of a directory are kept in the order of their
names.
-/

namespace Conformance

open Text

/-! ## Faults -/

/-- Why a path cannot be used. -/
inductive Fault
  | notFound
  | notPermitted
  | exists
  | notDirectory
  | isDirectory
  | nameTooLong
  /-- One link leads to another without end. -/
  | looping
  deriving Repr, DecidableEq

namespace Fault

/-- The number of a fault. -/
def number : Fault → Nat
  | .notFound => 2
  | .notPermitted => 13
  | .exists => 17
  | .notDirectory => 20
  | .isDirectory => 21
  | .nameTooLong => 36
  | .looping => 40

/-- The name of a fault. -/
def text : Fault → String
  | .notFound => "No such file or directory"
  | .notPermitted => "Permission denied"
  | .exists => "File exists"
  | .notDirectory => "Not a directory"
  | .isDirectory => "Is a directory"
  | .nameTooLong => "File name too long"
  | .looping => "Too many levels of symbolic links"

/-- The name of the kind of failure that a fault is. -/
def typeName : Fault → Text
  | .notFound => "FileNotFoundError"
  | .notPermitted => "PermissionError"
  | .exists => "FileExistsError"
  | .notDirectory => "NotADirectoryError"
  | .isDirectory => "IsADirectoryError"
  | .nameTooLong | .looping => "OSError"

/-- The message about a fault at a path. -/
def message (fault : Fault) (path : Text) : Text :=
  s!"[Errno {fault.number}] " ++ fault.text ++ ": " ++ quoted path

end Fault

/-! ## Names -/

/-- Why a text cannot be handed to the system, which takes bytes without the null character. -/
def textRefusal? (text : Text) : Option Failure :=
  match nameFault? text with
  | some fault => some (.unencodable fault)
  | none => if hasNull text then some .nullCharacter else none

/-- A path with its names as they are read back. -/
def Path.asRead (path : Path) : Path :=
  { path with names := path.names.map asName }

/-- Why a path cannot be handed to the system. -/
def Path.refusal? (path : Path) : Option Failure :=
  textRefusal? path.toText

/-! ## Entries -/

/-- What lies at a place.  A file may report another size than that of its content. -/
inductive FileTree.Entry
  | file (content : ByteArray) (reported : Nat)
  | directory (entries : List (Text × FileTree.Entry))
  /-- A device that takes everything and gives nothing. -/
  | sink
  /-- A name that stands for another one. -/
  | link (target : Text)

/-- A tree and the names that lead to its current directory. -/
structure FileTree where
  top : FileTree.Entry
  current : List Text

namespace FileTree

namespace Entry

/-- A file that reports the size of its content. -/
def plain (content : ByteArray) : Entry :=
  .file content content.size

/-- Whether an entry is a directory. -/
def isDirectory : Entry → Bool
  | .directory _ => true
  | .file .. | .sink | .link _ => false

/-- Whether an entry is a file. -/
def isFile : Entry → Bool
  | .file .. => true
  | .directory _ | .sink | .link _ => false

/-- Whether an entry is a link. -/
def isLink : Entry → Bool
  | .link _ => true
  | .file .. | .directory _ | .sink => false

/-- The entries of a directory; nothing else has any. -/
def entries : Entry → List (Text × Entry)
  | .directory entries => entries
  | .file .. | .sink | .link _ => []

/-- What can be read from an entry.  A directory cannot be read, and what a link stands for lies elsewhere. -/
def content? : Entry → Option ByteArray
  | .file content _ => some content
  | .sink => some .empty
  | .directory _ | .link _ => none

end Entry

/-- Put an entry under a name, keeping the names in order. -/
def insertEntry (name : Text) (entry : Entry) : List (Text × Entry) → List (Text × Entry)
  | [] => [(name, entry)]
  | (other, old) :: rest =>
    if name < other then (name, entry) :: (other, old) :: rest
    else if name = other then (name, entry) :: rest
    else (other, old) :: insertEntry name entry rest

/-- Replace what lies at the end of a chain of names, making the directories on the way. -/
def Entry.update (change : Option Entry → Option Entry) : List Text → Option Entry → Option Entry
  | [], old => change old
  | name :: rest, old =>
    let entries := (old.map Entry.entries).getD []
    match update change rest (entries.lookup name) with
    | some entry => some (.directory (insertEntry name entry entries))
    | none => some (.directory (entries.filter (·.1 != name)))

/-! ## Looking up -/

/-- A fault at a path. -/
structure FaultAt where
  fault : Fault
  path : Path
  deriving Repr, DecidableEq

/-- The message of a fault at a path. -/
def FaultAt.message (place : FaultAt) : Text :=
  place.fault.message place.path.toText

/-- A fault at a path as a failure. -/
def FaultAt.failure (place : FaultAt) : Failure :=
  ⟨.inputOutput, place.fault.typeName, place.message⟩

/-- The longest name an entry can have, in bytes. -/
def nameLimit : Nat := 255

/-- The longest path that can be looked up, in bytes. -/
def pathLimit : Nat := 4095

/-- Follow names from an entry, given the directories above it, nearest first.  Links lead nowhere here. -/
def follow : List Entry → Entry → List Text → Except Fault Entry
  | _, entry, [] => .ok entry
  | _, .file .., _ :: _ | _, .sink, _ :: _ | _, .link _, _ :: _ => .error .notDirectory
  | above, .directory entries, name :: rest =>
    if name = (".." : Text) then
      match above with
      | [] => follow [] (.directory entries) rest
      | up :: more => follow more up rest
    else if nameLimit < nameSize name then .error .nameTooLong
    else
      match entries.lookup name with
      | some entry => follow (.directory entries :: above) entry rest
      | none => .error .notFound

/-- The names from the top of the tree to a path, as they are read back. -/
def absoluteNames (tree : FileTree) (path : Path) : List Text :=
  if path.isAbsolute then path.asRead.names else tree.current ++ path.asRead.names

/-- The entry at a path. -/
def find (tree : FileTree) (path : Path) : Except Fault Entry :=
  if pathLimit < nameSize path.toText then .error .nameTooLong
  else follow [] tree.top (tree.absoluteNames path)

/-- The entry at a path, if there is one.  A path that is too long is not looked up. -/
def entryAt? (tree : FileTree) (path : Path) : Except FaultAt (Option Entry) :=
  if path.refusal?.isSome then .ok none
  else
    match tree.find path with
    | .ok entry => .ok (some entry)
    | .error .nameTooLong => .error ⟨.nameTooLong, path⟩
    | .error _ => .ok none

/-- Whether there is a directory at a path. -/
def hasDirectory (tree : FileTree) (path : Path) : Except FaultAt Bool :=
  (tree.entryAt? path).map (·.any Entry.isDirectory)

/-- Whether there is a file at a path. -/
def hasFile (tree : FileTree) (path : Path) : Except FaultAt Bool :=
  (tree.entryAt? path).map (·.any Entry.isFile)

/-- Whether there is a directory at a path that can be looked up. -/
def isDirectory (tree : FileTree) (path : Path) : Bool :=
  (tree.hasDirectory path).toOption.getD false

/-- Whether there is a file at a path that can be looked up. -/
def isFile (tree : FileTree) (path : Path) : Bool :=
  (tree.hasFile path).toOption.getD false

/-- Whether a text ends behind a slash, so that it names a directory. -/
def endsAsDirectory (text : Text) : Bool :=
  match text.toList.reverse with
  | .char '/' :: _ | .char '.' :: .char '/' :: _ => true
  | _ => false

/-- The entry that a text names, as it is written. -/
def lookUp (tree : FileTree) (text : Text) : Except Fault Entry := do
  if text.isEmpty then .error .notFound
  else if pathLimit < nameSize text then .error .nameTooLong
  else
    let entry ← tree.find (Path.ofText text)
    if endsAsDirectory text && !entry.isDirectory then .error .notDirectory else .ok entry

/-- A path from the top of the tree, without double dots. -/
def resolve (tree : FileTree) (path : Path) : Path :=
  Path.lexical ⟨.top, if path.isAbsolute then path.names else tree.current ++ path.names⟩

/-- The current directory. -/
def currentPath (tree : FileTree) : Path :=
  ⟨.top, tree.current⟩

/-! ## Changing -/

/-- Change what lies at a path. -/
def update (tree : FileTree) (path : Path) (change : Option Entry → Option Entry) : FileTree :=
  let changed := Entry.update change (tree.resolve path).asRead.names (some tree.top)
  { tree with top := changed.getD (.directory []) }

/-- Put a file at a path, making the directories above it. -/
def put (tree : FileTree) (path : Path) (entry : Entry) : FileTree :=
  tree.update path fun _ => some entry

/-- Make a directory at a path, and those above it. -/
def putDirectory (tree : FileTree) (path : Path) : FileTree :=
  tree.update path fun old => some ((old.filter Entry.isDirectory).getD (.directory []))

/-- Take away what lies at a path. -/
def remove (tree : FileTree) (path : Path) : FileTree :=
  tree.update path fun _ => none

/-- Make one directory, whose parent has to be there. -/
def makeDirectory (tree : FileTree) (path : Path) : Except Fault FileTree :=
  match tree.find path with
  | .ok _ => .error .exists
  | .error .notFound =>
    match tree.find path.parent with
    | .ok entry => if entry.isDirectory then .ok (tree.putDirectory path) else .error .notDirectory
    | .error fault => .error fault
  | .error fault => .error fault

/-- Make a directory and those above it; one that is there already is left alone.  The number bounds
how many names may be missing. -/
def makeDirectories (tree : FileTree) : Nat → Path → Except FaultAt FileTree
  | fuel, path =>
    match tree.makeDirectory path with
    | .ok made => .ok made
    | .error .notFound =>
      match fuel with
      | 0 => .error ⟨.notFound, path⟩
      | fuel + 1 =>
        match tree.makeDirectories fuel path.parent with
        | .error fault => .error fault
        | .ok above =>
          match above.makeDirectory path with
          | .ok made => .ok made
          | .error fault => if above.isDirectory path then .ok above else .error ⟨fault, path⟩
    | .error fault => if tree.isDirectory path then .ok tree else .error ⟨fault, path⟩

/-- There is something at a path only if it is found there. -/
theorem find_of_entryAt? {tree : FileTree} {path : Path} {entry : Entry}
    (h : tree.entryAt? path = .ok (some entry)) : tree.find path = .ok entry := by
  unfold entryAt? at h
  split at h
  · simp at h
  · split at h <;> simp_all

/-- Write bytes to a file whose directory has to be there. -/
def writeBytes (tree : FileTree) (path : Path) (content : ByteArray) : Except FaultAt FileTree :=
  match tree.find path with
  | .ok (.directory _) => .error ⟨.isDirectory, path⟩
  | .ok (.file ..) => .ok (tree.put path (.plain content))
  | .ok .sink => .ok tree
  | .ok (.link _) => .error ⟨.notFound, path⟩
  | .error .notFound =>
    match tree.find path.parent with
    | .ok entry =>
      if entry.isDirectory then .ok (tree.put path (.plain content))
      else .error ⟨.notDirectory, path⟩
    | .error fault => .error ⟨fault, path⟩
  | .error fault => .error ⟨fault, path⟩

/-- Write a text to a file whose directory has to be there.  The file is begun before the text is looked at,
so that a text that cannot be written leaves an empty file. -/
def writeText (tree : FileTree) (path : Path) (text : Text) : FileTree × Except Failure Unit :=
  match encode text with
  | .ok content =>
    match tree.writeBytes path content with
    | .ok written => (written, .ok ())
    | .error fault => (tree, .error fault.failure)
  | .error fault =>
    match tree.writeBytes path .empty with
    | .ok begun => (begun, .error (.unencodable fault))
    | .error fault => (tree, .error fault.failure)

/-! ## Walking

All files below a directory: at each directory its files in the order of their names, and then what
lies below its subdirectories, in the order of their names. -/

/-- The longest path of a directory that can be listed, in bytes, when walking begins at the given path.  Below
the current directory every path is written with a dot and a slash in front. -/
def listingLimit (path : Path) : Nat :=
  if path = ⟨.current, []⟩ then pathLimit - 2 else pathLimit

mutual

/-- The files below an entry that lies at a path.  A directory whose path is too long is passed over. -/
def Entry.filesBelow (limit : Nat) (path : Path) : Entry → List Path
  | .file .. | .sink | .link _ => []
  | .directory entries =>
    if limit < Text.nameSize path.toText then []
    else directFiles path entries ++ deeperFiles limit path entries

/-- The files among the entries of a directory. -/
def directFiles (path : Path) : List (Text × Entry) → List Path
  | [] => []
  | (name, .file ..) :: rest => path.below name :: directFiles path rest
  | (_, .directory _) :: rest | (_, .sink) :: rest | (_, .link _) :: rest => directFiles path rest

/-- The files below the subdirectories among the entries of a directory. -/
def deeperFiles (limit : Nat) (path : Path) : List (Text × Entry) → List Path
  | [] => []
  | (name, entry) :: rest =>
    entry.filesBelow limit (path.below name) ++ deeperFiles limit path rest

end

/-- The paths of all files below a directory, in walking order. -/
def filesBelow (tree : FileTree) (path : Path) : List Path :=
  match tree.find path with
  | .ok entry => entry.filesBelow (listingLimit path) path
  | .error _ => []

/-! ## Links

A link is a name that stands for another one.  A path leads through links to a place that can be named
without any; the last name of a path may be taken for the link itself.
-/

/-- The most links that a path can lead through. -/
def linkLimit : Nat := 40

/-- The most names that are followed on the way to one place. -/
def followLimit : Nat := 100000

/-- The names of the entries that have been passed, of which the last one comes first. -/
def passedNames (passed : List (Text × Entry)) : List Text :=
  passed.reverse.map (·.1)

/-- Follow names through links; the answer has the names that lead to the same place without them.  There
may be nothing at this place, but there has to be a directory above it.  The numbers bound how many names
and links there are. -/
def trace (top : Entry) (throughLast : Bool) :
    Nat → Nat → List (Text × Entry) → List Text → Except Fault (List Text)
  | 0, _, _, _ => .error .looping
  | _ + 1, _, passed, [] => .ok (passedNames passed)
  | fuel + 1, links, passed, name :: rest =>
    match (passed.head?.map (·.2)).getD top with
    | .directory entries =>
      if name = ".." then trace top throughLast fuel links passed.tail rest
      else if nameLimit < Text.nameSize name then .error .nameTooLong
      else
        match entries.lookup name with
        | some (.link target) =>
          if rest.isEmpty && !throughLast then .ok (passedNames passed ++ [name])
          else
            match links with
            | 0 => .error .looping
            | links + 1 =>
              let path := (Path.ofText target).asRead
              trace top throughLast fuel links (if path.isAbsolute then [] else passed) (path.names ++ rest)
        | some entry => trace top throughLast fuel links ((name, entry) :: passed) rest
        | none => if rest.isEmpty then .ok (passedNames passed ++ [name]) else .error .notFound
    | _ => .error .notDirectory

/-- The place that a path leads to, or that of the link which its last name is. -/
def placeOf (tree : FileTree) (throughLast : Bool) (path : Path) : Except Fault Path :=
  if pathLimit < Text.nameSize path.toText then .error .nameTooLong
  else
    (trace tree.top throughLast followLimit linkLimit [] (tree.absoluteNames path)).map fun names =>
      ⟨.top, names⟩

/-- The place that a text names, as it is written.  A link with a slash behind it is always followed. -/
def destination (tree : FileTree) (throughLast : Bool) (text : Text) : Except Fault Path :=
  if text.isEmpty then .error .notFound
  else tree.placeOf (throughLast || endsAsDirectory text) (Path.ofText text)

/-- The place that a text names, as it is written, and what lies there. -/
def reach (tree : FileTree) (throughLast : Bool) (text : Text) : Except Fault (Path × Entry) := do
  let path ← tree.destination throughLast text
  let entry ← tree.find path
  if endsAsDirectory text && !entry.isDirectory then .error .notDirectory else .ok (path, entry)

/-- The top of a tree is its own place. -/
@[simp]
theorem placeOf_top (tree : FileTree) (throughLast : Bool) :
    tree.placeOf throughLast ⟨.top, []⟩ = .ok ⟨.top, []⟩ := by
  have short : ¬ pathLimit < Text.nameSize (Path.toText ⟨.top, []⟩) := by decide
  have names : tree.absoluteNames ⟨.top, []⟩ = [] := rfl
  unfold placeOf
  rw [if_neg short, names]
  rfl

end FileTree

end Conformance
