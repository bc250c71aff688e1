import Conformance.Capacity
import Conformance.Failure
import Conformance.FileTree.Basic
import Conformance.Fixture.Metadata

/-!
# Test cases

A test case is a fixture that has been read, together with what it says about itself.
-/

namespace Conformance.Fixture

/-! ## Reading fixtures

A fixture is read as a whole or not at all: it must not be larger than a limit, neither by the size that
it reports nor by the bytes that it holds.  Bytes that are no text are replaced. -/

/-- Why a fixture cannot be read. -/
inductive ReadFault
  /-- The fixture reports a size over the limit. -/
  | tooLarge (path : Path) (size : Nat) (limit : Int)
  /-- The path cannot be used. -/
  | failed (path : Path) (fault : Fault)
  /-- The fixture holds more bytes than it reports, and more than the limit. -/
  | grew (path : Path) (limit : Int)
  /-- The path cannot be handed to the system. -/
  | refused (failure : Failure)
  /-- As many bytes as the limit allows cannot be asked for. -/
  | capacity (fault : CapacityFault)
  deriving Repr, DecidableEq

namespace ReadFault

/-- The failure of reading a fixture. -/
def failure : ReadFault → Failure
  | .tooLarge path size limit =>
    .unreadable (path.toText ++ s!" is {size} bytes, over the {limit} byte limit")
  | .failed path fault =>
    .unreadable ("Failed to read " ++ path.toText ++ ": " ++ fault.message path.toText)
  | .grew path limit =>
    .unreadable (path.toText ++ s!" grew past the {limit} byte limit while reading")
  | .refused failure => failure
  | .capacity fault => fault.failure

/-- The message about a fixture that cannot be read. -/
def message (fault : ReadFault) : Text :=
  fault.failure.message

/-- Whether this fixture is at fault, and not the path or the limit that was asked for. -/
def isUnreadable : ReadFault → Bool
  | .tooLarge .. | .failed .. | .grew .. => true
  | .refused _ | .capacity _ => false

/-- What is wrong with one fixture is reported as an unreadable fixture. -/
theorem typeName_failure {fault : ReadFault} (h : fault.isUnreadable = true) :
    fault.failure.typeName = "FixtureReadError" := by
  cases fault <;> first | rfl | cases h

end ReadFault

/-- The largest fixture, in bytes, where no other limit is set. -/
def defaultLimit : Int := 1024 * 1024

/-- The size that a directory reports. -/
def directorySize : Nat := 4096

/-- The size that an entry reports. -/
def reportedSize : FileTree.Entry → Nat
  | .file _ reported => reported
  | .directory _ => directorySize
  | .sink => 0
  | .link target => Text.nameSize target

/-- Read a fixture.  One byte more than the limit allows is asked for, so that a fixture which holds more than
it reports is told from one that ends at the limit. -/
def read (tree : FileTree) (path : Path) (limit : Int) : Except ReadFault Text :=
  match path.refusal?, tree.find path with
  | some failure, _ => .error (.refused failure)
  | none, .error fault => .error (.failed path fault)
  | none, .ok entry =>
    if limit < reportedSize entry then .error (.tooLarge path (reportedSize entry) limit)
    else
      match entry.content?, bytesLength (limit + 1) with
      | none, _ => .error (.failed path .isDirectory)
      | some _, .error fault => .error (.capacity fault)
      | some content, .ok length =>
        let data := content.extract 0 length
        if limit < data.size then .error (.grew path limit)
        else .ok (Text.decode data)

end Conformance.Fixture

namespace Conformance

/-! ## Test cases

A test case is a fixture together with what it says about itself.  The chapter of the language standard
that a case belongs to is named by the nearest directory above it that is called after a chapter. -/

/-- A fixture and what it says about itself. -/
structure TestCase where
  name : Text
  filePath : Path
  description : Text
  tags : List Text
  shouldFail : Bool
  reason : Option Text
  deriving Repr, DecidableEq

/-- What the name of a chapter directory begins with. -/
def chapterStart : Text := "chapter-"

/-- The directory of a chapter. -/
def chapterDirectory (root : Path) (chapter : Text) : Path :=
  root.child (chapterStart ++ chapter)

/-- The chapter that a directory is called after. -/
def chapterOfName? (name : Text) : Option Text :=
  let chars := name.toList
  if chapterStart.toList.isPrefixOf chars && chapterStart.length < chars.length then
    some (Text.ofList (chars.drop chapterStart.length))
  else none

namespace TestCase

/-- The chapter that a case belongs to. -/
def chapter? (c : TestCase) : Option Text :=
  c.filePath.parent.names.reverse.findSome? chapterOfName?

/-- Whether a case has a tag. -/
def hasTag (c : TestCase) (tag : Text) : Bool :=
  c.tags.contains tag

/-- The case of a fixture with a path and a text. -/
def ofText (path : Path) (text : Text) : TestCase :=
  let metadata := Fixture.Metadata.ofText text
  { name := path.stem
    filePath := path
    description := metadata.description
    tags := metadata.tags
    shouldFail := metadata.shouldFail
    reason := metadata.reason }

/-- Read the fixture at a path as a case. -/
def load (tree : FileTree) (path : Path) (limit : Int) : Except Fixture.ReadFault TestCase :=
  (Fixture.read tree path limit).map (ofText path)

end TestCase

end Conformance
