import Conformance.FileTree.Basic
import Conformance.Fixture.Case
import Conformance.Log
import Conformance.Text.Lowercase

/-!
# Suites

A suite is an ordered collection of cases, in the order in which they were found, with the extensions
that make a file a fixture and the limit on its size.
-/

namespace Conformance

/-- Cases in the order in which they were found. -/
structure Suite where
  /-- The extensions of fixtures, in lower case. -/
  extensions : List Text
  limit : Int
  cases : List TestCase
  deriving Repr

namespace Suite

/-! ## Defaults -/

/-- The extensions of fixtures where no others are set. -/
def defaultExtensions : List Text := [".sv"]

/-- The chapters of the language standard that fixtures are kept for. -/
def defaultChapters : List Text :=
  ["5", "6", "7", "8", "9", "10", "11", "12", "13", "14", "15", "16",
    "18", "20", "21", "22", "23", "24", "25", "26"]

/-- The directory of fixtures that belong to no chapter. -/
def defaultGeneric : Text := "generic"

/-! ## Cases -/

/-- A suite without cases. -/
def create (extensions : List Text) (limit : Int) : Suite :=
  ⟨extensions.map Text.lowercase, limit, []⟩

/-- Add a case at the end. -/
def add (s : Suite) (c : TestCase) : Suite :=
  { s with cases := s.cases ++ [c] }

/-- Add cases at the end. -/
def addAll (s : Suite) (cases : List TestCase) : Suite :=
  { s with cases := s.cases ++ cases }

/-- Drop all cases. -/
def clear (s : Suite) : Suite :=
  { s with cases := [] }

/-- The cases with a tag. -/
def withTag (s : Suite) (tag : Text) : List TestCase :=
  s.cases.filter (·.hasTag tag)

/-- Whether a path has the extension of a fixture. -/
def isFixture (s : Suite) (path : Path) : Bool :=
  s.extensions.contains (Text.lowercase path.extension)

@[simp]
theorem cases_add (s : Suite) (c : TestCase) : (s.add c).cases = s.cases ++ [c] :=
  rfl

@[simp]
theorem cases_addAll (s : Suite) (cases : List TestCase) :
    (s.addAll cases).cases = s.cases ++ cases :=
  rfl

@[simp]
theorem cases_clear (s : Suite) : s.clear.cases = [] :=
  rfl

/-! ## Loading -/

/-- What loading adds to a suite, what is noted on the way, and why it stopped early if it did. -/
structure Found where
  cases : List TestCase
  log : List LogRecord
  stop : Option Failure
  deriving Repr

namespace Found

/-- Nothing found. -/
def none : Found :=
  ⟨[], [], .none⟩

/-- Nothing found but something to note. -/
def noted (record : LogRecord) : Found :=
  ⟨[], [record], .none⟩

/-- Nothing found because of a failure. -/
def stopped (failure : Failure) : Found :=
  ⟨[], [], some failure⟩

/-- Two findings, one after the other.  Nothing is looked for after a stop. -/
def append (a b : Found) : Found :=
  if a.stop.isSome then a else ⟨a.cases ++ b.cases, a.log ++ b.log, b.stop⟩

/-- Findings, one after another. -/
def join (all : List Found) : Found :=
  all.foldr append none

/-- The number of cases that were found, unless looking for them was stopped. -/
def count (found : Found) : Except Failure Nat :=
  match found.stop with
  | some failure => .error failure
  | .none => .ok found.cases.length

@[simp]
theorem join_nil : join [] = none :=
  rfl

@[simp]
theorem join_cons (a : Found) (rest : List Found) : join (a :: rest) = a.append (join rest) :=
  rfl

end Found

/-- What a fixture adds: a case if it can be read, and a warning if it cannot. -/
def foundFixture (tree : FileTree) (limit : Int) (path : Path) : Found :=
  match TestCase.load tree path limit with
  | .ok c => ⟨[c], [], none⟩
  | .error fault =>
    if fault.isUnreadable then .noted (.warning ("Skipping fixture " ++ path.toText ++ ": " ++ fault.message))
    else .stopped fault.failure

/-- What a path adds at which there may be a file. -/
def foundAt (tree : FileTree) (limit : Int) (path : Path) : Found :=
  match tree.hasFile path with
  | .ok true => foundFixture tree limit path
  | .ok false => .none
  | .error fault => .stopped fault.failure

/-- What a directory adds that may not be there. -/
def foundIn (tree : FileTree) (directory : Path) (there absent : Found) : Found :=
  match tree.hasDirectory directory with
  | .ok true => there
  | .ok false => absent
  | .error fault => .stopped fault.failure

/-- What the fixtures below a directory add.  A directory that is not there adds a warning only. -/
def foundBelow (s : Suite) (tree : FileTree) (directory : Path) : Found :=
  foundIn tree directory
    (Found.join (((tree.filesBelow directory).filter s.isFixture).map (foundAt tree s.limit)))
    (.noted (.warning ("Fixture directory " ++ directory.toText ++ " does not exist")))

/-- The directories of a catalog: those of its chapters, and the generic one if it is named. -/
def catalogDirectories (root : Path) (chapters : List Text) (generic : Option Text) : List Path :=
  chapters.map (chapterDirectory root) ++
    ((generic.filter (!·.isEmpty)).map root.child).toList

/-- What the directories of a catalog add.  One that is not there is passed over. -/
def foundInCatalog (s : Suite) (tree : FileTree) (root : Path) (chapters : List Text)
    (generic : Option Text) : Found :=
  Found.join ((catalogDirectories root chapters generic).map fun directory =>
    foundIn tree directory (s.foundBelow tree directory) .none)

/-- A suite after loading, with the number of new cases and what was noted. -/
structure Loaded where
  suite : Suite
  count : Except Failure Nat
  log : List LogRecord

/-- Add what was found. -/
def take (s : Suite) (found : Found) : Loaded :=
  ⟨s.addAll found.cases, found.count, found.log⟩

/-- Add the fixtures below a directory. -/
def loadDirectory (s : Suite) (tree : FileTree) (directory : Path) : Loaded :=
  s.take (s.foundBelow tree directory)

/-- Add the fixtures of a catalog. -/
def loadCatalog (s : Suite) (tree : FileTree) (root : Path) (chapters : List Text)
    (generic : Option Text) : Loaded :=
  s.take (s.foundInCatalog tree root chapters generic)

/-- Replace the cases by the fixtures below a directory. -/
def reload (s : Suite) (tree : FileTree) (directory : Path) : Loaded :=
  s.clear.loadDirectory tree directory

/-! ## Statistics -/

/-- Count one more case of a chapter.  Chapters are kept in the order of their first case. -/
def countChapter (chapter : Text) : List (Text × Nat) → List (Text × Nat)
  | [] => [(chapter, 1)]
  | (other, n) :: rest =>
    if other = chapter then (other, n + 1) :: rest else (other, n) :: countChapter chapter rest

/-- The number of cases of each chapter. -/
def chapterStatistics (s : Suite) : List (Text × Nat) :=
  (s.cases.filterMap (·.chapter?)).foldl (fun counts chapter => countChapter chapter counts) []

end Suite

end Conformance
