import Conformance.Text.Lines
import Conformance.Text.Search

/-!
# Paths

A path is a root and the names below it.  Reading a path drops empty names and single dots; double
dots are kept, since what they mean depends on the tree.
-/

namespace Conformance

/-- Where a path starts. -/
inductive Path.Root
  /-- At the current directory. -/
  | current
  /-- At the top of the tree. -/
  | top
  /-- At the top of the tree, written with two slashes. -/
  | doubled
  deriving Repr, DecidableEq

/-- A path: where it starts and the names that follow. -/
structure Path where
  root : Path.Root
  names : List Text
  deriving Repr, DecidableEq

namespace Path

open Text

/-! ## Reading and writing -/

/-- The root that a text begins with.  Exactly two slashes are a root of their own. -/
def Root.ofChars : List CodePoint → Root
  | .char '/' :: .char '/' :: .char '/' :: _ => .top
  | .char '/' :: .char '/' :: _ => .doubled
  | .char '/' :: _ => .top
  | _ => .current

/-- How a root is written. -/
def Root.text : Root → Text
  | .current => ""
  | .top => "/"
  | .doubled => "//"

/-- Whether a piece between slashes is a name. -/
def isName (piece : List CodePoint) : Bool :=
  !piece.isEmpty && piece != [.char '.']

/-- The path that a text names. -/
def ofText (text : Text) : Path where
  root := Root.ofChars text.toList
  names := ((text.toList.splitOn (.char '/')).filter isName).map Text.ofList

/-- The text of a path.  The empty relative path is a dot. -/
def toText (path : Path) : Text :=
  match path.root, path.names with
  | .current, [] => "."
  | root, names => root.text ++ Text.intercalate "/" names

/-! ## Parts -/

/-- Whether a path starts at the top of the tree. -/
def isAbsolute (path : Path) : Bool :=
  path.root != .current

/-- The path without its last name. -/
def parent (path : Path) : Path :=
  { path with names := path.names.dropLast }

/-- The last name, or nothing for a bare root. -/
def name (path : Path) : Text :=
  path.names.getLastD ""

/-- A path below another one; an absolute path stands for itself. -/
def join (base tail : Path) : Path :=
  if tail.isAbsolute then tail else { base with names := base.names ++ tail.names }

/-- A path below another one, given as text. -/
def child (base : Path) (text : Text) : Path :=
  base.join (ofText text)

/-- What lies under a name in the directory at a path. -/
def below (path : Path) (name : Text) : Path :=
  { path with names := path.names ++ [name] }

/-- Cut a name before its last dot.  A dot at either end of the name does not count. -/
def cutExtension (name : List CodePoint) : List CodePoint × List CodePoint :=
  let tail := name.reverse.takeWhile (· != .char '.')
  let stem := (name.reverse.drop (tail.length + 1)).reverse
  if tail.isEmpty || stem.isEmpty then (name, [])
  else (stem, '.' :: tail.reverse)

/-- The last name without its extension. -/
def stem (path : Path) : Text :=
  Text.ofList (cutExtension path.name.toList).1

/-- The extension of the last name, with its dot. -/
def extension (path : Path) : Text :=
  Text.ofList (cutExtension path.name.toList).2

/-- The path with double dots taken off together with the name before them. -/
def lexical (path : Path) : Path :=
  let step (kept : List Text) (name : Text) : List Text :=
    if name = ".." then kept.dropLast else kept ++ [name]
  { path with names := path.names.foldl step [] }

/-- A path and the paths above it, nearest first. -/
def withParents (path : Path) : List Path :=
  (List.range (path.names.length + 1)).map fun n =>
    { path with names := path.names.take (path.names.length - n) }

/-! ## Small facts -/

@[simp]
theorem join_relative (base tail : Path) (h : tail.root = .current) :
    base.join tail = { base with names := base.names ++ tail.names } := by
  simp [join, isAbsolute, h]

@[simp]
theorem cutExtension_append (name : List CodePoint) :
    (cutExtension name).1 ++ (cutExtension name).2 = name := by
  have h := List.takeWhile_append_dropWhile (p := (· != .char '.')) (l := name.reverse)
  unfold cutExtension
  simp only []
  split
  · simp
  · rename_i hne
    generalize htail : name.reverse.takeWhile (· != .char '.') = tail at *
    have hdrop : name.reverse.dropWhile (· != .char '.') = name.reverse.drop tail.length := by
      simpa using congrArg (List.drop tail.length) h
    cases hrest : name.reverse.dropWhile (· != .char '.') with
    | nil =>
      rw [hrest] at hdrop
      have : (name.reverse.drop (tail.length + 1)) = [] := by
        rw [← List.drop_drop, ← hdrop]
        rfl
      simp [this] at hne
    | cons c rest =>
      have hc : c = .char '.' := by
        have := List.head?_dropWhile_not (fun c => c != .char '.') name.reverse
        rw [hrest] at this
        simpa using this
      have hrest' : name.reverse.drop (tail.length + 1) = rest := by
        rw [← List.drop_drop, ← hdrop, hrest]
        rfl
      rw [hrest', ← List.reverse_reverse name, ← h, hrest, hc]
      simp

end Path

end Conformance
