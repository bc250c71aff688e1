import Conformance.FileTree.Basic
import Conformance.Proofs.FileTree.Lookup

/-!
# What a walk finds

A walk below a directory finds every file there once: the files of a directory come before what lies below its
subdirectories, and both in the order of their names.  Directories whose paths are too long are passed over.

Main results:

- `Entry.mem_filesBelow_iff`: a walk finds the files that lie below an entry.
- `Entry.pairwise_filesBelow`: it finds them in walking order.
- `mem_filesBelow_iff`, `pairwise_filesBelow`: the same for a directory of a tree.
-/

namespace Conformance.FileTree

/-! ## Order -/

/-- What lies at the first names comes before what lies at the other names when a tree is walked. -/
inductive WalkBefore : List Text → List Text → Prop
  /-- The files of a directory come in the order of their names. -/
  | files {a b : Text} : a < b → WalkBefore [a] [b]
  /-- They come before what lies deeper. -/
  | deeper {a b b' : Text} {bs : List Text} : WalkBefore [a] (b :: b' :: bs)
  /-- The subdirectories come in the order of their names. -/
  | directories {a a' b b' : Text} {as bs : List Text} : a < b → WalkBefore (a :: a' :: as) (b :: b' :: bs)
  | within {a : Text} {as bs : List Text} : WalkBefore as bs → WalkBefore (a :: as) (a :: bs)

theorem WalkBefore.prepend {as bs : List Text} (h : WalkBefore as bs) (above : List Text) :
    WalkBefore (above ++ as) (above ++ bs) := by
  induction above with
  | nil => exact h
  | cons a above ih => exact .within ih

/-- Nothing comes before itself, so that no file is found twice. -/
theorem WalkBefore.irrefl (as : List Text) : ¬WalkBefore as as := by
  intro h
  induction as with
  | nil => cases h
  | cons a as ih =>
      cases h with
      | files hless => exact Text.lt_irrefl a hless
      | directories hless => exact Text.lt_irrefl a hless
      | within hinner => exact ih hinner

/-! ## Files of a directory -/

theorem mem_directFiles_iff {path p : Path} {entries : List (Text × Entry)} :
    p ∈ directFiles path entries ↔
      ∃ name content reported, (name, .file content reported) ∈ entries ∧ p = path.below name := by
  induction entries with
  | nil => simp [directFiles]
  | cons entry rest ih =>
      obtain ⟨name, entry⟩ := entry
      cases entry with
      | file content reported =>
          rw [directFiles, List.mem_cons, ih]
          constructor
          · rintro (rfl | ⟨name', content', reported', hmem, rfl⟩)
            · exact ⟨name, content, reported, List.mem_cons_self, rfl⟩
            · exact ⟨name', content', reported', List.mem_cons_of_mem _ hmem, rfl⟩
          · rintro ⟨name', content', reported', hmem, rfl⟩
            rcases List.mem_cons.mp hmem with heq | hmem
            · cases heq
              exact .inl rfl
            · exact .inr ⟨name', content', reported', hmem, rfl⟩
      | directory _ | sink | link _ =>
          rw [directFiles, ih]
          simp

theorem mem_deeperFiles_iff {limit : Nat} {path p : Path} {entries : List (Text × Entry)} :
    p ∈ deeperFiles limit path entries ↔
      ∃ name entry, (name, entry) ∈ entries ∧ p ∈ entry.filesBelow limit (path.below name) := by
  induction entries with
  | nil => simp [deeperFiles]
  | cons entry rest ih =>
      obtain ⟨name, entry⟩ := entry
      rw [deeperFiles, List.mem_append, ih]
      constructor
      · rintro (hmem | ⟨name', entry', hmem, hp⟩)
        · exact ⟨name, entry, List.mem_cons_self, hmem⟩
        · exact ⟨name', entry', List.mem_cons_of_mem _ hmem, hp⟩
      · rintro ⟨name', entry', hmem, hp⟩
        rcases List.mem_cons.mp hmem with heq | hmem
        · cases heq
          exact .inl hp
        · exact .inr ⟨name', entry', hmem, hp⟩

/-! ## Files below an entry -/

namespace Entry

/-- There is a file under names, one below another, from an entry. -/
def HasFileAt (entry : Entry) (names : List Text) : Prop :=
  ∃ content reported, entry.Reaches names (.file content reported)

/-- The paths of all directories from an entry on, which lies at a path, can be listed. -/
def Listable (limit : Nat) (path : Path) (entry : Entry) : Prop :=
  ∀ names entries, entry.Reaches names (.directory entries) →
    Text.nameSize (path.descend names).toText ≤ limit

variable {limit : Nat} {path p : Path} {entry : Entry}

theorem Listable.inside {entries : List (Text × Entry)} {name : Text}
    (h : (Entry.directory entries).Listable limit path) (hmem : (name, entry) ∈ entries) :
    entry.Listable limit (path.below name) := by
  intro names inner hreaches
  rw [Path.below_descend]
  exact h _ inner (.inside hmem hreaches)

theorem Listable.filesBelow_eq {entries : List (Text × Entry)}
    (h : (Entry.directory entries).Listable limit path) :
    (Entry.directory entries).filesBelow limit path =
      directFiles path entries ++ deeperFiles limit path entries := by
  have hshort := h [] entries (.here _)
  rw [Path.descend_nil] at hshort
  rw [filesBelow, if_neg (Nat.not_lt.mpr hshort)]

/-- Whatever a walk finds is a file below the entry. -/
theorem hasFileAt_of_mem_filesBelow (htidy : entry.Tidy) (h : p ∈ entry.filesBelow limit path) :
    ∃ name names, entry.HasFileAt (name :: names) ∧ p = path.descend (name :: names) := by
  induction htidy generalizing path p with
  | file content reported => cases h
  | sink => cases h
  | @directory entries _ _ _ ih =>
      rw [filesBelow] at h
      split at h
      · cases h
      · rcases List.mem_append.mp h with hdirect | hdeeper
        · obtain ⟨name, content, reported, hmem, rfl⟩ := mem_directFiles_iff.mp hdirect
          exact ⟨name, [], ⟨content, reported, .inside hmem (.here _)⟩, rfl⟩
        · obtain ⟨name, entry, hmem, hp⟩ := mem_deeperFiles_iff.mp hdeeper
          obtain ⟨inner, names, ⟨content, reported, hreaches⟩, rfl⟩ := ih (name, entry) hmem hp
          exact ⟨name, inner :: names, ⟨content, reported, .inside hmem hreaches⟩, Path.below_descend ..⟩

/-- A walk finds the files below an entry, if all directories there can be listed. -/
theorem mem_filesBelow_iff (htidy : entry.Tidy) (hlist : entry.Listable limit path) :
    p ∈ entry.filesBelow limit path ↔
      ∃ name names, entry.HasFileAt (name :: names) ∧ p = path.descend (name :: names) := by
  refine ⟨hasFileAt_of_mem_filesBelow htidy, ?_⟩
  induction htidy generalizing path p with
  | file content reported =>
      rintro ⟨name, names, ⟨_, _, hreaches⟩, -⟩
      cases hreaches
  | sink =>
      rintro ⟨name, names, ⟨_, _, hreaches⟩, -⟩
      cases hreaches
  | @directory entries _ _ _ ih =>
      rintro ⟨name, names, ⟨content, reported, hreaches⟩, rfl⟩
      rw [hlist.filesBelow_eq, List.mem_append]
      cases hreaches with
      | @inside _ _ _ entry _ hmem hinner =>
          cases names with
          | nil =>
              cases hinner
              exact .inl (mem_directFiles_iff.mpr ⟨name, content, reported, hmem, rfl⟩)
          | cons inner names =>
              refine .inr (mem_deeperFiles_iff.mpr ⟨name, entry, hmem, ?_⟩)
              exact ih (name, entry) hmem (hlist.inside hmem)
                ⟨inner, names, ⟨content, reported, hinner⟩, (Path.below_descend ..).symm⟩

/-! ## Walking order -/

theorem pairwise_directFiles {entries : List (Text × Entry)}
    (hordered : entries.Pairwise fun a b => a.1 < b.1) :
    (directFiles path entries).Pairwise fun p q => WalkBefore p.names q.names := by
  induction entries with
  | nil => exact .nil
  | cons entry rest ih =>
      obtain ⟨name, entry⟩ := entry
      obtain ⟨hhead, hrest⟩ := List.pairwise_cons.mp hordered
      cases entry with
      | file content reported =>
          refine .cons (fun q hq => ?_) (ih hrest)
          obtain ⟨name', content', reported', hmem, rfl⟩ := mem_directFiles_iff.mp hq
          exact (WalkBefore.files (hhead _ hmem)).prepend path.names
      | directory _ | sink | link _ => exact ih hrest

theorem pairwise_deeperFiles {entries : List (Text × Entry)} (hordered : entries.Pairwise fun a b => a.1 < b.1)
    (htidy : ∀ entry ∈ entries, entry.2.Tidy)
    (hinner : ∀ entry ∈ entries, (entry.2.filesBelow limit (path.below entry.1)).Pairwise fun p q =>
      WalkBefore p.names q.names) :
    (deeperFiles limit path entries).Pairwise fun p q => WalkBefore p.names q.names := by
  induction entries with
  | nil => exact .nil
  | cons entry rest ih =>
      obtain ⟨name, entry⟩ := entry
      obtain ⟨hhead, hrest⟩ := List.pairwise_cons.mp hordered
      obtain ⟨hentry, hothers⟩ := List.forall_mem_cons.mp htidy
      obtain ⟨hfirst, hlater⟩ := List.forall_mem_cons.mp hinner
      refine List.pairwise_append.mpr ⟨hfirst, ih hrest hothers hlater, fun p hp q hq => ?_⟩
      obtain ⟨name', entry', hmem, hq⟩ := mem_deeperFiles_iff.mp hq
      obtain ⟨inner, names, -, rfl⟩ := hasFileAt_of_mem_filesBelow hentry hp
      obtain ⟨inner', names', -, rfl⟩ := hasFileAt_of_mem_filesBelow (hothers _ hmem) hq
      rw [Path.below_descend, Path.below_descend]
      exact (WalkBefore.directories (hhead _ hmem)).prepend path.names

/-- A walk finds the files below an entry in walking order, and none of them twice. -/
theorem pairwise_filesBelow (htidy : entry.Tidy) :
    (entry.filesBelow limit path).Pairwise fun p q => WalkBefore p.names q.names := by
  induction htidy generalizing path with
  | file content reported => exact .nil
  | sink => exact .nil
  | @directory entries _ hordered hbelow ih =>
      rw [filesBelow]
      split
      · exact .nil
      · refine List.pairwise_append.mpr ⟨pairwise_directFiles hordered,
          pairwise_deeperFiles hordered hbelow fun entry hmem => ih entry hmem, fun p hp q hq => ?_⟩
        obtain ⟨name, content, reported, -, rfl⟩ := mem_directFiles_iff.mp hp
        obtain ⟨name', entry', hmem, hq⟩ := mem_deeperFiles_iff.mp hq
        obtain ⟨inner, names, -, rfl⟩ := hasFileAt_of_mem_filesBelow (hbelow _ hmem) hq
        rw [Path.below_descend]
        exact WalkBefore.deeper.prepend path.names

end Entry

/-! ## Files below a directory -/

variable {tree : FileTree} {directory p : Path}

/-- There is a file at a path below the directory at another one. -/
def FileBelow (tree : FileTree) (directory p : Path) : Prop :=
  ∃ entry name names, tree.find directory = .ok entry ∧ entry.HasFileAt (name :: names) ∧
    p = directory.descend (name :: names)

/-- No path of a directory or of a file below the directory at a path is too long. -/
def Fits (tree : FileTree) (directory : Path) : Prop :=
  ∀ entry, tree.find directory = .ok entry →
    entry.Listable (listingLimit directory) directory ∧
      ∀ names, entry.HasFileAt names → Text.nameSize (directory.descend names).toText ≤ pathLimit

theorem find_of_hasDirectory (h : tree.hasDirectory directory = .ok true) :
    directory.refusal? = none ∧ ∃ entries, tree.find directory = .ok (.directory entries) := by
  unfold hasDirectory entryAt? at h
  split at h
  · cases h
  next hrefusal =>
    refine ⟨Option.not_isSome_iff_eq_none.mp hrefusal, ?_⟩
    cases hfind : tree.find directory with
    | error fault =>
        rw [hfind] at h
        cases fault <;> cases h
    | ok entry =>
        rw [hfind] at h
        cases entry with
        | directory entries => exact ⟨entries, rfl⟩
        | file _ _ | sink | link _ => cases h

/-- A walk finds the files below a directory. -/
theorem mem_filesBelow_iff (htree : tree.top.Tidy) (hdirectory : tree.hasDirectory directory = .ok true)
    (hfits : tree.Fits directory) : p ∈ tree.filesBelow directory ↔ tree.FileBelow directory p := by
  obtain ⟨-, entries, hfind⟩ := find_of_hasDirectory hdirectory
  have hwalk := Entry.mem_filesBelow_iff (p := p) (tidy_of_find htree hfind) (hfits _ hfind).1
  unfold filesBelow FileBelow
  rw [hfind]
  dsimp only
  rw [hwalk]
  constructor
  · rintro ⟨name, names, hfile, rfl⟩
    exact ⟨_, name, names, rfl, hfile, rfl⟩
  · rintro ⟨_, name, names, hentry, hfile, rfl⟩
    cases hentry
    exact ⟨name, names, hfile, rfl⟩

/-- A walk finds the files below a directory in walking order, and none of them twice. -/
theorem pairwise_filesBelow (htree : tree.top.Tidy) (directory : Path) :
    (tree.filesBelow directory).Pairwise fun p q => WalkBefore p.names q.names := by
  unfold filesBelow
  cases hfind : tree.find directory with
  | error fault => exact .nil
  | ok entry => exact Entry.pairwise_filesBelow (tidy_of_find htree hfind)

/-- A file below a directory is found at its path. -/
theorem FileBelow.find_eq (h : tree.FileBelow directory p) (htree : tree.top.Tidy)
    (hdirectory : tree.hasDirectory directory = .ok true) (hfits : tree.Fits directory) :
    p.refusal? = none ∧ ∃ content reported, tree.find p = .ok (.file content reported) := by
  obtain ⟨entry, name, names, hfind, ⟨content, reported, hreaches⟩, rfl⟩ := h
  have hnames := (tidy_of_find htree hfind).isFileName_of_reaches hreaches
  refine ⟨Path.refusal?_descend (find_of_hasDirectory hdirectory).1 fun name hname =>
    (hnames name hname).accepted, content, reported, ?_⟩
  exact find_descend htree hfind hreaches ((hfits entry hfind).2 _ ⟨content, reported, hreaches⟩)

end Conformance.FileTree
