import Conformance.Proofs.FileTree.Lookup

/-!
# Changing what lies at a path

What is put at a path is found there, if the path leads down only.  The directories on the way are made if they
are missing.

Main results:

- `FileTree.find_put`: what is put at a path is found there.
- `FileTree.holds_of_writeText`: a text that was written to a file is found there.
-/

namespace Conformance

open Text

/-! ## Names that lead down -/

namespace Path

/-- A path without double dots names a place as it is. -/
theorem lexical_eq_self {path : Path} (h : ∀ name ∈ path.names, name ≠ "..") : path.lexical = path := by
  have hfold (names kept : List Text) (h : ∀ name ∈ names, name ≠ "..") :
      names.foldl (fun (kept : List Text) (name : Text) =>
        if name = ".." then kept.dropLast else kept ++ [name]) kept = kept ++ names := by
    induction names generalizing kept with
    | nil => exact (List.append_nil kept).symm
    | cons name rest ih =>
        obtain ⟨hname, hrest⟩ := List.forall_mem_cons.mp h
        rw [List.foldl_cons, if_neg hname, ih _ hrest, List.append_assoc]
        rfl
  unfold lexical
  dsimp only
  rw [hfold path.names [] h]
  rfl

end Path

namespace FileTree

variable {tree written : FileTree} {path : Path} {names : List Text} {above : List Entry} {entry last : Entry}

/-- Names that lead down, and that can be looked up. -/
def LeadDown (names : List Text) : Prop :=
  ∀ name ∈ names, name ≠ ".." ∧ nameSize name ≤ nameLimit

theorem LeadDown.append {rest : List Text} (hnames : LeadDown names) (hrest : LeadDown rest) :
    LeadDown (names ++ rest) :=
  List.forall_mem_append.mpr ⟨hnames, hrest⟩

/-- Names that are followed lead down, unless one of them leads up. -/
theorem leadDown_of_follow (hup : ∀ name ∈ names, name ≠ "..") (h : follow above entry names = .ok last) :
    LeadDown names := by
  induction names generalizing above entry with
  | nil => exact fun _ hmem => nomatch hmem
  | cons name rest ih =>
      obtain ⟨hname, hrest⟩ := List.forall_mem_cons.mp hup
      cases entry with
      | file content reported => cases h
      | sink => cases h
      | link target => cases h
      | directory entries =>
          obtain hdots | ⟨-, hshort, entry, hentry⟩ := follow_cases h
          · exact absurd hdots hname
          · rw [follow_name rest hname hshort hentry] at h
            exact List.forall_mem_cons.mpr ⟨⟨hname, Nat.le_of_not_lt hshort⟩, ih hrest h⟩

/-- A name that is missing from a directory can be looked up. -/
theorem leadDown_of_missing {entries : List (Text × Entry)} {name : Text} (hup : name ≠ "..")
    (h : follow above (.directory entries) [name] = .error .notFound) : LeadDown [name] := by
  rw [follow_directory, if_neg hup] at h
  by_cases hlong : nameLimit < nameSize name
  · rw [if_pos hlong] at h
    cases h
  · exact List.forall_mem_singleton.mpr ⟨hup, Nat.le_of_not_lt hlong⟩

/-! ## Putting -/

theorem lookup_insertEntry (name : Text) (entry : Entry) (entries : List (Text × Entry)) :
    (insertEntry name entry entries).lookup name = some entry := by
  induction entries with
  | nil => exact List.lookup_cons_self
  | cons first rest ih =>
      obtain ⟨other, old⟩ := first
      unfold insertEntry
      by_cases hless : name < other
      · rw [if_pos hless]
        exact List.lookup_cons_self
      · by_cases hname : name = other
        · rw [if_neg hless, if_pos hname]
          exact List.lookup_cons_self
        · rw [if_neg hless, if_neg hname, List.lookup_cons, beq_false_of_ne hname]
          exact ih

/-- What is put under names is found there. -/
theorem follow_update (hnames : LeadDown names) (new : Entry) (old : Option Entry) (above : List Entry) :
    ∃ changed, Entry.update (fun _ => some new) names old = some changed ∧
      follow above changed names = .ok new := by
  induction names generalizing old above with
  | nil => exact ⟨new, rfl, follow_nil above new⟩
  | cons name rest ih =>
      obtain ⟨⟨hup, hshort⟩, hrest⟩ := List.forall_mem_cons.mp hnames
      let entries := (old.map Entry.entries).getD []
      have hbelow (above : List Entry) := ih hrest (entries.lookup name) above
      obtain ⟨below, hupdate, -⟩ := hbelow []
      refine ⟨.directory (insertEntry name below entries), ?_, ?_⟩
      · unfold Entry.update
        dsimp only
        rw [hupdate]
      · rw [follow_name rest hup (Nat.not_lt.mpr hshort) (lookup_insertEntry name below entries)]
        obtain ⟨below', hupdate', hfollow⟩ := hbelow (.directory (insertEntry name below entries) :: above)
        rw [hupdate] at hupdate'
        cases hupdate'
        exact hfollow

/-- A path leads down in a tree, whose current directory is named as it is read. -/
structure LeadsDown (tree : FileTree) (path : Path) : Prop where
  current : ∀ name ∈ tree.current, asName name = name
  names : ∀ name ∈ tree.absoluteNames path, name ≠ ".."

/-- A path that leads down names a place as it is. -/
theorem LeadsDown.names_resolve (h : tree.LeadsDown path) :
    (tree.resolve path).asRead.names = tree.absoluteNames path := by
  have hread : (Path.asRead ⟨.top, if path.isAbsolute then path.names else tree.current ++ path.names⟩).names =
      tree.absoluteNames path := by
    unfold absoluteNames Path.asRead
    dsimp only
    split
    · rfl
    · rw [List.map_append, (List.map_congr_left h.current).trans (List.map_id tree.current)]
  unfold resolve
  rw [Path.lexical_eq_self, hread]
  intro name hname hup
  refine h.names (asName name) ?_ ?_
  · rw [← hread]
    exact List.mem_map_of_mem hname
  · rw [hup]
    decide

/-- What is put at a path is found there. -/
theorem find_put (h : tree.LeadsDown path) (hnames : LeadDown (tree.absoluteNames path))
    (hshort : nameSize path.toText ≤ pathLimit) (entry : Entry) :
    (tree.put path entry).find path = .ok entry := by
  obtain ⟨changed, hupdate, hfollow⟩ := follow_update hnames entry (some tree.top) []
  have htop : (tree.put path entry).top = changed := by
    unfold put update
    dsimp only
    rw [h.names_resolve, hupdate]
    rfl
  unfold find
  rw [if_neg (Nat.not_lt.mpr hshort), htop]
  exact hfollow

/-! ## Writing -/

/-- The names on a path are those on the path above it, with one more. -/
theorem absoluteNames_eq_concat (tree : FileTree) (h : path.names ≠ []) :
    ∃ name, tree.absoluteNames path = tree.absoluteNames path.parent ++ [name] := by
  refine ⟨asName (path.names.getLast h), ?_⟩
  have hread : path.asRead.names = path.parent.asRead.names ++ [asName (path.names.getLast h)] := by
    unfold Path.asRead Path.parent
    dsimp only
    rw [← List.map_singleton, ← List.map_append, List.dropLast_concat_getLast]
  unfold absoluteNames
  rw [hread]
  by_cases habsolute : path.isAbsolute = true
  · rw [if_pos habsolute, if_pos (show path.parent.isAbsolute = true from habsolute)]
  · rw [if_neg habsolute, if_neg (show ¬path.parent.isAbsolute = true from habsolute), List.append_assoc]

/-- A path that is looked up without being too long is followed. -/
theorem find_eq_follow_of_ne {result : Except Fault Entry} (h : tree.find path = result)
    (hresult : result ≠ .error .nameTooLong) :
    nameSize path.toText ≤ pathLimit ∧ follow [] tree.top (tree.absoluteNames path) = result := by
  unfold find at h
  by_cases hlong : pathLimit < nameSize path.toText
  · rw [if_pos hlong] at h
    exact absurd h.symm hresult
  · rw [if_neg hlong] at h
    exact ⟨Nat.le_of_not_lt hlong, h⟩

/-- A path at which there is nothing, in a directory that is there, can be looked up. -/
theorem leadDown_of_notFound {entries : List (Text × Entry)} (h : tree.LeadsDown path)
    (hmissing : tree.find path = .error .notFound)
    (hparent : tree.find path.parent = .ok (.directory entries)) : LeadDown (tree.absoluteNames path) := by
  have hnames : path.names ≠ [] := by
    intro hnil
    have hself : path.parent = path := by
      unfold Path.parent
      rw [hnil]
      exact congrArg (Path.mk path.root) hnil.symm
    rw [hself, hmissing] at hparent
    cases hparent
  obtain ⟨name, hconcat⟩ := absoluteNames_eq_concat tree hnames
  obtain ⟨-, hfollow⟩ := find_eq_follow_of_ne hmissing (fun hne => nomatch hne)
  obtain ⟨above, habove⟩ := follow_append (find_eq_follow hparent)
  have hup := h.names
  rw [hconcat, List.forall_mem_append, List.forall_mem_singleton] at hup
  rw [hconcat, habove] at hfollow
  rw [hconcat]
  exact (leadDown_of_follow hup.1 (find_eq_follow hparent)).append (leadDown_of_missing hup.2 hfollow)

/-- Bytes that were written to a file are found there, unless a device took them. -/
theorem find_of_writeBytes {content : ByteArray} (h : tree.LeadsDown path)
    (hwrite : tree.writeBytes path content = .ok written) :
    written.find path = .ok (.plain content) ∨ written.find path = .ok .sink := by
  unfold writeBytes at hwrite
  split at hwrite
  case h_1 => cases hwrite
  case h_2 hfind =>
    cases hwrite
    obtain ⟨hshort, hfollow⟩ := find_eq_follow_of_ne hfind (fun hne => nomatch hne)
    exact .inl (find_put h (leadDown_of_follow h.names hfollow) hshort _)
  case h_3 hfind =>
    cases hwrite
    exact .inr hfind
  case h_4 => cases hwrite
  case h_5 hmissing =>
    split at hwrite
    case h_1 entry hparent =>
      cases entry with
      | directory entries =>
          cases hwrite
          obtain ⟨hshort, -⟩ := find_eq_follow_of_ne hmissing (fun hne => nomatch hne)
          exact .inl (find_put h (leadDown_of_notFound h hmissing hparent) hshort _)
      | file content reported => cases hwrite
      | sink => cases hwrite
      | link target => cases hwrite
    case h_2 => cases hwrite
  case h_6 => cases hwrite

/-- There is a file with a text at a path, or a device that has taken the text. -/
def Holds (tree : FileTree) (path : Path) (text : Text) : Prop :=
  ∃ content, encode text = .ok content ∧
    (tree.find path = .ok (.plain content) ∨ tree.find path = .ok .sink)

/-- A text that was written to a file is found there. -/
theorem holds_of_writeText {text : Text} (h : tree.LeadsDown path)
    (hwrite : tree.writeText path text = (written, .ok ())) : written.Holds path text := by
  unfold writeText at hwrite
  cases hencode : encode text with
  | error fault =>
      rw [hencode] at hwrite
      dsimp only at hwrite
      split at hwrite <;> cases hwrite
  | ok content =>
      rw [hencode] at hwrite
      dsimp only at hwrite
      split at hwrite
      case h_1 hbytes =>
        cases hwrite
        exact ⟨content, hencode, find_of_writeBytes h hbytes⟩
      case h_2 => cases hwrite

/-! ## Directories -/

theorem current_of_makeDirectory (h : tree.makeDirectory path = .ok written) :
    written.current = tree.current := by
  unfold makeDirectory at h
  split at h
  · cases h
  · split at h
    · split at h
      · cases h
        rfl
      · cases h
    · cases h
  · cases h

/-- Making directories does not change the current one. -/
theorem current_of_makeDirectories {fuel : Nat} (h : tree.makeDirectories fuel path = .ok written) :
    written.current = tree.current := by
  induction fuel generalizing path written with
  | zero =>
      unfold makeDirectories at h
      split at h
      case h_1 hmade =>
        cases h
        exact current_of_makeDirectory hmade
      case h_2 => cases h
      case h_3 =>
        split at h <;> cases h
        rfl
  | succ fuel ih =>
      unfold makeDirectories at h
      split at h
      case h_1 hmade =>
        cases h
        exact current_of_makeDirectory hmade
      case h_2 =>
        dsimp only at h
        split at h
        case h_1 => cases h
        case h_2 above habove =>
          split at h
          case h_1 hmade =>
            cases h
            exact (current_of_makeDirectory hmade).trans (ih habove)
          case h_2 =>
            split at h <;> cases h
            exact ih habove
      case h_3 =>
        split at h <;> cases h
        rfl

/-- Whether a path leads down depends only on the current directory. -/
theorem LeadsDown.of_current_eq (h : tree.LeadsDown path) (hcurrent : written.current = tree.current) :
    written.LeadsDown path where
  current := hcurrent ▸ h.current
  names := by
    unfold absoluteNames
    rw [hcurrent]
    exact h.names

end FileTree

end Conformance
