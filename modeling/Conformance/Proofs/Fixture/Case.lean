import Conformance.Fixture.Suite
import Conformance.Proofs.Document.Json
import Conformance.Proofs.FileTree.Lookup
import Conformance.Proofs.Fixture.Chapter
import Conformance.Fixture.Case
import Conformance.Proofs.Text.Utf8

/-!
# Fixtures and their cases

A fixture is read as a whole or not at all.  One byte more than the limit allows is asked for, so that bytes
which fill what was asked for are too many, and fewer are all that there are.

The name of a case and its chapter are parts of the names on its path.  They can be written if the path can be.

Main results:

- `Fixture.read_of_file`: how a file is read.
- `Fixture.exists_of_read`: what is read is the text of all bytes of an entry, and within the limit.
- `Path.writable_stem`, `TestCase.writable_chapter`: the name and the chapter of a case can be written.
-/

namespace Conformance

/-! ## Reading -/

namespace Fixture

variable {tree : FileTree} {limit : Int} {path : Path}

/-- As many bytes as it takes to read a fixture of a size up to a limit can be asked for. -/
def Askable (limit : Int) : Prop :=
  0 ≤ limit → ∃ n, bytesLength (limit + 1) = .ok n

/-! ### Bytes that are asked for -/

theorem extract_of_size_le {content : ByteArray} {length : Nat} (h : content.size ≤ length) :
    content.extract 0 length = content := by
  apply ByteArray.ext
  rw [ByteArray.data_extract]
  exact Array.extract_eq_self_of_le h

/-- One byte more than the limit is enough to tell whether there are more bytes than that. -/
theorem limit_lt_size_extract_iff {content : ByteArray} {length : Nat} (hlimit : 0 ≤ limit)
    (hlength : bytesLength (limit + 1) = .ok length) :
    limit < (content.extract 0 length).size ↔ limit < content.size := by
  have hasked := eq_toNat_of_bytesLength hlength
  rw [ByteArray.size_extract]
  omega

/-- Bytes that do not go beyond the limit are all that there are. -/
theorem extract_eq_self {content : ByteArray} {length : Nat} (hlimit : 0 ≤ limit)
    (hlength : bytesLength (limit + 1) = .ok length) (h : ¬limit < (content.extract 0 length).size) :
    content.extract 0 length = content := by
  rw [limit_lt_size_extract_iff hlimit hlength] at h
  have hasked := eq_toNat_of_bytesLength hlength
  exact extract_of_size_le (by omega)

/-! ### Reading -/

/-- How a file is read. -/
theorem read_of_file {content : ByteArray} {reported : Nat} (hrefusal : path.refusal? = none)
    (hfind : tree.find path = .ok (.file content reported)) :
    read tree path limit =
      if limit < reported then .error (.tooLarge path reported limit)
      else
        match bytesLength (limit + 1) with
        | .error fault => .error (.capacity fault)
        | .ok _ => if limit < content.size then .error (.grew path limit) else .ok (Text.decode content) := by
  have hcontent : (FileTree.Entry.file content reported).content? = some content := rfl
  unfold read
  rw [hrefusal, hfind]
  dsimp only
  by_cases hlarge : limit < reportedSize (.file content reported)
  · rw [if_pos hlarge]
    exact (if_pos hlarge).symm
  · have hlimit : 0 ≤ limit := by omega
    rw [if_neg hlarge, hcontent]
    refine Eq.trans ?_ (if_neg hlarge).symm
    cases hlength : bytesLength (limit + 1) with
    | error fault => rfl
    | ok length =>
        dsimp only
        by_cases hgrew : limit < (content.extract 0 length).size
        · rw [if_pos hgrew, if_pos ((limit_lt_size_extract_iff hlimit hlength).mp hgrew)]
        · rw [if_neg hgrew, if_neg (mt (limit_lt_size_extract_iff hlimit hlength).mpr hgrew),
            extract_eq_self hlimit hlength hgrew]

/-- A file that cannot be read is at fault itself, if its bytes can be asked for. -/
theorem isUnreadable_of_read_eq_error {fault : ReadFault} {content : ByteArray} {reported : Nat}
    (haskable : Askable limit) (hrefusal : path.refusal? = none)
    (hfind : tree.find path = .ok (.file content reported)) (h : read tree path limit = .error fault) :
    fault.isUnreadable = true := by
  rw [read_of_file hrefusal hfind] at h
  by_cases hlarge : limit < reported
  · rw [if_pos hlarge] at h
    cases h
    rfl
  · obtain ⟨n, hn⟩ := haskable (by omega)
    rw [if_neg hlarge, hn] at h
    dsimp only at h
    by_cases hgrew : limit < content.size
    · rw [if_pos hgrew] at h
      cases h
      rfl
    · rw [if_neg hgrew] at h
      cases h

/-- What is read is the text of all bytes of an entry that neither reports nor holds more than the limit. -/
theorem exists_of_read {text : Text} (h : read tree path limit = .ok text) :
    ∃ entry content, tree.find path = .ok entry ∧ entry.content? = some content ∧
      (reportedSize entry : Int) ≤ limit ∧ (content.size : Int) ≤ limit ∧ text = Text.decode content := by
  unfold read at h
  split at h
  · cases h
  · cases h
  next entry hrefusal hfind =>
    by_cases hlarge : limit < reportedSize entry
    · rw [if_pos hlarge] at h
      cases h
    · rw [if_neg hlarge] at h
      have hlimit : 0 ≤ limit := by omega
      split at h
      · cases h
      · cases h
      next content length hcontent hlength =>
        dsimp only at h
        by_cases hgrew : limit < (content.extract 0 length).size
        · rw [if_pos hgrew] at h
          cases h
        · rw [if_neg hgrew, extract_eq_self hlimit hlength hgrew] at h
          refine ⟨entry, content, hfind, hcontent, by omega, ?_, (Except.ok.inj h).symm⟩
          rw [limit_lt_size_extract_iff hlimit hlength] at hgrew
          omega

end Fixture

/-! ## Paths -/

namespace Path

variable {path : Path}

theorem mem_intercalate {α : Type} {between part : List α} {parts : List (List α)} (h : part ∈ parts) {c : α}
    (hc : c ∈ part) : c ∈ between.intercalate parts := by
  induction parts with
  | nil => cases h
  | cons first rest ih =>
      cases rest with
      | nil =>
          obtain rfl : part = first := List.mem_singleton.mp h
          rwa [List.intercalate_singleton]
      | cons second rest =>
          rw [List.intercalate_cons_cons, List.append_assoc]
          rcases List.mem_cons.mp h with rfl | hrest
          · exact List.mem_append_left _ hc
          · exact List.mem_append_right _ (List.mem_append_right _ (ih hrest))

/-- The names on a path can be written if the path can be. -/
theorem writable_names (h : path.toText.Writable) : ∀ name ∈ path.names, name.Writable := by
  intro name hname c hc
  have htext : path.toText = path.root.text ++ Text.intercalate "/" path.names :=
    toText_of_ne_nil (List.ne_nil_of_mem hname)
  refine h c ?_
  rw [htext, Text.toList_append]
  exact List.mem_append_right _ (mem_intercalate (List.mem_map_of_mem hname) hc)

/-- The name of a file without its extension can be written if its path can be. -/
theorem writable_stem (h : path.toText.Writable) : path.stem.Writable := by
  intro c hc
  have hname : c ∈ path.name.toList := by
    rw [← cutExtension_append path.name.toList]
    exact List.mem_append_left _ hc
  unfold name at hname
  rcases List.eq_nil_or_concat path.names with hnil | ⟨above, last, hnames⟩
  · rw [hnil] at hname
    cases hname
  · rw [List.concat_eq_append] at hnames
    rw [hnames, List.getLastD_concat] at hname
    exact writable_names h last (hnames ▸ List.mem_append_right above List.mem_cons_self) c hname

end Path

/-! ## Cases -/

namespace TestCase

variable {tree : FileTree} {path : Path} {limit : Int} {c : TestCase}

/-- A case that was loaded is called after its path, at which a fixture was read. -/
theorem of_load (h : load tree path limit = .ok c) :
    c.name = c.filePath.stem ∧ ∃ source, Fixture.read tree c.filePath limit = .ok source := by
  unfold load at h
  cases hread : Fixture.read tree path limit with
  | error fault =>
      rw [hread] at h
      cases h
  | ok source =>
      rw [hread] at h
      cases h
      exact ⟨rfl, source, hread⟩

/-- The chapter of a case can be written if its path can be. -/
theorem writable_chapter {chapter : Text} (h : c.filePath.toText.Writable) (hc : c.chapter? = some chapter) :
    chapter.Writable := by
  obtain ⟨name, hname, hchapter⟩ := List.exists_of_findSome?_eq_some hc
  have hmem : name ∈ c.filePath.names := List.dropLast_subset _ (List.mem_reverse.mp hname)
  obtain ⟨-, rfl⟩ := chapterOfName?_eq_some_iff.mp hchapter
  exact fun point hpoint => Path.writable_names h _ hmem point (List.mem_append_right _ hpoint)

end TestCase

end Conformance
