import Conformance.Config.Validation
import Conformance.Proofs.Fixture.Suite
import Conformance.Proofs.Text.Letters

/-!
# Files with an extension

The extension of a file begins at the last dot of its name, while an entry of a configuration may have more dots
than one, or nothing behind its dot.  A file that ends in such an entry is a fixture only if another entry is what
the name ends in from its last dot on.

Main results:

- `Suite.lowercase_extension`: the extension of a name that ends in an entry.
- `Suite.isFixture_iff_findable`: which files that end in an entry are fixtures.
- `Suite.findable_of_plain`: an entry with a single dot and something behind it finds the files that end in it.
- `Suite.accepted_extensions_find`: what the entries of a valid configuration find when a directory is loaded.
-/

namespace Conformance

open Text

variable {path : Path} {extension : Text} {extensions : List Text}

/-! ## Names -/

namespace Path

theorem takeWhile_reverse_of_notMem (front : List CodePoint) {last : List CodePoint} (hlast : .char '.' ∉ last) :
    (front ++ .char '.' :: last).reverse.takeWhile (· != .char '.') = last.reverse := by
  rw [List.reverse_append, List.reverse_cons, List.append_assoc, List.takeWhile_append_of_pos]
  · simp
  · intro c hc
    simp only [bne_iff_ne, ne_eq]
    rintro rfl
    exact hlast (List.mem_reverse.mp hc)

/-- The extension of a name with a dot behind which there is no other dot. -/
theorem cutExtension_of_notMem {front last : List CodePoint} (hfront : front ≠ []) (hlast : .char '.' ∉ last) :
    (cutExtension (front ++ .char '.' :: last)).2 = if last = [] then [] else .char '.' :: last := by
  have htail := takeWhile_reverse_of_notMem front hlast
  have hstem : ((front ++ .char '.' :: last).reverse.drop (last.reverse.length + 1)).reverse = front := by
    rw [List.reverse_append, List.reverse_cons, List.drop_left' (by simp), List.reverse_reverse]
  unfold cutExtension
  simp only [htail, hstem]
  by_cases hempty : last = []
  · simp [hempty]
  · simp [hempty, hfront]

/-- The last name of a path is a stem with an extension behind it, of which the letters may be of either case. -/
def EndsIn (path : Path) (extension : Text) : Prop :=
  ∃ stem ending : Text, path.name = stem ++ ending ∧ stem ≠ "" ∧ AlikeInCase ending extension

end Path

/-! ## Entries -/

namespace Suite

/-- An extension from its last dot on. -/
def lastPart (extension : Text) : Text :=
  .ofList (.char '.' :: (extension.toList.reverse.takeWhile (· != .char '.')).reverse)

/-- A dot with something behind it in which there is no other dot. -/
def IsPlain (extension : Text) : Prop :=
  ∃ last, extension.toList = .char '.' :: last ∧ last ≠ [] ∧ .char '.' ∉ last

/-- An extension of some is findable if it has something behind its last dot, and if it is one of them from there
on. -/
structure Findable (extensions : List Text) (extension : Text) : Prop where
  named : lastPart extension ≠ "."
  listed : ∃ other ∈ extensions, lowercase other = lowercase (lastPart extension)

/-- What stands behind the last dot of a text. -/
theorem exists_last_dot {points : List CodePoint} (h : .char '.' ∈ points) :
    ∃ front last, points = front ++ .char '.' :: last ∧ .char '.' ∉ last := by
  obtain ⟨behind, before, hsplit, hbehind⟩ := List.eq_append_cons_of_mem (List.mem_reverse.mpr h)
  refine ⟨before.reverse, behind.reverse, ?_, by simpa using hbehind⟩
  rw [← List.reverse_reverse points, hsplit]
  simp

theorem lastPart_of_notMem {front last : List CodePoint} (hlast : .char '.' ∉ last)
    (h : extension.toList = front ++ .char '.' :: last) : lastPart extension = .ofList (.char '.' :: last) := by
  unfold lastPart
  rw [h, Path.takeWhile_reverse_of_notMem front hlast, List.reverse_reverse]

theorem lastPart_of_plain (h : IsPlain extension) : lastPart extension = extension := by
  obtain ⟨last, hlist, -, hlast⟩ := h
  have hfront : extension.toList = [] ++ .char '.' :: last := hlist
  rw [lastPart_of_notMem hlast hfront, ← hlist]

/-- An entry with a single dot and something behind it finds the files that end in it. -/
theorem findable_of_plain (hplain : IsPlain extension) (hmem : extension ∈ extensions) :
    Findable extensions extension := by
  have hlast := lastPart_of_plain hplain
  refine ⟨?_, extension, hmem, by rw [hlast]⟩
  rw [hlast]
  obtain ⟨last, hlist, hne, -⟩ := hplain
  rintro rfl
  exact hne (List.cons.inj hlist).2.symm

/-! ## Fixtures -/

theorem foldCase_dot_iff (c : CodePoint) : foldCase c = .char '.' ↔ c = .char '.' := by
  rcases foldCase_cases c with hsame | ⟨d, -, hlast, rfl⟩
  · rw [hsame]
  · exact forall_ascii (P := fun d => foldCase (.char d) = .char '.' ↔ CodePoint.char d = .char '.') (by decide)
      (show d.toNat < 128 by omega)

theorem map_foldCase_notMem {points : List CodePoint} : .char '.' ∉ points.map foldCase ↔ .char '.' ∉ points := by
  simp [foldCase_dot_iff]

/-- Where the dots of a text are does not depend on its capitals. -/
theorem exists_of_alikeInCase {ending : Text} {front last : List CodePoint} (h : AlikeInCase ending extension)
    (hlist : extension.toList = front ++ .char '.' :: last) (hlast : .char '.' ∉ last) :
    ∃ front' last', ending.toList = front' ++ .char '.' :: last' ∧ .char '.' ∉ last' ∧
      last'.map foldCase = last.map foldCase := by
  unfold AlikeInCase at h
  rw [hlist, List.map_append, List.map_cons] at h
  obtain ⟨front', behind, hending, -, hbehind⟩ := List.map_eq_append_iff.mp h
  obtain ⟨dot, last', rfl, hdot, hlast'⟩ := List.map_eq_cons_iff.mp hbehind
  have hdot' : dot = .char '.' := (foldCase_dot_iff dot).mp (hdot.trans ((foldCase_dot_iff _).mpr rfl))
  refine ⟨front', last', by rw [hending, hdot'], ?_, hlast'⟩
  rw [← map_foldCase_notMem, hlast', map_foldCase_notMem]
  exact hlast

/-- The extension of a name that ends in an entry is what the entry is from its last dot on, up to case, if there is
something behind that dot. -/
theorem lowercase_extension (h : path.EndsIn extension) (hdot : .char '.' ∈ extension.toList) :
    lowercase path.extension =
      if lastPart extension = "." then ("" : Text) else lowercase (lastPart extension) := by
  obtain ⟨stem, ending, hname, hstem, halike⟩ := h
  obtain ⟨front, last, hlist, hlast⟩ := exists_last_dot hdot
  obtain ⟨front', last', hending, hlast', hfold⟩ := exists_of_alikeInCase halike hlist hlast
  have hfront : stem.toList ++ front' ≠ [] := by
    intro hnil
    exact hstem (congrArg Text.ofList (List.append_eq_nil_iff.mp hnil).1)
  have hchars : path.name.toList = stem.toList ++ front' ++ .char '.' :: last' := by
    rw [hname, toList_append, hending, List.append_assoc]
  have hempty : last' = [] ↔ last = [] := by
    rw [← List.map_eq_nil_iff (f := foldCase), hfold, List.map_eq_nil_iff]
  have hpart := lastPart_of_notMem hlast hlist
  unfold Path.extension
  rw [hchars, Path.cutExtension_of_notMem hfront hlast', hpart]
  by_cases hlast : last = []
  · subst hlast
    simp [hempty.mpr rfl]
    rfl
  · have hne : Text.ofList (.char '.' :: last) ≠ "." := by
      intro hdots
      exact hlast (List.cons.inj (congrArg Text.toList hdots)).2
    rw [if_neg (mt hempty.mp hlast), if_neg hne]
    apply AlikeInCase.lowercase_eq
    simp [AlikeInCase, hfold]

/-- A file that ends in an entry is a fixture exactly if the entry is findable. -/
theorem isFixture_iff_findable (limit : Int) (hdots : ∀ other ∈ extensions, ∃ rest, other.toList = .char '.' :: rest)
    (hmem : extension ∈ extensions) (h : path.EndsIn extension) :
    (create extensions limit).isFixture path = true ↔ Findable extensions extension := by
  have hdot : .char '.' ∈ extension.toList := by
    obtain ⟨rest, hrest⟩ := hdots extension hmem
    simp [hrest]
  have hcontains : (create extensions limit).isFixture path = true ↔
      ∃ other ∈ extensions, lowercase other = lowercase path.extension := by
    simp [isFixture, create]
  rw [hcontains, lowercase_extension h hdot]
  by_cases hlast : lastPart extension = "."
  · rw [if_pos hlast]
    constructor
    · rintro ⟨other, hother, hempty⟩
      obtain ⟨rest, hrest⟩ := hdots other hother
      have hlower : lower other.toList = [] := congrArg Text.toList hempty
      rw [hrest] at hlower
      cases hlower
    · intro hfindable
      exact absurd hlast hfindable.named
  · rw [if_neg hlast]
    exact ⟨fun hlisted => ⟨hlast, hlisted⟩, fun hfindable => hfindable.listed⟩

/-! ## Valid configurations -/

/-- What the entries of a valid configuration find.

A file that ends in an entry is a fixture, and is looked at when a directory above it is loaded, exactly if the entry
is findable: it has something behind its last dot, and the part from that dot on is an entry, too, up to case.  An
entry with a single dot and something behind it is. -/
theorem accepted_extensions_find {c : Config} {backend : Option Text} (hvalid : c.errors backend = .ok [])
    (hmem : extension ∈ c.fixtures.extensions) (limit : Int) (h : path.EndsIn extension) :
    ((create c.fixtures.extensions limit).isFixture path = true ↔ Findable c.fixtures.extensions extension) ∧
      (IsPlain extension → Findable c.fixtures.extensions extension) ∧
      ∀ (tree : FileTree) (directory : Path), tree.top.Tidy → tree.hasDirectory directory = .ok true →
        tree.Fits directory → Fixture.Askable limit → tree.FileBelow directory path →
        ∃ files, (create c.fixtures.extensions limit).loadDirectory tree directory =
            (create c.fixtures.extensions limit).afterFiles tree files ∧
          files = (tree.filesBelow directory).filter (create c.fixtures.extensions limit).isFixture ∧
          (path ∈ files ↔ Findable c.fixtures.extensions extension) := by
  have hdots : ∀ other ∈ c.fixtures.extensions, ∃ rest, other.toList = .char '.' :: rest := fun other hother =>
    Config.exists_of_startsWithDot (Config.startsWithDot_of_errors hvalid hother)
  have hfixture := isFixture_iff_findable limit hdots hmem h
  refine ⟨hfixture, fun hplain => findable_of_plain hplain hmem, ?_⟩
  intro tree directory htree hdirectory hfits haskable hfile
  refine ⟨_, loadDirectory_eq_afterFiles _ htree hdirectory hfits haskable, rfl, ?_⟩
  rw [List.mem_filter, FileTree.mem_filesBelow_iff htree hdirectory hfits]
  constructor
  · intro hfound
    exact hfixture.mp hfound.2
  · intro hfindable
    exact ⟨hfile, hfixture.mpr hfindable⟩

/-- A valid configuration of which one entry has two dots. -/
def dottedConfig : Config :=
  { Config.default with fixtures := { Config.default.fixtures with extensions := [".tb.vh", ".Sv"] } }

theorem accepted_extensions_find_dotted :
    dottedConfig.errors none = .ok [] ∧
      (create dottedConfig.fixtures.extensions 100).isFixture (smallPath.below "a.tb.VH") = false ∧
      ∃ files, (create dottedConfig.fixtures.extensions 100).loadDirectory smallTree smallPath =
          (create dottedConfig.fixtures.extensions 100).afterFiles smallTree files ∧
        smallPath.below "a.SV" ∈ files := by
  have hvalid : dottedConfig.errors none = .ok [] := by rfl
  refine ⟨hvalid, ?_, ?_⟩
  · have hends : (smallPath.below "a.tb.VH").EndsIn ".tb.vh" := ⟨"a", ".tb.VH", by decide, by decide, by decide⟩
    have hentry : (".tb.vh" : Text) ∈ dottedConfig.fixtures.extensions := List.mem_cons_self
    obtain ⟨hfixture, -, -⟩ := accepted_extensions_find hvalid hentry 100 hends
    rw [Bool.eq_false_iff]
    intro hfound
    obtain ⟨other, hother, hlower⟩ := (hfixture.mp hfound).listed
    revert other
    decide +kernel
  · have hends : (smallPath.below "a.SV").EndsIn ".Sv" := ⟨"a", ".SV", by decide, by decide, by decide⟩
    have hentry : (".Sv" : Text) ∈ dottedConfig.fixtures.extensions := List.mem_cons_of_mem _ List.mem_cons_self
    have hfile : smallTree.FileBelow smallPath (smallPath.below "a.SV") :=
      ⟨_, "a.SV", [], rfl, ⟨_, _, .inside List.mem_cons_self (.here _)⟩, rfl⟩
    obtain ⟨-, hplain, hload⟩ := accepted_extensions_find hvalid hentry 100 hends
    obtain ⟨files, hafter, -, hmem⟩ := hload smallTree smallPath tidy_smallTree rfl fits_smallTree
      (fun _ => ⟨101, rfl⟩) hfile
    exact ⟨files, hafter, hmem.mpr (hplain ⟨_, rfl, by decide, by decide⟩)⟩

end Suite

end Conformance
