import Conformance.Fixture.Suite
import Conformance.Proofs.Keyed
import Mathlib.Algebra.GroupWithZero.Nat
import Mathlib.Data.List.Induction

/-!
# Chapters of cases

The chapter of a case is that of the nearest directory above it that is called after one.  So a case below the directory
of a chapter belongs to this chapter, wherever that directory lies, unless another one of a chapter lies between them; a
directory whose name says nothing behind the start of such names is none.

The statistics of a suite count its cases by chapter.  Every chapter is counted in one place, in the order in which the
chapters first come up, and cases that belong to no chapter are not counted.

Main results:

- `chapterOfName?_eq_some_iff`: which directories are called after a chapter.
- `TestCase.chapter?_eq_some_iff`: the chapter of a case is that of the nearest of them.
- `Suite.chapterStatistics_eq`: the statistics of a suite.
- `Suite.chapter_below_and_statistics`: the chapters of the cases below a directory, and how often each is counted.
-/

namespace Conformance

open Keyed

variable {name id : Text} {path root below : Path} {c : TestCase}

/-! ## Directories -/

/-- The name of a directory that is called after a chapter. -/
def NamesChapter (name : Text) : Prop :=
  ∃ id : Text, id ≠ "" ∧ name = chapterStart ++ id

theorem chapterOfName?_eq_some_iff : chapterOfName? name = some id ↔ id ≠ "" ∧ name = chapterStart ++ id := by
  unfold chapterOfName?
  dsimp only
  constructor
  · intro h
    split at h
    · rename_i hstart
      obtain ⟨hbegins, hlonger⟩ := Bool.and_eq_true_iff.mp hstart
      obtain ⟨rest, hrest⟩ := List.isPrefixOf_iff_prefix.mp hbegins
      have hdrop : name.toList.drop chapterStart.length = rest := by
        rw [← hrest]
        exact List.drop_left
      obtain rfl : .ofList rest = id := hdrop ▸ Option.some.inj h
      refine ⟨?_, congrArg Text.ofList hrest.symm⟩
      intro hempty
      have hnil : rest = [] := congrArg Text.toList hempty
      rw [← hrest, hnil, List.append_nil] at hlonger
      exact absurd (of_decide_eq_true hlonger) (Nat.lt_irrefl _)
    · cases h
  · rintro ⟨hid, rfl⟩
    have hbegins : chapterStart.toList.isPrefixOf (chapterStart ++ id).toList = true :=
      List.isPrefixOf_iff_prefix.mpr ⟨id.toList, rfl⟩
    have hlength : 0 < id.toList.length := List.length_pos_iff.mpr fun hnil => hid (congrArg Text.ofList hnil)
    have hlonger : chapterStart.length < (chapterStart ++ id).toList.length := by
      rw [Text.toList_append, List.length_append]
      exact Nat.lt_add_of_pos_right hlength
    rw [if_pos (Bool.and_eq_true_iff.mpr ⟨hbegins, decide_eq_true hlonger⟩)]
    exact congrArg (some ∘ Text.ofList) List.drop_left

theorem chapterOfName?_eq_none_iff : chapterOfName? name = none ↔ ¬NamesChapter name := by
  rw [Option.eq_none_iff_forall_ne_some, NamesChapter, not_exists]
  exact forall_congr' fun id => not_congr chapterOfName?_eq_some_iff

/-- A text without slashes is read as a name. -/
theorem Path.ofText_of_name (hslash : .char '/' ∉ name.toList) (hname : isName name.toList = true) :
    ofText name = ⟨.current, [name]⟩ := by
  have hroot : Root.ofChars name.toList = .current := by
    unfold Root.ofChars
    split
    · simp_all
    · simp_all
    · simp_all
    · rfl
  unfold ofText
  rw [hroot, List.splitOn_eq_singleton hslash]
  simp [hname]

/-- The directory of a chapter lies under one name. -/
theorem chapterDirectory_eq_below (root : Path) (h : .char '/' ∉ id.toList) :
    chapterDirectory root id = root.below (chapterStart ++ id) := by
  have hslash : .char '/' ∉ (chapterStart ++ id).toList := by
    rw [Text.toList_append, List.mem_append, not_or]
    exact ⟨by decide, h⟩
  unfold chapterDirectory Path.child
  rw [Path.ofText_of_name hslash rfl]
  rfl

/-! ## Cases -/

namespace TestCase

/-- The chapter of a case is that of the nearest directory above it that is called after one. -/
theorem chapter?_eq_some_iff : c.chapter? = some id ↔
    id ≠ "" ∧ ∃ above between, c.filePath.parent.names = above ++ (chapterStart ++ id) :: between ∧
      ∀ name ∈ between, ¬NamesChapter name := by
  unfold chapter?
  rw [List.findSome?_eq_some_iff]
  constructor
  · rintro ⟨nearer, name, farther, hnames, hname, hnearer⟩
    obtain ⟨hid, rfl⟩ := chapterOfName?_eq_some_iff.mp hname
    refine ⟨hid, farther.reverse, nearer.reverse, ?_, fun name hmem => ?_⟩
    · rw [← List.reverse_reverse c.filePath.parent.names, hnames]
      simp
    · exact chapterOfName?_eq_none_iff.mp (hnearer name (List.mem_reverse.mp hmem))
  · rintro ⟨hid, above, between, hnames, hbetween⟩
    refine ⟨between.reverse, chapterStart ++ id, above.reverse, ?_, chapterOfName?_eq_some_iff.mpr ⟨hid, rfl⟩, ?_⟩
    · rw [hnames]
      simp
    · intro name hmem
      exact chapterOfName?_eq_none_iff.mpr (hbetween name (List.mem_reverse.mp hmem))

/-- A case below the directory of a chapter belongs to the chapter. -/
theorem chapter?_of_below (hid : id ≠ "") (hslash : .char '/' ∉ id.toList) (hrelative : below.isAbsolute = false)
    (hbelow : below.names ≠ []) (hnames : ∀ name ∈ below.parent.names, ¬NamesChapter name)
    (hpath : c.filePath = (chapterDirectory root id).join below) : c.chapter? = some id := by
  refine chapter?_eq_some_iff.mpr ⟨hid, root.names, below.parent.names, ?_, hnames⟩
  rw [hpath, chapterDirectory_eq_below root hslash, Path.join, if_neg (Bool.eq_false_iff.mp hrelative)]
  change ((root.names ++ [chapterStart ++ id]) ++ below.names).dropLast = _
  rw [List.dropLast_append_of_ne_nil hbelow, List.append_assoc]
  rfl

end TestCase

/-! ## Statistics -/

namespace Suite

theorem countChapter_eq_alter (chapter : Text) (counts : List (Text × Nat)) :
    countChapter chapter counts = alter chapter (fun count => count.getD 0 + 1) counts := by
  induction counts with
  | nil => rfl
  | cons entry rest ih =>
      obtain ⟨other, n⟩ := entry
      rw [countChapter, alter, ih]
      rfl

/-- Chapters that are counted one after another: each in one place, in the order in which they first come up. -/
theorem foldl_countChapter (chapters : List Text) :
    chapters.foldl (fun counts chapter => countChapter chapter counts) [] =
      chapters.eraseDups.map fun chapter => (chapter, chapters.count chapter) := by
  induction chapters using List.reverseRecOn with
  | nil => rfl
  | append_singleton chapters chapter ih =>
      have hkeys : (chapters.eraseDups.map fun chapter => (chapter, chapters.count chapter)).map Prod.fst =
          chapters.eraseDups := by
        rw [List.map_map]
        exact List.map_id _
      rw [List.foldl_concat, ih, countChapter_eq_alter, eraseDups_concat]
      by_cases hmem : chapter ∈ chapters
      · have hkey : chapter ∈ chapters.eraseDups := List.mem_eraseDups.mpr hmem
        rw [if_pos hmem, alter_of_mem (hkeys.symm ▸ nodup_eraseDups chapters) (hkeys.symm ▸ hkey), List.map_map]
        refine List.map_congr_left fun other _ => ?_
        by_cases hother : other = chapter
        · simp [hother]
        · simp [hother, Ne.symm hother]
      · have hkey : chapter ∉ chapters.eraseDups := mt List.mem_eraseDups.mp hmem
        rw [if_neg hmem, alter_of_notMem (hkeys.symm ▸ hkey), List.map_append]
        congr 1
        · refine List.map_congr_left fun other hother => ?_
          have hne : chapter ≠ other := fun heq => hkey (heq ▸ hother)
          simp [hne]
        · simp [List.count_eq_zero.mpr hmem]

/-- The statistics of a suite. -/
theorem chapterStatistics_eq (s : Suite) :
    s.chapterStatistics = (s.cases.filterMap (·.chapter?)).eraseDups.map fun chapter =>
      (chapter, s.cases.countP fun c => c.chapter? = some chapter) := by
  refine (foldl_countChapter _).trans (List.map_congr_left fun chapter _ => congrArg (Prod.mk chapter) ?_)
  rw [List.count, List.countP_filterMap]
  refine List.countP_congr fun c _ => ?_
  cases c.chapter? <;> simp

/-- The statistics of a suite count chapters of its cases. -/
theorem exists_of_mem_chapterStatistics {s : Suite} {entry : Text × Nat} (h : entry ∈ s.chapterStatistics) :
    ∃ c ∈ s.cases, c.chapter? = some entry.1 := by
  rw [chapterStatistics_eq] at h
  obtain ⟨chapter, hchapter, rfl⟩ := List.mem_map.mp h
  exact List.mem_filterMap.mp (List.mem_eraseDups.mp hchapter)

/-- The sum of the counts of chapters. -/
def sumOfCounts (counts : List (Text × Nat)) : Nat :=
  (counts.map (·.2)).sum

theorem sumOfCounts_countChapter (chapter : Text) (counts : List (Text × Nat)) :
    sumOfCounts (countChapter chapter counts) = sumOfCounts counts + 1 := by
  unfold sumOfCounts
  induction counts with
  | nil => rfl
  | cons entry rest ih =>
      obtain ⟨other, n⟩ := entry
      unfold countChapter
      by_cases hother : other = chapter
      · rw [if_pos hother]
        simp only [List.map_cons, List.sum_cons]
        omega
      · rw [if_neg hother]
        simp only [List.map_cons, List.sum_cons, ih]
        omega

/-- Every case of a chapter is counted once. -/
theorem sumOfCounts_chapterStatistics (s : Suite) :
    sumOfCounts s.chapterStatistics = s.cases.countP (·.chapter?.isSome) := by
  have hfold (chapters : List Text) (counts : List (Text × Nat)) :
      sumOfCounts (chapters.foldl (fun counts chapter => countChapter chapter counts) counts) =
        sumOfCounts counts + chapters.length := by
    induction chapters generalizing counts with
    | nil => rfl
    | cons chapter rest ih =>
        rw [List.foldl_cons, ih, sumOfCounts_countChapter, List.length_cons]
        omega
  unfold chapterStatistics
  rw [hfold, List.length_filterMap_eq_countP]
  exact Nat.zero_add _

/-- A case below the directory of a chapter belongs to this chapter, wherever the directory lies, if no directory between
them is called after another one.  The statistics of a suite hold every chapter of its cases once, in the order in which
the chapters first come up, and tell how many cases belong to it; together they tell how many cases belong to one. -/
theorem chapter_below_and_statistics :
    (∀ (root below : Path) (id : Text) (c : TestCase), id ≠ "" → .char '/' ∉ id.toList →
      below.isAbsolute = false → below.names ≠ [] → (∀ name ∈ below.parent.names, ¬NamesChapter name) →
      c.filePath = (chapterDirectory root id).join below → c.chapter? = some id) ∧
    ∀ s : Suite,
      (s.chapterStatistics.map (·.1)).Nodup ∧
      s.chapterStatistics.map (·.1) = (s.cases.filterMap (·.chapter?)).eraseDups ∧
      (∀ entry ∈ s.chapterStatistics, entry.2 = s.cases.countP fun c => c.chapter? = some entry.1) ∧
      (s.chapterStatistics.map (·.2)).sum = s.cases.countP (·.chapter?.isSome) := by
  refine ⟨fun root below id c hid hslash hrelative hbelow hnames hpath =>
    TestCase.chapter?_of_below hid hslash hrelative hbelow hnames hpath, fun s => ?_⟩
  have hchapters : s.chapterStatistics.map (·.1) = (s.cases.filterMap (·.chapter?)).eraseDups := by
    rw [chapterStatistics_eq, List.map_map]
    exact List.map_id _
  refine ⟨?_, hchapters, fun entry hentry => ?_, sumOfCounts_chapterStatistics s⟩
  · rw [hchapters]
    exact nodup_eraseDups _
  · rw [chapterStatistics_eq] at hentry
    obtain ⟨chapter, -, rfl⟩ := List.mem_map.mp hentry
    rfl

/-- Directories of other chapters above that of the chapter, one without an id below it, and a file that is called after
a chapter. -/
def nestedPath : Path :=
  (chapterDirectory (Path.ofText "../chapter-9//chapter-10/..") "5.1").join (Path.ofText "chapter-/./a/chapter-7")

/-- A case with nothing but a path. -/
def bareCase (path : Path) : TestCase :=
  ⟨path.stem, path, "", [], false, none⟩

theorem chapter_below_and_statistics_nested :
    (bareCase nestedPath).chapter? = some "5.1" ∧
      ∀ s : Suite, s.cases = [bareCase nestedPath, bareCase (Path.ofText "chapter-/a.sv"),
          bareCase (Path.ofText "chapter-7/a.sv"), bareCase nestedPath] →
        s.chapterStatistics.map (·.1) = (["5.1", "7"] : List Text) ∧ (s.chapterStatistics.map (·.2)).sum = 3 := by
  have hnames : ∀ name ∈ (Path.ofText "chapter-/./a/chapter-7").parent.names, ¬NamesChapter name := by
    have hlist : (Path.ofText "chapter-/./a/chapter-7").parent.names = (["chapter-", "a"] : List Text) := by decide
    rw [hlist]
    intro name hname
    refine chapterOfName?_eq_none_iff.mp ?_
    revert name
    decide
  refine ⟨chapter_below_and_statistics.1 _ _ "5.1" (bareCase nestedPath) (by decide) (by decide) (by decide)
    (by decide) hnames rfl, fun s hcases => ?_⟩
  obtain ⟨-, hchapters, -, hsum⟩ := chapter_below_and_statistics.2 s
  rw [hcases] at hchapters hsum
  exact ⟨hchapters.trans (by decide), hsum.trans (by decide)⟩

end Suite

end Conformance
