import Conformance.Backend.Command
import Conformance.Proofs.FileTree.Change
import Conformance.Proofs.Fixture.Directive

/-!
# What a tool is started with

A command that names the place of the file is started on the path of the file, wherever the place is named.  Before a
program is started it is checked that there is a command, that its time limit is above zero and that its directory is
there; what is started for a file in a work directory passes these checks once the file has been written.

Main results:

- `Text.contains_replaceAll`: a text with a part replaced contains what the part was replaced by.
- `Backend.Subprocess.prepare_eq`: what is checked before anything is made of what is asked for.
- `Backend.Command.shows_launch`: what a tool is started with shows it the file of the source and passes the checks.
-/

namespace Conformance

/-! ## Replacing -/

namespace Text

variable {part image text done : List CodePoint} {skip : Nat}

/-- What has been made of a text stays in front of what is made of the rest. -/
theorem prefix_replaceFrom (part image : List CodePoint) (skip : Nat) (text done : List CodePoint) :
    done.reverse <+: replaceFrom part image skip text done := by
  fun_induction replaceFrom part image skip text done with
  | case1 => exact List.prefix_rfl
  | case2 _ _ _ _ ih => exact ih
  | case3 c rest done _ ih =>
      rw [List.reverse_append, List.reverse_reverse] at ih
      exact (List.prefix_append _ _).trans ih
  | case4 c rest done _ ih =>
      rw [List.reverse_cons] at ih
      exact (List.prefix_append _ _).trans ih

/-- Where a part stands in a text, what it is replaced by stands in the result. -/
theorem infix_replaceFrom (hpart : part ≠ []) (h : part <:+: text) (done : List CodePoint) :
    image <:+: replaceFrom part image 0 text done := by
  induction text generalizing done with
  | nil => exact absurd (List.infix_nil.mp h) hpart
  | cons c rest ih =>
      by_cases hfront : part.isPrefixOf (c :: rest) = true
      · rw [replaceFrom, if_pos hfront]
        have hdone := prefix_replaceFrom part image (part.length - 1) rest (image.reverse ++ done)
        rw [List.reverse_append, List.reverse_reverse] at hdone
        exact (List.suffix_append _ _).isInfix.trans hdone.isInfix
      · rw [replaceFrom, if_neg hfront]
        rw [List.isPrefixOf_iff_prefix] at hfront
        exact ih ((List.infix_cons_iff.mp h).resolve_left hfront) _

theorem contains_iff {text part : Text} : text.contains part = true ↔ part.toList <:+: text.toList :=
  Fixture.occursIn_iff_infix

/-- A text with a part replaced contains what the part was replaced by, if it contains the part. -/
theorem contains_replaceAll {text part : Text} (hpart : part.toList ≠ []) (h : text.contains part = true)
    (image : Text) : (replaceAll part image text).contains image = true :=
  contains_iff.mpr (infix_replaceFrom hpart (contains_iff.mp h) [])

end Text

/-! ## What lies above -/

namespace Text

/-- A name does not get shorter by what is put behind it. -/
theorem nameSize_le_append (a b : Text) : nameSize a ≤ nameSize (a ++ b) := by
  have hmore (points : List CodePoint) (size : Nat) :
      size ≤ points.foldl (fun size c => size + (bytesOfCodePoint c).length) size := by
    induction points generalizing size with
    | nil => exact Nat.le_refl size
    | cons c rest ih => exact Nat.le_trans (Nat.le_add_right _ _) (ih _)
  unfold nameSize
  rw [toList_append, List.foldl_append]
  exact hmore b.toList _

end Text

namespace Path

theorem parent_below (directory : Path) (name : Text) : (directory.below name).parent = directory := by
  unfold below parent
  rw [List.dropLast_concat]

end Path

namespace FileTree

variable {tree : FileTree} {path : Path} {entry last : Entry} {above : List Entry} {names more : List Text}

/-- Names that lead somewhere have led somewhere on the way. -/
theorem exists_follow_of_append (h : follow above entry (names ++ more) = .ok last) :
    ∃ middle, follow above entry names = .ok middle := by
  induction names generalizing above entry with
  | nil => exact ⟨entry, follow_nil above entry⟩
  | cons name rest ih =>
      cases entry with
      | file content reported => cases h
      | sink => cases h
      | link target => cases h
      | directory entries =>
          rw [List.cons_append] at h
          obtain rfl | ⟨hup, hshort, entry, hentry⟩ := follow_cases h
          · rw [follow_up] at h ⊢
            exact ih h
          · rw [follow_name _ hup hshort hentry] at h ⊢
            exact ih h

/-- The directory of what is found is found. -/
theorem exists_find_of_below {directory : Path} {name : Text} (hnames : directory.names ≠ [])
    (h : tree.find (directory.below name) = .ok entry) : ∃ above, tree.find directory = .ok above := by
  have hbelow : (directory.below name).names ≠ [] :=
    List.append_ne_nil_of_right_ne_nil directory.names (List.cons_ne_nil name [])
  obtain ⟨hshort, hfollow⟩ := find_eq_follow_of_ne h (fun hne => nomatch hne)
  obtain ⟨last, hconcat⟩ := absoluteNames_eq_concat tree hbelow
  rw [Path.parent_below] at hconcat
  rw [hconcat] at hfollow
  obtain ⟨middle, hmiddle⟩ := exists_follow_of_append hfollow
  rw [Path.toText_below, Path.lead, if_neg hnames, Text.append_assoc] at hshort
  refine ⟨middle, ?_⟩
  unfold find
  rw [if_neg (Nat.not_lt.mpr (Nat.le_trans (Text.nameSize_le_append _ _) hshort)), hmiddle]

end FileTree

/-! ## What is checked -/

namespace Backend

open Decimal

namespace Subprocess

/-- What is checked before anything is made of what is asked for: that there is a command, that the time limit is
above zero, and that the directory is there. -/
def checked (tree : FileTree) (l : Launch) : Except Failure (Number × Path) := do
  if !l.command.isTruthy then .error (.badValue "Command cannot be empty")
  let timeout ← readTimeout l.timeout
  let directory ← readDirectory tree l.directory
  pure (timeout, directory)

/-- What is made of what is asked for, once it has been checked. -/
def invocation (l : Launch) (timeout : Number) (directory : Path) : Except Failure Invocation := do
  let entries ← readEntries l.environment
  let parts ← l.command.parts
  let environment ← entries.mapM (·.mapM readVariable)
  let command ← parts.mapM readArgument
  for (name, value) in environment.getD [] do
    refuseNull name
    refuseNull value
  pure ⟨command, directory, timeout, environment⟩

/-- Nothing is made of what is asked for before it has been checked. -/
theorem prepare_eq (tree : FileTree) (l : Launch) :
    prepare tree l = checked tree l >>= fun (timeout, directory) => invocation l timeout directory := by
  unfold prepare checked
  cases l.command.isTruthy with
  | false => rfl
  | true =>
      cases readTimeout l.timeout with
      | error failure => rfl
      | ok timeout => cases readDirectory tree l.directory <;> rfl

theorem asNumber_ofNumber (number : Number) : (Document.ofNumber number).asNumber = .ok number := by
  cases number <;> rfl

/-- A time limit above zero is accepted. -/
theorem readTimeout_ofNumber {number : Number} (h : number.isNotPositive = false) :
    readTimeout (.ofNumber number) = .ok number := by
  unfold readTimeout
  rw [asNumber_ofNumber]
  change (if number.isNotPositive then _ else _) = _
  rw [if_neg (Bool.eq_false_iff.mp h)]

/-- A command with arguments is one. -/
theorem isTruthy_texts {arguments : List Text} (h : arguments ≠ []) : (Document.texts arguments).isTruthy = true := by
  cases arguments with
  | nil => exact absurd rfl h
  | cons first rest => rfl

/-- What is asked for passes the checks if there is a command, the time limit is above zero, and the directory is
there. -/
theorem checked_eq_ok {tree : FileTree} {l : Launch} {arguments : List Text} {limit : Number} {directory : Path}
    (hcommand : l.command = .texts arguments) (hne : arguments ≠ []) (hlimit : l.timeout = .ofNumber limit)
    (hpositive : limit.isNotPositive = false) (hdirectory : readDirectory tree l.directory = .ok directory) :
    checked tree l = .ok (limit, directory) := by
  unfold checked
  rw [hcommand, isTruthy_texts hne, hlimit, readTimeout_ofNumber hpositive, hdirectory]
  rfl

/-- A directory with an absolute path is there if something is found in it. -/
theorem readDirectory_of_below {tree : FileTree} {directory : Path} {name : Text} {entry : FileTree.Entry}
    (htop : directory.root = .top) (hnames : directory.names ≠ []) (hdown : ∀ name ∈ directory.names, name ≠ "..")
    (hrefusal : directory.refusal? = none) (h : tree.find (directory.below name) = .ok entry) :
    readDirectory tree directory = .ok directory := by
  have hresolve : tree.resolve directory = directory := by
    obtain ⟨root, names⟩ := directory
    cases htop
    exact Path.lexical_eq_self hdown
  obtain ⟨above, habove⟩ := FileTree.exists_find_of_below hnames h
  unfold readDirectory
  dsimp only
  rw [hresolve, hrefusal, habove]

end Subprocess

/-! ## Work directories -/

namespace Workspace

/-- Numbers are written in digits. -/
theorem isDigit_of_mem_paddedNumber {width n : Nat} {c : Char} (h : c ∈ (paddedNumber width n).toList) :
    c.isDigit = true := by
  rw [paddedNumber, String.toList_ofList, padZeros, List.mem_append] at h
  rcases h with h | h
  · rw [List.eq_of_mem_replicate h]
    rfl
  · exact Nat.isDigit_of_mem_toDigits (by decide) (by decide) h

/-- The name of a work directory. -/
def directoryName (owner serial : Nat) : String :=
  s!"svconform-{paddedNumber 4 owner}_{paddedNumber 3 serial}"

theorem path_eq_below (owner serial : Nat) :
    path owner serial = (⟨.top, ["tmp"]⟩ : Path).below (Text.ofString (directoryName owner serial)) :=
  rfl

theorem toList_directoryName (owner serial : Nat) :
    (directoryName owner serial).toList =
      "svconform-".toList ++ (paddedNumber 4 owner).toList ++ "_".toList ++ (paddedNumber 3 serial).toList := by
  simp only [directoryName, String.toList_append]
  rfl

/-- A work directory can be looked up. -/
theorem refusal?_path (owner serial : Nat) : (path owner serial).refusal? = none := by
  have hnull : '\x00' ∉ (directoryName owner serial).toList := by
    have hdigits (width n : Nat) : '\x00' ∉ (paddedNumber width n).toList := fun h =>
      absurd (isDigit_of_mem_paddedNumber h) (by decide)
    rw [toList_directoryName]
    simp [hdigits]
  rw [path_eq_below]
  refine Path.refusal?_below (by decide) (textRefusal?_eq_none_iff.mpr ⟨?_, ?_⟩)
  · refine Text.findUnencodable_eq_none_iff.mpr fun c hc => ?_
    rw [Text.toList_ofString] at hc
    obtain ⟨c, -, rfl⟩ := List.mem_map.mp hc
    rfl
  · unfold Text.hasNull Text.ofString Text.ofChars
    simpa using hnull

theorem down_path (owner serial : Nat) : ∀ name ∈ (path owner serial).names, name ≠ ".." := by
  refine List.forall_mem_cons.mpr ⟨by decide, List.forall_mem_singleton.mpr fun h => ?_⟩
  have hname : directoryName owner serial = ".." := by
    have hstring := congrArg Text.string? h
    rw [Text.string?_ofString, Text.string?_ofString] at hstring
    exact Option.some.inj hstring
  have hhead := congrArg (·.toList.head?) hname
  rw [toList_directoryName] at hhead
  simp at hhead

end Workspace

/-! ## Commands -/

namespace Command

variable {s : CommandSettings} {owner : Nat} {w : Workspace} {source : Text} {file : SourceFile}

/-- Settings with which a tool can be run on a file: there is a command, it names the place of the file, and the time
limit is a number above zero. -/
structure Runnable (s : CommandSettings) (limit : Number) : Prop where
  command : s.arguments ≠ []
  placeholder : ∃ argument ∈ s.arguments, argument.contains filePlaceholder = true
  timeout : s.timeout = .ofNumber limit
  positive : limit.isNotPositive = false

/-- What a tool is started with shows it a file: the file has the name of a source in the directory in which the tool
is started, its path stands in an argument of the command, and the checks are passed in any tree in which something
lies at that path. -/
structure Shows (l : Launch) (file : SourceFile) : Prop where
  place : file.path = l.directory.below sourceName
  argument : ∃ arguments, l.command = .texts arguments ∧ arguments ≠ [] ∧
    ∃ argument ∈ arguments, argument.contains file.path.toText = true
  checks : ∀ tree entry, tree.find file.path = .ok entry →
    ∃ limit, Subprocess.checked tree l = .ok (limit, l.directory)

theorem child_sourceName (directory : Path) : directory.child sourceName = directory.below sourceName := by
  have hname : Path.ofText sourceName = ⟨.current, [sourceName]⟩ := by decide
  unfold Path.child
  rw [hname]
  rfl

theorem path_of_sourceFile {directory : Path} (h : sourceFile directory source = .ok file) :
    file.path = directory.below sourceName := by
  unfold sourceFile at h
  cases hencode : Text.encode source with
  | error fault =>
      rw [hencode] at h
      cases h
  | ok content =>
      rw [hencode] at h
      cases h
      exact child_sourceName directory

/-- A command that names the place of the file shows the path of the file. -/
theorem exists_mem_command (h : ∃ argument ∈ s.arguments, argument.contains filePlaceholder = true) (path : Path) :
    ∃ argument ∈ s.command path, argument.contains path.toText = true := by
  obtain ⟨argument, hmem, hcontains⟩ := h
  exact ⟨_, List.mem_map_of_mem hmem, Text.contains_replaceAll (by decide) hcontains path.toText⟩

/-- A tool that can be run is started so that it is shown the file of the source. -/
theorem shows_launch {limit : Number} (hs : Runnable s limit)
    (h : sourceFile (directoryOf owner w) source = .ok file) : Shows (launch s (directoryOf owner w)) file := by
  have hplace := path_of_sourceFile h
  have hne : s.command ((directoryOf owner w).child sourceName) ≠ [] := mt List.map_eq_nil_iff.mp hs.command
  refine ⟨hplace, ⟨_, rfl, hne, ?_⟩, fun tree entry hfind => ⟨limit, ?_⟩⟩
  · rw [hplace, ← child_sourceName]
    exact exists_mem_command hs.placeholder _
  · rw [hplace] at hfind
    have hdirectory := Subprocess.readDirectory_of_below rfl (List.cons_ne_nil _ _) (Workspace.down_path owner _)
      (Workspace.refusal?_path owner _) hfind
    exact Subprocess.checked_eq_ok rfl hne hs.timeout hs.positive hdirectory

end Command

end Backend

end Conformance
