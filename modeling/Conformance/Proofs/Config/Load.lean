import Conformance.Config.Load
import Conformance.Proofs.Config.Placeholder
import Conformance.Proofs.Decimal.Binary64
import Conformance.Proofs.Decimal.Unpacked
import Conformance.Proofs.Document.Value
import Conformance.Proofs.Failure

/-!
# Loading configurations

Loading gives a configuration or says that the configuration is wrong, but for a file that cannot be looked for
or read, a text whose reading ends early, and a number that is too large.  Of all values that can stand where a
setting is read, only numbers can be too large for what is asked for: an infinite double has no integer, and an
integer can be beyond all doubles.  Everything else that cannot be used is a wrong value.

Main results:

- `overflows_readInt_iff`: which values are too large for an integer.
- `overflows_readFloat_iff`: which values are too large for a double.
- `overflows_ofEntries_iff`: the settings that are too large.
- `load_settles_iff`: when loading gives a configuration or says that it is wrong.
-/

namespace Conformance.Config

open Decimal

/-! ## Numbers that are too large -/

section Results

variable {α β ε : Type}

/-- A value can be used as a setting. -/
def Usable (result : Except Problem α) : Prop :=
  ∃ a, result = .ok a

/-- A value is a number that is too large. -/
def Overflows (result : Except Problem α) : Prop :=
  ∃ message, result = .error (.overflow message)

@[simp]
theorem not_overflows_ok (a : α) : ¬Overflows (.ok a) :=
  fun ⟨_, h⟩ => nomatch h

@[simp]
theorem not_overflows_pure (a : α) : ¬Overflows (pure a) :=
  not_overflows_ok a

@[simp]
theorem not_overflows_unusable (message : Text) : ¬Overflows (.error (.unusable message) : Except Problem α) :=
  fun ⟨_, h⟩ => nomatch h

@[simp]
theorem not_overflows_notTexts (kind : Text) : ¬Overflows (.error (.notTexts kind) : Except Problem α) :=
  fun ⟨_, h⟩ => nomatch h

/-- Of two values that are read in turn, the second one is too large only if the first one can be used. -/
theorem overflows_bind_iff {first : Except Problem α} {next : α → Except Problem β} :
    Overflows (first >>= next) ↔ Overflows first ∨ ∃ a, first = .ok a ∧ Overflows (next a) := by
  cases first with
  | ok a => simp [Overflows, bind, Except.bind]
  | error problem => simp [Overflows, bind, Except.bind]

/-- A value is no number that is too large if none of the faults in reading it says so. -/
theorem not_overflows_mapError {result : Except ε α} {problemOf : ε → Problem}
    (h : ∀ fault message, problemOf fault ≠ .overflow message) : ¬Overflows (result.mapError problemOf) := by
  cases result with
  | ok a => exact not_overflows_ok a
  | error fault =>
      rintro ⟨message, hmessage⟩
      exact h fault message (Except.error.inj hmessage)

end Results

/-! ### Texts -/

theorem not_overflows_readText (value : Document) : ¬Overflows (readText value) := by
  unfold readText
  split <;> simp

theorem not_overflows_readOptionalText (value : Document) : ¬Overflows (readOptionalText value) := by
  unfold readOptionalText
  split
  · exact not_overflows_readText value
  · simp

theorem not_overflows_readItems (items : List Document) : ¬Overflows (readItems items) := by
  induction items with
  | nil => exact not_overflows_ok []
  | cons item rest ih =>
      rw [readItems, overflows_bind_iff, not_or]
      refine ⟨not_overflows_readText item, ?_⟩
      rintro ⟨first, -, h⟩
      rcases overflows_bind_iff.mp h with h | ⟨others, -, h⟩
      · exact ih h
      · exact not_overflows_pure _ h

theorem not_overflows_readTexts (usual : List Text) (value? : Option Document) :
    ¬Overflows (readTexts usual value?) := by
  unfold readTexts
  split
  · simp
  · simp
  · simp
  · exact not_overflows_readItems _
  · exact not_overflows_readItems _
  · simp

theorem not_overflows_readSwitch (value : Document) : ¬Overflows (readSwitch value) := by
  unfold readSwitch
  split <;> try simp
  split <;> simp

/-! ### Numbers -/

theorem numberProblem_ne_overflow (bytes : List UInt8) (fault : ReadingError) (message : Text) :
    numberProblem bytes fault ≠ .overflow message := by
  unfold numberProblem
  split <;> exact Problem.noConfusion

/-- Of the faults of arithmetic, only that of what is no number is a wrong value. -/
theorem ofFault_eq_overflow_iff {fault : ArithmeticFault} :
    (∃ message, Problem.ofFault fault = .overflow message) ↔ fault ≠ .notNumber := by
  cases fault <;> simp [Problem.ofFault, ArithmeticFault.isBadValue]

theorem overflows_computed_iff {α : Type} {result : Computed α} :
    Overflows (result.mapError Problem.ofFault) ↔ ∃ fault, result = .error fault ∧ fault ≠ .notNumber := by
  cases result with
  | ok a =>
      have hmap : (Except.ok a : Computed α).mapError Problem.ofFault = .ok a := rfl
      simp [hmap]
  | error fault =>
      have hmap : (Except.error fault : Computed α).mapError Problem.ofFault = .error (.ofFault fault) := rfl
      simp [hmap, Overflows, ofFault_eq_overflow_iff]

theorem overflows_truncated_iff {x : Float} :
    Overflows ((truncated x).mapError Problem.ofFault) ↔ ∃ negative, Parts.ofFloat x = .infinite negative := by
  simp only [overflows_computed_iff, truncated_eq_error_iff]
  constructor
  · rintro ⟨fault, ⟨-, hnan⟩ | ⟨hinfinite, -⟩, hother⟩
    · exact absurd hnan hother
    · exact hinfinite
  · exact fun hinfinite => ⟨.infinite, .inr ⟨hinfinite, rfl⟩, by decide⟩

theorem overflows_double_iff {n : Int} :
    Overflows ((double n).mapError Problem.ofFault) ↔ twoTo 1024 ≤ n.natAbs + twoTo 970 := by
  rw [← double_eq_error_iff, overflows_computed_iff, double]
  cases ofInt? n with
  | some x => simp
  | none => simp

/-- The values that are too large for an integer are the infinite doubles. -/
theorem overflows_readInt_iff {value : Document} :
    Overflows (readInt value) ↔ ∃ x negative, value = .float x ∧ Parts.ofFloat x = .infinite negative := by
  cases value with
  | float x => simp [readInt, overflows_truncated_iff]
  | text value => simp [readInt, not_overflows_mapError]
  | bytes value =>
      simp [readInt, not_overflows_mapError fun fault message => numberProblem_ne_overflow value fault message]
  | _ => simp [readInt]

/-- The values that are too large for a double are integers. -/
theorem overflows_readFloat_iff {value : Document} :
    Overflows (readFloat value) ↔ ∃ n, value = .int n ∧ twoTo 1024 ≤ n.natAbs + twoTo 970 := by
  cases value with
  | int n => simp [readFloat, overflows_double_iff]
  | text value => simp [readFloat, not_overflows_mapError]
  | bytes value =>
      simp [readFloat, not_overflows_mapError fun fault message => numberProblem_ne_overflow value fault message]
  | _ => simp [readFloat]

variable {tree : FileTree} {e : Environment} {path : Option Path} {source : Option Path}
  {entries : List (Document × Document)}

/-! ## Settings that are too large -/

/-- The settings of fixtures that are read before the limit can be used. -/
structure UsableUpToLimit (e : Environment) (fixtures : List (Document × Document)) : Prop where
  root : Usable (readText (settingOr e "SVCONFORM_FIXTURES" defaultRoot "root" fixtures))
  chapters : Usable (readTexts Suite.defaultChapters (setting? "chapters" fixtures))
  generic : Usable (readOptionalText (setting "generic_dir" fixtures (.text Suite.defaultGeneric)))
  extensions : Usable (readTexts Suite.defaultExtensions (setting? "extensions" fixtures))

/-- A number among the settings is too large for what it is read as, and all settings that are read before it
can be used. -/
inductive Oversized (e : Environment) (entries : List (Document × Document)) : Prop
  /-- The limit of fixtures is infinite. -/
  | limit {x : Float} {negative : Bool} (before : UsableUpToLimit e (sectionOf "fixtures" entries))
      (given : setting? "max_fixture_bytes" (sectionOf "fixtures" entries) = some (.float x))
      (infinite : Parts.ofFloat x = .infinite negative)
  /-- The time limit of a command is an integer that is beyond all doubles. -/
  | timeout {n : Int} (fixtures : Usable (readFixtures e entries)) (selection : Usable (readSelection e entries))
      (arguments : Usable (readTexts Backend.defaultArguments
        (setting? "argv" (sectionOf "command" (sectionOf "backends" entries)))))
      (given : setting? "timeout" (sectionOf "command" (sectionOf "backends" entries)) = some (.int n))
      (large : twoTo 1024 ≤ n.natAbs + twoTo 970)
  /-- The number of repetitions is infinite. -/
  | iterations {x : Float} {negative : Bool} (fixtures : Usable (readFixtures e entries))
      (selection : Usable (readSelection e entries)) (command : Usable (readCommand entries))
      (given : setting? "iterations" (sectionOf "benchmark" entries) = some (.float x))
      (infinite : Parts.ofFloat x = .infinite negative)

theorem setting_eq_iff {name : Text} {usual value : Document} (h : usual ≠ value) :
    setting name entries usual = value ↔ setting? name entries = some value := by
  unfold setting setting?
  cases (Document.map entries).get? name with
  | none => simp [h]
  | some given => simp

theorem overflows_readFixtures_iff :
    Overflows (readFixtures e entries) ↔
      UsableUpToLimit e (sectionOf "fixtures" entries) ∧
        ∃ x negative, setting? "max_fixture_bytes" (sectionOf "fixtures" entries) = some (.float x) ∧
          Parts.ofFloat x = .infinite negative := by
  have husual : ∀ x, Document.int Fixture.defaultLimit ≠ .float x := fun _ => Document.noConfusion
  simp only [readFixtures, overflows_bind_iff, not_overflows_readText, not_overflows_readTexts,
    not_overflows_readOptionalText, not_overflows_pure, overflows_readInt_iff, setting_eq_iff (husual _),
    and_false, exists_false, false_or, or_false]
  constructor
  · rintro ⟨root, hroot, chapters, hchapters, generic, hgeneric, extensions, hextensions, hnumber⟩
    exact ⟨⟨⟨root, hroot⟩, ⟨chapters, hchapters⟩, ⟨generic, hgeneric⟩, ⟨extensions, hextensions⟩⟩, hnumber⟩
  · rintro ⟨⟨⟨root, hroot⟩, ⟨chapters, hchapters⟩, ⟨generic, hgeneric⟩, ⟨extensions, hextensions⟩⟩, hnumber⟩
    exact ⟨root, hroot, chapters, hchapters, generic, hgeneric, extensions, hextensions, hnumber⟩

theorem not_overflows_readSelection : ¬Overflows (readSelection e entries) := by
  simp only [readSelection, overflows_bind_iff, not_overflows_readText, not_overflows_readTexts,
    not_overflows_pure, and_false, exists_false, or_false, not_false_iff]

theorem overflows_readCommand_iff :
    Overflows (readCommand entries) ↔
      Usable (readTexts Backend.defaultArguments
        (setting? "argv" (sectionOf "command" (sectionOf "backends" entries)))) ∧
        ∃ n, setting? "timeout" (sectionOf "command" (sectionOf "backends" entries)) = some (.int n) ∧
          twoTo 1024 ≤ n.natAbs + twoTo 970 := by
  have husual : ∀ n, Document.ofNumber Backend.defaultTimeout ≠ .int n := fun _ => Document.noConfusion
  simp only [readCommand, overflows_bind_iff, not_overflows_readTexts, not_overflows_pure,
    overflows_readFloat_iff, setting_eq_iff (husual _), and_false, exists_false, false_or, or_false, Usable,
    exists_and_right]

theorem overflows_readIterations_iff :
    Overflows (readIterations entries) ↔
      ∃ x negative, setting? "iterations" (sectionOf "benchmark" entries) = some (.float x) ∧
        Parts.ofFloat x = .infinite negative := by
  have husual : ∀ x, Document.ofNat Benchmark.defaultIterations ≠ .float x := fun _ => Document.noConfusion
  simp only [readIterations, overflows_readInt_iff, setting_eq_iff (husual _)]

theorem not_overflows_readReport : ¬Overflows (readReport entries) := by
  simp only [readReport, overflows_bind_iff, not_overflows_readText, not_overflows_readOptionalText,
    not_overflows_pure, and_false, exists_false, or_false, not_false_iff]

theorem not_overflows_readMonitoring : ¬Overflows (readMonitoring e entries) := by
  simp only [readMonitoring, overflows_bind_iff, not_overflows_readText, not_overflows_readSwitch,
    not_overflows_pure, and_false, exists_false, or_false, not_false_iff]

/-- Settings are too large exactly if one of three numbers is, and is met before anything that cannot be
used. -/
theorem overflows_ofEntries_iff : Overflows (ofEntries e source entries) ↔ Oversized e entries := by
  simp only [ofEntries, overflows_bind_iff, overflows_readFixtures_iff, not_overflows_readSelection,
    overflows_readCommand_iff, overflows_readIterations_iff, not_overflows_readReport,
    not_overflows_readMonitoring, not_overflows_pure, and_false, exists_false, false_or, or_false]
  constructor
  · rintro (⟨hbefore, x, negative, hgiven, hinfinite⟩ | ⟨fixtures, hfixtures, selection, hselection,
      ⟨harguments, n, hgiven, hlarge⟩ | ⟨command, hcommand, x, negative, hgiven, hinfinite⟩⟩)
    · exact .limit hbefore hgiven hinfinite
    · exact .timeout ⟨fixtures, hfixtures⟩ ⟨selection, hselection⟩ harguments hgiven hlarge
    · exact .iterations ⟨fixtures, hfixtures⟩ ⟨selection, hselection⟩ ⟨command, hcommand⟩ hgiven hinfinite
  · rintro (⟨hbefore, hgiven, hinfinite⟩ | ⟨⟨fixtures, hfixtures⟩, ⟨selection, hselection⟩, harguments, hgiven,
      hlarge⟩ | ⟨⟨fixtures, hfixtures⟩, ⟨selection, hselection⟩, ⟨command, hcommand⟩, hgiven, hinfinite⟩)
    · exact .inl ⟨hbefore, _, _, hgiven, hinfinite⟩
    · exact .inr ⟨fixtures, hfixtures, selection, hselection, .inl ⟨harguments, _, hgiven, hlarge⟩⟩
    · exact .inr ⟨fixtures, hfixtures, selection, hselection,
        .inr ⟨command, hcommand, _, _, hgiven, hinfinite⟩⟩

/-! ## Failures of loading -/

/-- Loading ends with a configuration, or with the failure that says that the configuration is wrong. -/
def Settles (result : Except Failure Config) : Prop :=
  (∃ c, result = .ok c) ∨ ∃ message, result = .error (.configuration message)

theorem settles_ok (c : Config) : Settles (.ok c) :=
  .inl ⟨c, rfl⟩

theorem settles_configuration (message : Text) : Settles (.error (.configuration message)) :=
  .inr ⟨message, rfl⟩

theorem not_settles_error {failure : Failure} (h : failure.isConfiguration = false) :
    ¬Settles (.error failure) := by
  rintro (⟨c, hc⟩ | ⟨message, hmessage⟩)
  · cases hc
  · have hconfiguration : (Failure.configuration message).isConfiguration = true := rfl
    rw [Except.error.inj hmessage, hconfiguration] at h
    exact Bool.noConfusion h

/-- How loading can end otherwise. -/
inductive Escapes (tree : FileTree) (e : Environment) (path : Option Path) : Prop
  /-- The file cannot be looked for. -/
  | search {failure : Failure} (fails : sourceOf? tree path = .error failure)
  /-- The file cannot be read, or it is no text. -/
  | reading {file : Path} {failure : Failure} (found : sourceOf? tree path = .ok (some file))
      (fails : readFile tree file = .error failure)
  /-- The text is not malformed, but has no document. -/
  | parsing {file : Path} {text : Text} {fault : Yaml.Fault} (found : sourceOf? tree path = .ok (some file))
      (read : readFile tree file = .ok text) (fails : Yaml.load text = .error fault)
      (other : fault ≠ .malformed)
  /-- A number is too large. -/
  | number {source : Option Path} {entries : List (Document × Document)}
      (read : readSource tree path = .ok (source, entries)) (oversized : Oversized e (resolveEntries e entries).1)

theorem isConfiguration_fault (place : FileTree.FaultAt) : place.failure.isConfiguration = false := by
  obtain ⟨fault, path⟩ := place
  cases fault <;> rfl

theorem isConfiguration_refusal {start : Path} {failure : Failure} (h : start.refusal? = some failure) :
    failure.isConfiguration = false := by
  unfold Path.refusal? textRefusal? at h
  split at h
  · cases h
    rfl
  · split at h
    · cases h
      rfl
    · cases h

/-- What cannot be looked up in a tree is reported as such. -/
theorem isConfiguration_of_mapError {α : Type} {result : Except FileTree.FaultAt α} {failure : Failure}
    (h : result.mapError (·.failure) = .error failure) : failure.isConfiguration = false := by
  cases result with
  | ok a => cases h
  | error place =>
      cases h
      exact isConfiguration_fault place

theorem isConfiguration_of_find? {start : Path} {failure : Failure} (h : find? tree start = .error failure) :
    failure.isConfiguration = false := by
  unfold find? at h
  split at h
  next hrefusal =>
    cases h
    exact isConfiguration_refusal hrefusal
  next => exact isConfiguration_of_mapError h

theorem isConfiguration_of_sourceOf? {failure : Failure} (h : sourceOf? tree path = .error failure) :
    failure.isConfiguration = false := by
  cases path with
  | none => exact isConfiguration_of_find? h
  | some start =>
      cases hfile : tree.hasFile start with
      | error place =>
          simp only [sourceOf?, hfile] at h
          cases h
          exact isConfiguration_fault place
      | ok isFile =>
          cases isFile with
          | false =>
              simp only [sourceOf?, hfile] at h
              exact isConfiguration_of_find? h
          | true =>
              simp only [sourceOf?, hfile] at h
              cases h

theorem isConfiguration_of_readFile {file : Path} {failure : Failure} (h : readFile tree file = .error failure) :
    failure.isConfiguration = false := by
  unfold readFile at h
  split at h
  · split at h
    · cases h
    · cases h
      rfl
    · cases h
      exact isConfiguration_fault _
  · cases h
    exact isConfiguration_fault _

theorem isConfiguration_of_yaml (fault : Yaml.Fault) :
    Failure.isConfiguration ⟨if fault.isExhausted then .exhausted else .plain, fault.typeName, fault.message⟩ =
      false := by
  cases fault with
  | escape code =>
      unfold Failure.isConfiguration Yaml.Fault.typeName
      dsimp only
      split <;> rfl
  | _ => rfl

/-- What is loaded once the entries of a file are there. -/
theorem load_of_readSource (h : readSource tree path = .ok (source, entries)) :
    (load tree e path).1 = (ofEntries e source (resolveEntries e entries).1).mapError
      (·.failure ((source.map Path.toText).getD fileName)) := by
  rw [load, h]

/-- The settings of reporting in a configuration are read from the entries that it is made of. -/
theorem readMonitoring_of_load {c : Config} (h : readSource tree path = .ok (source, entries))
    (hload : (load tree e path).1 = .ok c) : readMonitoring e (resolveEntries e entries).1 = .ok c.monitoring := by
  rw [load_of_readSource h] at hload
  cases hmade : ofEntries e source (resolveEntries e entries).1 with
  | error problem =>
      rw [hmade] at hload
      cases hload
  | ok made =>
      rw [hmade] at hload
      cases hload
      simp only [ofEntries, bind_eq_ok_iff] at hmade
      obtain ⟨_, -, _, -, _, -, _, -, _, -, monitoring, hmonitoring, hc⟩ := hmade
      cases hc
      exact hmonitoring

theorem settles_load_iff_of_readSource (h : readSource tree path = .ok (source, entries)) :
    Settles (load tree e path).1 ↔ ¬Oversized e (resolveEntries e entries).1 := by
  have hoverflows : Overflows (ofEntries e source (resolveEntries e entries).1) ↔
      Oversized e (resolveEntries e entries).1 := overflows_ofEntries_iff
  rw [load_of_readSource h, ← hoverflows]
  cases ofEntries e source (resolveEntries e entries).1 with
  | ok c => exact iff_of_true (settles_ok c) (not_overflows_ok c)
  | error problem =>
      cases problem with
      | notTexts kind => exact iff_of_true (settles_configuration _) (not_overflows_notTexts kind)
      | unusable message => exact iff_of_true (settles_configuration _) (not_overflows_unusable message)
      | overflow message => exact iff_of_false (not_settles_error rfl) (not_not_intro ⟨message, rfl⟩)

section Source

variable {file : Path} {text : Text} {failure : Failure}

theorem readSource_of_error (h : sourceOf? tree path = .error failure) :
    readSource tree path = .error failure := by
  simp only [readSource, h]
  rfl

theorem readSource_of_file (h : sourceOf? tree path = .ok (some file)) :
    readSource tree path = (readEntries tree file).map fun entries => (some file, entries) := by
  simp only [readSource, h]
  cases hentries : readEntries tree file <;> simp only [bind, Except.bind, hentries] <;> rfl

theorem readEntries_of_error (h : readFile tree file = .error failure) :
    readEntries tree file = .error failure := by
  simp only [readEntries, h]
  rfl

theorem readEntries_of_fault {fault : Yaml.Fault} (htext : readFile tree file = .ok text)
    (h : Yaml.load text = .error fault) (hfault : fault ≠ .malformed) :
    readEntries tree file =
      .error ⟨if fault.isExhausted then .exhausted else .plain, fault.typeName, fault.message⟩ := by
  simp only [readEntries, htext, bind, Except.bind, h]

theorem readEntries_of_map (htext : readFile tree file = .ok text) (h : Yaml.load text = .ok (.map entries)) :
    readEntries tree file = .ok entries := by
  simp only [readEntries, htext, bind, Except.bind, h]

/-- What is wrong with the entries of a file is either reported as a wrong configuration, or the file cannot be
read, or its text has no document. -/
theorem readEntries_error_cases (h : readEntries tree file = .error failure) :
    (∃ message, failure = .configuration message) ∨ readFile tree file = .error failure ∨
      ∃ text fault, readFile tree file = .ok text ∧ Yaml.load text = .error fault ∧ fault ≠ .malformed := by
  cases htext : readFile tree file with
  | error failure' =>
      rw [readEntries_of_error htext] at h
      exact .inr (.inl (by rw [Except.error.inj h]))
  | ok text =>
      simp only [readEntries, htext, bind, Except.bind] at h
      split at h
      next => exact .inl ⟨_, (Except.error.inj h).symm⟩
      next fault hfault hload => exact .inr (.inr ⟨text, fault, rfl, hload, hfault⟩)
      next => cases h
      next => cases h
      next => exact .inl ⟨_, (Except.error.inj h).symm⟩

/-- A failure of the source is either reported as a wrong configuration, or it escapes. -/
theorem readSource_error_cases (h : readSource tree path = .error failure) :
    (∃ message, failure = .configuration message) ∨
      failure.isConfiguration = false ∧ Escapes tree e path := by
  cases hfile : sourceOf? tree path with
  | error failure' =>
      rw [readSource_of_error hfile] at h
      cases h
      exact .inr ⟨isConfiguration_of_sourceOf? hfile, .search hfile⟩
  | ok source =>
      cases source with
      | none =>
          simp only [readSource, hfile] at h
          cases h
      | some file =>
          have hentries : readEntries tree file = .error failure := by
            rw [readSource_of_file hfile] at h
            cases hentries : readEntries tree file with
            | error failure' =>
                rw [hentries] at h
                cases h
                rfl
            | ok entries =>
                rw [hentries] at h
                cases h
          rcases readEntries_error_cases hentries with hwrong | hfails | ⟨text, fault, htext, hload, hfault⟩
          · exact .inl hwrong
          · exact .inr ⟨isConfiguration_of_readFile hfails, .reading hfile hfails⟩
          · rw [readEntries_of_fault htext hload hfault] at hentries
            cases hentries
            exact .inr ⟨isConfiguration_of_yaml fault, .parsing hfile htext hload hfault⟩

/-- What escapes is a failure of the source or a number among its entries. -/
theorem Escapes.readSource_cases (h : Escapes tree e path) :
    (∃ failure, readSource tree path = .error failure ∧ failure.isConfiguration = false) ∨
      ∃ source entries, readSource tree path = .ok (source, entries) ∧
        Oversized e (resolveEntries e entries).1 := by
  cases h with
  | search fails => exact .inl ⟨_, readSource_of_error fails, isConfiguration_of_sourceOf? fails⟩
  | reading found fails =>
      refine .inl ⟨_, ?_, isConfiguration_of_readFile fails⟩
      rw [readSource_of_file found, readEntries_of_error fails]
      rfl
  | @parsing _ _ fault found read fails other =>
      refine .inl ⟨_, ?_, isConfiguration_of_yaml fault⟩
      rw [readSource_of_file found, readEntries_of_fault read fails other]
      rfl
  | number read oversized => exact .inr ⟨_, _, read, oversized⟩

end Source

end Conformance.Config
