import Conformance.Proofs.Document.Json
import Conformance.Proofs.Document.Value
import Conformance.Proofs.Failure
import Conformance.Proofs.FileTree.Change
import Conformance.Proofs.Run.Report
import Conformance.Report.Json

/-!
# What a report says

The report of a run holds its figures and the result of each case.  Further entries of a report do not touch
them.

Main results:

- `Report.exists_text_eq_ok`: a run that has a speed has a report.
- `Report.tells_of_document`: the report of a run tells its results.
- `Report.writable_of_document`: the report of a run can be written if its texts can be.
- `Report.holds_of_write`: a report that was written to a file is found there.
-/

namespace Conformance

/-! ## Mappings -/

namespace Document

variable {name other : Text} {value : Document} {entries : List (Document × Document)}

/-- A key that is given a value does not change the values of other keys. -/
theorem lookupBy_put_of_ne (h : other ≠ name) :
    lookupBy (isText name) (put other value entries) = lookupBy (isText name) entries := by
  have hother : isText name (.text other) = false := beq_false_of_ne h
  unfold put
  induction entries with
  | nil =>
      simp only [assign, lookupBy, hother]
      rfl
  | cons entry rest ih =>
      obtain ⟨key, old⟩ := entry
      unfold assign
      by_cases hkey : isText other key = true
      · have hname : isText name key = false := by
          cases key with
          | text found =>
              obtain rfl : found = other := beq_iff_eq.mp hkey
              exact hother
          | _ => rfl
        simp only [hkey, if_true, lookupBy, hname]
        rfl
      · rw [if_neg hkey, lookupBy, lookupBy, ih]

/-- What is kept of a document when further keys are given values. -/
theorem get?_foldl_put {extra : List (Text × Document)} (h : ∀ entry ∈ extra, entry.1 ≠ name) :
    (Document.map (extra.foldl (fun entries entry => put entry.1 entry.2 entries) entries)).get? name =
      (Document.map entries).get? name := by
  induction extra generalizing entries with
  | nil => rfl
  | cons entry rest ih =>
      obtain ⟨hentry, hrest⟩ := List.forall_mem_cons.mp h
      exact (ih hrest).trans (lookupBy_put_of_ne hentry)

/-- Every entry of a mapping has a text as its key, and can be written. -/
def WritableEntries (entries : List (Document × Document)) : Prop :=
  ∀ entry ∈ entries, (∃ name : Text, entry.1 = .text name ∧ name.Writable) ∧ entry.2.Writable

theorem WritableEntries.writable (h : WritableEntries entries) : (Document.map entries).Writable :=
  .map (fun entry hentry => (h entry hentry).1) fun entry hentry => (h entry hentry).2

theorem WritableEntries.cons {rest : List (Document × Document)} (hname : name.Writable)
    (hvalue : value.Writable) (hrest : WritableEntries rest) : WritableEntries ((.text name, value) :: rest) :=
  List.forall_mem_cons.mpr ⟨⟨⟨name, rfl, hname⟩, hvalue⟩, hrest⟩

theorem WritableEntries.put (hname : name.Writable) (hvalue : value.Writable) (h : WritableEntries entries) :
    WritableEntries (Document.put name value entries) := by
  unfold Document.put
  induction entries with
  | nil => exact .cons hname hvalue h
  | cons entry rest ih =>
      obtain ⟨hentry, hrest⟩ := List.forall_mem_cons.mp h
      obtain ⟨key, old⟩ := entry
      unfold assign
      by_cases hkey : isText name key = true
      · rw [if_pos hkey]
        exact List.forall_mem_cons.mpr ⟨⟨hentry.1, hvalue⟩, hrest⟩
      · rw [if_neg hkey]
        exact List.forall_mem_cons.mpr ⟨hentry, ih hrest⟩

theorem WritableEntries.foldl_put {extra : List (Text × Document)}
    (hextra : ∀ entry ∈ extra, entry.1.Writable ∧ entry.2.Writable) (h : WritableEntries entries) :
    WritableEntries (extra.foldl (fun entries entry => Document.put entry.1 entry.2 entries) entries) := by
  induction extra generalizing entries with
  | nil => exact h
  | cons entry rest ih =>
      obtain ⟨⟨hname, hvalue⟩, hrest⟩ := List.forall_mem_cons.mp hextra
      exact ih hrest (h.put hname hvalue)

/-- A record can be written if its names and its values can be. -/
theorem WritableEntries.of_fields {fields : List (Text × Document)}
    (h : ∀ field ∈ fields, field.1.Writable ∧ field.2.Writable) :
    WritableEntries (fields.map fun field => (.text field.1, field.2)) := by
  intro entry hentry
  obtain ⟨field, hfield, rfl⟩ := List.mem_map.mp hentry
  obtain ⟨hname, hvalue⟩ := h field hfield
  exact ⟨⟨field.1, rfl, hname⟩, hvalue⟩

theorem Writable.record {fields : List (Text × Document)}
    (h : ∀ field ∈ fields, field.1.Writable ∧ field.2.Writable) : (Document.record fields).Writable :=
  (WritableEntries.of_fields h).writable

theorem Writable.texts {items : List Text} (h : ∀ item ∈ items, item.Writable) :
    (Document.texts items).Writable := by
  refine .list fun d hd => ?_
  obtain ⟨item, hitem, rfl⟩ := List.mem_map.mp hd
  exact .text (h item hitem)

end Document

/-! ## Results -/

namespace Report

variable {run : RunReport} {speed : Float} {results : List CaseResult} {d : Document}

/-- A report tells the results of a run: the results of the cases in order, how many there are with each
outcome, and whether the run succeeded. -/
structure Tells (d : Document) (results : List CaseResult) (succeeded : Bool) : Prop where
  cases : d.at? ["results", "test_cases"] = some (.list (results.map caseDocument))
  total : d.at? ["results", "summary", "total"] = some (.ofNat results.length)
  passed : d.at? ["results", "summary", "passed"] = some (.ofNat (countOutcome .pass results))
  failed : d.at? ["results", "summary", "failed"] = some (.ofNat (countOutcome .fail results))
  skipped : d.at? ["results", "summary", "skipped"] = some (.ofNat (countOutcome .skip results))
  errors : d.at? ["results", "summary", "errors"] =
    some (.ofNat (countOutcome .errorCompile results + countOutcome .errorRuntime results))
  success : d.at? ["results", "summary", "success"] = some (.bool succeeded)

/-- The document of a run holds its figures and its results. -/
theorem get?_of_runDocument (h : runDocument run = .ok d) :
    d.get? "test_cases" = some (.list (run.cases.map caseDocument)) ∧
      ∃ summary, d.get? "summary" = some summary ∧
        summary.get? "total" = some (.ofNat run.total) ∧
        summary.get? "passed" = some (.ofNat run.passed) ∧
        summary.get? "failed" = some (.ofNat run.failed) ∧
        summary.get? "skipped" = some (.ofNat run.skipped) ∧
        summary.get? "errors" = some (.ofNat run.errors) ∧
        summary.get? "success" = some (.bool run.success) := by
  unfold runDocument summaryEntries at h
  cases hspeed : run.testsPerSecond with
  | error fault =>
      rw [hspeed] at h
      cases h
  | ok speed =>
      rw [hspeed] at h
      cases h
      exact ⟨rfl, _, rfl, rfl, rfl, rfl, rfl, rfl, rfl⟩

/-- A run that has a speed has a document. -/
theorem exists_runDocument_eq_ok (h : run.testsPerSecond = .ok speed) : ∃ d, runDocument run = .ok d := by
  unfold runDocument summaryEntries
  rw [h]
  exact ⟨_, rfl⟩

/-! ### Whole reports -/

section Known

variable {timestamp : Text} {compiler : Option CompilerInfo} {benchmarks : List (Text × BenchmarkResult)}
  {extra measured : List (Text × Document)}

/-- A name with a value, if there is one. -/
def named (name : Text) (value : Option Document) : List (Text × Document) :=
  (value.map fun value => (name, value)).toList

/-- What a report of a run knows without further entries. -/
def known (timestamp : Text) (compiler : Option CompilerInfo) (run : Document) (measured : List (Text × Document)) :
    List (Text × Document) :=
  named "tool" (some (.text "svconform")) ++ named "version" (some (.text version)) ++
    named "timestamp" (some (.text timestamp)) ++ named "compiler" (compiler.map compilerDocument) ++
    named "results" (some run) ++
    named "benchmarks" (if measured.isEmpty then none else some (Document.record measured))

theorem get?_known (timestamp : Text) (compiler : Option CompilerInfo) (run : Document)
    (measured : List (Text × Document)) :
    (Document.record (known timestamp compiler run measured)).get? "results" = some run := by
  cases compiler <;> rfl

/-- The report of a run of which there is a document, and of benchmarks of which there are figures. -/
theorem document_eq_record (hrun : runDocument run = .ok d) (hmeasured : benchmarkDocuments benchmarks = .ok measured) :
    document timestamp ⟨compiler, some run, benchmarks, extra⟩ =
      .ok (.map (extra.foldl (fun entries entry => Document.put entry.1 entry.2 entries)
        ((known timestamp compiler d measured).map fun entry => (.text entry.1, entry.2)))) := by
  unfold document entries
  rw [Option.mapM_some, hrun, hmeasured]
  cases compiler <;> cases measured <;> rfl

/-- Benchmarks that have figures have documents. -/
theorem exists_benchmarkDocuments_eq_ok
    (h : ∀ benchmark ∈ benchmarks, ∃ figures, benchmarkEntries benchmark.2 = .ok figures) :
    ∃ measured, benchmarkDocuments benchmarks = .ok measured := by
  cases hmeasured : benchmarkDocuments benchmarks with
  | ok measured => exact ⟨measured, rfl⟩
  | error failure =>
      obtain ⟨⟨label, result⟩, hmem, hfails⟩ := exists_of_mapM_eq_error hmeasured
      obtain ⟨figures, hfigures⟩ := h _ hmem
      dsimp only at hfails hfigures
      rw [hfigures] at hfails
      cases hfails

end Known

variable {timestamp : Text} {compiler : CompilerInfo} {extra : List (Text × Document)}

/-- The entries of every report of a run, given the document of the run. -/
def runEntries (timestamp : Text) (compiler : CompilerInfo) (d : Document) : List (Document × Document) :=
  [(.text "tool", .text "svconform"), (.text "version", .text version), (.text "timestamp", .text timestamp),
    (.text "compiler", compilerDocument compiler), (.text "results", d)]

/-- The report of a run of which there is a document. -/
theorem document_eq_ok (h : runDocument run = .ok d) :
    document timestamp ⟨some compiler, some run, [], extra⟩ =
      .ok (.map (extra.foldl (fun entries entry => Document.put entry.1 entry.2 entries)
        (runEntries timestamp compiler d))) := by
  have hmeasured : benchmarkDocuments [] = .ok [] := rfl
  exact document_eq_record h hmeasured

/-- The report of a run tells its results, whatever further entries there are. -/
theorem tells_of_document (hcounters : run.counters = .ofResults run.cases)
    (htotal : run.total = run.cases.length) (hextra : ∀ entry ∈ extra, entry.1 ≠ "results")
    (h : document timestamp ⟨some compiler, some run, [], extra⟩ = .ok d) : Tells d run.cases run.success := by
  cases hrun : runDocument run with
  | error f =>
      unfold document entries at h
      rw [Option.mapM_some, hrun] at h
      cases h
  | ok runs =>
      obtain ⟨hcases, summary, hsummary, htotal', hpassed, hfailed, hskipped, herrors, hsuccess⟩ :=
        get?_of_runDocument hrun
      obtain ⟨hp, hf, hs, he⟩ := RunReport.Counters.mk.inj hcounters
      rw [document_eq_ok hrun] at h
      cases h
      have hresults := (Document.get?_foldl_put hextra).trans
        (show (Document.map (runEntries timestamp compiler runs)).get? "results" = some runs from rfl)
      have hfigure {name : Text} {value : Document} (hvalue : summary.get? name = some value) :
          Document.at? (.map (extra.foldl (fun entries entry => Document.put entry.1 entry.2 entries)
            (runEntries timestamp compiler runs))) ["results", "summary", name] = some value := by
        rw [Document.at?_cons, hresults, Option.bind_some, Document.at?_cons, hsummary, Option.bind_some,
          Document.at?_cons, hvalue]
        rfl
      constructor
      · rw [Document.at?_cons, hresults, Option.bind_some, Document.at?_cons, hcases]
        rfl
      · rw [hfigure htotal', htotal]
      · rw [hfigure hpassed, hp]
      · rw [hfigure hfailed, hf]
      · rw [hfigure hskipped, hs]
      · rw [hfigure herrors, he]
      · exact hfigure hsuccess

/-! ## Writing -/

/-- What a compiler says about itself can be written. -/
structure WritableInfo (compiler : CompilerInfo) : Prop where
  name : compiler.name.Writable
  version : compiler.version.Writable
  features : ∀ feature ∈ compiler.features, feature.Writable

/-- The result of a case can be written. -/
structure WritableResult (result : CaseResult) : Prop where
  name : result.name.Writable
  message : result.message.Writable
  filePath : result.filePath.Writable

theorem writable_compilerDocument (h : WritableInfo compiler) : (compilerDocument compiler).Writable := by
  have hstandards : ∀ standard ∈ compiler.standards.map Standard.text, standard.Writable := by
    intro text htext
    obtain ⟨standard, -, rfl⟩ := List.mem_map.mp htext
    cases standard <;> exact Text.writable_ofString _
  refine .record ?_
  simp only [List.forall_mem_cons]
  exact ⟨⟨Text.writable_ofString _, .text h.name⟩, ⟨Text.writable_ofString _, .text h.version⟩,
    ⟨Text.writable_ofString _, .texts hstandards⟩, ⟨Text.writable_ofString _, .texts h.features⟩,
    fun _ hmem => nomatch hmem⟩

theorem writable_caseDocument {result : CaseResult} (h : WritableResult result) :
    (caseDocument result).Writable := by
  refine .record ?_
  simp only [List.forall_mem_cons]
  exact ⟨⟨Text.writable_ofString _, .text h.name⟩,
    ⟨Text.writable_ofString _, .text (Text.writable_ofString _)⟩,
    ⟨Text.writable_ofString _, .float _⟩, ⟨Text.writable_ofString _, .text h.message⟩,
    ⟨Text.writable_ofString _, .text h.filePath⟩, fun _ hmem => nomatch hmem⟩

theorem writable_of_summaryEntries {summary : List (Text × Document)} (h : summaryEntries run = .ok summary) :
    (Document.record summary).Writable := by
  unfold summaryEntries at h
  cases hspeed : run.testsPerSecond with
  | error fault =>
      rw [hspeed] at h
      cases h
  | ok speed =>
      rw [hspeed] at h
      cases h
      refine .record ?_
      simp only [List.forall_mem_cons, Text.writable_ofString, true_and, Document.ofNat]
      exact ⟨.int _, .int _, .int _, .int _, .int _, .float _, .float _, .float _, .float _, .float _,
        .bool _, fun _ hmem => nomatch hmem⟩

theorem writable_of_runDocument (hresults : ∀ result ∈ run.cases, WritableResult result)
    (h : runDocument run = .ok d) : d.Writable := by
  unfold runDocument at h
  cases hsummary : summaryEntries run with
  | error f =>
      rw [hsummary] at h
      cases h
  | ok summary =>
      rw [hsummary] at h
      cases h
      have hcases : (Document.list (run.cases.map caseDocument)).Writable := by
        refine .list fun d hd => ?_
        obtain ⟨result, hresult, rfl⟩ := List.mem_map.mp hd
        exact writable_caseDocument (hresults result hresult)
      refine .record ?_
      simp only [List.forall_mem_cons]
      exact ⟨⟨Text.writable_ofString _, writable_of_summaryEntries hsummary⟩,
        ⟨Text.writable_ofString _, hcases⟩, fun _ hmem => nomatch hmem⟩

section Known

variable {compiler : Option CompilerInfo} {benchmarks : List (Text × BenchmarkResult)}
  {measured : List (Text × Document)}

/-- The figures of benchmarks can be written under their labels. -/
theorem writable_of_benchmarkDocuments (hlabels : ∀ benchmark ∈ benchmarks, benchmark.1.Writable)
    (h : benchmarkDocuments benchmarks = .ok measured) : (Document.record measured).Writable := by
  refine .record ?_
  have hmeasured := mapM_eq_ok_iff.mp h
  clear h
  induction hmeasured with
  | nil => exact nofun
  | @cons benchmark entry _ _ hfirst _ ih =>
      obtain ⟨hlabel, hlabels⟩ := List.forall_mem_cons.mp hlabels
      refine List.forall_mem_cons.mpr ⟨?_, ih hlabels⟩
      obtain ⟨figures, hfigures, hentry⟩ := bind_eq_ok_iff.mp hfirst
      cases hentry
      refine ⟨hlabel, ?_⟩
      unfold benchmarkEntries at hfigures
      obtain ⟨rate, -, hfigures⟩ := bind_eq_ok_iff.mp hfigures
      obtain ⟨speed, -, hfigures⟩ := bind_eq_ok_iff.mp hfigures
      cases hfigures
      refine .record ?_
      simp only [List.forall_mem_cons, Text.writable_ofString, true_and]
      exact ⟨.int _, .int _, .int _, .float _, .int _, .int _, .int _, .float _, nofun⟩

/-- What a report knows can be written if its texts can be. -/
theorem writable_known (htimestamp : timestamp.Writable) (hcompiler : ∀ c ∈ compiler, WritableInfo c)
    (hd : d.Writable) (hmeasured : (Document.record measured).Writable) :
    ∀ entry ∈ known timestamp compiler d measured, entry.1.Writable ∧ entry.2.Writable := by
  have hnamed {name : String} {value : Option Document} (hvalue : ∀ d ∈ value, d.Writable) :
      ∀ entry ∈ named name value, entry.1.Writable ∧ entry.2.Writable := by
    intro entry hentry
    simp only [named, Option.toList_map, List.mem_map, Option.mem_toList] at hentry
    obtain ⟨d, hd, rfl⟩ := hentry
    exact ⟨Text.writable_ofString _, hvalue d hd⟩
  have hsome {d : Document} (hd : d.Writable) : ∀ found ∈ some d, found.Writable := by
    rintro found ⟨⟩
    exact hd
  unfold known
  simp only [List.forall_mem_append]
  refine ⟨⟨⟨⟨⟨hnamed ?_, hnamed ?_⟩, hnamed ?_⟩, hnamed ?_⟩, hnamed ?_⟩, hnamed ?_⟩
  · exact hsome (.text (Text.writable_ofString _))
  · exact hsome (.text (Text.writable_ofString _))
  · exact hsome (.text htimestamp)
  · intro d hd
    obtain ⟨c, hc, rfl⟩ := Option.map_eq_some_iff.mp hd
    exact writable_compilerDocument (hcompiler c hc)
  · exact hsome hd
  · by_cases hempty : measured.isEmpty = true
    · rw [if_pos hempty]
      exact nofun
    · rw [if_neg hempty]
      exact hsome hmeasured

end Known

/-- The report of a run can be written if its texts can be. -/
theorem writable_of_document (htimestamp : timestamp.Writable) (hcompiler : WritableInfo compiler)
    (hresults : ∀ result ∈ run.cases, WritableResult result)
    (hextra : ∀ entry ∈ extra, entry.1.Writable ∧ entry.2.Writable)
    (h : document timestamp ⟨some compiler, some run, [], extra⟩ = .ok d) : d.Writable := by
  cases hrun : runDocument run with
  | error f =>
      unfold document entries at h
      rw [Option.mapM_some, hrun] at h
      cases h
  | ok runs =>
      rw [document_eq_ok hrun] at h
      cases h
      have hcompiler' : ∀ c ∈ some compiler, WritableInfo c := by
        rintro c ⟨⟩
        exact hcompiler
      have hnone : (Document.record []).Writable := .record fun _ hmem => nomatch hmem
      have hknown : Document.WritableEntries (runEntries timestamp compiler runs) :=
        .of_fields (writable_known htimestamp hcompiler' (writable_of_runDocument hresults hrun) hnone)
      exact (hknown.foldl_put hextra).writable

/-- A run that has a speed has a report. -/
theorem exists_text_eq_ok (h : run.testsPerSecond = .ok speed) :
    ∃ d, document timestamp ⟨some compiler, some run, [], extra⟩ = .ok d ∧
      text timestamp ⟨some compiler, some run, [], extra⟩ = .ok (Json.render .readable d) := by
  obtain ⟨runs, hrun⟩ := exists_runDocument_eq_ok h
  refine ⟨_, document_eq_ok hrun, ?_⟩
  unfold text
  rw [document_eq_ok hrun]
  rfl

/-! ## Files -/

/-- A report that was written to a file is found there. -/
theorem holds_of_write {tree written : FileTree} {path : Path} {report : Text} (h : tree.LeadsDown path)
    (hwrite : write tree path report = (written, .ok ())) : written.Holds path report := by
  unfold write at hwrite
  split at hwrite
  case h_1 => cases hwrite
  case h_2 => cases hwrite
  case h_3 made _ hmade =>
    have hmade' := h.of_current_eq (FileTree.current_of_makeDirectories hmade)
    unfold writeFile at hwrite
    split at hwrite
    case h_1 => cases hwrite
    case h_2 => exact FileTree.holds_of_writeText hmade' hwrite

end Report

end Conformance
