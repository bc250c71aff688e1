import Conformance.Proofs.Document.Reading
import Conformance.Proofs.Failure
import Conformance.Proofs.Report.Json
import Conformance.Proofs.Run.Report
import Mathlib.Data.List.Nodup

/-!
# What is read from a report

The text of a report is read again as a document, and what is read tells the results that were recorded: the name, the
outcome, the message and the path of each case, in order, and how many cases there are with each outcome.

Main results:

- `Document.ReadBack.exists_get?`: what stands under a key of a mapping with different keys is read back.
- `Report.recounts_of_readBack`: the report of recorded results, when it is read back, tells them.
- `Report.exists_text_recounts`: there is a text for it, which is read back, and a file that it is written to holds it.
-/

namespace Conformance

/-! ## Mappings -/

namespace Document

variable {written read value : Document} {entries done : List (Document × Document)} {fields : List (Text × Document)}
  {name : Text}

/-- A key that is not there is put behind the others. -/
theorem put_of_notMem (h : .text name ∉ done.map (·.1)) (value : Document) :
    put name value done = done ++ [(.text name, value)] := by
  unfold put
  induction done with
  | nil => rfl
  | cons entry rest ih =>
      obtain ⟨key, old⟩ := entry
      simp only [List.map_cons, List.mem_cons, not_or] at h
      have hkey : isText name key = false := by
        cases key with
        | text found => exact beq_false_of_ne fun heq => h.1 (congrArg Document.text heq.symm)
        | _ => rfl
      simp only [assign, hkey, Bool.false_eq_true, if_false, ih h.2, List.cons_append]

theorem keys_put (hmem : .text name ∈ done.map (·.1)) (value : Document) :
    (put name value done).map (·.1) = done.map (·.1) := by
  unfold put
  induction done with
  | nil => cases hmem
  | cons entry rest ih =>
      obtain ⟨key, old⟩ := entry
      unfold assign
      by_cases hkey : isText name key = true
      · rw [if_pos hkey]
        rfl
      · rw [if_neg hkey]
        have hne : .text name ≠ key := by
          rintro rfl
          exact hkey (beq_self_eq_true name)
        have hrest : .text name ∈ rest.map (·.1) := (List.mem_cons.mp hmem).resolve_left hne
        exact congrArg (key :: ·) (ih hrest)

/-- Keys that are given values stay different. -/
theorem nodup_put (h : (done.map (·.1)).Nodup) (value : Document) : ((put name value done).map (·.1)).Nodup := by
  by_cases hmem : .text name ∈ done.map (·.1)
  · rw [keys_put hmem]
    exact h
  · rw [put_of_notMem hmem, List.map_append, List.nodup_append]
    refine ⟨h, by simp, ?_⟩
    intro key hkey other hother heq
    obtain rfl : other = .text name := by simpa using hother
    exact hmem (heq ▸ hkey)

theorem nodup_foldl_put (extra : List (Text × Document)) (h : (done.map (·.1)).Nodup) :
    ((extra.foldl (fun done entry => put entry.1 entry.2 done) done).map (·.1)).Nodup := by
  induction extra generalizing done with
  | nil => exact h
  | cons entry rest ih => exact ih (nodup_put h entry.2)

/-- Entries with different names are gathered one behind the other. -/
theorem gather_of_nodup (h : (fields.map (·.1)).Nodup) : gather fields = record fields := by
  have hfold (fields : List (Text × Document)) (done : List (Document × Document))
      (hnodup : (fields.map (·.1)).Nodup) (hnew : ∀ field ∈ fields, .text field.1 ∉ done.map (·.1)) :
      fields.foldl (fun done field => put field.1 field.2 done) done =
        done ++ fields.map fun field => (.text field.1, field.2) := by
    induction fields generalizing done with
    | nil => simp
    | cons field fields ih =>
        obtain ⟨hfield, hnodup⟩ := List.nodup_cons.mp hnodup
        obtain ⟨hfirst, hrest⟩ := List.forall_mem_cons.mp hnew
        rw [List.foldl_cons, put_of_notMem hfirst, ih _ hnodup]
        · simp
        · intro other hother
          simp only [List.map_append, List.map_cons, List.map_nil, List.mem_append, List.mem_singleton, not_or]
          refine ⟨hrest other hother, fun heq => hfield ?_⟩
          exact List.mem_map.mpr ⟨other, hother, Document.text.inj heq⟩
  exact congrArg Document.map (hfold fields [] h (by simp))

/-- A mapping with different keys. -/
def Distinct (d : Document) : Prop :=
  ∃ entries, d = .map entries ∧ (entries.map (·.1)).Nodup

theorem distinct_record (h : (fields.map (·.1)).Nodup) : (record fields).Distinct := by
  refine ⟨_, rfl, ?_⟩
  have hkeys : (fields.map fun field => (Document.text field.1, field.2)).map (·.1) = (fields.map (·.1)).map .text := by
    simp
  exact hkeys ▸ h.map fun _ _ => Document.text.inj

/-- Under each name stands what was read for the value with this name. -/
theorem exists_get?_record (hnames : entries.map (·.1) = fields.map fun field => .text field.1)
    (hvalues : List.Forall₂ ReadBack (entries.map (·.2)) (fields.map (·.2)))
    (hget : (Document.map entries).get? name = some value) :
    ∃ found, (record fields).get? name = some found ∧ ReadBack value found := by
  induction fields generalizing entries with
  | nil =>
      obtain rfl := List.map_eq_nil_iff.mp hnames
      cases hget
  | cons field fields ih =>
      cases entries with
      | nil => cases hnames
      | cons entry entries =>
          obtain ⟨key, old⟩ := entry
          obtain ⟨hkey, hrest⟩ := List.cons.inj hnames
          obtain ⟨hvalue, htail⟩ := List.forall₂_cons.mp hvalues
          dsimp only at hkey
          subst hkey
          change (if isText name (.text field.1) then some old else lookupBy (isText name) entries) = some value at hget
          change ∃ found, (if isText name (.text field.1) then some field.2 else (record fields).get? name) =
            some found ∧ _
          by_cases hname : isText name (.text field.1) = true
          · rw [if_pos hname] at hget ⊢
            cases hget
            exact ⟨field.2, rfl, hvalue⟩
          · rw [if_neg hname] at hget ⊢
            exact ih hrest htail hget

/-- What stands under a key of a mapping with different keys is read back. -/
theorem ReadBack.exists_get? (h : ReadBack written read) (hkeys : written.Distinct)
    (hget : written.get? name = some value) : ∃ found, read.get? name = some found ∧ ReadBack value found := by
  obtain ⟨entries, rfl, hkeys⟩ := hkeys
  cases h with
  | @map _ fields hnames hvalues =>
      have hnodup : ((fields.map (·.1)).map Document.text).Nodup := by
        rw [List.map_map]
        exact hnames ▸ hkeys
      rw [gather_of_nodup (.of_map _ hnodup)]
      exact exists_get?_record hnames hvalues hget

/-! ### What is read for values without parts -/

theorem ReadBack.eq_text {t : Text} (h : ReadBack (.text t) read) : read = .text t := by
  cases h
  rfl

theorem ReadBack.eq_int {i : Int} (h : ReadBack (.int i) read) : read = .int i := by
  cases h
  rfl

theorem ReadBack.eq_bool {b : Bool} (h : ReadBack (.bool b) read) : read = .bool b := by
  cases h
  rfl

theorem ReadBack.exists_list {items : List Document} (h : ReadBack (.list items) read) :
    ∃ found, read = .list found ∧ List.Forall₂ ReadBack items found := by
  cases h with
  | list hitems => exact ⟨_, rfl, hitems⟩

end Document

/-! ## Reports -/

namespace Report

open Document

/-- The text under a key. -/
def textAt? (name : Text) (d : Document) : Option Text :=
  match d.get? name with
  | some (.text value) => some value
  | _ => none

/-- What a document tells of a case: its name, its outcome, the message and the path. -/
def entryOf? (d : Document) : Option (Text × Outcome × Text × Text) := do
  let name ← textAt? "name" d
  let outcome ← Outcome.ofText? (← textAt? "outcome" d)
  let message ← textAt? "message" d
  let filePath ← textAt? "file_path" d
  pure (name, outcome, message, filePath)

/-- What a report tells of the cases. -/
def entriesOf? (d : Document) : Option (List (Text × Outcome × Text × Text)) :=
  match d.at? ["results", "test_cases"] with
  | some (.list items) => items.mapM entryOf?
  | _ => none

/-- A report that was read tells recorded results: exactly the cases, in order, and how many there are with each
outcome, counted among the cases. -/
structure Recounts (d : Document) (results : List CaseResult) : Prop where
  cases : entriesOf? d = some (results.map CaseResult.entry)
  total : d.at? ["results", "summary", "total"] = some (.ofNat results.length)
  passed : d.at? ["results", "summary", "passed"] = some (.ofNat (countOutcome .pass results))
  failed : d.at? ["results", "summary", "failed"] = some (.ofNat (countOutcome .fail results))
  skipped : d.at? ["results", "summary", "skipped"] = some (.ofNat (countOutcome .skip results))
  errors : d.at? ["results", "summary", "errors"] =
    some (.ofNat (countOutcome .errorCompile results + countOutcome .errorRuntime results))
  success : d.at? ["results", "summary", "success"] =
    some (.bool (countOutcome .fail results +
      (countOutcome .errorCompile results + countOutcome .errorRuntime results) == 0))

variable {d read : Document} {results : List CaseResult} {run : RunReport}

/-- The text of a field of a record is read back. -/
theorem textAt?_of_readBack {name value : Text} (h : ReadBack d read) (hkeys : d.Distinct)
    (hget : d.get? name = some (.text value)) : textAt? name read = some value := by
  obtain ⟨found, hfound, hback⟩ := h.exists_get? hkeys hget
  unfold textAt?
  rw [hfound, hback.eq_text]

/-- A case is told as it was recorded. -/
theorem entryOf?_of_readBack {result : CaseResult} (h : ReadBack (caseDocument result) read) :
    entryOf? read = some result.entry := by
  have hnames : (["name", "outcome", "duration_ms", "message", "file_path"] : List Text).Nodup := by decide
  have hkeys : (caseDocument result).Distinct := distinct_record hnames
  unfold entryOf?
  rw [textAt?_of_readBack h hkeys rfl, textAt?_of_readBack h hkeys rfl, textAt?_of_readBack h hkeys rfl,
    textAt?_of_readBack h hkeys rfl]
  simp [CaseResult.entry]

theorem mapM_entryOf?_of_readBack {items : List Document}
    (h : List.Forall₂ ReadBack (results.map caseDocument) items) :
    items.mapM entryOf? = some (results.map CaseResult.entry) := by
  induction results generalizing items with
  | nil =>
      cases h
      rfl
  | cons result results ih =>
      cases h with
      | cons hitem hitems =>
          rw [List.mapM_cons, entryOf?_of_readBack hitem, ih hitems]
          rfl

/-- The document of a run and its figures are mappings with different keys. -/
theorem distinct_of_runDocument (h : runDocument run = .ok d) :
    d.Distinct ∧ ∀ summary, d.get? "summary" = some summary → summary.Distinct := by
  have hnames : (["total", "passed", "failed", "skipped", "errors", "pass_rate", "total_duration_ms",
      "compile_duration_ms", "average_ms", "tests_per_second", "success"] : List Text).Nodup := by decide
  have houter : (["summary", "test_cases"] : List Text).Nodup := by decide
  unfold runDocument summaryEntries at h
  cases hspeed : run.testsPerSecond with
  | error fault =>
      rw [hspeed] at h
      cases h
  | ok speed =>
      rw [hspeed] at h
      cases h
      refine ⟨distinct_record houter, fun summary hsummary => ?_⟩
      cases hsummary
      exact distinct_record hnames

/-- The figures and the cases of a run are read back from its document. -/
theorem read_of_runDocument (h : runDocument run = .ok d) (hread : ReadBack d read) :
    (∃ items, read.get? "test_cases" = some (.list items) ∧
      List.Forall₂ ReadBack (run.cases.map caseDocument) items) ∧
    ∃ summary, read.get? "summary" = some summary ∧
      summary.get? "total" = some (.ofNat run.total) ∧
      summary.get? "passed" = some (.ofNat run.passed) ∧
      summary.get? "failed" = some (.ofNat run.failed) ∧
      summary.get? "skipped" = some (.ofNat run.skipped) ∧
      summary.get? "errors" = some (.ofNat run.errors) ∧
      summary.get? "success" = some (.bool run.success) := by
  obtain ⟨hcases, figures, hfigures, htotal, hpassed, hfailed, hskipped, herrors, hsuccess⟩ := get?_of_runDocument h
  obtain ⟨hdistinct, hinner⟩ := distinct_of_runDocument h
  obtain ⟨found, hfound, hback⟩ := hread.exists_get? hdistinct hcases
  obtain ⟨items, rfl, hitems⟩ := hback.exists_list
  obtain ⟨summary, hsummary, hbackSummary⟩ := hread.exists_get? hdistinct hfigures
  have hfigure {name : Text} {n : Nat} (hget : figures.get? name = some (.ofNat n)) :
      summary.get? name = some (.ofNat n) := by
    obtain ⟨found, hfound, hint⟩ := hbackSummary.exists_get? (hinner _ hfigures) hget
    rw [hfound, hint.eq_int]
    rfl
  obtain ⟨success, hfoundSuccess, hbool⟩ := hbackSummary.exists_get? (hinner _ hfigures) hsuccess
  refine ⟨⟨items, hfound, hitems⟩, summary, hsummary, hfigure htotal, hfigure hpassed, hfigure hfailed,
    hfigure hskipped, hfigure herrors, ?_⟩
  rw [hfoundSuccess, hbool.eq_bool]

/-! ### Whole reports -/

theorem nodup_known (timestamp : Text) (compiler : Option CompilerInfo) (run : Document)
    (measured : List (Text × Document)) : ((known timestamp compiler run measured).map (·.1)).Nodup := by
  have hnames : (["tool", "version", "timestamp", "compiler", "results", "benchmarks"] : List Text).Nodup := by decide
  refine hnames.sublist ?_
  cases compiler <;> cases measured <;> simp [known, named]

/-- A report of recorded results, when it is read back, tells them. -/
theorem recounts_of_readBack {duration : Float} {before : List (Document × Document)} {run : Document}
    (hrun : runDocument { RunReport.ofResults results with totalDurationMs := duration } = .ok run)
    (hkeys : (Document.map before).Distinct) (hget : (Document.map before).get? "results" = some run)
    (hread : ReadBack (.map before) read) : Recounts read results := by
  obtain ⟨found, hfound, hback⟩ := hread.exists_get? hkeys hget
  obtain ⟨⟨items, hitems, hcases⟩, summary, hsummary, htotal, hpassed, hfailed, hskipped, herrors, hsuccess⟩ :=
    read_of_runDocument hrun hback
  obtain ⟨hp, hf, hs, he⟩ := RunReport.Counters.mk.inj (RunReport.counters_ofResults results)
  have hpath {name : Text} {value : Document} (hvalue : summary.get? name = some value) :
      read.at? ["results", "summary", name] = some value := by
    rw [at?_cons, hfound, Option.bind_some, at?_cons, hsummary, Option.bind_some, at?_cons, hvalue]
    rfl
  constructor
  case cases =>
    have hlist : read.at? ["results", "test_cases"] = some (.list items) := by
      rw [at?_cons, hfound, Option.bind_some, at?_cons, hitems]
      rfl
    have hresults : (RunReport.ofResults results).cases = results := RunReport.cases_ofResults results
    unfold entriesOf?
    rw [hlist]
    exact mapM_entryOf?_of_readBack (hresults ▸ hcases)
  case total =>
    rw [hpath htotal]
    exact congrArg (some ∘ Document.ofNat) (RunReport.total_ofResults results)
  case passed => rw [hpath hpassed, hp]
  case failed => rw [hpath hfailed, hf]
  case skipped => rw [hpath hskipped, hs]
  case errors => rw [hpath herrors, he]
  case success => rw [hpath hsuccess, RunReport.success, hf, he]

/-- A report of recorded results has a text, whatever else it is about, if the run took no time or one that does not
vanish in seconds.  Reading the text gives the results again, and a file that the report was written to holds this very
text. -/
theorem exists_text_recounts (timestamp : Text) (compiler : Option CompilerInfo) (results : List CaseResult)
    (duration : Float) (benchmarks : List (Text × BenchmarkResult)) (extra : List (Text × Document))
    (hduration : duration ≤ 0.0 ∨ (duration / 1000.0 == 0.0) = false ∧ results.length ≤ Decimal.twoTo 1000)
    (htimestamp : timestamp.Writable) (hcompiler : ∀ c ∈ compiler, WritableInfo c)
    (hresults : ∀ result ∈ results, WritableResult result)
    (hbenchmarks : ∀ benchmark ∈ benchmarks,
      benchmark.1.Writable ∧ ∃ figures, benchmarkEntries benchmark.2 = .ok figures)
    (hextra : ∀ entry ∈ extra, entry.1 ≠ "results" ∧ entry.1.Writable ∧ entry.2.Writable) :
    ∃ text chars d,
      Report.text timestamp
          ⟨compiler, some { RunReport.ofResults results with totalDurationMs := duration }, benchmarks, extra⟩ =
        .ok text ∧
      text.string? = some chars ∧ Json.read? chars = some d ∧ Recounts d results ∧
      ∀ tree path written, FileTree.LeadsDown tree path → write tree path text = (written, .ok ()) →
        written.Holds path text := by
  have hspeed : ∃ speed, RunReport.testsPerSecond { RunReport.ofResults results with totalDurationMs := duration } =
      .ok speed := by
    rcases hduration with hduration | ⟨hseconds, hlength⟩
    · exact ⟨_, RunReport.testsPerSecond_of_le_zero hduration⟩
    · refine RunReport.exists_testsPerSecond_of_seconds ?_ hseconds
      change (RunReport.ofResults results).total ≤ _
      rw [RunReport.total_ofResults]
      exact hlength
  obtain ⟨speed, hspeed⟩ := hspeed
  obtain ⟨run, hrun⟩ := exists_runDocument_eq_ok hspeed
  have hmeasured := exists_benchmarkDocuments_eq_ok fun benchmark hmem => (hbenchmarks benchmark hmem).2
  obtain ⟨measured, hmeasured⟩ := hmeasured
  have hwritableRun : run.Writable := by
    refine writable_of_runDocument ?_ hrun
    change ∀ result ∈ (RunReport.ofResults results).cases, _
    rw [RunReport.cases_ofResults]
    exact hresults
  have hwritableMeasured := writable_of_benchmarkDocuments (fun b hb => (hbenchmarks b hb).1) hmeasured
  have hknown := WritableEntries.of_fields (writable_known htimestamp hcompiler hwritableRun hwritableMeasured)
  have hdocument := (WritableEntries.foldl_put (fun entry hentry => (hextra entry hentry).2) hknown).writable
  have hget := (get?_foldl_put fun entry hentry => (hextra entry hentry).1).trans
    (get?_known timestamp compiler run measured)
  obtain ⟨_, heq, hnodup⟩ := distinct_record (nodup_known timestamp compiler run measured)
  cases heq
  have hlayout : Json.Layout.readable.ascii = false := rfl
  obtain ⟨chars, d, hchars, hread, hback⟩ := Json.exists_read?_render hlayout hdocument
  refine ⟨.ofChars chars, String.ofList chars, d, ?_, by simp [Text.string?], hread,
    recounts_of_readBack hrun ⟨_, rfl, nodup_foldl_put extra hnodup⟩ hget hback, ?_⟩
  · unfold Report.text
    rw [document_eq_record hrun hmeasured, ← hchars]
    rfl
  · intro tree path written hdown hwrite
    exact holds_of_write hdown hwrite

/-- A case whose name holds a quote, a backslash, a line break, a control character and a letter outside ASCII. -/
def awkwardResult : CaseResult :=
  ⟨"\"\\\n\x01\u00e9", .fail, 1.5, "expected a \"fault\"", "a.sv"⟩

theorem exists_text_recounts_awkward :
    ∃ text chars d,
      Report.text "" ⟨some (.assumed "Waking"),
          some { RunReport.ofResults [awkwardResult] with totalDurationMs := 0.0 }, [("a", ⟨0, 0, 0, 0, 0, 0⟩)],
          [("note", .null)]⟩ = .ok text ∧
      text.string? = some chars ∧ Json.read? chars = some d ∧ Recounts d [awkwardResult] ∧
      ∀ tree path written, FileTree.LeadsDown tree path → write tree path text = (written, .ok ()) →
        written.Holds path text := by
  refine exists_text_recounts "" (some (.assumed "Waking")) [awkwardResult] 0.0 [("a", ⟨0, 0, 0, 0, 0, 0⟩)]
    [("note", .null)] (.inl (by decide +kernel)) (Text.writable_ofString _) ?_ ?_ ?_ ?_
  · rintro c ⟨⟩
    exact ⟨Text.writable_ofString _, Text.writable_ofString _, nofun⟩
  · rw [List.forall_mem_singleton]
    exact ⟨Text.writable_ofString _, Text.writable_ofString _, Text.writable_ofString _⟩
  · rw [List.forall_mem_singleton]
    exact ⟨Text.writable_ofString _, _, rfl⟩
  · rw [List.forall_mem_singleton]
    exact ⟨by decide, Text.writable_ofString _, .null⟩

end Report

end Conformance
