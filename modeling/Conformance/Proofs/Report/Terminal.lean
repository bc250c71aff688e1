import Conformance.Proofs.Decimal.Binary64
import Conformance.Proofs.Decimal.Share
import Conformance.Proofs.Failure
import Conformance.Proofs.Fixture.Chapter
import Conformance.Proofs.Run.Report
import Conformance.Report.Terminal
import Mathlib.Algebra.GroupWithZero.Nat

/-!
# What is shown of a run

Showing a run computes with its counters: shares, cells of a bar, and sums.  None of this fails for a run of
as many cases as a list can hold.

What is shown of a run that has ended counts its failures three times: the counters of the report, the table of the
failures, and the figures below the bar.  All of them agree with the results that were taken in.  No more than fifty
failures are shown, with messages of no more than eighty characters; how many are left out is told in a line of its own.

Main results:

- `Terminal.exists_resultBar_eq_ok`: there is a bar of any width that fits into memory.
- `Terminal.exists_tagReport_eq_ok`, `Terminal.exists_runReport_eq_ok`: a run can be shown.
- `Terminal.shortened_truncate`: how a message is cut.
- `Terminal.Figure.sum_shown`: the figures below the bar sum to the number of results.
- `Terminal.runReport_accounts`: what is shown of a run.
- `Terminal.exists_chapterStatistics_eq_ok`: the statistics of a suite can be shown.
-/

namespace Conformance

/-! ## Small numbers -/

theorem le_twoTo_of_le_largestLength {n : Nat} (h : n ≤ largestLength) : n ≤ Decimal.twoTo 1000 :=
  Nat.le_trans h (by decide +kernel)

/-- A number up to a length has digits that can be shown. -/
theorem Document.exists_intText_eq_ok {n : Nat} (h : n ≤ largestLength) :
    ∃ digits, intText n = .ok digits := by
  have hlimit : ¬Decimal.tenTo Decimal.digitLimit ≤ (n : Int).natAbs := by
    have hlarge : largestLength < Decimal.tenTo Decimal.digitLimit := by decide +kernel
    omega
  unfold intText intText?
  rw [if_neg hlimit]
  exact ⟨_, rfl⟩

/-- The digits of a number are those that are shown of it. -/
theorem Document.eq_of_intText {n : Nat} {digits : Text} (h : intText n = .ok digits) : digits = toString n := by
  unfold intText intText? at h
  by_cases hlimit : Decimal.tenTo Decimal.digitLimit ≤ (n : Int).natAbs
  · rw [if_pos hlimit] at h
    cases h
  · rw [if_neg hlimit] at h
    exact (Except.ok.inj h).symm

namespace Terminal

open Decimal Markup

/-! ## Bars -/

/-- A list that fits into memory can be asked for. -/
theorem listLength_eq_ok {n : Nat} (h : itemSize * n ≤ memorySize) : listLength n = .ok n := by
  have hnumber : ¬largestLength < (n : Int).natAbs := by
    change 8 * n ≤ 68719476736 at h
    change ¬9223372036854775807 < (n : Int).natAbs
    omega
  unfold listLength lengthOf
  rw [if_neg hnumber]
  exact if_neg (Nat.not_lt.mpr h)

variable {width : Nat}

/-- A share of the cells of a bar is a number of cells, and not more than there are. -/
theorem exists_cellCount_eq_ok {total count : Nat} (hwidth : 0 < width) (hfits : itemSize * width ≤ memorySize)
    (htotal : 0 < total) (h : count ≤ total) : ∃ cells, cellCount width total count = .ok cells := by
  have hsmall : width < 2 ^ 40 := by
    change 8 * width ≤ 68719476736 at hfits
    omega
  obtain ⟨share, m, e, hshare, hparts, he, hm⟩ := exists_quotient_parts htotal h
  obtain ⟨whole, hwhole, hwholeParts⟩ := exists_double_parts hwidth (Nat.lt_trans hsmall (by decide))
  obtain ⟨cells, hcells, hle⟩ := exists_rounded_mul_le hwidth hsmall hparts he hm hwholeParts
  have hlength : listLength cells = .ok cells :=
    listLength_eq_ok (Nat.le_trans (Nat.mul_le_mul_left _ hle) hfits)
  refine ⟨cells, ?_⟩
  unfold cellCount
  rw [hshare, hwhole]
  change (liftM (rounded (share * whole)) >>= fun cells : Int =>
    (listLength cells).mapError (·.failure) : Except Failure Nat) = _
  rw [hcells]
  change (listLength cells).mapError (·.failure) = _
  rw [hlength]
  rfl

/-- There is a bar for any counts of cases, if its cells fit into memory. -/
theorem exists_resultBar_eq_ok (hwidth : 0 < width) (hfits : itemSize * width ≤ memorySize)
    (passed failed skipped errors : Nat) : ∃ bar, resultBar width ⟨passed, failed, skipped, errors⟩ = .ok bar := by
  unfold resultBar
  by_cases hzero : Counts.total ⟨passed, failed, skipped, errors⟩ = 0
  · rw [if_pos hzero, listLength_eq_ok hfits]
    exact ⟨_, rfl⟩
  · have htotal : Counts.total ⟨passed, failed, skipped, errors⟩ =
        ((passed + failed + skipped + errors : Nat) : Int) := by
      simp only [Counts.total, Int.natCast_add]
    have hpositive : 0 < passed + failed + skipped + errors := by
      rw [htotal] at hzero
      omega
    have hcells (count : Nat) (hcount : count ≤ passed + failed + skipped + errors) :
        ∃ cells, cellCount width (passed + failed + skipped + errors : Nat) count = .ok cells :=
      exists_cellCount_eq_ok hwidth hfits hpositive hcount
    obtain ⟨p, hp⟩ := hcells passed (by omega)
    obtain ⟨f, hf⟩ := hcells failed (by omega)
    obtain ⟨s, hs⟩ := hcells skipped (by omega)
    obtain ⟨e, he⟩ := hcells errors (by omega)
    have hcounts : cellCounts width ⟨passed, failed, skipped, errors⟩ =
        .ok [(p, "green"), (f, "red"), (s, "yellow"), (e, "magenta")] := by
      unfold cellCounts Counts.colored
      rw [htotal]
      simp only [List.mapM_cons, List.mapM_nil, hp, hf, hs, he]
      rfl
    rw [if_neg hzero, hcounts]
    exact ⟨_, rfl⟩

theorem total_countsOf (r : RunReport) : (countsOf r).total = (r.total : Int) := by
  simp only [countsOf, Counts.total, RunReport.total, Int.natCast_add]

/-- The bar of a run with its figures can be shown. -/
theorem exists_summaryBar_eq_ok {r : RunReport} (htotal : r.total ≤ largestLength) (duration : Float) :
    ∃ ds, summaryBar (countsOf r) duration = .ok ds := by
  unfold summaryBar
  rw [total_countsOf]
  by_cases hzero : (r.total : Int) = 0
  · rw [if_pos hzero]
    exact ⟨_, rfl⟩
  · have hpassed : r.passed ≤ r.total := by
      unfold RunReport.total
      omega
    obtain ⟨bits, hquotient, -⟩ := exists_quotient_eq_ok (show 0 < r.total by omega) hpassed
    obtain ⟨bar, hbar⟩ := @exists_resultBar_eq_ok 40 (by decide) (by decide) r.passed r.failed r.skipped r.errors
    obtain ⟨digits, hdigits⟩ := Document.exists_intText_eq_ok htotal
    have hquotient' : quotient (countsOf r).passed r.total = .ok (ofMagnitude false bits) := hquotient
    have hbar' : resultBar barWidth (countsOf r) = .ok bar := hbar
    rw [if_neg hzero, hquotient', hbar', hdigits]
    exact ⟨_, rfl⟩

/-! ## Runs -/

/-- Everything about a run that has a speed can be shown. -/
theorem exists_runReport_eq_ok {r : RunReport} {speed : Float} (htotal : r.total ≤ largestLength)
    (hspeed : r.testsPerSecond = .ok speed) : ∃ ds, runReport r = .ok ds := by
  obtain ⟨ds, hbar⟩ := exists_summaryBar_eq_ok htotal r.totalDurationMs
  unfold runReport performance
  rw [hspeed, hbar]
  exact ⟨_, rfl⟩

/-- The outcome of a run over a tag can always be shown. -/
theorem exists_tagReport_eq_ok (tag : Text) (results : List CaseResult) :
    ∃ d, tagReport (TagReport.ofResults tag results) = .ok d := by
  rw [TagReport.ofResults_eq]
  unfold tagReport
  by_cases hlength : (results.length : Int) = 0
  · exact ⟨_, if_pos hlength⟩
  · have hpositive : 0 < results.length := by omega
    obtain ⟨bits, hquotient, -⟩ := exists_quotient_eq_ok hpositive (countOutcome_le_length .pass results)
    dsimp only
    rw [if_neg hlength, hquotient]
    exact ⟨_, rfl⟩

/-! ## Messages that are cut -/

/-- A text where there is room for some characters: a longer one is cut, with a mark as its last character. -/
inductive Shortened (limit : Nat) (text : Text) : Text → Prop
  | whole : text.length ≤ limit → Shortened limit text text
  | cut : limit < text.length → Shortened limit text (Text.ofList (text.toList.take (limit - 1)) ++ "…")

theorem Shortened.length_le {limit : Nat} {text shown : Text} (h : Shortened limit text shown) (hlimit : 0 < limit) :
    shown.length ≤ limit := by
  cases h with
  | whole hfits => exact hfits
  | cut hlong =>
      change (text.toList.take (limit - 1) ++ [CodePoint.char '…']).length ≤ limit
      rw [List.length_append, List.length_take, List.length_singleton]
      omega

theorem shortened_truncate {limit : Nat} (hlimit : 0 < limit) (text : Text) :
    Shortened limit text (truncate limit text) := by
  unfold truncate
  dsimp only
  by_cases hfits : text.toList.length ≤ limit
  · rw [if_pos (Int.ofNat_le.mpr hfits)]
    exact .whole hfits
  · have htaken : takeSigned ((limit : Int) - 1) text.toList = text.toList.take (limit - 1) := by
      unfold takeSigned
      rw [if_pos (by omega)]
      exact congrArg (text.toList.take ·) (by omega)
    rw [if_neg (mt Int.ofNat_le.mp hfits), htaken]
    exact .cut (Nat.lt_of_not_le hfits)

/-! ## The table of the failures -/

/-- The row of a failure: its name, its outcome, and its message in eighty characters. -/
def IsRowOf (result : CaseResult) (row : List Text) : Prop :=
  ∃ message, Shortened 80 result.message message ∧ message.length ≤ 80 ∧
    row = [escape result.name,
      styled (colorOf result.outcome) (iconOf result.outcome ++ " " ++ result.outcome.text), escape message]

theorem isRowOf_failureRow (result : CaseResult) : IsRowOf result (failureRow result) :=
  have hshort : Shortened 80 result.message (truncate messageLength result.message) :=
    @shortened_truncate 80 (by decide) result.message
  ⟨_, hshort, hshort.length_le (by decide), rfl⟩

/-- The table of a number of failures, of which the first fifty have a row. -/
structure IsFailureTable (results : List CaseResult) (n : Nat) (t : Table) : Prop where
  title_eq : t.title = s!"Failures ({n})"
  headers_eq : t.columns.map (·.header) = ["Test", "Outcome", "Message"]
  length_rows : t.rows.length = min 50 n
  rows : List.Forall₂ IsRowOf ((results.filter (·.outcome.isFailure)).take 50) t.rows

/-- What is shown of a number of failures. -/
inductive ShowsFailures (results : List CaseResult) (n : Nat) : List Display → Prop
  | none : n = 0 → ShowsFailures results n []
  | all {t : Table} : 0 < n → n ≤ 50 → IsFailureTable results n t → ShowsFailures results n [.table t]
  | first {t : Table} : 50 < n → IsFailureTable results n t →
      ShowsFailures results n [.table t, info s!"... and {n - 50} more"]

theorem showsFailures_failures {r : RunReport} {n : Nat} (h : r.failures.length = n) :
    ShowsFailures r.cases n (failures r) := by
  have htable : IsFailureTable r.cases n
      { title := s!"Failures ({n})"
        titleStyle := "bold red"
        showHeader := true
        columns := [.bold "Test", ⟨"Outcome", "", "center"⟩, .plain "Message"]
        rows := (r.failures.take failureLimit).map failureRow
        sectionsAfter := [] } := by
    refine ⟨rfl, rfl, ?_, ?_⟩
    · rw [List.length_map, List.length_take, h]
      rfl
    · exact List.forall₂_map_right_iff.mpr (List.forall₂_same.mpr fun result _ => isRowOf_failureRow result)
  unfold failures
  dsimp only
  rw [h]
  by_cases hzero : n = 0
  · rw [if_pos (List.isEmpty_iff.mpr (List.eq_nil_of_length_eq_zero (h.trans hzero)))]
    exact .none hzero
  · have hsome : ¬r.failures.isEmpty = true := by
      rw [List.isEmpty_iff_length_eq_zero, h]
      exact hzero
    rw [if_neg hsome]
    by_cases hmany : failureLimit < n
    · rw [if_pos hmany]
      exact .first hmany htable
    · rw [if_neg hmany]
      exact .all (Nat.pos_of_ne_zero hzero) (Nat.le_of_not_lt hmany) htable

/-! ## The figures -/

/-- A number of results with its sign and its name. -/
structure Figure where
  color : Text
  icon : Text
  name : Text
  count : Nat

namespace Figure

/-- How a figure is shown. -/
def text (f : Figure) : Text :=
  styled f.color (f.icon ++ s!" {f.count} " ++ f.name)

/-- The figures of results, which count the outcomes. -/
def all (results : List CaseResult) : List Figure :=
  [⟨"green", "✓", "passed", countOutcome .pass results⟩, ⟨"red", "✗", "failed", countOutcome .fail results⟩,
    ⟨"yellow", "⊘", "skipped", countOutcome .skip results⟩,
    ⟨"magenta", "⚠", "errors", countOutcome .errorCompile results + countOutcome .errorRuntime results⟩]

/-- The figures that are shown: those that are not zero. -/
def shown (results : List CaseResult) : List Figure :=
  (all results).filter (0 < ·.count)

/-- The figures that are shown account for all results. -/
theorem sum_shown (results : List CaseResult) : ((shown results).map (·.count)).sum = results.length := by
  have hall : ((all results).map (·.count)).sum = results.length := by
    obtain ⟨hpassed, hfailed, hskipped, herrors⟩ := RunReport.Counters.mk.inj (RunReport.counters_ofResults results)
    rw [← RunReport.total_ofResults, RunReport.total, hpassed, hfailed, hskipped, herrors]
    simp only [all, List.map_cons, List.map_nil, List.sum_cons, List.sum_nil]
    omega
  have hfilter (figures : List Figure) :
      ((figures.filter (0 < ·.count)).map (·.count)).sum = (figures.map (·.count)).sum := by
    induction figures with
    | nil => rfl
    | cons f rest ih =>
        rw [List.filter_cons, List.map_cons, List.sum_cons, ← ih]
        by_cases hpositive : 0 < f.count
        · rw [if_pos (decide_eq_true hpositive), List.map_cons, List.sum_cons]
        · rw [if_neg (mt of_decide_eq_true hpositive)]
          omega
  exact (hfilter _).trans hall

end Figure

theorem countPart_eq (color icon name : Text) (count : Nat) :
    countPart color icon name count =
      ([(⟨color, icon, name, count⟩ : Figure)].filter (0 < ·.count)).map Figure.text := by
  cases count with
  | zero => rfl
  | succ n => rfl

theorem parts_countsOf (results : List CaseResult) :
    let c := countsOf (RunReport.ofResults results)
    countPart "green" "✓" "passed" c.passed ++ countPart "red" "✗" "failed" c.failed ++
        countPart "yellow" "⊘" "skipped" c.skipped ++ countPart "magenta" "⚠" "errors" c.errors =
      (Figure.shown results).map Figure.text := by
  obtain ⟨hpassed, hfailed, hskipped, herrors⟩ := RunReport.Counters.mk.inj (RunReport.counters_ofResults results)
  dsimp only [countsOf]
  rw [countPart_eq, countPart_eq, countPart_eq, countPart_eq, ← List.map_append, ← List.map_append, ← List.map_append,
    ← List.filter_append, ← List.filter_append, ← List.filter_append, hpassed, hfailed, hskipped, herrors]
  rfl

/-- What is shown of the numbers of results. -/
inductive ShowsFigures (results : List CaseResult) : List Display → Prop
  | none : results = [] → ShowsFigures results [.line ("  " ++ styled "dim" "No tests executed")]
  | some {behind : Text} : results ≠ [] → ShowsFigures results
      [.blank, .line ("  " ++ (styled "bold" (toString results.length) ++ (" tests  " ++ behind))),
        .line ("  " ++ Text.intercalate "  " ((Figure.shown results).map (·.text))), .blank]

theorem showsFigures_summaryBar {results : List CaseResult} {duration : Float} {ds : List Display}
    (h : summaryBar (countsOf (RunReport.ofResults results)) duration = .ok ds) : ShowsFigures results ds := by
  unfold summaryBar at h
  rw [total_countsOf, RunReport.total_ofResults] at h
  by_cases hnone : results = []
  · rw [if_pos (by rw [hnone]; rfl)] at h
    cases h
    exact .none hnone
  · have hlength : (results.length : Int) ≠ 0 := by
      rw [ne_eq, Int.natCast_eq_zero, List.length_eq_zero_iff]
      exact hnone
    rw [if_neg hlength] at h
    obtain ⟨share, -, h⟩ := bind_eq_ok_iff.mp h
    obtain ⟨bar, -, h⟩ := bind_eq_ok_iff.mp h
    obtain ⟨total, htotal, h⟩ := bind_eq_ok_iff.mp h
    cases h
    rw [Document.eq_of_intText htotal, parts_countsOf]
    simp only [Text.append_assoc]
    exact .some hnone

/-! ## The whole summary -/

/-- What is shown of a run: its failures if there are any, its times, its figures, and how it ended. -/
inductive Summarises (r : RunReport) (results : List CaseResult) : List Display → Prop
  | intro {front figures : List Display} {times : List (List Text)} {last : Display} :
      ShowsFailures results (r.failed + r.errors) front → ShowsFigures results figures →
        (last = success "All compliance tests passed" ↔ r.failed + r.errors = 0) →
        (r.failed + r.errors ≠ 0 → last = error s!"{r.failed} failed, {r.errors} errors") →
        Summarises r results (front ++ [.table (measures "Performance" times)] ++ figures ++ [last])

theorem success_ne_error (done failed : Text) : success done ≠ error failed := by
  intro h
  -- The colours differ in their first characters, which stand behind the bracket.
  have hsecond : some (CodePoint.char 'g') = some (CodePoint.char 'r') :=
    congrArg (·.toList[1]?) (Display.line.inj h)
  cases hsecond

/-- For all results that are recorded and any time that the run took, what is shown accounts for every failure: whatever
is shown is a summary of the results, and it is shown unless the time vanishes in seconds. -/
theorem runReport_accounts (results : List CaseResult) (duration : Float) :
    let r := { RunReport.ofResults results with totalDurationMs := duration }
    r.failed + r.errors = (results.filter (·.outcome.isFailure)).length ∧
      ((Figure.shown results).map (·.count)).sum = results.length ∧
      (∀ shown, runReport r = .ok shown → Summarises r results shown) ∧
      (results.length ≤ largestLength → (duration ≤ 0.0 ∨ (duration / 1000.0 == 0.0) = false) →
        ∃ shown, runReport r = .ok shown) := by
  intro r
  have hlength : r.total = results.length := RunReport.total_ofResults results
  have hfailures : r.failed + r.errors = (results.filter (·.outcome.isFailure)).length :=
    RunReport.failed_add_errors results
  refine ⟨hfailures, Figure.sum_shown results, fun shown h => ?_, fun hfits hduration => ?_⟩
  · unfold runReport performance at h
    obtain ⟨times, hspeed, h⟩ := bind_eq_ok_iff.mp h
    obtain ⟨speed, -, htimes⟩ := bind_eq_ok_iff.mp hspeed
    obtain ⟨bar, hbar, h⟩ := bind_eq_ok_iff.mp h
    cases htimes
    cases h
    have hcases : r.cases = results := RunReport.cases_ofResults results
    refine .intro ?_ (showsFigures_summaryBar hbar) ?_ ?_
    · rw [← hcases]
      refine showsFailures_failures ?_
      rw [RunReport.failures, hcases, hfailures]
    · by_cases hnone : r.failed + r.errors = 0
      · rw [if_pos (RunReport.success_iff.mpr hnone)]
        exact iff_of_true rfl hnone
      · rw [if_neg (mt RunReport.success_iff.mp hnone)]
        exact iff_of_false (Ne.symm (success_ne_error _ _)) hnone
    · intro hsome
      exact if_neg (mt RunReport.success_iff.mp hsome)
  · rw [← hlength] at hfits
    obtain hzero | hseconds := hduration
    · exact exists_runReport_eq_ok hfits (RunReport.testsPerSecond_of_le_zero hzero)
    · obtain ⟨speed, hspeed⟩ := RunReport.exists_testsPerSecond_of_seconds (le_twoTo_of_le_largestLength hfits) hseconds
      exact exists_runReport_eq_ok hfits hspeed

/-- Of fifty-one failures one is left out. -/
theorem runReport_accounts_many :
    let bad : CaseResult := ⟨"x", .fail, 0.0, "expected failure", "x.sv"⟩
    let results := List.replicate 51 bad ++ [{ bad with outcome := .pass }]
    ∃ shown, runReport { RunReport.ofResults results with totalDurationMs := 0.0 } = .ok shown ∧
      info "... and 1 more" ∈ shown := by
  intro bad results
  obtain ⟨hfailures, -, hsummarises, hexists⟩ := runReport_accounts results 0.0
  obtain ⟨shown, hshown⟩ := hexists (by decide) (.inl (by decide +kernel))
  refine ⟨shown, hshown, ?_⟩
  have hcount := hfailures.trans (show (results.filter (·.outcome.isFailure)).length = 51 from rfl)
  cases hsummarises shown hshown with
  | intro hfront =>
      rw [hcount] at hfront
      cases hfront with
      | none hnone => cases hnone
      | all _ hfew _ => exact absurd hfew (by decide)
      | first =>
          have hremark : info "... and 1 more" = info s!"... and {51 - 50} more" := congrArg info (by decide)
          rw [hremark]
          exact List.mem_append_left _ (List.mem_append_left _ (List.mem_append_left _ (.tail _ (.head _))))

end Terminal

/-! ## Statistics -/

/-- Every case is counted in one chapter at most. -/
theorem Suite.sumOfCounts_chapterStatistics_le (s : Suite) : sumOfCounts s.chapterStatistics ≤ s.cases.length := by
  rw [sumOfCounts_chapterStatistics]
  exact List.countP_le_length

/-- The statistics of a suite can be shown. -/
theorem Terminal.exists_chapterStatistics_eq_ok {s : Suite} (h : s.cases.length ≤ largestLength) :
    ∃ d, chapterStatistics (s.chapterStatistics.map fun (id, n) => (id, (n : Int))) = .ok d := by
  have hsum (counts : List (Text × Nat)) (start : Nat) :
      ((counts.map fun (id, n) => (id, (n : Int))).map (·.2)).foldl (· + ·) (start : Int) =
        ((start + Suite.sumOfCounts counts : Nat) : Int) := by
    induction counts generalizing start with
    | nil => rfl
    | cons entry rest ih =>
        refine (ih (start + entry.2)).trans ?_
        simp only [Suite.sumOfCounts, List.map_cons, List.sum_cons]
        omega
  obtain ⟨digits, hdigits⟩ := Document.exists_intText_eq_ok
    (Nat.le_trans s.sumOfCounts_chapterStatistics_le h)
  unfold chapterStatistics
  split
  · exact ⟨_, rfl⟩
  · have htotal := hsum s.chapterStatistics 0
    rw [Nat.zero_add] at htotal
    rw [show (0 : Int) = ((0 : Nat) : Int) from rfl, htotal, hdigits]
    exact ⟨_, rfl⟩

end Conformance
