import Conformance.Proofs.Failure
import Conformance.Proofs.Run.Copies
import Conformance.Proofs.Run.Report

/-!
# Cases by themselves

With compilers that are copies of one another, the cases of a run have nothing to do with each other: each
ends as it does when it is run alone.  What is said of an action here holds in every session, and only as long
as the time can be read.

Main results:

- `Runner.endsAs_runCases`: cases that are run one after another end as each of them does alone.
- `Runner.runAll_isolated`: a run of all cases does not depend on their order, and can be repeated.
-/

namespace Conformance

/-! ## Endings -/

/-- An action ends as expected in every session, as far as its value is looked at, unless the time cannot be
read any more. -/
def Act.EndsAs {α β : Type} (x : Act α) (view : α → β) (expected : Except Failure β) : Prop :=
  ∀ s, match x.runOn s with
    | (.ok a, _) => expected = .ok (view a)
    | (.error f, s') => expected = .error f ∨ ¬s'.Readable

namespace Act.EndsAs

variable {α β γ δ : Type} {x : Act α} {view : α → β}

theorem pure (a : α) (view : α → β) : (Pure.pure a : Act α).EndsAs view (.ok (view a)) :=
  fun _ => rfl

theorem of_ending {expected : Except Failure α} (h : ∀ s, (x.runOn s).1 = expected) :
    x.EndsAs id expected := by
  intro s
  have hending := h s
  rcases hrun : x.runOn s with ⟨f | a, s'⟩
  · rw [hrun] at hending
    exact .inl hending.symm
  · rw [hrun] at hending
    exact hending.symm

/-- Behind an action that is expected to end with a value, what comes next can rely on the value as far as it
is looked at. -/
theorem bind_ok {k : α → Act γ} {view' : γ → δ} {b : β} {expected : Except Failure δ}
    (hx : x.EndsAs view (.ok b)) (hk : ∀ a, view a = b → (k a).EndsAs view' expected) :
    (x >>= k).EndsAs view' expected := by
  intro s
  have hending := hx s
  rw [Act.runOn_bind]
  rcases hrun : x.runOn s with ⟨f | a, s'⟩
  · rw [hrun] at hending
    exact .inr (hending.resolve_left (fun h => nomatch h))
  · rw [hrun] at hending
    exact hk a (Except.ok.inj hending).symm s'

/-- What is expected of an action and of what comes behind it is expected of both together. -/
theorem bind {k : α → Act γ} {view' : γ → δ} {expected : Except Failure β}
    {expected' : β → Except Failure δ} (hx : x.EndsAs view expected)
    (hk : ∀ a, (k a).EndsAs view' (expected' (view a))) :
    (x >>= k).EndsAs view' (expected >>= expected') := by
  cases expected with
  | ok b => exact hx.bind_ok fun a ha => ha ▸ hk a
  | error f =>
      intro s
      have hending := hx s
      rw [Act.runOn_bind]
      rcases hrun : x.runOn s with ⟨f' | a, s'⟩
      · rw [hrun] at hending
        exact Or.imp_left (congrArg Except.error ∘ Except.error.inj) hending
      · rw [hrun] at hending
        cases hending

/-- Looking at the time does not matter for how an action ends. -/
theorem seconds_bind {k : Float → Act γ} {view : γ → δ} {expected : Except Failure δ}
    (hk : ∀ time, (k time).EndsAs view expected) : (Act.seconds >>= k).EndsAs view expected := by
  intro s
  by_cases hs : s.Readable
  · obtain ⟨time, htime⟩ := hs.runOn_seconds
    rw [Act.runOn_bind_ok htime]
    exact hk time s
  · obtain ⟨f, hf⟩ := Session.runOn_seconds_of_not_readable hs
    rw [Act.runOn_bind_error hf]
    exact .inr hs

end Act.EndsAs

/-! ## Runs of many cases -/

/-- What is kept of the cases of a run, but for the time they took. -/
def RunReport.entries (report : RunReport) : List (Text × Outcome × Text × Text) :=
  report.cases.map CaseResult.entry

namespace Runner

variable {r : Runner}

/-- Run all cases of a suite that is held somewhere. -/
def runHeld (r : Runner) (tree : FileTree) : StateT Suite Act RunReport := do
  r.runAll tree (← get)

/-- Run all cases of a suite that is held somewhere, and run them once more. -/
def runTwice (r : Runner) (tree : FileTree) : StateT Suite Act (RunReport × RunReport) := do
  let first ← r.runHeld tree
  let second ← r.runHeld tree
  pure (first, second)

/-- What is kept of a case that is run when nothing else has happened, but for the time it takes. -/
def entryAlone (r : Runner) (tree : FileTree) (c : TestCase) :
    Except Failure (Text × Outcome × Text × Text) := do
  let (outcome, message) ← ((r.execute tree c).runOn (.start 0)).1
  pure (c.name, outcome, message, c.filePath.toText)

/-- The run of a case ends in the same way in every session, but for the time. -/
theorem endsAs_runCase (h : r.factory.Independent) (tree : FileTree) (c : TestCase) :
    (r.runCase tree c).EndsAs CaseResult.entry (r.entryAlone tree c) := by
  refine .seconds_bind fun start => ?_
  refine (Act.EndsAs.of_ending fun s => ending_execute h tree c s (.start 0)).bind fun ending => ?_
  refine .seconds_bind fun finish => ?_
  cases r.observed with
  | true => exact fun _ => rfl
  | false => exact fun _ => rfl

/-- Cases that are run one after another end as each of them does alone. -/
theorem endsAs_runCases (h : r.factory.Independent) (tree : FileTree) (cases : List TestCase) :
    (r.runCases tree cases).EndsAs (List.map CaseResult.entry) (cases.mapM (r.entryAlone tree)) := by
  induction cases with
  | nil => exact .pure [] _
  | cons c rest ih =>
      rw [List.mapM_cons]
      refine (endsAs_runCase h tree c).bind fun result => ?_
      exact ih.bind fun results => .pure (result :: results) _

theorem endsAs_runAll (h : r.factory.Independent) (tree : FileTree) (suite : Suite) :
    (r.runAll tree suite).EndsAs RunReport.entries (suite.cases.mapM (r.entryAlone tree)) := by
  refine .seconds_bind fun start => ?_
  rw [← bind_pure (suite.cases.mapM _)]
  refine (endsAs_runCases h tree suite.cases).bind fun results => .seconds_bind fun finish => ?_
  intro s
  simp only [RunReport.entries, RunReport.cases_ofResults, Act.runOn_pure]
  rfl

/-- A second run repeats the first one, and both leave the suite as it is. -/
theorem endsAs_runTwice (h : r.factory.Independent) (tree : FileTree) (suite : Suite)
    {entries : List (Text × Outcome × Text × Text)}
    (hentries : suite.cases.mapM (r.entryAlone tree) = .ok entries) :
    ((r.runTwice tree).run suite).EndsAs
      (fun ((first, second), left) => (first.entries, second.entries, left))
      (.ok (entries, entries, suite)) := by
  have hrun := endsAs_runAll h tree suite
  rw [hentries] at hrun
  have htwice : (r.runTwice tree).run suite = (do
      let first ← r.runAll tree suite
      let second ← r.runAll tree suite
      pure ((first, second), suite)) := by
    simp [runTwice, runHeld]
  rw [htwice]
  refine hrun.bind_ok fun first hfirst => hrun.bind_ok fun second hsecond => ?_
  intro s
  simp only [Act.runOn_pure, hfirst, hsecond]

/-! ## Isolation -/

/-- What a run of all cases keeps of each is what a run of this case alone gives, in whatever session.  Cases
in another order give the same in this order, and so does a second run, which finds the suite as it was.  A
run fails only as one of its cases does alone.  All this is up to a time that cannot be read. -/
theorem runAll_isolated (h : r.factory.Independent) (tree : FileTree) (suite : Suite) (s : Session) :
    match (r.runAll tree suite).runOn s with
    | (.ok report, _) =>
        List.Forall₂ (fun c result => (r.runCase tree c).EndsAs CaseResult.entry (.ok result.entry))
            suite.cases report.cases ∧
          (∀ pairs : List (TestCase × _), pairs.Perm (suite.cases.zip report.entries) →
            (r.runAll tree { suite with cases := pairs.map Prod.fst }).EndsAs RunReport.entries
              (.ok (pairs.map Prod.snd))) ∧
          ((r.runTwice tree).run suite).EndsAs
            (fun ((first, second), left) => (first.entries, second.entries, left))
            (.ok (report.entries, report.entries, suite))
    | (.error f, finish) =>
        finish.Readable →
          ∃ c ∈ suite.cases, (r.runCase tree c).EndsAs CaseResult.entry (.error f) := by
  have hending := endsAs_runAll h tree suite s
  rcases hrun : (r.runAll tree suite).runOn s with ⟨f | report, finish⟩
  · rw [hrun] at hending
    intro hfinish
    obtain ⟨c, hmem, hc⟩ := exists_of_mapM_eq_error (hending.resolve_right (not_not_intro hfinish))
    exact ⟨c, hmem, hc ▸ endsAs_runCase h tree c⟩
  · rw [hrun] at hending
    have hentries : List.Forall₂ (fun c entry => r.entryAlone tree c = .ok entry) suite.cases
        report.entries := mapM_eq_ok_iff.mp hending
    refine ⟨?_, ?_, endsAs_runTwice h tree suite hending⟩
    · rw [RunReport.entries, List.forall₂_map_right_iff] at hentries
      exact hentries.imp fun c result hc => hc ▸ endsAs_runCase h tree c
    · intro pairs hpairs
      have hpairs' : (pairs.map Prod.fst).mapM (r.entryAlone tree) = .ok (pairs.map Prod.snd) := by
        rw [mapM_eq_ok_iff, List.forall₂_map_left_iff, List.forall₂_map_right_iff, List.forall₂_same]
        intro pair hmem
        exact List.forall₂_zip hentries (hpairs.mem_iff.mp hmem)
      rw [← hpairs']
      exact endsAs_runAll h tree { suite with cases := pairs.map Prod.fst }

/-! ## Compilers that remember -/

/-- Compilers that take a source only if they have been prepared, and work the longer, the more has happened
to compilers. -/
def wakingFactory : Factory := fun built =>
  .ok {
    typeName := "Waking"
    prepare := .callable fun _ => .now (.ok ())
    compileAdvanced := .missing
    compile := .callable fun t _ =>
      { ending := if .prepare ∈ t.requests built.nextNumber then .ok () else .error (.host "not ready")
        elapsed := t.length
        log := [] }
    describe := .missing
    shutdown := .missing }

theorem wakingFactory_independent : wakingFactory.Independent := by
  intro built built'
  refine .done ⟨rfl, .callable fun _ _ _ => rfl, .missing, .callable fun source t t' ht => ?_, .missing⟩
  simp only [ht]

/-- A runner of such compilers. -/
def wakingRunner : Runner where
  factory := wakingFactory
  skipTags := []
  limit := 1000
  fixturesRoot := none
  observed := true

/-- A tree that holds one fixture. -/
def wakingTree : FileTree where
  top := .directory [("present.sv", .plain "module m; endmodule".toUTF8)]
  current := []

/-- A case of this fixture, and one of a fixture that is not there. -/
def wakingSuite : Suite where
  extensions := [".sv"]
  limit := 1000
  cases := [.ofText ⟨.current, ["present.sv"]⟩ "", .ofText ⟨.current, ["absent.sv"]⟩ ""]

theorem runAll_isolated_waking :
    ∃ report finish, (wakingRunner.runAll wakingTree wakingSuite).runOn (.start 0) = (.ok report, finish) ∧
      report.cases.map CaseResult.outcome = [.pass, .errorCompile] ∧
      (wakingRunner.runAll wakingTree { wakingSuite with cases := wakingSuite.cases.reverse }).EndsAs
        RunReport.entries (.ok report.entries.reverse) := by
  have hisolated := runAll_isolated (r := wakingRunner) wakingFactory_independent wakingTree wakingSuite
    (.start 0)
  have hreturns : ((wakingRunner.runAll wakingTree wakingSuite).runOn (.start 0)).1.isOk = true := by
    decide +kernel
  have houtcomes : ((wakingRunner.runAll wakingTree wakingSuite).runOn (.start 0)).1.toOption.map
      (·.cases.map CaseResult.outcome) = some [.pass, .errorCompile] := by
    decide +kernel
  rcases hrun : (wakingRunner.runAll wakingTree wakingSuite).runOn (.start 0) with ⟨f | report, finish⟩
  · rw [hrun] at hreturns
    cases hreturns
  · rw [hrun] at hisolated houtcomes
    have hcases : report.cases.map CaseResult.outcome = [.pass, .errorCompile] := Option.some.inj houtcomes
    have hlength : wakingSuite.cases.length = report.entries.length := by
      rw [RunReport.entries, List.length_map]
      exact hisolated.1.length_eq
    have hreversed := hisolated.2.1 _ (List.reverse_perm (wakingSuite.cases.zip report.entries))
    rw [List.map_reverse, List.map_reverse, List.map_fst_zip (Nat.le_of_eq hlength),
      List.map_snd_zip (Nat.le_of_eq hlength.symm)]
      at hreversed
    exact ⟨report, finish, rfl, hcases, hreversed⟩

end Runner

end Conformance
