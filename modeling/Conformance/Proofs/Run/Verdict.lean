import Conformance.Proofs.Fixture.Directive
import Conformance.Proofs.Fixture.Case
import Conformance.Proofs.Run.Case

/-!
# Verdicts

A case passes if its fixture is rejected exactly when it says that it has to be.  This holds for every
compiler that can be built and prepared, and for every way in which a compilation can end.

Main results:

- `Runner.runOn_judge`: the outcome is known from whether the compilation was rejected.
- `Runner.outcome_runCase`: the outcome of a case that was read from a fixture.
-/

namespace Conformance.Runner

open Adapter (isRejected isRejected_iff)

variable {r : Runner} {c : TestCase} {source : Text}

/-! ## Judging -/

/-- The outcome for a verdict of the compiler and what the fixture says. -/
def outcomeOf (rejected shouldFail : Bool) : Outcome :=
  if rejected = shouldFail then .pass else .fail

theorem outcomeOf_eq_pass_iff {rejected shouldFail : Bool} :
    outcomeOf rejected shouldFail = .pass ↔ (rejected = true ↔ shouldFail = true) := by
  cases rejected <;> cases shouldFail <;> decide

theorem outcomeOf_eq_fail_iff {rejected shouldFail : Bool} :
    outcomeOf rejected shouldFail = .fail ↔ ¬(rejected = true ↔ shouldFail = true) := by
  cases rejected <;> cases shouldFail <;> decide

theorem classify_fst (c : TestCase) (result : CompileResult) :
    (classify c result).1 = outcomeOf (isRejected (.ok result)) c.shouldFail := by
  unfold classify isRejected outcomeOf
  cases hsuccess : result.success <;> cases c.shouldFail <;> simp [hsuccess]

/-- The outcome is known from whether the compilation was rejected, unless that failed in a way in which no
case may end. -/
theorem runOn_judge (c : TestCase) (a : Adapter) (source : Text) (s : Session)
    (h : ∀ f, ((a.compile source).runOn s).1 = .error f → f.isOrdinary = true) :
    ∃ message s', (judge c a source).runOn s =
        (.ok (outcomeOf (isRejected ((a.compile source).runOn s).1) c.shouldFail, message), s') ∧
      s'.Alike ((a.compile source).runOn s).2 := by
  unfold judge
  rw [Act.runOn_attempt_bind]
  rcases hending : ((a.compile source).runOn s).1 with f | result
  · simp only [h f hending, Bool.not_true, Bool.false_eq_true, if_false]
    cases hshould : c.shouldFail with
    | true => exact ⟨_, _, rfl, .refl _⟩
    | false => exact ⟨_, _, rfl, rfl, rfl⟩
  · rw [← classify_fst]
    exact ⟨_, _, rfl, .refl _⟩

/-! ## Cases -/

/-- A compiler that a runner can work with on a source: it can be built and prepared, and both compiling the
source and shutting down end with a value or with a failure that a case may end with. -/
structure Service (r : Runner) (source : Text) (s : Session) where
  adapter : Adapter
  built : Session
  ready : Session
  create_eq : (Adapter.create r.factory).runOn s = (.ok adapter, built)
  prepare_eq : adapter.prepare.runOn built = (.ok (), ready)
  compile_ordinary : ∀ f, ((adapter.compile source).runOn ready).1 = .error f → f.isOrdinary = true
  shutdown_ordinary : ∀ f, (adapter.shutdown.runOn ((adapter.compile source).runOn ready).2).1 = .error f →
    f.isOrdinary = true

namespace Service

variable {s : Session}

/-- The session in which the compiler has been shut down, but for the notes taken. -/
def finish (v : Service r source s) : Session :=
  (v.adapter.shutdown.runOn ((v.adapter.compile source).runOn v.ready).2).2

/-- How the compilation ends. -/
def ending (v : Service r source s) : Except Failure CompileResult :=
  ((v.adapter.compile source).runOn v.ready).1

/-- The source was rejected: the compilation failed, or its result is no success. -/
def Rejected (v : Service r source s) : Prop :=
  ∀ result, v.ending = .ok result → result.success = false

/-- A source is rejected exactly if the compiler itself rejects it. -/
theorem rejected_iff (v : Service r source s) :
    v.Rejected ↔ v.adapter.compiler.Rejects v.ready.trace source := by
  obtain ⟨compiler, hadapt⟩ := Adapter.adapt_of_runOn_create v.create_eq
  rw [Rejected, ← isRejected_iff, ending, Adapter.isRejected_compile_iff hadapt]

theorem runOn_prepared (v : Service r source s) (c : TestCase) :
    (prepared c v.adapter source).runOn v.built = (judge c v.adapter source).runOn v.ready := by
  unfold prepared
  rw [Act.runOn_attempt_bind, v.prepare_eq]

/-- A source that is run through the compiler gets its outcome. -/
theorem runOn_compiled (v : Service r source s) (c : TestCase) :
    ∃ message s', (r.compiled c source).runOn s =
        (.ok (outcomeOf (isRejected v.ending) c.shouldFail, message), s') ∧ s'.Alike v.finish := by
  obtain ⟨message, judged, hjudge, hjudged⟩ := runOn_judge c v.adapter source v.ready v.compile_ordinary
  obtain ⟨hending, hshutdown⟩ := v.adapter.runOn_shutdown_of_alike hjudged
  obtain ⟨s', hrelease, hs'⟩ := exists_runOn_release v.adapter c.name judged
    (hending ▸ v.shutdown_ordinary)
  have hprepared := (v.runOn_prepared c).trans hjudge
  have hreleasing := runOn_releasing (a := v.adapter) (s := v.built) (by rw [hprepared]; exact hrelease)
  rw [hprepared] at hreleasing
  refine ⟨message, s', ?_, hs'.trans hshutdown⟩
  unfold compiled
  rw [Act.runOn_attempt_bind, v.create_eq]
  exact hreleasing

end Service

/-- A case gets the outcome of its source, if the time can be read. -/
theorem runOn_runCase {tree : FileTree} {outcome : Outcome} {message : Text} {s s' : Session}
    (hstart : s.Readable) (hfinish : s'.Readable)
    (h : (r.execute tree c).runOn s = (.ok (outcome, message), s')) :
    ∃ result finish, (r.runCase tree c).runOn s = (.ok result, finish) ∧ result.outcome = outcome := by
  have hrun := caseRun_runCase r tree c s
  generalize (r.runCase tree c).runOn s = ran at hrun
  cases hrun with
  | untimed _ hs => exact absurd hstart hs
  | failed _ hexecute => cases h.symm.trans hexecute
  | overrun _ _ hexecute hleft =>
      cases h.symm.trans hexecute
      exact absurd hfinish hleft
  | finished _ _ hexecute _ =>
      cases h.symm.trans hexecute
      exact ⟨_, _, rfl, rfl⟩

/-- A case whose fixture was read, and for whose tags nothing is skipped, passes if its fixture is rejected
exactly when it says that it has to be, and fails otherwise.  The time has to be readable when the case
starts and when its compiler has been shut down. -/
theorem outcome_runCase {tree : FileTree} {path : Path} {text : Text} {s : Session}
    (hload : TestCase.load tree path r.limit = .ok c)
    (hread : Fixture.read tree path r.limit = .ok text)
    (htags : ∀ tag ∈ c.tags, tag ∉ r.skipTags)
    (v : Service r text s) (hstart : s.Readable) (hfinish : v.finish.Readable) :
    ∃ result finish, (r.runCase tree c).runOn s = (.ok result, finish) ∧
      (result.outcome = .pass ↔ (v.Rejected ↔ Fixture.MarkedToFail text)) ∧
      (result.outcome = .fail ↔ ¬(v.Rejected ↔ Fixture.MarkedToFail text)) ∧
      (v.Rejected ↔ v.adapter.compiler.Rejects v.ready.trace text) := by
  have hcase : c = TestCase.ofText path text := by
    rw [TestCase.load, hread] at hload
    exact (Except.ok.inj hload).symm
  have hpath : c.filePath = path := by
    rw [hcase]
    rfl
  have hmarked : c.shouldFail = true ↔ Fixture.MarkedToFail text := by
    rw [hcase]
    exact Fixture.shouldFail_ofText_iff
  obtain ⟨message, s', hcompiled, hs'⟩ := v.runOn_compiled c
  rw [← execute_eq_compiled (skippedBy_eq_nil_iff.mpr htags) (hpath.symm ▸ hread)] at hcompiled
  obtain ⟨result, finish, hrun, houtcome⟩ := runOn_runCase hstart (hs'.readable hfinish) hcompiled
  refine ⟨result, finish, hrun, ?_, ?_, v.rejected_iff⟩
  · rw [houtcome, outcomeOf_eq_pass_iff, isRejected_iff, hmarked, Service.Rejected]
  · rw [houtcome, outcomeOf_eq_fail_iff, isRejected_iff, hmarked, Service.Rejected]

/-! ## A rejected fixture -/

/-- A fixture that has to be rejected. -/
def rejectedText : Text :=
  "/* :name: m\n:tags: module\n:should_fail_because: it has no end\n*/"

/-- A tree that holds the fixture. -/
def rejectedTree : FileTree where
  top := .directory [("unbalanced.sv", .plain ((rejectedText.string?.map String.toUTF8).getD .empty))]
  current := []

/-- The case of the fixture. -/
def rejectedCase : TestCase where
  name := "unbalanced"
  filePath := ⟨.current, ["unbalanced.sv"]⟩
  description := ""
  tags := ["module"]
  shouldFail := true
  reason := some "it has no end"

/-- A compiler that fails on every source, and that cannot be shut down either. -/
def refusingCompiler : Compiler where
  typeName := "Refusing"
  prepare := .missing
  compileAdvanced := .missing
  compile := .callable fun _ _ => .now (.error (.badValue "no source is good enough"))
  describe := .missing
  shutdown := .callable fun _ => .now (.error (.host "stuck"))

/-- A runner with that compiler, which skips cases with a tag that the case does not have. -/
def refusingRunner : Runner where
  factory := fun _ => .ok refusingCompiler
  skipTags := ["slow"]
  limit := 1000
  fixturesRoot := none
  observed := true

/-- The runner can work with the compiler. -/
def refusingService : Service refusingRunner rejectedText (.start 0) where
  adapter := ⟨⟨0, refusingCompiler⟩, ⟨.simple, false, true, false⟩⟩
  built := ⟨0, [], [.built 0]⟩
  ready := ⟨0, [], [.built 0]⟩
  create_eq := rfl
  prepare_eq := rfl
  compile_ordinary := by
    intro f hf
    cases hf
  shutdown_ordinary := by
    intro f hf
    cases hf
    rfl

theorem outcome_runCase_rejected :
    ∃ result finish,
      (refusingRunner.runCase rejectedTree rejectedCase).runOn (.start 0) = (.ok result, finish) ∧
        result.outcome = .pass := by
  have hread : Fixture.read rejectedTree ⟨.current, ["unbalanced.sv"]⟩ refusingRunner.limit =
      .ok rejectedText := by
    rw [Fixture.read_of_file rfl rfl]
    rfl
  have hload : TestCase.load rejectedTree ⟨.current, ["unbalanced.sv"]⟩ refusingRunner.limit =
      .ok rejectedCase := by
    rw [TestCase.load, hread]
    exact congrArg Except.ok (by decide +kernel)
  have hmarked : Fixture.MarkedToFail rejectedText := Fixture.shouldFail_ofText_iff.mp (by decide +kernel)
  have hrejected : refusingService.Rejected :=
    refusingService.rejected_iff.mpr (.simple rfl rfl (fun h => nomatch h))
  obtain ⟨result, finish, hrun, hpass, -⟩ :=
    outcome_runCase hload hread (by decide) refusingService ⟨_, rfl⟩ ⟨_, rfl⟩
  exact ⟨result, finish, hrun, hpass.mpr (iff_of_true hrejected hmarked)⟩

end Conformance.Runner
