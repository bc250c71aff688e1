import Conformance.Proofs.CommandLine.Prepare
import Conformance.Proofs.Fixture.Case
import Conformance.Proofs.Fixture.Suite
import Conformance.Proofs.Run.Completion
import Conformance.Proofs.Run.Verdict

/-!
# Fixtures that cannot be read

A fixture is read twice: when it is found, and when its case is run.  Both readings agree, and nothing but the
reading decides whether a case ends as one that could not be read, whatever its compiler does.

Main results:

- `Runner.yields_compiled`: the run of a source does not end as if the source could not be read.
- `Runner.errorCompile_iff_unreadable`: the run of a case agrees with reading it as a case.
- `Runner.reading_agrees`: so do the runs of cases that were found in a directory.
-/

namespace Conformance

/-! ## Values of actions -/

/-- An action has only certain values. -/
def Act.Yields {α : Type} (x : Act α) (P : α → Prop) : Prop :=
  ∀ s a s', x.runOn s = (.ok a, s') → P a

namespace Act.Yields

variable {α β : Type} {x : Act α} {k : α → Act β} {P : β → Prop}

theorem pure {b : β} (h : P b) : (Pure.pure b : Act β).Yields P := by
  intro s b' s' hrun
  cases hrun
  exact h

theorem throw (f : Failure) : (MonadExcept.throw f : Act β).Yields P := by
  intro s b s' hrun
  cases hrun

/-- The values of an action are those of what comes last. -/
theorem bind (hk : ∀ a, (k a).Yields P) : (x >>= k).Yields P := by
  intro s b s' hrun
  obtain ⟨a, left, -, hlast⟩ := Act.runOn_bind_eq_ok_iff.mp hrun
  exact hk a left b s' hlast

end Act.Yields

namespace Fixture

variable {tree : FileTree} {path : Path} {limit : Int} {fault : ReadFault}

/-- A path that cannot be handed to the system is not reported as an unreadable fixture. -/
theorem typeName_refusal {failure : Failure} (h : path.refusal? = some failure) :
    failure.typeName ≠ "FixtureReadError" := by
  unfold Path.refusal? textRefusal? at h
  split at h
  · cases h
    exact ne_of_beq_false rfl
  · split at h
    · cases h
      exact ne_of_beq_false rfl
    · cases h

/-- Only what is wrong with one fixture is reported as an unreadable fixture. -/
theorem typeName_of_read_iff (h : read tree path limit = .error fault) :
    fault.failure.typeName = "FixtureReadError" ↔ fault.isUnreadable = true := by
  refine ⟨fun htype => ?_, ReadFault.typeName_failure⟩
  cases fault with
  | tooLarge => rfl
  | failed => rfl
  | grew => rfl
  | capacity fault =>
      refine absurd htype ?_
      cases fault <;> decide
  | refused failure =>
      unfold read at h
      split at h
      · rename_i hrefusal
        cases h
        exact absurd htype (typeName_refusal hrefusal)
      · cases h
      · split at h
        · cases h
        · split at h
          · cases h
          · cases h
          · dsimp only at h
            split at h <;> cases h

/-- Reading depends on what lies at the path only. -/
theorem read_congr {later : FileTree} (h : later.find path = tree.find path) :
    read later path limit = read tree path limit := by
  unfold read
  rw [h]

end Fixture

namespace Runner

variable {r : Runner} {tree : FileTree} {c : TestCase} {s s' : Session}

/-! ## One case -/

/-- The outcome is not that of a case whose fixture could not be read. -/
def WasRead (ending : Outcome × Text) : Prop :=
  ending.1 ≠ .errorCompile

theorem wasRead_classify (c : TestCase) (result : CompileResult) : WasRead (classify c result) := by
  unfold WasRead
  rw [classify_fst]
  unfold outcomeOf
  split
  · decide
  · decide

theorem yields_judge (c : TestCase) (a : Adapter) (source : Text) : (judge c a source).Yields WasRead := by
  refine .bind fun ending => ?_
  rcases ending with f | result
  · cases hf : f.isOrdinary with
    | false =>
        simp only [hf]
        exact .throw f
    | true =>
        simp only [hf]
        cases c.shouldFail with
        | true => exact .pure Outcome.noConfusion
        | false => exact .bind fun _ => .pure Outcome.noConfusion
  · exact .pure (wasRead_classify c result)

theorem yields_prepared (c : TestCase) (a : Adapter) (source : Text) : (prepared c a source).Yields WasRead := by
  refine .bind fun ending => ?_
  rcases ending with f | ⟨⟩
  · cases hf : f.isOrdinary with
    | false =>
        simp only [hf]
        exact .throw f
    | true =>
        simp only [hf]
        exact .bind fun _ => .pure Outcome.noConfusion
  · exact yields_judge c a source

/-- Shutting a compiler down does not change what its work has given. -/
theorem yields_releasing {α : Type} {work : Act α} {P : α → Prop} (a : Adapter) (label : Text)
    (hwork : work.Yields P) : (releasing a label work).Yields P := by
  intro s value s' h
  unfold releasing at h
  rw [Act.runOn_attempt_bind] at h
  obtain ⟨⟨⟩, left, -, hending⟩ := Act.runOn_bind_eq_ok_iff.mp h
  rw [Act.runOn_ofExcept] at hending
  have hvalue : (work.runOn s).1 = .ok value := congrArg Prod.fst hending
  exact hwork s value (work.runOn s).2 (Prod.ext hvalue rfl)

/-- Whatever its compiler does, the run of a source does not end as if the source could not be read. -/
theorem yields_compiled (r : Runner) (c : TestCase) (source : Text) : (r.compiled c source).Yields WasRead := by
  refine .bind fun ending => ?_
  rcases ending with f | a
  · cases hf : f.family == .unadaptable || !f.isOrdinary with
    | true =>
        simp only [hf]
        exact .throw f
    | false =>
        simp only [hf]
        exact .bind fun _ => .pure Outcome.noConfusion
  · exact yields_releasing a c.name (yields_prepared c a source)

/-- A case that is not skipped and cannot be read ends without a compiler. -/
theorem exists_runOn_execute {fault : Fixture.ReadFault} (hskipped : r.skippedBy c = [])
    (hread : Fixture.read tree c.filePath r.limit = .error fault) (hfault : fault.isUnreadable = true) (s : Session) :
    ∃ left, (r.execute tree c).runOn s = (.ok (.errorCompile, fault.message), left) ∧ left.Alike s := by
  have hexecution := execution_execute r tree c
  generalize r.execute tree c = action at hexecution
  cases hexecution with
  | skipped hskip => exact absurd hskipped hskip
  | unreadable _ hread' _ =>
      cases hread.symm.trans hread'
      exact ⟨_, rfl, rfl, rfl⟩
  | stopped _ hread' hstopped =>
      cases hread.symm.trans hread'
      cases hfault.symm.trans hstopped
  | compiled _ hread' => cases hread.symm.trans hread'

/-- A case ends as one that could not be read only if its fixture is at fault. -/
theorem exists_unreadable_of_execute {message : Text}
    (h : (r.execute tree c).runOn s = (.ok (.errorCompile, message), s')) :
    ∃ fault, Fixture.read tree c.filePath r.limit = .error fault ∧ fault.isUnreadable = true := by
  have hexecution := execution_execute r tree c
  generalize r.execute tree c = action at hexecution h
  cases hexecution with
  | skipped _ => cases h
  | unreadable _ hread hfault => exact ⟨_, hread, hfault⟩
  | stopped _ _ _ => cases h
  | @compiled source _ _ => exact absurd rfl (yields_compiled r c source s _ s' h)

/-- The outcome of a case is the one that its run came to. -/
theorem exists_execute_of_runCase {result : CaseResult} (h : (r.runCase tree c).runOn s = (.ok result, s')) :
    ∃ left, (r.execute tree c).runOn s = (.ok (result.outcome, result.message), left) := by
  have hrun := caseRun_runCase r tree c s
  rw [h] at hrun
  cases hrun with
  | finished _ _ hexecute _ => exact ⟨_, hexecute⟩

/-- A case that is not skipped ends as one that could not be read exactly if reading it as a case fails because of
its fixture, at a time that can be read. -/
theorem errorCompile_iff_unreadable (htags : ∀ tag ∈ c.tags, tag ∉ r.skipTags) (hs : s.Readable) :
    (∃ result s', (r.runCase tree c).runOn s = (.ok result, s') ∧ result.outcome = .errorCompile) ↔
      ∃ fault, TestCase.load tree c.filePath r.limit = .error fault ∧
        fault.failure.typeName = "FixtureReadError" := by
  constructor
  · rintro ⟨result, s', hrun, houtcome⟩
    obtain ⟨left, hexecute⟩ := exists_execute_of_runCase hrun
    rw [houtcome] at hexecute
    obtain ⟨fault, hread, hfault⟩ := exists_unreadable_of_execute hexecute
    exact ⟨fault, TestCase.load_eq_error_iff.mpr hread, Fixture.ReadFault.typeName_failure hfault⟩
  · rintro ⟨fault, hload, htype⟩
    have hread := TestCase.load_eq_error_iff.mp hload
    have hfault := (Fixture.typeName_of_read_iff hread).mp htype
    obtain ⟨left, hexecute, hleft⟩ := exists_runOn_execute (skippedBy_eq_nil_iff.mpr htags) hread hfault s
    exact runOn_runCase hs (hleft.readable hs) hexecute

/-! ## Cases that were found -/

/-- A case that was read ends as one that could not be read only if its fixture has changed. -/
theorem outcome_ne_of_load {path : Path} {result : CaseResult} {later : FileTree}
    (hload : TestCase.load tree path r.limit = .ok c) (hsame : later.find c.filePath = tree.find c.filePath)
    (hrun : (r.runCase later c).runOn s = (.ok result, s')) : result.outcome ≠ .errorCompile := by
  intro houtcome
  obtain ⟨left, hexecute⟩ := exists_execute_of_runCase hrun
  rw [houtcome] at hexecute
  obtain ⟨fault, hread, -⟩ := exists_unreadable_of_execute hexecute
  obtain ⟨-, source, hsource⟩ := TestCase.of_load hload
  rw [Fixture.read_congr hsame, hsource] at hread
  cases hread

/-- Finding a case and running it agree on whether its fixture can be read.  A case for whose tags nothing is skipped
ends as one that could not be read exactly if its fixture cannot be read as a case with the same limit; and a case
that was found by loading a directory never ends so with the same limit, in any tree in which the same lies at its
path, whatever the compilers do. -/
theorem reading_agrees :
    (∀ (tree : FileTree) (r : Runner) (c : TestCase) (s : Session),
      (∀ tag ∈ c.tags, tag ∉ r.skipTags) → s.Readable →
        ((∃ result s', (r.runCase tree c).runOn s = (.ok result, s') ∧ result.outcome = .errorCompile) ↔
          ∃ fault, TestCase.load tree c.filePath r.limit = .error fault ∧
            fault.failure.typeName = "FixtureReadError")) ∧
    ∀ (suite : Suite) (tree : FileTree) (directory : Path) (found : List TestCase),
      (suite.loadDirectory tree directory).suite.cases = suite.cases ++ found →
        ∀ c ∈ found, ∀ later : FileTree, later.find c.filePath = tree.find c.filePath →
          ∀ r : Runner, r.limit = suite.limit → ∀ s result s',
            (r.runCase later c).runOn s = (.ok result, s') → result.outcome ≠ .errorCompile := by
  refine ⟨fun _ _ _ _ => errorCompile_iff_unreadable, ?_⟩
  intro suite tree directory found hfound c hc later hsame r hlimit s result s' hrun
  obtain rfl : (suite.foundBelow tree directory).cases = found := List.append_cancel_left hfound
  obtain ⟨path, hload⟩ := CommandLine.WereRead.foundBelow suite directory c hc
  rw [← hlimit] at hload
  exact outcome_ne_of_load hload hsame hrun

/-- A runner with a limit that the fixture to be rejected does not keep. -/
def narrowRunner : Runner :=
  { refusingRunner with limit := 10 }

/-- A runner whose compilers cannot be built for want of a file. -/
def brokenRunner : Runner :=
  { refusingRunner with factory := fun _ => .error ⟨.inputOutput, "OSError", "no such file"⟩ }

/-- A fixture over the limit ends as one that could not be read.  With a limit that it keeps it is found, and ends
otherwise, even if a file is missing that the compiler needs. -/
theorem reading_agrees_around_limit :
    (∃ result s', (narrowRunner.runCase rejectedTree rejectedCase).runOn (.start 0) = (.ok result, s') ∧
      result.outcome = .errorCompile) ∧
    ∃ result s', (brokenRunner.runCase rejectedTree rejectedCase).runOn (.start 0) = (.ok result, s') ∧
      result.outcome ≠ .errorCompile := by
  have hclock : (Session.start 0).Readable := ⟨_, rfl⟩
  constructor
  · obtain ⟨size, hread⟩ : ∃ size, Fixture.read rejectedTree rejectedCase.filePath narrowRunner.limit =
        .error (.tooLarge rejectedCase.filePath size narrowRunner.limit) := by
      rw [Fixture.read_of_file rfl rfl]
      exact ⟨_, if_pos (by decide +kernel)⟩
    exact (reading_agrees.1 rejectedTree narrowRunner rejectedCase (.start 0) (by decide) hclock).mpr
      ⟨_, TestCase.load_eq_error_iff.mpr hread, rfl⟩
  · have hfound : ((Suite.create [".sv"] 1000).loadDirectory rejectedTree ⟨.current, []⟩).suite.cases =
        (Suite.create [".sv"] 1000).cases ++ [rejectedCase] := by decide +kernel
    obtain ⟨source, hsource⟩ : ∃ source, Fixture.read rejectedTree rejectedCase.filePath 1000 = .ok source := by
      rw [Fixture.read_of_file rfl rfl]
      exact ⟨_, rfl⟩
    have hexecute : brokenRunner.execute rejectedTree rejectedCase = brokenRunner.compiled rejectedCase source :=
      execute_eq_compiled (skippedBy_eq_nil_iff.mpr (by decide)) hsource
    have hcompiled : ∃ message left,
        (brokenRunner.compiled rejectedCase source).runOn (.start 0) = (.ok (.errorRuntime, message), left) ∧
          left.Readable := ⟨_, _, rfl, _, rfl⟩
    obtain ⟨message, left, hcompiled, hleft⟩ := hcompiled
    rw [← hexecute] at hcompiled
    obtain ⟨result, s', hrun, -⟩ := runOn_runCase hclock hleft hcompiled
    refine ⟨result, s', hrun, ?_⟩
    exact reading_agrees.2 _ rejectedTree _ _ hfound _ (List.mem_singleton_self _) rejectedTree rfl _ rfl _ _ _ hrun

end Runner

end Conformance
