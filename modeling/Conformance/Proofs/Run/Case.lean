import Conformance.Proofs.Compile.Adapter
import Conformance.Run.Runner

/-!
# The run of a case

What decides whether a case gets as far as a compiler: the clock, the tags for which cases are skipped, and
its fixture.

Main results:

- `Runner.skippedBy_eq_nil_iff`: a case is skipped if it has a tag for which cases are skipped.
- `Runner.execution_execute`: what is done with a case, by its tags and by what is read of its fixture.
- `Runner.caseRun_runCase`: how the run of a case ends, by its execution and by the time before and behind it.
- `Runner.runOn_releasing`, `Runner.trace_releasing`: a compiler is shut down behind any work.
-/

namespace Conformance

/-! ## Time -/

namespace Session

/-- The time of a session is not too large for a double, so that it can be read. -/
def Readable (s : Session) : Prop :=
  ∃ time, Decimal.ofInt? s.clock = some time

/-- Nanoseconds that have a double are seconds as well. -/
theorem seconds_eq (s : Session) :
    s.seconds = (Decimal.double s.clock).map (· / 1000000000.0) := by
  have hbillion : ((1000000000.0 : Float) == 0.0) = false := by decide +kernel
  unfold seconds Decimal.dividedBy
  cases Decimal.double s.clock with
  | error fault => rfl
  | ok time =>
      simp only [bind, Except.bind, hbillion]
      rfl

theorem Readable.runOn_seconds {s : Session} (h : s.Readable) :
    ∃ time, Act.seconds.runOn s = (.ok time, s) := by
  obtain ⟨time, htime⟩ := h
  refine ⟨time / 1000000000.0, ?_⟩
  rw [Act.runOn_seconds, seconds_eq, (Decimal.double_eq_ok_iff s.clock time).mpr htime]
  rfl

theorem runOn_seconds_of_not_readable {s : Session} (h : ¬s.Readable) :
    ∃ f, Act.seconds.runOn s = (.error f, s) := by
  rw [Act.runOn_seconds, seconds_eq]
  cases hdouble : Decimal.double s.clock with
  | ok time => exact absurd ⟨time, (Decimal.double_eq_ok_iff s.clock time).mp hdouble⟩ h
  | error fault => exact ⟨_, rfl⟩

theorem readable_of_runOn_seconds {s s' : Session} {time : Float}
    (h : Act.seconds.runOn s = (.ok time, s')) : s.Readable ∧ s' = s := by
  by_cases hs : s.Readable
  · obtain ⟨time', htime'⟩ := hs.runOn_seconds
    rw [htime'] at h
    cases h
    exact ⟨hs, rfl⟩
  · obtain ⟨f, hf⟩ := runOn_seconds_of_not_readable hs
    rw [hf] at h
    cases h

/-- Two sessions differ in their notes at most. -/
def Alike (s s' : Session) : Prop :=
  s.clock = s'.clock ∧ s.trace = s'.trace

theorem Alike.refl (s : Session) : s.Alike s :=
  ⟨rfl, rfl⟩

theorem Alike.trans {s s' s'' : Session} (h : s.Alike s') (h' : s'.Alike s'') : s.Alike s'' :=
  ⟨h.1.trans h'.1, h.2.trans h'.2⟩

theorem Alike.readable {s s' : Session} (h : s.Alike s') (hs' : s'.Readable) : s.Readable := by
  rw [Readable, h.1]
  exact hs'

end Session

/-- What a compiler does when it is shut down does not depend on the notes taken. -/
theorem Adapter.runOn_shutdown_of_alike (a : Adapter) {s s' : Session} (h : s.Alike s') :
    (a.shutdown.runOn s).1 = (a.shutdown.runOn s').1 ∧
      (a.shutdown.runOn s).2.Alike (a.shutdown.runOn s').2 := by
  rw [runOn_shutdown, runOn_shutdown]
  unfold runOptional
  cases a.compiler.shutdown with
  | missing => exact ⟨rfl, h⟩
  | «attribute» => exact ⟨rfl, h⟩
  | callable behaviour =>
      rw [h.2]
      refine ⟨rfl, ?_, ?_⟩
      · rw [Session.clock_afterReply, Session.clock_afterReply, h.1]
      · rw [Session.trace_afterReply, Session.trace_afterReply, h.2]

namespace Runner

variable {r : Runner} {c : TestCase}

/-! ## Skipping -/

theorem mem_skippedBy_iff {tag : Text} : tag ∈ r.skippedBy c ↔ tag ∈ c.tags ∧ tag ∈ r.skipTags := by
  unfold skippedBy
  rw [List.mem_mergeSort, List.mem_eraseDups, List.mem_filter, List.contains_iff_mem]

/-- A case is skipped if it has a tag for which cases are skipped. -/
theorem skippedBy_eq_nil_iff : r.skippedBy c = [] ↔ ∀ tag ∈ c.tags, tag ∉ r.skipTags := by
  rw [List.eq_nil_iff_forall_not_mem]
  simp only [mem_skippedBy_iff, not_and]

/-! ## Executing -/

/-- What is done with a case. -/
inductive Execution (r : Runner) (tree : FileTree) (c : TestCase) : Act (Outcome × Text) → Prop
  | skipped : r.skippedBy c ≠ [] →
      Execution r tree c (pure (.skip, "skipped by tag " ++ Text.intercalate ", " (r.skippedBy c)))
  | unreadable {fault : Fixture.ReadFault} : r.skippedBy c = [] →
      Fixture.read tree c.filePath r.limit = .error fault → fault.isUnreadable = true →
        Execution r tree c (do
          Act.note (.error ("Failed to read test file " ++ c.filePath.toText ++ ": " ++ fault.message))
          pure (.errorCompile, fault.message))
  | stopped {fault : Fixture.ReadFault} : r.skippedBy c = [] →
      Fixture.read tree c.filePath r.limit = .error fault → fault.isUnreadable = false →
        Execution r tree c (throw fault.failure)
  | compiled {source : Text} : r.skippedBy c = [] → Fixture.read tree c.filePath r.limit = .ok source →
      Execution r tree c (r.compiled c source)

/-- A case that is not skipped and can be read is compiled. -/
theorem execute_eq_compiled {tree : FileTree} {source : Text} (hskipped : r.skippedBy c = [])
    (hread : Fixture.read tree c.filePath r.limit = .ok source) :
    r.execute tree c = r.compiled c source := by
  unfold execute
  rw [hskipped, hread]
  rfl

theorem execution_execute (r : Runner) (tree : FileTree) (c : TestCase) : Execution r tree c (r.execute tree c) := by
  by_cases hskipped : r.skippedBy c = []
  · cases hread : Fixture.read tree c.filePath r.limit with
    | ok source =>
        rw [execute_eq_compiled hskipped hread]
        exact .compiled hskipped hread
    | error fault =>
        unfold execute
        rw [hskipped, hread]
        cases hfault : fault.isUnreadable with
        | true =>
            simp only [hfault, if_true]
            exact .unreadable hskipped hread hfault
        | false =>
            simp only [hfault]
            exact .stopped hskipped hread hfault
  · have hskip := @Execution.skipped r tree c hskipped
    unfold execute
    cases htags : r.skippedBy c with
    | nil => exact absurd htags hskipped
    | cons tag rest => rwa [htags] at hskip

/-! ## Running -/

/-- The result of a case whose execution has come to an outcome. -/
def resultFor (c : TestCase) (outcome : Outcome) (message : Text) (duration : Float) : CaseResult :=
  ⟨c.name, outcome, duration, message, c.filePath.toText⟩

/-- The session behind a case that is finished: an observer is told of it. -/
def told (r : Runner) (c : TestCase) (result : CaseResult) (s : Session) : Session :=
  if r.observed then { s with trace := .finished c result :: s.trace } else s

theorem clock_told (result : CaseResult) (s : Session) : (r.told c result s).clock = s.clock := by
  unfold told
  split
  · rfl
  · rfl

theorem records_told (result : CaseResult) (s : Session) : (r.told c result s).records = s.records := by
  unfold told
  split
  · rfl
  · rfl

/-- How the run of a case ends, and the session that it leaves: the time is read before and behind its execution. -/
inductive CaseRun (r : Runner) (tree : FileTree) (c : TestCase) (s : Session) :
    Except Failure CaseResult × Session → Prop
  | untimed (f : Failure) : ¬s.Readable → CaseRun r tree c s (.error f, s)
  | failed {f : Failure} {left : Session} : s.Readable → (r.execute tree c).runOn s = (.error f, left) →
      CaseRun r tree c s (.error f, left)
  | overrun (f : Failure) {outcome : Outcome} {message : Text} {left : Session} : s.Readable →
      (r.execute tree c).runOn s = (.ok (outcome, message), left) → ¬left.Readable →
        CaseRun r tree c s (.error f, left)
  | finished (duration : Float) {outcome : Outcome} {message : Text} {left : Session} : s.Readable →
      (r.execute tree c).runOn s = (.ok (outcome, message), left) → left.Readable →
        CaseRun r tree c s
          (.ok (resultFor c outcome message duration), r.told c (resultFor c outcome message duration) left)

/-- A case is not run at a time that cannot be read. -/
theorem runOn_runCase_of_untimed (r : Runner) (tree : FileTree) (c : TestCase) {s : Session} {f : Failure}
    (h : Act.seconds.runOn s = (.error f, s)) : (r.runCase tree c).runOn s = (.error f, s) := by
  unfold runCase
  rw [Act.runOn_bind_error h]

theorem caseRun_runCase (r : Runner) (tree : FileTree) (c : TestCase) (s : Session) :
    CaseRun r tree c s ((r.runCase tree c).runOn s) := by
  by_cases hs : s.Readable
  · obtain ⟨start, hstart⟩ := hs.runOn_seconds
    unfold runCase
    rw [Act.runOn_bind_ok hstart]
    rcases hexecute : (r.execute tree c).runOn s with ⟨f | ⟨outcome, message⟩, left⟩
    · rw [Act.runOn_bind_error hexecute]
      exact .failed hs hexecute
    · rw [Act.runOn_bind_ok hexecute]
      by_cases hleft : left.Readable
      · obtain ⟨finish, hfinish⟩ := hleft.runOn_seconds
        have hrun := CaseRun.finished (milliseconds start finish) hs hexecute hleft
        simp only [Act.runOn_bind_ok hfinish]
        unfold told at hrun
        cases hobserved : r.observed with
        | true =>
            rw [hobserved] at hrun
            exact hrun
        | false =>
            rw [hobserved] at hrun
            exact hrun
      · obtain ⟨f, hf⟩ := Session.runOn_seconds_of_not_readable hleft
        simp only [Act.runOn_bind_error hf]
        exact .overrun f hs hexecute hleft
  · obtain ⟨f, hf⟩ := Session.runOn_seconds_of_not_readable hs
    rw [runOn_runCase_of_untimed r tree c hf]
    exact .untimed f hs

/-! ## Releasing -/

/-- Shutting a compiler down succeeds also if it fails in a way that is only noted. -/
theorem exists_runOn_release (a : Adapter) (label : Text) (s : Session)
    (h : ∀ f, (a.shutdown.runOn s).1 = .error f → f.isOrdinary = true) :
    ∃ s', (release a label).runOn s = (.ok (), s') ∧ s'.Alike (a.shutdown.runOn s).2 := by
  unfold release
  rw [Act.runOn_attempt_bind]
  rcases hending : (a.shutdown.runOn s).1 with f | -
  · simp only [h f hending, if_true, Act.runOn_note]
    exact ⟨_, rfl, rfl, rfl⟩
  · exact ⟨_, rfl, .refl _⟩

/-- Work ends as it does by itself if the compiler can be shut down behind it. -/
theorem runOn_releasing {α : Type} {a : Adapter} {label : Text} {work : Act α} {s s' : Session}
    (h : (release a label).runOn (work.runOn s).2 = (.ok (), s')) :
    (releasing a label work).runOn s = ((work.runOn s).1, s') := by
  unfold releasing
  rw [Act.runOn_attempt_bind, Act.runOn_bind_ok h]
  rfl

theorem trace_release (a : Adapter) (label : Text) (s : Session) :
    ((release a label).runOn s).2.trace = (a.shutdown.runOn s).2.trace := by
  unfold release
  refine Act.trace_attempt_bind_of_quiet ?_ s
  rintro (f | -)
  · by_cases hf : f.isOrdinary = true
    · simp only [hf, if_true]
      exact Act.quiet_note _
    · simp only [hf]
      exact Act.quiet_throw _
  · exact Act.quiet_pure _

/-- A compiler is asked to shut down behind any work, however that ends, and for nothing else. -/
theorem trace_releasing {α : Type} (a : Adapter) (label : Text) (work : Act α) (s : Session) :
    ((releasing a label work).runOn s).2.trace = (a.shutdown.runOn (work.runOn s).2).2.trace := by
  unfold releasing
  rw [Act.runOn_attempt_bind, Act.trace_bind_of_quiet fun _ => Act.quiet_ofExcept _, trace_release]

end Runner

end Conformance
