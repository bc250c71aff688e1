import Conformance.Proofs.Run.Trace

/-!
# The lifecycle of compilers

What happens to compilers while a runner is made and then called any number of times, whatever the compilers
do and however the calls end.  A course says which events there are: of making a runner, of running a case,
of running cases one after another, and of calling a runner.

Main results:

- `Runner.exists_caseCourse_execute`: the course of a case.
- `Runner.exists_course_perform`: the course of a call.
- `Runner.history_course`: the course of making a runner and calling it.
-/

namespace Conformance.Runner

variable {r : Runner} {tree : FileTree} {c : TestCase} {source : Text} {s : Session}

/-! ## Making a runner -/

/-- What happens to compilers when a runner is made: one is built, asked what it says about itself and shut
down. -/
inductive ProbeCourse (factory : Factory) (s : Session) : List Event → Prop
  | unbuilt {f : Failure} : factory s.trace = .error f →
      ProbeCourse factory s [.built s.trace.nextNumber]
  | unadapted {c : Compiler} : factory s.trace = .ok c → ¬c.CanCompile →
      ProbeCourse factory s [.built s.trace.nextNumber]
  | checked {c : Compiler} : factory s.trace = .ok c → c.CanCompile →
      ProbeCourse factory s (.built s.trace.nextNumber ::
        Built.asked ⟨s.trace.nextNumber, c⟩
          (c.describe.requests .describe ++ c.shutdown.requests .shutdown))

theorem ProbeCourse.inTurn {factory : Factory} {events : List Event} (h : ProbeCourse factory s events) :
    InTurn s.trace events := by
  cases h with
  | unbuilt => exact ⟨rfl, trivial⟩
  | unadapted => exact ⟨rfl, trivial⟩
  | checked => exact .built_asked _ _ _

theorem exists_probeCourse (factory : Factory) (s : Session) :
    ∃ events, ProbeCourse factory s events ∧
      ((probe factory).runOn s).2.trace = s.trace.extend events := by
  unfold probe
  rcases Adapter.runOn_create_cases factory s with
    ⟨f, hfactory, hrun⟩ | ⟨compiler, f, hfactory, hcan, hrun⟩ | ⟨compiler, a, hfactory, hcan, hadapt, hrun⟩
  · refine ⟨_, .unbuilt hfactory, ?_⟩
    rw [Act.runOn_bind_error hrun]
    rfl
  · refine ⟨_, .unadapted hfactory hcan, ?_⟩
    rw [Act.runOn_bind_error hrun]
    rfl
  · have hbuilt : a.built = ⟨s.trace.nextNumber, compiler⟩ := (Adapter.adapt_eq_ok_iff.mp hadapt).1
    have hcompiler : a.compiler = compiler := congrArg Built.compiler hbuilt
    refine ⟨_, .checked hfactory hcan, ?_⟩
    rw [Act.runOn_bind_ok hrun, trace_releasing, Adapter.trace_shutdown, Adapter.trace_describe, hbuilt,
      hcompiler, ← Trace.extend_append, ← Built.asked_append, Trace.extend_cons,
      Session.trace_afterBuild]

/-! ## Running a case -/

/-- A case gets as far as a compiler: the time can be read, the case is not skipped, and its fixture is
read. -/
structure Reached (r : Runner) (tree : FileTree) (c : TestCase) (s : Session) (source : Text) : Prop where
  readable : s.Readable
  kept : ∀ tag ∈ c.tags, tag ∉ r.skipTags
  read : Fixture.read tree c.filePath r.limit = .ok source

/-- What happens to compilers when a case is run.  A case that gets as far as a compiler has one built.  The
compiler is asked to prepare itself, to compile the source if it is ready then, and to shut down. -/
inductive CaseCourse (r : Runner) (tree : FileTree) (c : TestCase) (s : Session) : List Event → Prop
  | untimed : ¬s.Readable → CaseCourse r tree c s []
  | skipped {tag : Text} : tag ∈ c.tags → tag ∈ r.skipTags → CaseCourse r tree c s []
  | unread {fault : Fixture.ReadFault} : Fixture.read tree c.filePath r.limit = .error fault →
      CaseCourse r tree c s []
  | unbuilt {source : Text} {f : Failure} : Reached r tree c s source → r.factory s.trace = .error f →
      CaseCourse r tree c s [.built s.trace.nextNumber]
  | unadapted {source : Text} {compiler : Compiler} : Reached r tree c s source →
      r.factory s.trace = .ok compiler → ¬compiler.CanCompile →
      CaseCourse r tree c s [.built s.trace.nextNumber]
  | unready {source : Text} {compiler : Compiler} : Reached r tree c s source →
      r.factory s.trace = .ok compiler → compiler.CanCompile →
      ¬compiler.ReadyAfter (.built s.trace.nextNumber :: s.trace) →
      CaseCourse r tree c s (.built s.trace.nextNumber ::
        Built.asked ⟨s.trace.nextNumber, compiler⟩
          (compiler.prepare.requests .prepare ++ compiler.shutdown.requests .shutdown))
  | served {source : Text} {compiler : Compiler} : Reached r tree c s source →
      r.factory s.trace = .ok compiler → compiler.CanCompile →
      compiler.ReadyAfter (.built s.trace.nextNumber :: s.trace) →
      CaseCourse r tree c s (.built s.trace.nextNumber ::
        Built.asked ⟨s.trace.nextNumber, compiler⟩
          (compiler.prepare.requests .prepare ++ [compiler.compileRequest source] ++
            compiler.shutdown.requests .shutdown))

theorem CaseCourse.inTurn {events : List Event} (h : CaseCourse r tree c s events) :
    InTurn s.trace events := by
  cases h with
  | untimed => exact trivial
  | skipped => exact trivial
  | unread => exact trivial
  | unbuilt => exact ⟨rfl, trivial⟩
  | unadapted => exact ⟨rfl, trivial⟩
  | unready => exact .built_asked _ _ _
  | served => exact .built_asked _ _ _

theorem trace_compiled_of_error {f : Failure} {s' : Session}
    (h : (Adapter.create r.factory).runOn s = (.error f, s')) :
    ((r.compiled c source).runOn s).2.trace = s'.trace := by
  unfold compiled
  rw [Act.runOn_attempt_bind, h]
  by_cases hf : (f.family == .unadaptable || !f.isOrdinary) = true
  · simp only [hf, if_true]
    exact Act.quiet_throw _ _
  · simp only [hf]
    exact (Act.quiet_note _).bind (fun _ => Act.quiet_pure _) _

theorem runOn_compiled_of_ok {a : Adapter} {s' : Session}
    (h : (Adapter.create r.factory).runOn s = (.ok a, s')) :
    (r.compiled c source).runOn s = (releasing a c.name (prepared c a source)).runOn s' := by
  unfold compiled
  rw [Act.runOn_attempt_bind, h]

/-- The course of a case that gets as far as a compiler. -/
theorem exists_caseCourse_compiled (hreached : Reached r tree c s source) :
    ∃ events, CaseCourse r tree c s events ∧
      ((r.compiled c source).runOn s).2.trace = s.trace.extend events := by
  rcases Adapter.runOn_create_cases r.factory s with
    ⟨f, hfactory, hrun⟩ | ⟨compiler, f, hfactory, hcan, hrun⟩ | ⟨compiler, a, hfactory, hcan, hadapt, hrun⟩
  · exact ⟨_, .unbuilt hreached hfactory, trace_compiled_of_error hrun⟩
  · exact ⟨_, .unadapted hreached hfactory hcan, trace_compiled_of_error hrun⟩
  · have hbuilt : a.built = ⟨s.trace.nextNumber, compiler⟩ := (Adapter.adapt_eq_ok_iff.mp hadapt).1
    have hcompiler : a.compiler = compiler := congrArg Built.compiler hbuilt
    rw [runOn_compiled_of_ok hrun, trace_releasing, Adapter.trace_shutdown]
    by_cases hready : compiler.ReadyAfter (.built s.trace.nextNumber :: s.trace)
    · refine ⟨_, .served hreached hfactory hcan hready, ?_⟩
      rw [trace_prepared_of_ready hadapt c source (hcompiler.symm ▸ hready), hbuilt, hcompiler,
        ← Trace.extend_append, ← Built.asked_append, Trace.extend_cons, Session.trace_afterBuild]
    · refine ⟨_, .unready hreached hfactory hcan hready, ?_⟩
      rw [trace_prepared_of_not_ready c a source (hcompiler.symm ▸ hready), hbuilt, hcompiler,
        ← Trace.extend_append, ← Built.asked_append, Trace.extend_cons, Session.trace_afterBuild]

/-- The course of a case at a time that can be read. -/
theorem exists_caseCourse_execute (r : Runner) (tree : FileTree) (c : TestCase) (hs : s.Readable) :
    ∃ events, CaseCourse r tree c s events ∧
      ((r.execute tree c).runOn s).2.trace = s.trace.extend events := by
  have hexecution := execution_execute r tree c
  generalize r.execute tree c = action at hexecution
  cases hexecution with
  | skipped hskipped =>
      obtain ⟨tag, htag⟩ := List.exists_mem_of_ne_nil _ hskipped
      obtain ⟨hcase, hrunner⟩ := mem_skippedBy_iff.mp htag
      exact ⟨[], .skipped hcase hrunner, rfl⟩
  | unreadable _ hread _ => exact ⟨[], .unread hread, rfl⟩
  | stopped _ hread _ => exact ⟨[], .unread hread, rfl⟩
  | compiled hkept hread => exact exists_caseCourse_compiled ⟨hs, skippedBy_eq_nil_iff.mp hkept, hread⟩

/-- What an observer is told of a finished case. -/
def notice (r : Runner) (c : TestCase) (result : CaseResult) : List Event :=
  if r.observed then [.finished c result] else []

theorem trace_told (r : Runner) (c : TestCase) (result : CaseResult) (s : Session) :
    (r.told c result s).trace = s.trace.extend (r.notice c result) := by
  unfold told notice
  cases r.observed with
  | true => rfl
  | false => rfl

/-- A case that is run has its course; an observer is told of it if and when it is finished. -/
theorem exists_caseCourse_runCase (r : Runner) (tree : FileTree) (c : TestCase) (s : Session) :
    ∃ events, CaseCourse r tree c s events ∧
      match (r.runCase tree c).runOn s with
      | (.ok result, s') => s'.trace = s.trace.extend (events ++ r.notice c result)
      | (.error _, s') => s'.trace = s.trace.extend events := by
  have hrun := caseRun_runCase r tree c s
  generalize (r.runCase tree c).runOn s = ran at hrun
  cases hrun with
  | untimed f hs => exact ⟨[], .untimed hs, rfl⟩
  | failed hs hexecute =>
      obtain ⟨events, hcourse, htrace⟩ := exists_caseCourse_execute r tree c hs
      rw [hexecute] at htrace
      exact ⟨events, hcourse, htrace⟩
  | overrun f hs hexecute _ =>
      obtain ⟨events, hcourse, htrace⟩ := exists_caseCourse_execute r tree c hs
      rw [hexecute] at htrace
      exact ⟨events, hcourse, htrace⟩
  | finished duration hs hexecute _ =>
      obtain ⟨events, hcourse, htrace⟩ := exists_caseCourse_execute r tree c hs
      rw [hexecute] at htrace
      refine ⟨events, hcourse, ?_⟩
      dsimp only
      rw [trace_told, htrace, Trace.extend_append]

/-! ## Running cases -/

/-- What happens to compilers when cases are run, one after another.  The run ends early if that of a case
does. -/
inductive Course (r : Runner) (tree : FileTree) : List TestCase → Session → List Event → Prop
  | done (s : Session) : Course r tree [] s []
  | finished {c : TestCase} {rest : List TestCase} {s s' : Session} {result : CaseResult}
      {events later : List Event} :
      (r.runCase tree c).runOn s = (.ok result, s') → CaseCourse r tree c s events →
        s'.trace = s.trace.extend (events ++ r.notice c result) → Course r tree rest s' later →
        Course r tree (c :: rest) s (events ++ r.notice c result ++ later)
  | stopped {c : TestCase} {rest : List TestCase} {s s' : Session} {f : Failure} {events : List Event} :
      (r.runCase tree c).runOn s = (.error f, s') → CaseCourse r tree c s events →
        Course r tree (c :: rest) s events

theorem inTurn_notice (t : Trace) (result : CaseResult) : InTurn t (r.notice c result) := by
  unfold notice
  cases r.observed with
  | true => exact trivial
  | false => exact trivial

theorem Course.inTurn {cases : List TestCase} {events : List Event} (h : Course r tree cases s events) :
    InTurn s.trace events := by
  induction h with
  | done => exact trivial
  | finished _ hcase htrace _ ih =>
      rw [htrace] at ih
      exact InTurn.append_iff.mpr ⟨InTurn.append_iff.mpr ⟨hcase.inTurn, inTurn_notice _ _⟩, ih⟩
  | stopped _ hcase => exact hcase.inTurn

/-- What follows a case, if anything does, has its course behind that of the case. -/
theorem exists_course_cons {α : Type} {k : CaseResult → Act α} {rest : List TestCase}
    (hk : ∀ result s', ∃ events, Course r tree rest s' events ∧
      ((k result).runOn s').2.trace = s'.trace.extend events) (c : TestCase) (s : Session) :
    ∃ events, Course r tree (c :: rest) s events ∧
      ((r.runCase tree c >>= k).runOn s).2.trace = s.trace.extend events := by
  obtain ⟨events, hcourse, htrace⟩ := exists_caseCourse_runCase r tree c s
  rcases hrun : (r.runCase tree c).runOn s with ⟨f | result, s'⟩
  · rw [hrun] at htrace
    refine ⟨events, .stopped hrun hcourse, ?_⟩
    rw [Act.runOn_bind_error hrun]
    exact htrace
  · rw [hrun] at htrace
    obtain ⟨later, hlater, htrace'⟩ := hk result s'
    refine ⟨_, .finished hrun hcourse htrace hlater, ?_⟩
    rw [Act.runOn_bind_ok hrun, htrace', htrace, Trace.extend_append _ (events ++ _)]

/-- The course of cases that are run one after another. -/
theorem exists_course_runCases (r : Runner) (tree : FileTree) (cases : List TestCase) (s : Session) :
    ∃ events, Course r tree cases s events ∧
      ((r.runCases tree cases).runOn s).2.trace = s.trace.extend events := by
  induction cases generalizing s with
  | nil => exact ⟨[], .done s, rfl⟩
  | cons c rest ih =>
      refine exists_course_cons ?_ c s
      intro result s'
      obtain ⟨later, hlater, htrace⟩ := ih s'
      refine ⟨later, hlater, ?_⟩
      rw [Act.trace_bind_of_quiet fun _ => Act.quiet_pure _, htrace]

/-- The course of the cases with a tag. -/
theorem exists_course_runTagged (r : Runner) (tree : FileTree) (tag : Text) (cases : List TestCase)
    (report : TagReport) (s : Session) :
    ∃ events, Course r tree (cases.filter (·.hasTag tag)) s events ∧
      ((r.runTagged tree tag cases report).runOn s).2.trace = s.trace.extend events := by
  induction cases generalizing report s with
  | nil => exact ⟨[], .done s, rfl⟩
  | cons c rest ih =>
      unfold runTagged
      by_cases htag : c.hasTag tag = true
      · simp only [List.filter_cons, htag, if_true]
        exact exists_course_cons (fun result s' => ih (report.record result) s') c s
      · simp only [List.filter_cons, htag]
        exact ih report s

/-! ## Observers -/

/-- An observer is told of none of some events. -/
def Unnoticed (events : List Event) : Prop :=
  ∀ c result, .finished c result ∉ events

theorem Unnoticed.append {first later : List Event} (hfirst : Unnoticed first) (hlater : Unnoticed later) :
    Unnoticed (first ++ later) := by
  intro c result hmem
  rcases List.mem_append.mp hmem with hmem | hmem
  · exact hfirst c result hmem
  · exact hlater c result hmem

/-- What happens to compilers is nothing that an observer is told. -/
theorem CaseCourse.unnoticed {events : List Event} (h : CaseCourse r tree c s events) : Unnoticed events := by
  intro finished result hmem
  cases h <;> simp [Built.asked] at hmem

/-- Cases are run without notice where there is no observer. -/
theorem Course.unnoticed {cases : List TestCase} {events : List Event} (hobserved : r.observed = false)
    (h : Course r tree cases s events) : Unnoticed events := by
  induction h with
  | done => exact fun _ _ hmem => nomatch hmem
  | finished _ hcase _ _ ih =>
      have hnotice (c : TestCase) (result : CaseResult) : r.notice c result = [] := by
        unfold notice
        rw [hobserved]
        rfl
      rw [hnotice, List.append_nil]
      exact hcase.unnoticed.append ih
  | stopped _ hcase => exact hcase.unnoticed

/-! ## Calls -/

/-- A call of a runner: to run all cases of a suite, those with a tag, or a single one. -/
inductive Call
  | all (tree : FileTree) (suite : Suite)
  | tagged (tree : FileTree) (suite : Suite) (tag : Text)
  | single (tree : FileTree) (c : TestCase)

/-- The tree in which the fixtures of a call lie. -/
def Call.fixtures : Call → FileTree
  | .all tree _ | .tagged tree _ _ | .single tree _ => tree

/-- The cases that a call is about, in order. -/
def Call.cases : Call → List TestCase
  | .all _ suite => suite.cases
  | .tagged _ suite tag => suite.withTag tag
  | .single _ c => [c]

/-- Call a runner. -/
def perform (r : Runner) : Call → Act Unit
  | .all tree suite => do
    let _ ← r.runAll tree suite
  | .tagged tree suite tag => do
    let _ ← r.runByTag tree suite tag
  | .single tree c => do
    let _ ← r.runCase tree c

/-- Call a runner again and again, however the calls end. -/
def performAll (r : Runner) : List Call → Act Unit
  | [] => pure ()
  | call :: rest => do
    let _ ← (r.perform call).attempt
    r.performAll rest

/-- Make a runner and call it. -/
def history (r : Runner) (calls : List Call) : Act Unit := do
  let _ ← probe r.factory
  r.performAll calls

/-- Cases that are not run because the time cannot be read have a course without events. -/
theorem course_of_not_readable (r : Runner) (tree : FileTree) (cases : List TestCase)
    (hs : ¬s.Readable) : Course r tree cases s [] := by
  cases cases with
  | nil => exact .done s
  | cons c rest =>
      obtain ⟨f, hf⟩ := Session.runOn_seconds_of_not_readable hs
      exact .stopped (runOn_runCase_of_untimed r tree c hf) (.untimed hs)

/-- The course of a call. -/
theorem exists_course_perform (r : Runner) (call : Call) (s : Session) :
    ∃ events, Course r call.fixtures call.cases s events ∧
      ((r.perform call).runOn s).2.trace = s.trace.extend events := by
  cases call with
  | all tree suite =>
      unfold perform
      rw [Act.trace_bind_of_quiet fun _ => Act.quiet_pure _]
      unfold runAll
      by_cases hs : s.Readable
      · obtain ⟨start, hstart⟩ := hs.runOn_seconds
        rw [Act.runOn_bind_ok hstart, Act.trace_bind_of_quiet]
        · exact exists_course_runCases r tree suite.cases s
        · exact fun _ => Act.quiet_seconds.bind fun _ => Act.quiet_pure _
      · obtain ⟨f, hf⟩ := Session.runOn_seconds_of_not_readable hs
        rw [Act.runOn_bind_error hf]
        exact ⟨[], course_of_not_readable r tree suite.cases hs, rfl⟩
  | tagged tree suite tag =>
      unfold perform
      rw [Act.trace_bind_of_quiet fun _ => Act.quiet_pure _]
      exact exists_course_runTagged r tree tag suite.cases (.empty tag) s
  | single tree c =>
      unfold perform
      exact exists_course_cons (fun _ s' => ⟨[], .done s', rfl⟩) c s

/-- What happens to compilers when a runner is called again and again. -/
inductive CallsCourse (r : Runner) : List Call → Session → List Event → Prop
  | done (s : Session) : CallsCourse r [] s []
  | next {call : Call} {rest : List Call} {s s' : Session} {events later : List Event} :
      ((r.perform call).runOn s).2 = s' → Course r call.fixtures call.cases s events →
        s'.trace = s.trace.extend events → CallsCourse r rest s' later →
        CallsCourse r (call :: rest) s (events ++ later)

theorem CallsCourse.inTurn {calls : List Call} {events : List Event} (h : CallsCourse r calls s events) :
    InTurn s.trace events := by
  induction h with
  | done => exact trivial
  | next _ hcall htrace _ ih =>
      rw [htrace] at ih
      exact InTurn.append_iff.mpr ⟨hcall.inTurn, ih⟩

theorem exists_callsCourse_performAll (r : Runner) (calls : List Call) (s : Session) :
    ∃ events, CallsCourse r calls s events ∧
      ((r.performAll calls).runOn s).2.trace = s.trace.extend events := by
  induction calls generalizing s with
  | nil => exact ⟨[], .done s, rfl⟩
  | cons call rest ih =>
      obtain ⟨events, hcourse, htrace⟩ := exists_course_perform r call s
      obtain ⟨later, hlater, htrace'⟩ := ih ((r.perform call).runOn s).2
      refine ⟨events ++ later, .next rfl hcourse htrace hlater, ?_⟩
      unfold performAll
      rw [Act.runOn_attempt_bind, htrace', htrace, Trace.extend_append]

/-- What happens to compilers when a runner is made and then called: nothing more than its making if that
fails. -/
inductive HistoryCourse (r : Runner) (calls : List Call) (s : Session) : List Event → Prop
  | refused {f : Failure} {s' : Session} {events : List Event} :
      (probe r.factory).runOn s = (.error f, s') → ProbeCourse r.factory s events →
        HistoryCourse r calls s events
  | made {info : CompilerInfo} {s' : Session} {events later : List Event} :
      (probe r.factory).runOn s = (.ok info, s') → ProbeCourse r.factory s events →
        s'.trace = s.trace.extend events → CallsCourse r calls s' later →
        HistoryCourse r calls s (events ++ later)

theorem HistoryCourse.inTurn {calls : List Call} {events : List Event}
    (h : HistoryCourse r calls s events) : InTurn s.trace events := by
  cases h with
  | refused _ hprobe => exact hprobe.inTurn
  | made _ hprobe htrace hcalls =>
      have hlater := hcalls.inTurn
      rw [htrace] at hlater
      exact InTurn.append_iff.mpr ⟨hprobe.inTurn, hlater⟩

/-- Making a runner and calling it any number of times has its course, whatever the compilers do and however
the calls end.  Compilers come one after another: what is asked of earlier ones comes before the construction
of one, and what is asked of this one and of later ones comes behind it. -/
theorem history_course (r : Runner) (calls : List Call) (s : Session) :
    ∃ events, HistoryCourse r calls s events ∧
      ((r.history calls).runOn s).2.trace = s.trace.extend events ∧
      ∀ before number after, events = before ++ .built number :: after →
        ∀ other typeName request,
          (.asked other typeName request ∈ before → other < number) ∧
            (.asked other typeName request ∈ after → number ≤ other) := by
  have hhistory : ∃ events, HistoryCourse r calls s events ∧
      ((r.history calls).runOn s).2.trace = s.trace.extend events := by
    obtain ⟨events, hprobe, htrace⟩ := exists_probeCourse r.factory s
    unfold history
    rcases hrun : (probe r.factory).runOn s with ⟨f | info, s'⟩
    · rw [hrun] at htrace
      refine ⟨events, .refused hrun hprobe, ?_⟩
      rw [Act.runOn_bind_error hrun]
      exact htrace
    · rw [hrun] at htrace
      obtain ⟨later, hlater, htrace'⟩ := exists_callsCourse_performAll r calls s'
      refine ⟨events ++ later, .made hrun hprobe htrace hlater, ?_⟩
      rw [Act.runOn_bind_ok hrun, htrace', htrace, Trace.extend_append]
  obtain ⟨events, hcourse, htrace⟩ := hhistory
  refine ⟨events, hcourse, htrace, ?_⟩
  rintro before number after rfl other typeName request
  exact hcourse.inTurn.order

end Conformance.Runner
