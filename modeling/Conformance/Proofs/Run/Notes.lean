import Conformance.Proofs.Run.Lifecycle

/-!
# What is noted of a case

A case that cannot be run as it should leaves a record.  A fixture that cannot be read, a compiler that cannot be built,
prepared or that fails on a source leaves an error, but for a source that has to fail; a compiler that cannot be shut down
leaves a warning.  Nothing else is noted, except by the compiler itself.

Main results:

- `Runner.exists_runOn_judge`, `Runner.exists_runOn_prepared`, `Runner.exists_runOn_release`: what each part of a run
  notes on top of what the compiler does.
- `Runner.runCase_notes`: the records of a case.
-/

namespace Conformance

/-! ## Notes -/

/-- A session with more notes. -/
def Session.noted (s : Session) (records : List LogRecord) : Session :=
  { s with log := records.reverse ++ s.log }

namespace Session

@[simp]
theorem records_noted (s : Session) (records : List LogRecord) : (s.noted records).records = s.records ++ records := by
  simp [noted, Session.records]

@[simp]
theorem records_afterBuild (s : Session) : s.afterBuild.records = s.records :=
  rfl

@[simp]
theorem noted_nil (s : Session) : s.noted [] = s :=
  rfl

end Session

/-- An action takes back no note. -/
def Act.KeepsNotes {α : Type} (x : Act α) : Prop :=
  ∀ s, ∃ records, (x.runOn s).2.records = s.records ++ records

namespace Act.KeepsNotes

variable {α β : Type} {x : Act α} {k : α → Act β}

theorem bind (hx : x.KeepsNotes) (hk : ∀ a, (k a).KeepsNotes) : (x >>= k).KeepsNotes := by
  intro s
  obtain ⟨first, hfirst⟩ := hx s
  rw [runOn_bind]
  rcases hrun : x.runOn s with ⟨f | a, s'⟩
  · rw [hrun] at hfirst
    exact ⟨first, hfirst⟩
  · rw [hrun] at hfirst
    obtain ⟨later, hlater⟩ := hk a s'
    exact ⟨first ++ later, by rw [hlater, hfirst, List.append_assoc]⟩

end Act.KeepsNotes

/-- Records of a level tell what holds: the message of which something holds, or nothing if it holds of none. -/
inductive Told (level : LogLevel) (P : Text → Prop) : List LogRecord → Prop
  | once {message : Text} : P message → Told level P [⟨level, message⟩]
  | never : (∀ message, ¬P message) → Told level P []

theorem Told.congr {level : LogLevel} {P Q : Text → Prop} {records : List LogRecord} (h : Told level P records)
    (hPQ : ∀ message, P message ↔ Q message) : Told level Q records := by
  cases h with
  | once hmessage => exact .once ((hPQ _).mp hmessage)
  | never hnone => exact .never fun message hmessage => hnone message ((hPQ message).mpr hmessage)

/-! ## Compilers -/

namespace Adapter

variable {a : Adapter} {b : Built}

/-- Prepare a compiler and compile a source with it. -/
def work (a : Adapter) (source : Text) : Act CompileResult := do
  a.prepare
  a.compile source

theorem records_afterReply {α : Type} (s : Session) (b : Built) (request : Request) (reply : Reply α) :
    (s.afterReply b request reply).records = s.records ++ reply.log := by
  simp [Session.afterReply, Session.records]

theorem keepsNotes_runOptional (a : Adapter) (slot : Slot (Trace → Reply Unit)) (request : Request) (s : Session) :
    ∃ records, (a.runOptional slot request s).2.records = s.records ++ records := by
  cases slot with
  | missing => exact ⟨[], (List.append_nil _).symm⟩
  | «attribute» => exact ⟨[], (List.append_nil _).symm⟩
  | callable behaviour => exact ⟨_, records_afterReply s a.built request _⟩

theorem keepsNotes_prepare (a : Adapter) : a.prepare.KeepsNotes := by
  intro s
  rw [runOn_prepare]
  exact keepsNotes_runOptional a _ _ s

theorem keepsNotes_compile (h : adapt b = .ok a) (source : Text) : (a.compile source).KeepsNotes := by
  intro s
  rcases runOn_compile_cases h source s with ⟨behaviour, -, hrun⟩ | ⟨behaviour, -, -, hrun⟩
  · rw [hrun]
    exact ⟨_, records_afterReply s a.built _ _⟩
  · rw [hrun]
    exact ⟨_, records_afterReply s a.built _ _⟩

theorem keepsNotes_work (h : adapt b = .ok a) (source : Text) : (a.work source).KeepsNotes :=
  (keepsNotes_prepare a).bind fun _ => keepsNotes_compile h source

/-- What a compiler notes when it is shut down, and whether that fails, does not depend on the notes taken before. -/
theorem exists_runOn_shutdown (a : Adapter) (s : Session) :
    ∃ closed, (a.shutdown.runOn s).2.records = s.records ++ closed ∧
      ∀ records, (a.shutdown.runOn (s.noted records)).1 = (a.shutdown.runOn s).1 ∧
        (a.shutdown.runOn (s.noted records)).2.records = s.records ++ records ++ closed := by
  simp only [runOn_shutdown]
  cases a.compiler.shutdown with
  | missing => exact ⟨[], by simp [runOptional], fun records => ⟨rfl, by simp [runOptional]⟩⟩
  | «attribute» => exact ⟨[], by simp [runOptional], fun records => ⟨rfl, by simp [runOptional]⟩⟩
  | callable behaviour =>
      refine ⟨(behaviour s.trace).log, records_afterReply s a.built _ _, fun records => ⟨rfl, ?_⟩⟩
      rw [← Session.records_noted]
      exact records_afterReply (s.noted records) a.built _ _

end Adapter

/-! ## Parts of a run -/

namespace Runner

variable {r : Runner} {tree : FileTree} {c : TestCase} {a : Adapter} {b : Built} {source label message : Text}
  {s s' : Session}

/-- What goes wrong with a compilation and is told as an error: it fails on a source that does not have to fail. -/
inductive Refused (c : TestCase) (a : Adapter) (source : Text) (s : Session) : Text → Prop
  | failed {f : Failure} : ((a.compile source).runOn s).1 = .error f → f.isOrdinary = true → c.shouldFail = false →
      Refused c a source s ("Compile failed for " ++ c.name ++ ": " ++ f.message)

/-- What goes wrong when a compiler is prepared and compiles a source, and is told as an error. -/
inductive Wrong (c : TestCase) (a : Adapter) (source : Text) (s : Session) : Text → Prop
  | unprepared {f : Failure} : (a.prepare.runOn s).1 = .error f → f.isOrdinary = true →
      Wrong c a source s ("Compiler initialization failed for " ++ c.name ++ ": " ++ f.message)
  | uncompiled {message : Text} : (a.prepare.runOn s).1 = .ok () → Refused c a source (a.prepare.runOn s).2 message →
      Wrong c a source s message

/-- Of a compiler that is ready, nothing is told as an error for a source that has to fail. -/
theorem not_wrong_of_shouldFail (h : c.shouldFail = true) (hready : (a.prepare.runOn s).1 = .ok ()) :
    ¬Wrong c a source s message := by
  rintro (⟨hf, -⟩ | ⟨-, -, -, hshould⟩)
  · cases hready.symm.trans hf
  · cases h.symm.trans hshould

/-- What goes wrong when a compiler is shut down, and is told as a warning. -/
inductive Stuck (a : Adapter) (label : Text) (s : Session) : Text → Prop
  | failed {f : Failure} : (a.shutdown.runOn s).1 = .error f → f.isOrdinary = true →
      Stuck a label s ("Compiler shutdown failed after " ++ label ++ ": " ++ f.message)

/-- Judging notes on top of the compilation that it fails, if nothing else is expected. -/
theorem exists_runOn_judge (c : TestCase) (a : Adapter) (source : Text) (s : Session) :
    ∃ errors, ((judge c a source).runOn s).2 = ((a.compile source).runOn s).2.noted errors ∧
      Told .error (Refused c a source s) errors := by
  unfold judge
  rw [Act.runOn_attempt_bind]
  rcases hending : ((a.compile source).runOn s).1 with f | result
  · cases hordinary : f.isOrdinary with
    | false =>
        refine ⟨[], by simp [hordinary], .never ?_⟩
        rintro message ⟨hf, hof, -⟩
        cases hending.symm.trans hf
        cases hordinary.symm.trans hof
    | true =>
        cases hshould : c.shouldFail with
        | true =>
            refine ⟨[], by simp [hordinary], .never ?_⟩
            rintro message ⟨-, -, hshould'⟩
            cases hshould.symm.trans hshould'
        | false =>
            refine ⟨_, ?_, .once (.failed hending hordinary hshould)⟩
            simp only [hordinary]
            rfl
  · refine ⟨[], rfl, .never ?_⟩
    rintro message ⟨hf, -, -⟩
    cases hending.symm.trans hf

/-- With a compiler that cannot be prepared, nothing else goes wrong. -/
theorem wrong_iff_of_prepare_error {f : Failure} (h : (a.prepare.runOn s).1 = .error f) :
    Wrong c a source s message ↔
      f.isOrdinary = true ∧ message = "Compiler initialization failed for " ++ c.name ++ ": " ++ f.message := by
  constructor
  · rintro (⟨hf, hordinary⟩ | ⟨hok, -⟩)
    · cases hf.symm.trans h
      exact ⟨hordinary, rfl⟩
    · cases hok.symm.trans h
  · rintro ⟨hordinary, rfl⟩
    exact .unprepared h hordinary

/-- With a compiler that is ready, what goes wrong is the compilation. -/
theorem wrong_iff_refused (h : a.prepare.runOn s = (.ok (), s')) :
    Wrong c a source s message ↔ Refused c a source s' message := by
  have hending : (a.prepare.runOn s).1 = .ok () := by rw [h]
  have hready : (a.prepare.runOn s).2 = s' := by rw [h]
  constructor
  · rintro (⟨hf, -⟩ | ⟨-, hrefused⟩)
    · cases hf.symm.trans hending
    · exact hready ▸ hrefused
  · intro hrefused
    exact .uncompiled hending (hready.symm ▸ hrefused)

/-- Preparing a compiler and judging a source notes at most one failure, on top of what the compiler does. -/
theorem exists_runOn_prepared (c : TestCase) (a : Adapter) (source : Text) (s : Session) :
    ∃ errors, ((prepared c a source).runOn s).2 = ((a.work source).runOn s).2.noted errors ∧
      Told .error (Wrong c a source s) errors := by
  unfold prepared Adapter.work
  rw [Act.runOn_attempt_bind, Act.runOn_bind]
  rcases hprepare : a.prepare.runOn s with ⟨f | ⟨⟩, ready⟩
  · have hwrong : ∀ message, Wrong c a source s message ↔
        f.isOrdinary = true ∧ message = "Compiler initialization failed for " ++ c.name ++ ": " ++ f.message :=
      fun message => wrong_iff_of_prepare_error (by rw [hprepare])
    cases hordinary : f.isOrdinary with
    | false =>
        refine ⟨[], by simp [hordinary], .never fun message h => ?_⟩
        cases hordinary.symm.trans ((hwrong message).mp h).1
    | true =>
        refine ⟨_, ?_, .once ((hwrong _).mpr ⟨hordinary, rfl⟩)⟩
        simp only [hordinary]
        rfl
  · obtain ⟨errors, hjudge, htold⟩ := exists_runOn_judge c a source ready
    exact ⟨errors, hjudge, htold.congr fun message => (wrong_iff_refused hprepare).symm⟩

/-- Releasing a compiler notes on top of its shutdown that it fails. -/
theorem exists_runOn_release_noted (a : Adapter) (label : Text) (s : Session) :
    ∃ warnings, ((release a label).runOn s).2 = (a.shutdown.runOn s).2.noted warnings ∧
      Told .warning (Stuck a label s) warnings := by
  unfold release
  rw [Act.runOn_attempt_bind]
  rcases hending : (a.shutdown.runOn s).1 with f | ⟨⟩
  · cases hordinary : f.isOrdinary with
    | false =>
        refine ⟨[], by simp [hordinary], .never ?_⟩
        rintro message ⟨hf, hof⟩
        cases hending.symm.trans hf
        cases hordinary.symm.trans hof
    | true =>
        refine ⟨_, ?_, .once (.failed hending hordinary)⟩
        simp only [hordinary]
        rfl
  · refine ⟨[], rfl, .never ?_⟩
    rintro message ⟨hf, -⟩
    cases hending.symm.trans hf

/-! ## Cases -/

/-- What goes wrong with a case and is told as an error. -/
inductive Trouble (r : Runner) (tree : FileTree) (c : TestCase) (s : Session) : Text → Prop
  | unread {fault : Fixture.ReadFault} : s.Readable → (∀ tag ∈ c.tags, tag ∉ r.skipTags) →
      Fixture.read tree c.filePath r.limit = .error fault → fault.isUnreadable = true →
      Trouble r tree c s ("Failed to read test file " ++ c.filePath.toText ++ ": " ++ fault.message)
  | unbuilt {source : Text} {f : Failure} : Reached r tree c s source →
      ((Adapter.create r.factory).runOn s).1 = .error f → f.family ≠ .unadaptable → f.isOrdinary = true →
      Trouble r tree c s ("Compiler construction failed for " ++ c.name ++ ": " ++ f.message)
  | wrong {source message : Text} {a : Adapter} {s' : Session} : Reached r tree c s source →
      (Adapter.create r.factory).runOn s = (.ok a, s') → Wrong c a source s' message → Trouble r tree c s message

/-- What goes wrong behind a case and is told as a warning. -/
inductive Unreleased (r : Runner) (tree : FileTree) (c : TestCase) (s : Session) : Text → Prop
  | stuck {source message : Text} {a : Adapter} {s' : Session} : Reached r tree c s source →
      (Adapter.create r.factory).runOn s = (.ok a, s') → Stuck a c.name ((a.work source).runOn s').2 message →
      Unreleased r tree c s message

/-- What the compiler of a case notes itself: at its work, and when it is shut down. -/
inductive Spoken (r : Runner) (tree : FileTree) (c : TestCase) (s : Session) : List LogRecord → List LogRecord → Prop
  | none : (∀ source a s', Reached r tree c s source → (Adapter.create r.factory).runOn s ≠ (.ok a, s')) →
      Spoken r tree c s [] []
  | some {source : Text} {a : Adapter} {s' : Session} {worked closed : List LogRecord} : Reached r tree c s source →
      (Adapter.create r.factory).runOn s = (.ok a, s') →
      ((a.work source).runOn s').2.records = s'.records ++ worked →
      (a.shutdown.runOn ((a.work source).runOn s').2).2.records = ((a.work source).runOn s').2.records ++ closed →
      Spoken r tree c s worked closed

/-- The records of a case: those of its compiler at work, an error if something went wrong, those of its compiler at
its shutdown, and a warning if that failed. -/
structure CaseNotes (r : Runner) (tree : FileTree) (c : TestCase) (s : Session)
    (worked errors closed warnings : List LogRecord) : Prop where
  spoken : Spoken r tree c s worked closed
  errors : Told .error (Trouble r tree c s) errors
  warnings : Told .warning (Unreleased r tree c s) warnings

/-- A case of which no compiler is made leaves at most an error. -/
theorem CaseNotes.of_unmade {errors : List LogRecord}
    (h : ∀ source a s', Reached r tree c s source → (Adapter.create r.factory).runOn s ≠ (.ok a, s'))
    (herrors : Told .error (Trouble r tree c s) errors) : CaseNotes r tree c s [] errors [] [] where
  spoken := .none h
  errors := herrors
  warnings := .never fun message hstuck => by
    obtain ⟨hreached, hcreate, -⟩ := hstuck
    exact h _ _ _ hreached hcreate

theorem runOn_releasing_snd {α : Type} (a : Adapter) (label : Text) (work : Act α) (s : Session) :
    ((releasing a label work).runOn s).2 = ((release a label).runOn (work.runOn s).2).2 := by
  unfold releasing
  rw [Act.runOn_attempt_bind, Act.runOn_bind]
  rcases (release a label).runOn (work.runOn s).2 with ⟨f | ⟨⟩, s'⟩ <;> rfl

/-- With a compiler at hand, what goes wrong with a case is what goes wrong with the compiler. -/
theorem trouble_iff_wrong (hreached : Reached r tree c s source)
    (hcreate : (Adapter.create r.factory).runOn s = (.ok a, s')) :
    Trouble r tree c s message ↔ Wrong c a source s' message := by
  constructor
  · intro htrouble
    cases htrouble with
    | unread hreadable hkept hread => cases hread.symm.trans hreached.read
    | unbuilt hreached' hf =>
        rw [hcreate] at hf
        cases hf
    | wrong hreached' hcreate' hwrong =>
        cases hreached'.read.symm.trans hreached.read
        cases hcreate'.symm.trans hcreate
        exact hwrong
  · exact .wrong hreached hcreate

theorem unreleased_iff_stuck (hreached : Reached r tree c s source)
    (hcreate : (Adapter.create r.factory).runOn s = (.ok a, s')) :
    Unreleased r tree c s message ↔ Stuck a c.name ((a.work source).runOn s').2 message := by
  constructor
  · rintro ⟨hreached', hcreate', hstuck⟩
    cases hreached'.read.symm.trans hreached.read
    cases hcreate'.symm.trans hcreate
    exact hstuck
  · exact .stuck hreached hcreate

/-- The records of a case whose compiler can be made. -/
theorem exists_notes_of_made (hreached : Reached r tree c s source) (hadapt : Adapter.adapt b = .ok a)
    (hcreate : (Adapter.create r.factory).runOn s = (.ok a, s')) :
    ∃ worked errors closed warnings, CaseNotes r tree c s worked errors closed warnings ∧
      ((r.compiled c source).runOn s).2.records = s'.records ++ worked ++ errors ++ closed ++ warnings := by
  obtain ⟨errors, hprepared, herrors⟩ := exists_runOn_prepared c a source s'
  obtain ⟨worked, hworked⟩ := Adapter.keepsNotes_work hadapt source s'
  obtain ⟨closed, hclosed, hnoted⟩ := Adapter.exists_runOn_shutdown a ((a.work source).runOn s').2
  obtain ⟨hending, hrecords⟩ := hnoted errors
  obtain ⟨warnings, hrelease, hwarnings⟩ :=
    exists_runOn_release_noted a c.name (((a.work source).runOn s').2.noted errors)
  refine ⟨worked, errors, closed, warnings, ⟨.some hreached hcreate hworked hclosed, ?_, ?_⟩, ?_⟩
  · exact herrors.congr fun message => (trouble_iff_wrong hreached hcreate).symm
  · refine hwarnings.congr fun message => ?_
    rw [unreleased_iff_stuck hreached hcreate]
    constructor
    · rintro ⟨hf, hordinary⟩
      exact .failed (hending.symm.trans hf) hordinary
    · rintro ⟨hf, hordinary⟩
      exact .failed (hending.trans hf) hordinary
  · rw [runOn_compiled_of_ok hcreate, runOn_releasing_snd, hprepared, hrelease, Session.records_noted, hrecords,
      hworked]

/-- Without a compiler, what goes wrong with a case is that none can be built. -/
theorem trouble_iff_of_create_error {f : Failure} (hreached : Reached r tree c s source)
    (hcreate : (Adapter.create r.factory).runOn s = (.error f, s')) :
    Trouble r tree c s message ↔ (f.family ≠ .unadaptable ∧ f.isOrdinary = true) ∧
      message = "Compiler construction failed for " ++ c.name ++ ": " ++ f.message := by
  have hending : ((Adapter.create r.factory).runOn s).1 = .error f := by rw [hcreate]
  constructor
  · intro htrouble
    cases htrouble with
    | unread hreadable hkept hread => cases hread.symm.trans hreached.read
    | unbuilt hreached' hf hfamily hordinary =>
        cases hf.symm.trans hending
        exact ⟨⟨hfamily, hordinary⟩, rfl⟩
    | wrong hreached' hcreate' hwrong => cases hcreate'.symm.trans hcreate
  · rintro ⟨⟨hfamily, hordinary⟩, rfl⟩
    exact .unbuilt hreached hending hfamily hordinary

/-- The records of a case whose compiler cannot be made. -/
theorem exists_notes_of_unmade {f : Failure} (hreached : Reached r tree c s source)
    (hcreate : (Adapter.create r.factory).runOn s = (.error f, s')) :
    ∃ errors, CaseNotes r tree c s [] errors [] [] ∧
      ((r.compiled c source).runOn s).2.records = s'.records ++ errors := by
  have hunmade : ∀ source a s', Reached r tree c s source → (Adapter.create r.factory).runOn s ≠ (.ok a, s') := by
    intro source a s'' _ hcreate'
    cases hcreate.symm.trans hcreate'
  have hended : (f.family == .unadaptable || !f.isOrdinary) = true ↔
      ¬(f.family ≠ .unadaptable ∧ f.isOrdinary = true) := by
    cases f.isOrdinary <;> simp
  unfold compiled
  rw [Act.runOn_attempt_bind, hcreate]
  by_cases hf : (f.family == .unadaptable || !f.isOrdinary) = true
  · refine ⟨[], .of_unmade hunmade (.never fun message h => ?_), ?_⟩
    · exact hended.mp hf ((trouble_iff_of_create_error hreached hcreate).mp h).1
    · simp [hf]
  · refine ⟨_, .of_unmade hunmade (.once ((trouble_iff_of_create_error hreached hcreate).mpr ⟨?_, rfl⟩)), ?_⟩
    · exact Decidable.not_not.mp fun h => hf (hended.mpr h)
    · simp only [hf]
      exact Session.records_noted s' [_]

/-- Before a compiler is made, nothing goes wrong but the reading of the fixture. -/
theorem Trouble.exists_fault (htrouble : Trouble r tree c s message) (h : ∀ source, ¬Reached r tree c s source) :
    s.Readable ∧ r.skippedBy c = [] ∧
      ∃ fault, Fixture.read tree c.filePath r.limit = .error fault ∧ fault.isUnreadable = true := by
  cases htrouble with
  | unread hreadable hkept hread hunreadable =>
      exact ⟨hreadable, skippedBy_eq_nil_iff.mpr hkept, _, hread, hunreadable⟩
  | unbuilt hreached => exact absurd hreached (h _)
  | wrong hreached => exact absurd hreached (h _)

theorem caseNotes_of_unreached {errors : List LogRecord} (h : ∀ source, ¬Reached r tree c s source)
    (herrors : Told .error (Trouble r tree c s) errors) : CaseNotes r tree c s [] errors [] [] :=
  .of_unmade (fun _ _ _ hreached => absurd hreached (h _)) herrors

/-- The records of a case that starts at a time that can be read. -/
theorem exists_notes_execute (r : Runner) (tree : FileTree) (c : TestCase) (hs : s.Readable) :
    ∃ worked errors closed warnings, CaseNotes r tree c s worked errors closed warnings ∧
      ((r.execute tree c).runOn s).2.records = s.records ++ worked ++ errors ++ closed ++ warnings := by
  have hexecution := execution_execute r tree c
  generalize r.execute tree c = action at hexecution
  cases hexecution with
  | skipped hskipped =>
      have hunreached : ∀ source, ¬Reached r tree c s source :=
        fun source hreached => hskipped (skippedBy_eq_nil_iff.mpr hreached.kept)
      refine ⟨[], [], [], [], caseNotes_of_unreached hunreached (.never fun message htrouble => ?_), by simp⟩
      exact hskipped (htrouble.exists_fault hunreached).2.1
  | unreadable hkept hread hunreadable =>
      have hunreached : ∀ source, ¬Reached r tree c s source := by
        intro source hreached
        cases hread.symm.trans hreached.read
      have htrouble := Trouble.unread hs (skippedBy_eq_nil_iff.mp hkept) hread hunreadable
      refine ⟨[], _, [], [], caseNotes_of_unreached hunreached (.once htrouble), ?_⟩
      simp only [List.append_nil]
      exact Session.records_noted s [_]
  | stopped hkept hread hunreadable =>
      have hunreached : ∀ source, ¬Reached r tree c s source := by
        intro source hreached
        cases hread.symm.trans hreached.read
      refine ⟨[], [], [], [], caseNotes_of_unreached hunreached (.never fun message htrouble => ?_), by simp⟩
      obtain ⟨-, -, fault', hread', hunreadable'⟩ := htrouble.exists_fault hunreached
      cases hread.symm.trans hread'
      cases hunreadable.symm.trans hunreadable'
  | @compiled source hkept hread =>
      have hreached : Reached r tree c s source := ⟨hs, skippedBy_eq_nil_iff.mp hkept, hread⟩
      rcases Adapter.runOn_create_cases r.factory s with
        ⟨f, -, hrun⟩ | ⟨compiler, f, -, -, hrun⟩ | ⟨compiler, a, -, -, hadapt, hrun⟩
      · obtain ⟨errors, hnotes, hrecords⟩ := exists_notes_of_unmade hreached hrun
        exact ⟨[], errors, [], [], hnotes, by simpa using hrecords⟩
      · obtain ⟨errors, hnotes, hrecords⟩ := exists_notes_of_unmade hreached hrun
        exact ⟨[], errors, [], [], hnotes, by simpa using hrecords⟩
      · obtain ⟨worked, errors, closed, warnings, hnotes, hrecords⟩ := exists_notes_of_made hreached hadapt hrun
        exact ⟨worked, errors, closed, warnings, hnotes, hrecords⟩

/-- Nothing is noted of a case but what its execution notes. -/
theorem records_runCase (r : Runner) (tree : FileTree) (c : TestCase) (hs : s.Readable) :
    ((r.runCase tree c).runOn s).2.records = ((r.execute tree c).runOn s).2.records := by
  have hrun := caseRun_runCase r tree c s
  generalize (r.runCase tree c).runOn s = ran at hrun
  cases hrun with
  | untimed _ huntimed => exact absurd hs huntimed
  | failed _ hexecute => rw [hexecute]
  | overrun _ _ hexecute _ => rw [hexecute]
  | finished _ _ hexecute _ => rw [hexecute, records_told]

/-- Every run of a case, however it ends, leaves what the compiler of the case notes at its work and at its shutdown,
an error between these if something went wrong with the case, and a warning behind them if the shutdown failed.  Of a
compilation that fails on a source that has to fail, no error is left. -/
theorem runCase_notes (r : Runner) (tree : FileTree) (c : TestCase) (s : Session) :
    ∃ worked errors closed warnings,
      ((r.runCase tree c).runOn s).2.records = s.records ++ worked ++ errors ++ closed ++ warnings ∧
      Spoken r tree c s worked closed ∧
      Told .error (Trouble r tree c s) errors ∧
      Told .warning (Unreleased r tree c s) warnings := by
  by_cases hs : s.Readable
  · obtain ⟨worked, errors, closed, warnings, hnotes, hrecords⟩ := exists_notes_execute r tree c hs
    exact ⟨worked, errors, closed, warnings, (records_runCase r tree c hs).trans hrecords, hnotes.spoken,
      hnotes.errors, hnotes.warnings⟩
  · have hunreached : ∀ source, ¬Reached r tree c s source := fun source hreached => hs hreached.readable
    have hnotes : CaseNotes r tree c s [] [] [] [] :=
      caseNotes_of_unreached hunreached (.never fun message htrouble => hs (htrouble.exists_fault hunreached).1)
    obtain ⟨f, hf⟩ := Session.runOn_seconds_of_not_readable hs
    refine ⟨[], [], [], [], ?_, hnotes.spoken, hnotes.errors, hnotes.warnings⟩
    unfold runCase
    rw [Act.runOn_bind_error hf]
    simp

end Runner

end Conformance
