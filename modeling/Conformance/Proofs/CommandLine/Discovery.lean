import Conformance.Proofs.Backend.Table
import Conformance.Proofs.CommandLine.Prepare

/-!
# Backends that were found

The backends are looked for once.  The table then lasts from one command line to the next, and no command changes it:
whatever a host knows, it has found among the entry points of the installed packages.  No entry point takes the place
of a backend that comes with the harness.

Main results:

- `Backend.Table.find?_of_found`: the command backend is found whatever the entry points are.
- `CommandLine.Step.Steady`: the steps that leave a table that was found, which all steps do.
- `CommandLine.discovered_execute`: a command line leaves a table that was found.
- `CommandLine.discovered_behind`: so do command lines one after another.
-/

namespace Conformance

open Backend

/-! ## Tables -/

namespace Backend.Table

variable {t t' : Table} {e : EntryPoint} {s s' : Session} {name : Text} {backend : BackendClass}

/-- A table that holds what was found among entry points. -/
def Found (points : List EntryPoint) (t : Table) : Prop :=
  ∃ su s s', (discover su points).runOn s = (.ok t, s')

/-- A name in use keeps its class when an entry point is taken. -/
theorem find?_of_take (hfind : find? name t.entries = some backend) (h : (t.take e).runOn s = (.ok t', s')) :
    find? name t'.entries = some backend := by
  have hafter : perform (t, s) (.take e) = (t', s') := by
    unfold perform Change.apply
    rw [h]
    rfl
  have hleft := find?_perform t s (.take e) name
  rw [hafter, hfind] at hleft
  exact hleft

theorem find?_of_foldlM_take {points : List EntryPoint} (hfind : find? name t.entries = some backend)
    (h : (points.foldlM take t).runOn s = (.ok t', s')) : find? name t'.entries = some backend := by
  induction points generalizing t s with
  | nil =>
      cases h
      exact hfind
  | cons e rest ih =>
      rw [List.foldlM_cons] at h
      obtain ⟨after, left, htake, hrest⟩ := Act.runOn_bind_eq_ok_iff.mp h
      exact ih (find?_of_take hfind htake) hrest

/-- No entry point takes the place of the command backend that comes with the harness. -/
theorem find?_of_found {points : List EntryPoint} (h : t.Found points) :
    ∃ su, find? Command.name t.entries = some (Command.backendClass su) := by
  obtain ⟨su, s, s', hdiscover⟩ := h
  exact ⟨su, find?_of_foldlM_take rfl hdiscover⟩

end Backend.Table

/-! ## Steps -/

namespace CommandLine

open Step

/-- A host knows no other backends than those that were found. -/
def Host.Discovered (s : Setting) (h : Host) : Prop :=
  ∀ t, h.table = some t → t.Found s.points

namespace Step

variable {α β : Type} {s : Setting} {x : Step α} {k : α → Step β}

/-- A step leaves a host that knows no other backends than those that were found, also if it stops. -/
def Steady (s : Setting) (x : Step α) : Prop :=
  ∀ c, c.host.Discovered s → (x.runOn c).2.host.Discovered s

/-- Looking for backends gives those that are found. -/
theorem found_of_runOn_perform {su : Surroundings} {points : List EntryPoint} {before after : Console}
    {t : Backend.Table} (h : (perform (Backend.Table.discover su points)).runOn before = (.ok t, after)) :
    t.Found points := by
  obtain ⟨ending, left, hattempt, hended⟩ := runOn_bind_eq_ok_iff.mp h
  cases ending with
  | error f => cases hended
  | ok found =>
      cases hended
      exact ⟨su, before.session, _, Prod.ext (Except.ok.inj (congrArg Prod.fst hattempt)) rfl⟩

/-- The backends are those that were found, or they are looked for now. -/
theorem found_of_runOn_table {before after : Console} {t : Backend.Table} (hfound : before.host.Discovered s)
    (h : (table s).runOn before = (.ok t, after)) : t.Found s.points := by
  unfold table at h
  rw [runOn_bind_ok (runOn_host before)] at h
  cases hknown : before.host.table with
  | some known =>
      rw [hknown] at h
      cases h
      exact hfound t hknown
  | none =>
      rw [hknown] at h
      obtain ⟨found, left, hlooked, hrest⟩ := runOn_bind_eq_ok_iff.mp h
      cases hrest
      exact found_of_runOn_perform hlooked

namespace Steady

theorem pure (a : α) : Steady s (Pure.pure a : Step α) :=
  fun _ h => h

theorem throw (stop : Stop) : Steady s (MonadExcept.throw stop : Step α) :=
  fun _ h => h

theorem get : Steady s (MonadState.get : Step Console) :=
  fun _ h => h

theorem host : Steady s Step.host :=
  fun _ h => h

theorem modified {change : Console → Console} (h : ∀ c, (change c).host.table = c.host.table) :
    Steady s (modify change : Step Unit) := by
  intro c hfound t ht
  exact hfound t ((h c).symm.trans ht)

theorem attempt (action : Act α) : Steady s (Step.attempt action) :=
  fun _ h => h

theorem ofExcept (ending : Except Failure α) : Steady s (Step.ofExcept ending) := by
  cases ending with
  | ok value => exact pure value
  | error f => exact throw _

theorem bind (hx : Steady s x) (hk : ∀ a, Steady s (k a)) : Steady s (x >>= k) := by
  intro c hfound
  have hleft := hx c hfound
  rw [runOn_bind]
  generalize x.runOn c = ran at hleft ⊢
  rcases ran with ⟨stop | a, left⟩
  · exact hleft
  · exact hk a left hleft

theorem mapM {γ : Type} {f : γ → Step α} (h : ∀ a, Steady s (f a)) (all : List γ) : Steady s (all.mapM f) := by
  induction all with
  | nil => exact pure []
  | cons a rest ih =>
      rw [List.mapM_cons]
      exact (h a).bind fun _ => ih.bind fun _ => pure _

theorem display (d : Terminal.Display) : Steady s (Step.display d) :=
  modified fun _ => rfl

theorem displays (ds : List Terminal.Display) : Steady s (Step.displays ds) := by
  intro c hfound
  rw [runOn_displays]
  exact hfound

theorem notes (records : List LogRecord) : Steady s (Step.notes records) :=
  modified fun _ => rfl

theorem print (text : Text) : Steady s (Step.print text) := by
  unfold Step.print
  cases Text.encodingFault? text with
  | none => exact modified fun _ => rfl
  | some fault => exact throw _

theorem refuse (message : Text) : Steady s (Step.refuse message : Step α) :=
  (display _).bind fun _ => throw _

theorem perform (action : Act α) : Steady s (Step.perform action) :=
  (attempt action).bind fun ending => ofExcept ending

theorem watched (verbose : Bool) (action : Act α) : Steady s (Step.watched verbose action) :=
  get.bind fun _ => (attempt action).bind fun ending => get.bind fun _ => (displays _).bind fun _ => pure ending

theorem report (activation : Telemetry.Activation) : Steady s (Step.report activation) :=
  (notes _).bind fun _ => modified fun _ => rfl

theorem writeReport (path : Path) (text : Text) : Steady s (Step.writeReport path text) :=
  host.bind fun h => by
    rcases Report.write h.tree path text with ⟨tree, ending⟩
    refine .bind (.modified ?_) fun _ => ofExcept ending
    exact fun _ => rfl

/-- Looking for the backends leaves what was found. -/
theorem table (s : Setting) : Steady s (Step.table s) := by
  intro c hfound
  unfold Step.table
  rw [runOn_bind_ok (runOn_host c)]
  cases hknown : c.host.table with
  | some known => exact hfound
  | none =>
      dsimp only
      generalize hsu : s.surroundings c.host.tree c.host.environment = su
      have hleft := perform (s := s) (Backend.Table.discover su s.points) c hfound
      rw [runOn_bind]
      rcases hlooked : (Step.perform (Backend.Table.discover su s.points)).runOn c with ⟨stop | t, left⟩
      · rw [hlooked] at hleft
        exact hleft
      · rintro t ⟨⟩
        exact found_of_runOn_perform hlooked

theorem closed (s : Setting) : Closed s fun {α} => @Steady α s where
  pure := pure
  throw := throw
  bind := bind
  host := host
  notes := notes
  attempt := attempt
  report := report
  table := table s
  refuse := refuse
  stopped ds stop := (displays ds).bind fun _ => throw stop

end Steady

end Step

/-! ## Commands -/

section Commands

variable {s : Setting}

theorem steady_prepareRun (backend : Option Text) (o : RunOptions) : (prepareRun s backend o).Steady s := by
  have hclosed := Steady.closed s
  refine (hclosed.loadValidConfig _ _).bind fun config => (hclosed.factoryFor config _).bind fun factory => ?_
  refine (hclosed.withBackend _ _).bind fun compiler => .bind .host fun h => ?_
  refine (Steady.notes _).bind fun _ => (Steady.ofExcept _).bind fun count => ?_
  dsimp only
  split
  · exact (Steady.displays _).bind fun _ => .pure _
  · exact .pure _

theorem steady_emitReport (r : Reporting) (run : RunReport) (extra : List (Text × Document)) :
    (emitReport r run extra).Steady s := by
  unfold emitReport
  dsimp only
  generalize Report.text r.timestamp ⟨some r.compiler, some run, [], extra⟩ = text
  have hwrite (file : Text) : (do Step.writeReport (Path.ofText file) (← Step.ofExcept text)).Steady s :=
    (Steady.ofExcept text).bind fun _ => .writeReport _ _
  have hprint {rest : Step Unit} (hrest : rest.Steady s) :
      (do Step.print (← Step.ofExcept text); rest).Steady s :=
    (Steady.ofExcept text).bind fun _ => (Steady.print _).bind fun _ => hrest
  cases r.json with
  | false =>
      cases r.file with
      | none => exact .pure ()
      | some file => exact hwrite file
  | true =>
      cases r.file with
      | none => exact hprint (.pure ())
      | some file => exact hprint (hwrite file)

/-- A run ends with a status of its own once it has been reported. -/
theorem steady_ended (r : Reporting) (run : RunReport) (extra : List (Text × Document)) (success : Bool)
    (status : Nat) :
    Steady s (do
      emitReport r run extra
      if success then pure (.ok ()) else throw (.exit status) : Step (Except Failure Unit)) := by
  refine (steady_emitReport r run extra).bind fun _ => ?_
  cases success with
  | true => exact .pure _
  | false => exact .throw _

theorem steady_runTagged (verbose : Bool) (runner : Runner) (suite : Suite) (tag : Text) (r : Reporting) :
    (runTagged verbose runner suite tag r).Steady s := by
  refine .bind .host fun h => (Steady.watched _ _).bind fun ending => ?_
  cases ending with
  | error f => exact .pure _
  | ok report =>
      have hended := steady_ended (s := s) r (.ofResults report.cases) [("tag", .text tag)] report.success 1
      dsimp only
      split
      · exact (Steady.ofExcept _).bind fun _ => (Steady.display _).bind fun _ => hended
      · exact hended

theorem steady_runWhole (verbose : Bool) (runner : Runner) (suite : Suite) (stats : Bool) (r : Reporting) :
    (runWhole verbose runner suite stats r).Steady s := by
  refine .bind .host fun h => (Steady.watched _ _).bind fun ending => ?_
  cases ending with
  | error f => exact .pure _
  | ok report =>
      have hended (extra : List (Text × Document)) :=
        steady_ended (s := s) r report extra report.success report.exitCode
      have hshown (extra : List (Text × Document)) := (Steady.ofExcept (Terminal.runReport report)).bind fun shown =>
        (Steady.displays shown).bind fun _ => hended extra
      dsimp only
      split
      · split
        · exact (Steady.ofExcept _).bind fun _ => (Steady.display _).bind fun _ => hshown _
        · exact hshown _
      · exact hended _

theorem steady_runPrepared (verbose : Bool) (o : RunOptions) (p : Prepared) :
    (runPrepared verbose o p).Steady s := by
  have hended (f : Failure) : Steady s
      (if f.family == .unadaptable then
        Step.refuse ("Cannot use backend '" ++ p.backend ++ "': " ++ f.message)
      else throw (.failed f) : Step Unit) := by
    split
    · exact .refuse _
    · exact .throw _
  unfold runPrepared
  cases o.tag with
  | some tag =>
      refine (steady_runTagged verbose p.runner p.suite tag p.reporting).bind fun ending => ?_
      cases ending with
      | ok _ => exact .pure ()
      | error f => exact hended f
  | none =>
      refine (steady_runWhole verbose p.runner p.suite o.stats p.reporting).bind fun ending => ?_
      cases ending with
      | ok _ => exact .pure ()
      | error f => exact hended f

theorem steady_benchSource (o : BenchOptions) : (benchSource o).Steady s := by
  unfold benchSource
  cases o.sourceFile with
  | none => exact .pure _
  | some file =>
      dsimp only
      split
      · refine .bind .host fun h => ?_
        cases Fixture.read h.tree (Path.ofText file) Benchmark.fileLimit with
        | ok source => exact .pure source
        | error fault =>
            dsimp only
            split
            · exact .refuse _
            · exact .throw _
      · exact .pure _

theorem steady_bench (o : BenchOptions) : (bench s o).Steady s := by
  have hclosed := Steady.closed s
  refine (hclosed.loadValidConfig _ _).bind fun config => (hclosed.factoryFor config _).bind fun factory => ?_
  refine (steady_benchSource o).bind fun source => (hclosed.withBackend _ _).bind fun adapter => ?_
  refine .bind .host fun h => (Steady.perform _).bind fun (result, compiler) => ?_
  dsimp only
  split
  · exact (Steady.ofExcept _).bind fun _ => .print _
  · exact (Steady.display _).bind fun _ => (Steady.ofExcept _).bind fun _ => .display _

theorem steady_backends : (backends s).Steady s := by
  refine (Steady.table s).bind fun table => ?_
  refine (Steady.mapM (fun name => ?_) _).bind fun rows => ?_
  · exact (Steady.perform _).bind fun compiler => .pure (name, compiler)
  · split
    · exact .display _
    · exact .display _

theorem steady_showConfig (path : Option Path) (json : Bool) : (showConfig path json).Steady s := by
  refine ((Steady.closed s).loadConfig path).bind fun config => ?_
  have hprinted : (do
      let _ ← Step.ofExcept (Document.record config.masked.toEntries).displayed
      Step.print (if json then Json.render .readableAscii (Document.record config.masked.toEntries)
        else Yaml.renderBlock (Document.record config.masked.toEntries))).Steady s :=
    (Steady.ofExcept _).bind fun _ => .print _
  dsimp only
  split
  · exact (Steady.displays _).bind fun _ => hprinted
  · exact hprinted

theorem steady_validateConfig (path : Option Path) : (validateConfig path).Steady s := by
  refine ((Steady.closed s).loadConfig path).bind fun config => (Steady.ofExcept _).bind fun errors => ?_
  split
  · exact .display _
  · exact (Steady.displays _).bind fun _ => .throw _

theorem steady_perform (verbose : Bool) (action : Action) : (perform s verbose action).Steady s := by
  cases action with
  | run backend o => exact (steady_prepareRun backend o).bind fun p => steady_runPrepared verbose o p
  | bench o => exact steady_bench o
  | backends => exact steady_backends
  | showConfig path json => exact steady_showConfig path json
  | validateConfig path => exact steady_validateConfig path
  | help => exact .pure ()

theorem steady_interpret (arguments : List Text) : (interpret s arguments).Steady s := by
  refine .bind .host fun h => ?_
  cases Front.read h.tree arguments with
  | unclear => exact .throw _
  | version => exact .print _
  | help => exact .pure ()
  | command verbose action =>
      refine .bind .host fun h => (Steady.report _).bind fun _ => ?_
      rcases action with fault | action
      · cases fault with
        | unclear => exact .throw _
        | failed f => exact .throw _
      · exact steady_perform verbose action

/-- A command line leaves a host that knows no other backends than those that were found. -/
theorem discovered_execute {h : Host} (hfound : h.Discovered s) (arguments : List Text) :
    (execute s h arguments).2.Discovered s :=
  steady_interpret arguments (.start h) hfound

/-- The host that command lines leave, one after another. -/
def Host.behind (s : Setting) (h : Host) (lines : List (List Text)) : Host :=
  lines.foldl (fun h arguments => (execute s h arguments).2) h

/-- A host that starts without a table never knows other backends than those that were found. -/
theorem discovered_behind {h : Host} (hnone : h.table = none) (lines : List (List Text)) :
    (h.behind s lines).Discovered s := by
  have hfound : h.Discovered s := fun t ht => nomatch hnone.symm.trans ht
  clear hnone
  unfold Host.behind
  induction lines generalizing h with
  | nil => exact hfound
  | cons arguments rest ih => exact ih (discovered_execute hfound arguments)

end Commands

end CommandLine

end Conformance
