import Conformance.Proofs.Backend.Command
import Conformance.Proofs.Backend.Launch
import Conformance.Proofs.CommandLine.Discovery
import Conformance.Config.Validation

/-!
# Configurations that can be run

What is checked of a configuration that runs an external tool is what is asked of it later: by the backend when it is
made, by each compilation when the tool is started, and by the start of the tool itself.  And what is checked is what
is run, since both choose the backend alike.

Main results:

- `Config.runnable_of_errors`: a valid configuration has settings with which its tool can be run.
- `Backend.Table.factory_of_found`: the backend is made of the settings of a configuration without a failure.
- `Config.runsTool_of_errors`: the backend is made of a valid configuration without a failure, and each of its
  compilations starts the tool on the file of the source.
- `CommandLine.ready_eq_ok`: the commands run the backend for which the configuration was checked.
- `CommandLine.valid_configurations_run`: both of these for all commands that compile.
-/

namespace Conformance

open Backend

/-! ## Valid configurations -/

namespace Config

variable {c : Config} {backend : Option Text}

/-- The settings of the backend that runs an external tool. -/
def settings (c : Config) : CommandSettings :=
  ⟨c.command.arguments, .ofNumber c.command.timeout, .null⟩

/-- Nothing is wrong with the settings of the command backend exactly if its tool can be run. -/
theorem commandErrors_eq_nil_iff :
    commandErrors c.command = [] ↔ Command.Runnable c.settings c.command.timeout := by
  have hfields : Command.Runnable c.settings c.command.timeout ↔
      c.command.arguments ≠ [] ∧ c.command.arguments.any (Text.contains · filePlaceholder) = true ∧
        c.command.timeout.isNotPositive = false := by
    rw [List.any_eq_true]
    exact ⟨fun h => ⟨h.command, h.placeholder, h.positive⟩, fun ⟨hne, hshown, hpositive⟩ =>
      ⟨hne, hshown, rfl, hpositive⟩⟩
  rw [hfields]
  unfold commandErrors
  cases c.command.arguments with
  | nil => simp
  | cons first rest =>
      cases (first :: rest).any (Text.contains · filePlaceholder) <;>
        cases c.command.timeout.isNotPositive <;> simp

/-- A valid configuration that runs an external tool has settings with which the tool can be run. -/
theorem runnable_of_errors (h : c.errors backend = .ok []) (hcommand : c.chosenBackend backend = Command.name) :
    Command.Runnable c.settings c.command.timeout := by
  have hnil := backendErrors_of_errors h
  unfold backendErrors at hnil
  rw [if_pos hcommand] at hnil
  exact commandErrors_eq_nil_iff.mp (List.append_eq_nil_iff.mp hnil).2

end Config

/-! ## Making the backend -/

namespace Backend

open Decimal

namespace Command

/-- Arguments that are texts are taken as they are. -/
theorem mapM_displayed_text (arguments : List Text) :
    (arguments.map Document.text).mapM Document.displayed = .ok arguments := by
  induction arguments with
  | nil => rfl
  | cons first rest ih =>
      have hfirst : Document.displayed (.text first) = .ok first := by
        unfold Document.displayed Document.display?
        rfl
      rw [List.map_cons, List.mapM_cons, hfirst, ih]
      rfl

/-- The settings of the command backend are those of the configuration, if there is a command. -/
theorem readSettings_optionsFor {c : Config} (h : c.command.arguments ≠ []) :
    readSettings (c.optionsFor name) = .ok c.settings := by
  have hcreate : CommandSettings.create c.command.arguments (.ofNumber c.command.timeout) .null = .ok c.settings := by
    unfold CommandSettings.create
    exact if_neg (mt List.isEmpty_iff.mp h)
  have harguments : readArguments (.texts c.command.arguments) = .ok c.command.arguments := by
    unfold readArguments
    rw [if_pos (Subprocess.isTruthy_texts h)]
    exact mapM_displayed_text c.command.arguments
  change (readArguments (.texts c.command.arguments) >>= fun arguments =>
    CommandSettings.create arguments (.ofNumber c.command.timeout) .null) = _
  rw [harguments]
  exact hcreate

/-- The command backend takes the options of a configuration. -/
theorem check_optionsFor (c : Config) :
    Options.check "CommandCompiler" ["argv", "timeout", "env"] (c.optionsFor name) = .ok () :=
  rfl

end Command

/-- The compilers of the command backend are made of the settings of a configuration, without a failure. -/
theorem Table.factory_of_found {points : List EntryPoint} {t : Table} {c : Config}
    (hne : c.command.arguments ≠ []) (h : t.Found points) :
    ∃ (su : Surroundings) (factory : Factory), t.factory Command.name (c.optionsFor Command.name) = .ok factory ∧
      ∀ trace, factory trace = .ok (Command.compiler c.settings su.isOnPath su.tool trace.nextNumber) := by
  obtain ⟨su, hfind⟩ := find?_of_found h
  have hclass : t.classOf Command.name = .ok (Command.backendClass su) := by
    unfold classOf
    rw [hfind]
  unfold factory
  rw [hclass]
  refine ⟨su, _, rfl, fun trace => ?_⟩
  unfold Command.backendClass
  dsimp only
  rw [Command.check_optionsFor, Command.readSettings_optionsFor hne]
  rfl

end Backend

/-! ## Running the tool -/

namespace Config

variable {c : Config} {backend : Option Text}

/-- The tool of a configuration runs.  Whatever backends were found, compilers of the command backend are made of
the settings without a failure.  And whenever such a compiler has written a source to a file, in whatever work
directory and behind whatever other sources, it starts the tool so that it is shown the file. -/
structure RunsTool (c : Config) : Prop where
  made : ∀ points (t : Table), t.Found points →
    ∃ (su : Surroundings) (factory : Factory), t.factory Command.name (c.optionsFor Command.name) = .ok factory ∧
      ∀ trace, factory trace = .ok (Command.compiler c.settings su.isOnPath su.tool trace.nextNumber)
  shown : ∀ isOnPath tool owner (w : Workspace) earlier source file,
    let directory := Command.directoryOf owner w.ensure
    Command.sourceFile directory source = .ok file →
      Command.Shows (Command.launch c.settings directory) file ∧
        Command.compile c.settings isOnPath tool owner w earlier source =
          Command.answer c.settings isOnPath owner w source
            (tool (Command.launch c.settings directory) (Command.writtenFiles directory earlier) file)

theorem runsTool_of_errors (h : c.errors backend = .ok []) (hcommand : c.chosenBackend backend = Command.name) :
    c.RunsTool := by
  have hrunnable := runnable_of_errors h hcommand
  constructor
  case made =>
    intro points t hfound
    exact Table.factory_of_found hrunnable.command hfound
  case shown =>
    intro isOnPath tool owner w earlier source file directory hfile
    exact ⟨Command.shows_launch hrunnable hfile, Command.compile_of_sourceFile hfile⟩

end Config

/-! ## Commands -/

namespace CommandLine

open Step Terminal

variable {s : Setting} {path : Option Path} {backend : Option Text} {before after : Console} {config : Config}
  {factory : Factory}

/-- A command goes on only with a configuration with which nothing is wrong for its backend. -/
theorem errors_of_runOn_loadValidConfig (h : (loadValidConfig path backend).runOn before = (.ok config, after)) :
    config.errors backend = .ok [] := by
  unfold loadValidConfig at h
  obtain ⟨loaded, c₁, -, h₁⟩ := runOn_bind_eq_ok_iff.mp h
  obtain ⟨errors, c₂, herrors, h₂⟩ := runOn_bind_eq_ok_iff.mp h₁
  cases hchecked : loaded.errors backend with
  | error f =>
      rw [hchecked] at herrors
      cases herrors
  | ok found =>
      rw [hchecked] at herrors
      cases herrors
      cases errors with
      | cons error rest =>
          rw [if_neg (by simp), runOn_bind_ok (runOn_displays _ _)] at h₂
          cases h₂
      | nil =>
          rw [if_pos List.isEmpty_nil, runOn_bind_ok (runOn_host _)] at h₂
          obtain ⟨⟨⟩, c₃, -, h₃⟩ := runOn_bind_eq_ok_iff.mp h₂
          cases h₃
          exact hchecked

/-- A source of compilers is that of the backend in the table. -/
theorem exists_table_of_factoryFor {name : Text} (hsubstitute : s.substitute = none)
    (h : (factoryFor s config name).runOn before = (.ok factory, after)) :
    ∃ table left, (Step.table s).runOn before = (.ok table, left) ∧
      table.factory name (config.optionsFor name) = .ok factory := by
  unfold factoryFor at h
  rw [hsubstitute] at h
  obtain ⟨table, left, htable, hrest⟩ := runOn_bind_eq_ok_iff.mp h
  refine ⟨table, left, htable, ?_⟩
  cases hfactory : table.factory name (config.optionsFor name) with
  | ok found =>
      rw [hfactory] at hrest
      cases hrest
      rfl
  | error f =>
      rw [hfactory] at hrest
      cases hrest

/-- A configuration that was checked for a backend, and a source of the compilers that are run with it. -/
def ready (s : Setting) (path : Option Path) (backend : Option Text) : Step (Config × Factory) := do
  let config ← loadValidConfig path backend
  let factory ← factoryFor s config (backendName config backend)
  pure (config, factory)

/-- The compilers that are run are those of the backend for which the configuration was checked. -/
theorem ready_eq_ok (hsubstitute : s.substitute = none) (hfound : before.host.Discovered s)
    (h : (ready s path backend).runOn before = (.ok (config, factory), after)) :
    config.errors backend = .ok [] ∧
      ∃ table : Backend.Table, table.Found s.points ∧
        table.factory (config.chosenBackend backend) (config.optionsFor (config.chosenBackend backend)) =
          .ok factory := by
  unfold ready at h
  obtain ⟨loaded, c₁, hload, h₁⟩ := runOn_bind_eq_ok_iff.mp h
  obtain ⟨made, c₂, hmade, h₂⟩ := runOn_bind_eq_ok_iff.mp h₁
  cases h₂
  have hleft := (Steady.closed s).loadValidConfig path backend before hfound
  rw [hload] at hleft
  obtain ⟨table, left, hlooked, hfactory⟩ := exists_table_of_factoryFor hsubstitute hmade
  exact ⟨errors_of_runOn_loadValidConfig hload, table, found_of_runOn_table hleft hlooked, hfactory⟩

/-- A run is prepared with these compilers. -/
theorem exists_ready_of_prepareRun {o : RunOptions} {p : Prepared}
    (h : (prepareRun s backend o).runOn before = (.ok p, after)) :
    ∃ config left, (ready s o.path backend).runOn before = (.ok (config, p.runner.factory), left) ∧
      p.backend = config.chosenBackend backend := by
  obtain ⟨config, root, checked, found, tried, noted, hsteps⟩ := exists_steps_of_prepareRun h
  refine ⟨config, found, ?_, hsteps.name⟩
  unfold ready
  rw [runOn_bind_ok hsteps.check, runOn_bind_ok hsteps.find]
  rfl

/-- Measure compilations with the compilers of a source, and show what was found. -/
def measure (s : Setting) (o : BenchOptions) (config : Config) (factory : Factory) : Step Unit := do
  let source ← benchSource o
  let adapter ← withBackend (backendName config o.backend) (Adapter.create factory)
  let tree := (← Step.host).tree
  let (result, compiler) ← Step.perform (adapter.within do
    let result ←
      if o.files.isEmpty then
        Benchmark.single adapter source (o.iterations.getD config.iterations)
      else
        Benchmark.files adapter tree (o.files.map Path.ofText) Benchmark.fileLimit
    let compiler ← adapter.describe
    pure (result, compiler))
  let label := benchLabel o
  if o.json then
    let report := Report.text s.timestamp ⟨some compiler, none, [(label, result)], []⟩
    Step.print (← Step.ofExcept report)
  else
    Step.display (Terminal.header ("Benchmarking " ++ compiler.name ++ " " ++ compiler.version))
    Step.display (← Step.ofExcept (Terminal.benchmark label result))

/-- A benchmark runs these compilers as well. -/
theorem bench_eq_ready (s : Setting) (o : BenchOptions) :
    bench s o = ready s o.path o.backend >>= fun (config, factory) => measure s o config factory := by
  unfold ready
  simp only [bind_assoc, pure_bind]
  rfl

/-- What was checked of a configuration is what its run needs.

A configuration that is valid for the command backend runs its tool; the start of the tool is checked before anything
is made of it, and it passes.  Both commands that compile, runs and benchmarks, begin with the same steps.  If these go
on, whatever command lines came before, nothing is wrong with the configuration for the backend, and the compilers are
those of this backend. -/
theorem valid_configurations_run (s : Setting) (backend : Option Text) :
    (∀ c : Config, c.errors backend = .ok [] → c.chosenBackend backend = Command.name → c.RunsTool) ∧
      (∀ tree l, Subprocess.prepare tree l =
        Subprocess.checked tree l >>= fun (timeout, directory) => Subprocess.invocation l timeout directory) ∧
      (∀ (h : Host) lines, h.table = none → (h.behind s lines).Discovered s) ∧
      (∀ path before config factory after, s.substitute = none → before.host.Discovered s →
        (ready s path backend).runOn before = (.ok (config, factory), after) →
          config.errors backend = .ok [] ∧
            ∃ t : Backend.Table, t.Found s.points ∧
              t.factory (config.chosenBackend backend) (config.optionsFor (config.chosenBackend backend)) =
                .ok factory) ∧
      (∀ o before p after, (prepareRun s backend o).runOn before = (.ok p, after) →
        ∃ config left, (ready s o.path backend).runOn before = (.ok (config, p.runner.factory), left) ∧
          p.backend = config.chosenBackend backend) ∧
      ∀ o, bench s o = ready s o.path o.backend >>= fun (config, factory) => measure s o config factory :=
  ⟨fun _ => Config.runsTool_of_errors, Subprocess.prepare_eq, fun _ lines hnone => discovered_behind hnone lines,
    fun _ _ _ _ _ => ready_eq_ok, fun _ _ _ _ => exists_ready_of_prepareRun, bench_eq_ready s⟩

/-- A tool that accepts everything. -/
def acceptingTool : Command.Tool :=
  fun _ _ _ => (.ok ⟨0, "", "", true, false⟩, [], 5)

/-- A setting with this tool. -/
def acceptingSetting : Setting where
  points := []
  surroundings _ _ := ⟨fun _ => true, fun _ => acceptingTool⟩
  substitute := none
  timestamp := ""

/-- The file of a source in the first work directory. -/
def plainFile : Command.SourceFile :=
  ⟨(Workspace.path 0 0).child Command.sourceName, "x".toUTF8⟩

/-- A host that holds this file and no configuration file. -/
def plainHost : Host where
  tree :=
    { top := .directory [("tmp", .directory [("svconform-0000_000", .directory
        [("fixture.sv", .plain "x".toUTF8)])])]
      current := [] }
  environment := []
  clock := 0
  reporting := false
  table := none

/-- The options of a run of everything, which is reported to other programs. -/
def plainOptions : RunOptions :=
  ⟨none, none, none, none, false, true, none⟩

theorem valid_configurations_run_default :
    Config.default.RunsTool ∧
      (∃ limit, Subprocess.checked plainHost.tree (Command.launch Config.default.settings (Workspace.path 0 0)) =
        .ok (limit, Workspace.path 0 0)) ∧
      ∃ p after,
        (prepareRun acceptingSetting (some "command") plainOptions).runOn (.start plainHost) = (.ok p, after) ∧
          ∃ config : Config, config.errors (some "command") = .ok [] ∧
            p.backend = config.chosenBackend (some "command") ∧
            ∃ t : Backend.Table, t.Found [] ∧
              t.factory p.backend (config.optionsFor p.backend) = .ok p.runner.factory := by
  obtain ⟨hruns, -, hbehind, hready, hprepared, -⟩ := valid_configurations_run acceptingSetting (some "command")
  have htool : Config.default.RunsTool := hruns Config.default rfl rfl
  refine ⟨htool, ?_, ?_⟩
  · obtain ⟨hshows, -⟩ := htool.shown (fun _ => true) acceptingTool 0 .empty [] "x" plainFile rfl
    exact hshows.checks plainHost.tree (.plain "x".toUTF8) rfl
  · generalize hrun : (prepareRun acceptingSetting (some "command") plainOptions).runOn (.start plainHost) = ran
    have hok : ran.1.toOption.isSome = true := by
      rw [← hrun]
      decide +kernel
    rcases ran with ⟨stop | p, after⟩
    · cases hok
    · obtain ⟨config, left, hmade, hbackend⟩ := hprepared plainOptions _ p after hrun
      have hfound : plainHost.Discovered acceptingSetting := hbehind plainHost [] rfl
      obtain ⟨hvalid, hfactory⟩ := hready none (.start plainHost) config _ left rfl hfound hmade
      refine ⟨p, after, rfl, config, hvalid, hbackend, ?_⟩
      rw [hbackend]
      exact hfactory

end CommandLine

end Conformance
