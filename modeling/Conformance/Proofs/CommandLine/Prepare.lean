import Conformance.CommandLine.Program
import Conformance.Proofs.CommandLine.Step

/-!
# Preparing a run

Preparing a run shows at most a heading, and changes no file.  The cases that are loaded have been read from
the files as they are.

Main results:

- `Step.Closed`: the properties that all steps have with which commands begin.
- `Step.Unseen`: the steps that show nothing if they go on, which those that come before the heading are.
- `exists_steps_of_prepareRun`: the steps of a preparation that ends well.
- `fits_of_prepareRun`: what is known of a run that has been prepared.
-/

namespace Conformance.CommandLine

/-! ## How commands begin -/

/-- A property of steps that goes from parts to the whole, and is had by what commands do before they work with
compilers. -/
structure Step.Closed (s : Setting) (P : ∀ {α : Type}, Step α → Prop) : Prop where
  pure : ∀ {α : Type} (a : α), P (pure a : Step α)
  throw : ∀ {α : Type} (stop : Stop), P (throw stop : Step α)
  bind : ∀ {α β : Type} {x : Step α} {k : α → Step β}, P x → (∀ a, P (k a)) → P (x >>= k)
  host : P Step.host
  notes : ∀ records, P (Step.notes records)
  attempt : ∀ {α : Type} (action : Act α), P (Step.attempt action)
  report : ∀ activation, P (Step.report activation)
  table : P (Step.table s)
  refuse : ∀ {α : Type} (message : Text), P (Step.refuse message : Step α)
  stopped : ∀ {α : Type} ds (stop : Stop), P (Step.displays ds >>= fun _ => MonadExcept.throw stop : Step α)

namespace Step.Closed

variable {s : Setting} {P : ∀ {α : Type}, Step α → Prop}

theorem ofExcept {α : Type} (h : Closed s P) (ending : Except Failure α) : P (Step.ofExcept ending) := by
  cases ending with
  | ok value => exact h.pure value
  | error f => exact h.throw _

theorem loadConfig (h : Closed s P) (path : Option Path) : P (CommandLine.loadConfig path) := by
  refine h.bind h.host fun host => ?_
  dsimp only
  rcases Config.load host.tree host.environment path with ⟨f | config, records⟩
  · refine h.bind (h.notes records) fun _ => ?_
    dsimp only
    split
    · exact h.refuse _
    · exact h.throw _
  · exact h.bind (h.notes records) fun _ => h.pure config

theorem loadValidConfig (h : Closed s P) (path : Option Path) (backend : Option Text) :
    P (CommandLine.loadValidConfig path backend) := by
  refine h.bind (h.loadConfig path) fun config => h.bind (h.ofExcept _) fun errors => ?_
  split
  · exact h.bind h.host fun _ => h.bind (h.report _) fun _ => h.pure config
  · exact h.stopped _ _

theorem factoryFor (h : Closed s P) (config : Config) (backend : Text) :
    P (CommandLine.factoryFor s config backend) := by
  unfold CommandLine.factoryFor
  cases s.substitute with
  | some factory => exact h.pure factory
  | none =>
      refine h.bind h.table fun table => ?_
      cases table.factory backend (config.optionsFor backend) with
      | ok factory => exact h.pure factory
      | error f => exact h.refuse _

theorem withBackend {α : Type} (h : Closed s P) (backend : Text) (action : Act α) :
    P (CommandLine.withBackend backend action) := by
  refine h.bind (h.attempt action) fun ending => ?_
  rcases ending with f | value
  · dsimp only
    split
    · exact h.refuse _
    · exact h.throw _
  · exact h.pure value

end Step.Closed

/-! ## Steps that show nothing -/

/-- Two consoles show and print the same, and have the same files. -/
structure Console.SeenAlike (c c' : Console) : Prop where
  shown : c'.shown = c.shown
  printed : c'.printed = c.printed
  tree : c'.host.tree = c.host.tree

namespace Console.SeenAlike

variable {c c' c'' : Console}

theorem refl (c : Console) : SeenAlike c c :=
  ⟨rfl, rfl, rfl⟩

theorem trans (h : SeenAlike c c') (h' : SeenAlike c' c'') : SeenAlike c c'' :=
  ⟨h'.shown.trans h.shown, h'.printed.trans h.printed, h'.tree.trans h.tree⟩

end Console.SeenAlike

namespace Step

variable {α β : Type} {x : Step α} {k : α → Step β}

/-- A step shows and prints nothing and changes no file, if it goes on. -/
def Unseen (x : Step α) : Prop :=
  ∀ c a c', x.runOn c = (.ok a, c') → c.SeenAlike c'

namespace Unseen

theorem pure (a : α) : Unseen (Pure.pure a : Step α) := by
  intro c b c' h
  cases h
  exact .refl c

theorem throw (stop : Stop) : Unseen (MonadExcept.throw stop : Step α) := by
  intro c b c' h
  cases h

theorem host : Unseen Step.host := by
  intro c b c' h
  cases h
  exact .refl c

theorem modified {change : Console → Console} (h : ∀ c : Console, c.SeenAlike (change c)) :
    Unseen (modify change : Step Unit) := by
  intro c b c' hrun
  cases hrun
  exact h c

theorem notes (records : List LogRecord) : Unseen (Step.notes records) := by
  intro c b c' h
  cases h
  exact ⟨rfl, rfl, rfl⟩

theorem attempt (action : Act α) : Unseen (Step.attempt action) := by
  intro c b c' h
  cases h
  exact ⟨rfl, rfl, rfl⟩

theorem ofExcept (ending : Except Failure α) : Unseen (Step.ofExcept ending) := by
  cases ending with
  | ok value => exact pure value
  | error f => exact throw _

theorem bind (hx : Unseen x) (hk : ∀ a, Unseen (k a)) : Unseen (x >>= k) := by
  intro c b c' h
  obtain ⟨a, left, hrun, hrest⟩ := runOn_bind_eq_ok_iff.mp h
  exact (hx c a left hrun).trans (hk a left b c' hrest)

/-- What stops in any case does not go on. -/
theorem of_stops (h : ∀ c, ∃ stop c', x.runOn c = (.error stop, c')) : Unseen x := by
  intro c a c' hrun
  obtain ⟨stop, left, hstop⟩ := h c
  rw [hstop] at hrun
  cases hrun

theorem refuse (message : Text) : Unseen (Step.refuse message : Step α) :=
  of_stops fun _ => ⟨_, _, rfl⟩

theorem perform (action : Act α) : Unseen (Step.perform action) :=
  (attempt action).bind fun ending => ofExcept ending

theorem report (activation : Telemetry.Activation) : Unseen (Step.report activation) :=
  (notes _).bind fun _ => modified fun _ => ⟨rfl, rfl, rfl⟩

theorem table (s : Setting) : Unseen (Step.table s) := by
  refine host.bind fun h => ?_
  cases h.table with
  | some table => exact pure table
  | none =>
      refine (perform _).bind fun table => ?_
      refine .bind (.modified fun c => ?_) fun _ => pure table
      exact ⟨rfl, rfl, rfl⟩

theorem closed (s : Setting) : Closed s @Unseen where
  pure := pure
  throw := throw
  bind := bind
  host := host
  notes := notes
  attempt := attempt
  report := report
  table := table s
  refuse := refuse
  stopped _ _ := of_stops fun c => ⟨_, _, (runOn_bind_ok (runOn_displays _ c)).trans (runOn_throw _ _)⟩

end Unseen

end Step

open Step

/-! ## Cases that were read -/

/-- The cases that were found were read from the fixtures of a tree. -/
def WereRead (tree : FileTree) (limit : Int) (cases : List TestCase) : Prop :=
  ∀ case ∈ cases, ∃ path, TestCase.load tree path limit = .ok case

namespace WereRead

open Suite (Found)

variable {tree : FileTree} {limit : Int}

theorem nil : WereRead tree limit [] :=
  fun _ h => nomatch h

theorem append {a b : Found} (ha : WereRead tree limit a.cases) (hb : WereRead tree limit b.cases) :
    WereRead tree limit (a.append b).cases := by
  unfold Found.append
  split
  · exact ha
  · exact List.forall_mem_append.mpr ⟨ha, hb⟩

theorem join {all : List Found} (h : ∀ found ∈ all, WereRead tree limit found.cases) :
    WereRead tree limit (Found.join all).cases := by
  induction all with
  | nil => exact nil
  | cons found rest ih =>
      obtain ⟨hfound, hrest⟩ := List.forall_mem_cons.mp h
      exact hfound.append (ih hrest)

theorem foundAt (path : Path) : WereRead tree limit (Suite.foundAt tree limit path).cases := by
  unfold Suite.foundAt Suite.foundFixture
  split
  · cases hload : TestCase.load tree path limit with
    | ok c => exact List.forall_mem_singleton.mpr ⟨path, hload⟩
    | error fault =>
        dsimp only
        split
        · exact nil
        · exact nil
  · exact nil
  · exact nil

theorem foundIn {directory : Path} {there absent : Found} (hthere : WereRead tree limit there.cases)
    (habsent : WereRead tree limit absent.cases) :
    WereRead tree limit (Suite.foundIn tree directory there absent).cases := by
  unfold Suite.foundIn
  split
  · exact hthere
  · exact habsent
  · exact nil

theorem foundBelow (s : Suite) (directory : Path) :
    WereRead tree s.limit (s.foundBelow tree directory).cases := by
  refine foundIn (join fun found hfound => ?_) nil
  obtain ⟨path, -, rfl⟩ := List.mem_map.mp hfound
  exact foundAt path

theorem foundInCatalog (s : Suite) (root : Path) (chapters : List Text) (generic : Option Text) :
    WereRead tree s.limit (s.foundInCatalog tree root chapters generic).cases := by
  refine join fun found hfound => ?_
  obtain ⟨directory, -, rfl⟩ := List.mem_map.mp hfound
  exact foundIn (foundBelow s directory) nil

/-- The cases of a run were read from the fixtures of the tree. -/
theorem loadSuite (config : Config) (root : Path) (chapter : Option Text) :
    WereRead tree config.fixtures.limit (CommandLine.loadSuite config tree root chapter).suite.cases := by
  unfold CommandLine.loadSuite
  cases chapter with
  | some chapter => exact foundBelow (Suite.create config.fixtures.extensions config.fixtures.limit).clear _
  | none => exact foundInCatalog (Suite.create config.fixtures.extensions config.fixtures.limit) _ _ _

end WereRead

/-! ## Preparing -/

/-- What is known of a run that has been prepared on a console: nothing has been printed and no file was
changed; something was shown only if the report is not printed; and the cases were read from the files. -/
structure Prepared.Fits (p : Prepared) (before c : Console) : Prop where
  tree : c.host.tree = before.host.tree
  printed : c.printed = before.printed
  shown : p.reporting.json = true → c.shown = before.shown
  observed : p.runner.observed = !p.reporting.json
  read : WereRead before.host.tree p.runner.limit p.suite.cases

/-- How a run was prepared: the configuration was checked, compilers were found for it and tried, and cases were
loaded, each on the console that the step before it left. -/
structure Prepared.Steps (p : Prepared) (s : Setting) (backend : Option Text) (o : RunOptions) (config : Config)
    (root : Path) (before checked found tried noted c : Console) : Prop where
  check : (loadValidConfig o.path backend).runOn before = (.ok config, checked)
  find : (factoryFor s config (backendName config backend)).runOn checked = (.ok p.runner.factory, found)
  trial : (withBackend (backendName config backend) (Runner.probe p.runner.factory)).runOn found =
    (.ok p.reporting.compiler, tried)
  notes : (Step.notes (loadSuite config tried.host.tree root o.chapter).log).runOn tried = (.ok (), noted)
  count : ∃ count, (loadSuite config tried.host.tree root o.chapter).count = .ok count
  heading : c = if p.reporting.json then noted else
    noted.showing (Terminal.runHeader p.reporting.compiler p.suite.cases.length)
  suite : p.suite = (loadSuite config tried.host.tree root o.chapter).suite
  root : p.runner.fixturesRoot = some root
  limit : p.runner.limit = config.fixtures.limit
  observed : p.runner.observed = !p.reporting.json
  name : p.backend = backendName config backend

section Prepare

variable {s : Setting} {backend : Option Text} {o : RunOptions} {p : Prepared} {before c : Console}

theorem runOn_ofExcept_eq_ok {α : Type} {ending : Except Failure α} {value : α} {c' : Console}
    (h : (Step.ofExcept ending).runOn c = (.ok value, c')) : ending = .ok value ∧ c = c' := by
  cases ending with
  | error f => cases h
  | ok value' =>
      cases h
      exact ⟨rfl, rfl⟩

/-- A run that has been prepared was prepared step by step. -/
theorem exists_steps_of_prepareRun (h : (prepareRun s backend o).runOn before = (.ok p, c)) :
    ∃ config root checked found tried noted, p.Steps s backend o config root before checked found tried noted c := by
  unfold prepareRun at h
  obtain ⟨config, checked, hcheck, h₁⟩ := runOn_bind_eq_ok_iff.mp h
  obtain ⟨factory, found, hfind, h₂⟩ := runOn_bind_eq_ok_iff.mp h₁
  obtain ⟨compiler, tried, htrial, h₃⟩ := runOn_bind_eq_ok_iff.mp h₂
  obtain ⟨host, _, hhost, h₄⟩ := runOn_bind_eq_ok_iff.mp h₃
  cases hhost
  obtain ⟨⟨⟩, noted, hnotes, h₅⟩ := runOn_bind_eq_ok_iff.mp h₄
  obtain ⟨count, _, hcount, h₆⟩ := runOn_bind_eq_ok_iff.mp h₅
  obtain ⟨hloaded, rfl⟩ := runOn_ofExcept_eq_ok hcount
  refine ⟨config, ((nonEmpty o.root).map Path.ofText).getD config.fixturesRoot, checked, found, tried, noted, ?_⟩
  dsimp only at h₆
  split at h₆
  case isTrue hplain =>
    rw [runOn_bind_ok (runOn_displays _ _)] at h₆
    cases h₆
    rw [Bool.not_eq_true'] at hplain
    have hheading : ∀ shown, shown = if (o.json || config.report.format == "json") then noted else shown := by
      intro shown
      rw [hplain, if_neg Bool.false_ne_true]
    exact ⟨hcheck, hfind, htrial, hnotes, ⟨count, hloaded⟩, hheading _, rfl, rfl, rfl, rfl, rfl⟩
  case isFalse hplain =>
    cases h₆
    rw [Bool.not_eq_true', Bool.not_eq_false] at hplain
    exact ⟨hcheck, hfind, htrial, hnotes, ⟨count, hloaded⟩, (if_pos hplain).symm, rfl, rfl, rfl, rfl, rfl⟩

theorem fits_of_prepareRun (h : (prepareRun s backend o).runOn before = (.ok p, c)) : p.Fits before c := by
  obtain ⟨config, root, checked, found, tried, noted, hsteps⟩ := exists_steps_of_prepareRun h
  have hclosed := Unseen.closed s
  have hbefore := (hclosed.loadValidConfig _ _ _ _ _ hsteps.check).trans
    ((hclosed.factoryFor _ _ _ _ _ hsteps.find).trans (hclosed.withBackend _ _ _ _ _ hsteps.trial))
  have hseen := hbefore.trans (Unseen.notes _ _ _ _ hsteps.notes)
  have hread : WereRead before.host.tree p.runner.limit p.suite.cases := by
    rw [hsteps.limit, hsteps.suite, ← hbefore.tree]
    exact .loadSuite config root o.chapter
  have hheading := hsteps.heading
  cases hjson : p.reporting.json with
  | true =>
      rw [hjson, if_pos rfl] at hheading
      subst hheading
      exact ⟨hseen.tree, hseen.printed, fun _ => hseen.shown, hsteps.observed, hread⟩
  | false =>
      rw [hjson, if_neg Bool.false_ne_true] at hheading
      subst hheading
      exact ⟨hseen.tree, hseen.printed, fun htrue => absurd (hjson.symm.trans htrue) Bool.false_ne_true,
        hsteps.observed, hread⟩

end Prepare

end Conformance.CommandLine
