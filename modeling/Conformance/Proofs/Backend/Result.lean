import Conformance.Backend.Table
import Conformance.Proofs.Backend.Command
import Conformance.Proofs.Compile.Adapter

/-!
# What results say

A result is coherent if it is a success exactly when it holds no errors.  The results that the harness makes itself
are: those of the reference compiler, those for the output of a tool, and those for a compiler that only fails on
what it rejects.  An adapter passes a result on as coherent as it was given.

Main results:

- `Backend.Reference.sound_result`, `Backend.Command.coherent_of_compile`, `Adapter.coherent_of_simpleEnding`: the
  results of each producer.
- `Backend.coherent_of_builtIn`: the results of the backends that come with the harness, behind an adapter.
- `Backend.results_coherent`: all producers together.
-/

namespace Conformance

/-! ## Coherent results -/

/-- A result is a success exactly if it holds no errors. -/
def CompileResult.Coherent (r : CompileResult) : Prop :=
  r.success = true ↔ r.errors = []

namespace CompileResult

variable {r : CompileResult}

theorem coherent_of_success (hsuccess : r.success = true) (herrors : r.errors = []) : r.Coherent :=
  iff_of_true hsuccess herrors

theorem coherent_of_errors (hsuccess : r.success = false) (herrors : r.errors ≠ []) : r.Coherent :=
  iff_of_false (Bool.eq_false_iff.mp hsuccess) herrors

end CompileResult

/-! ## Adapters -/

namespace Adapter

variable {a : Adapter} {b : Built} {source : Text} {s : Session} {result : CompileResult}

/-- The time that an adapter adds to a result does not matter for what the result says. -/
theorem coherent_withTime {elapsed : Int} (h : result.Coherent) : (withTime result elapsed).Coherent := by
  unfold withTime
  split
  · exact h
  · exact h

/-- A compiler that only fails on what it rejects is answered by a success without errors, or by one error. -/
theorem coherent_of_simpleEnding {reply : Reply Unit} (h : simpleEnding source reply = .ok result) :
    result.Coherent := by
  have hanswer := simpleAnswer_simpleEnding source reply
  rw [h] at hanswer
  generalize reply.ending = ending at hanswer
  cases hanswer with
  | accepted hsuccess herrors => exact CompileResult.coherent_of_success hsuccess herrors
  | rejected _ hsuccess herrors =>
      refine CompileResult.coherent_of_errors hsuccess ?_
      rw [herrors]
      exact List.cons_ne_nil _ _

/-- A compiler that returns results is answered by what it returned. -/
theorem exists_of_advancedEnding {reply : Reply (Returned CompileResult)} (h : a.advancedEnding reply = .ok result) :
    ∃ returned, reply.ending = .ok (.expected returned) ∧ result = withTime returned reply.elapsed := by
  unfold advancedEnding at h
  split at h
  · rename_i returned hending
    exact ⟨returned, hending, (Except.ok.inj h).symm⟩
  · cases h
  · cases h

/-- The simple way to compile makes its results itself. -/
theorem coherent_of_simple (hadapt : adapt b = .ok a) (hmode : a.capabilities.mode = .simple)
    (h : ((a.compile source).runOn s).1 = .ok result) : result.Coherent := by
  have hsimple : b.compiler.compileAdvanced.isCallable = false := by
    rcases mode_of_adapt hadapt with ⟨hadvanced, -⟩ | ⟨-, hmissing, -⟩
    · cases hadvanced.symm.trans hmode
    · exact hmissing
  rcases runOn_compile_cases hadapt source s with ⟨behaviour, hadvanced, -⟩ | ⟨behaviour, -, -, hrun⟩
  · obtain ⟨rfl, -⟩ := adapt_eq_ok_iff.mp hadapt
    have hcallable : a.built.compiler.compileAdvanced.isCallable = true := Slot.isCallable_iff.mpr ⟨_, hadvanced⟩
    cases hsimple.symm.trans hcallable
  · rw [hrun] at h
    exact coherent_of_simpleEnding h

/-- The results of a compiler are coherent behind an adapter if the compiler returns coherent ones. -/
theorem coherent_of_compile (hadapt : adapt b = .ok a)
    (hreturned : ∀ behaviour trace source returned, b.compiler.compileAdvanced = .callable behaviour →
      (behaviour trace source).ending = .ok (.expected returned) → returned.Coherent)
    (h : ((a.compile source).runOn s).1 = .ok result) : result.Coherent := by
  obtain ⟨rfl, -⟩ := adapt_eq_ok_iff.mp hadapt
  rcases runOn_compile_cases hadapt source s with ⟨behaviour, hadvanced, hrun⟩ | ⟨behaviour, -, -, hrun⟩
  · rw [hrun] at h
    obtain ⟨returned, hending, rfl⟩ := exists_of_advancedEnding h
    exact coherent_withTime (hreturned behaviour s.trace source returned hadvanced hending)
  · rw [hrun] at h
    exact coherent_of_simpleEnding h

end Adapter

/-! ## The reference compiler -/

namespace Backend.Reference

open Source

/-- What the reference compiler says of a source: a result that is coherent, has a tree exactly if it is a success,
and has warnings only then. -/
structure Sound (r : CompileResult) : Prop where
  coherent : r.Coherent
  ast : r.ast.isSome = true ↔ r.success = true
  warnings : r.warnings ≠ [] → r.success = true

theorem sound_judge (warns : Bool) (source : Text) (tokens : List Token) : Sound (judge warns source tokens) := by
  unfold judge
  dsimp only
  cases herrors : structureErrors tokens with
  | nil =>
      rw [if_pos List.isEmpty_nil]
      exact ⟨CompileResult.coherent_of_success rfl rfl, Iff.rfl, fun _ => rfl⟩
  | cons error rest =>
      rw [if_neg (by simp)]
      exact ⟨CompileResult.coherent_of_errors rfl (List.cons_ne_nil _ _), Iff.rfl, fun h => absurd rfl h⟩

theorem sound_result (warns : Bool) (source : Text) : Sound (result warns source) := by
  unfold result
  cases tokenize source with
  | error e => exact ⟨CompileResult.coherent_of_errors rfl (List.cons_ne_nil _ _), Iff.rfl, fun h => absurd rfl h⟩
  | ok tokens => exact sound_judge warns source tokens

/-- A source that cannot be cut into tokens has one error, which tells where and why. -/
theorem errors_result_of_error {source : Text} {e : LexicalError} (h : tokenize source = .error e) (warns : Bool) :
    (result warns source).errors = [lexicalError e] := by
  unfold result
  rw [h]

end Backend.Reference

/-! ## Tools -/

namespace Backend.Command

variable {s : CommandSettings} {isOnPath : Text → Bool} {tool : Tool} {owner : Nat} {w : Workspace}
  {earlier : List Text} {source : Text} {file : Path} {elapsed status : Int} {stdout stderr : Text}
  {errors : List CompileError} {warnings : List CompileWarning} {result : CompileResult}

theorem Judged.coherent (h : Judged status errors warnings result) : result.Coherent := by
  by_cases hstatus : status = 0
  · exact CompileResult.coherent_of_success (h.success.mpr hstatus) (h.accepted hstatus)
  · refine CompileResult.coherent_of_errors (Bool.eq_false_iff.mpr fun hsuccess => hstatus (h.success.mp hsuccess)) ?_
    by_cases herrors : errors = []
    · obtain ⟨error, hplain, -⟩ := h.plain hstatus herrors
      rw [hplain]
      exact List.cons_ne_nil _ _
    · rw [h.rejected hstatus herrors]
      exact herrors

theorem coherent_of_judge (h : judge source file elapsed status stdout stderr = .ok result) : result.Coherent := by
  cases hread : readDiagnostics (stderr ++ "\n" ++ stdout) (some file.toText) with
  | error e =>
      rw [judge, hread] at h
      cases h
  | ok found =>
      obtain ⟨judged, hjudge, hjudged⟩ : ∃ judged, judge source file elapsed status stdout stderr = .ok judged ∧
          Judged status found.1 found.2 judged := exists_judge source elapsed hread
      cases hjudge.symm.trans h
      exact hjudged.coherent

/-- Every result for the run of a tool is coherent. -/
theorem coherent_of_conclude {ran : Except Failure SubprocessResult}
    (h : conclude s source file elapsed ran = .ok result) : result.Coherent := by
  rcases ran with f | r
  · unfold conclude at h
    dsimp only at h
    split at h
    · cases h
    · cases h
  · cases htime : r.timedOut with
    | true =>
        rw [conclude_of_timedOut htime] at h
        cases h
    | false =>
        by_cases hsignal : r.returnCode < 0
        · rw [conclude_of_signal htime hsignal] at h
          cases h
        · rw [conclude_of_ended htime (Int.not_lt.mp hsignal)] at h
          cases hjudge : judge source file elapsed r.returnCode r.stdout r.stderr with
          | error e =>
              rw [hjudge] at h
              cases h
          | ok judged =>
              rw [hjudge] at h
              cases h
              exact coherent_of_judge hjudge

theorem coherent_of_compile
    (h : (compile s isOnPath tool owner w earlier source).ending = .ok (.expected result)) : result.Coherent := by
  obtain ⟨elapsed, hending⟩ := ending_compile isOnPath (rfl : (ran s tool owner w earlier source).1 = _)
  rw [hending] at h
  cases hconclude : conclude s source ((directoryOf owner w.ensure).child sourceName) elapsed
      (ran s tool owner w earlier source).1 with
  | error f =>
      rw [hconclude] at h
      cases h
  | ok concluded =>
      rw [hconclude] at h
      cases h
      exact coherent_of_conclude hconclude

end Backend.Command

/-! ## Backends -/

namespace Backend

variable {surroundings : Surroundings} {options : Options} {factory : Factory} {name : Text} {backend : BackendClass}
  {c : Compiler} {number : Nat} {result : CompileResult}

/-- The compilers that come with the harness: the reference compiler, and those that run a tool. -/
inductive IsBuiltIn : Compiler → Prop
  | reference (warns : Bool) : IsBuiltIn (Reference.compiler warns)
  | command (settings : CommandSettings) (isOnPath : Text → Bool) (tool : List Command.Former → Command.Tool)
      (number : Nat) : IsBuiltIn (Command.compiler settings isOnPath tool number)

/-- The compilers that come with the harness return coherent results. -/
theorem IsBuiltIn.coherent (h : IsBuiltIn c) {behaviour : Trace → Text → Reply (Returned CompileResult)} {trace : Trace}
    {source : Text} (hbehaviour : c.compileAdvanced = .callable behaviour)
    (hresult : (behaviour trace source).ending = .ok (.expected result)) : result.Coherent := by
  cases h with
  | reference warns =>
      cases hbehaviour
      cases hresult
      exact (Reference.sound_result warns source).coherent
  | command settings isOnPath tool number =>
      cases hbehaviour
      exact Command.coherent_of_compile hresult

theorem exists_of_map_bind {α β γ : Type} {x : Except Failure α} {k : α → Except Failure β} {f : β → γ} {c : γ}
    (h : (x >>= k).map f = .ok c) : ∃ a, x = .ok a ∧ (k a).map f = .ok c := by
  cases x with
  | error failure => cases h
  | ok a => exact ⟨a, rfl, h⟩

theorem isBuiltIn_of_reference (h : (Reference.backendClass.instantiate options).map (·.compiler number) = .ok c) :
    IsBuiltIn c := by
  obtain ⟨⟨⟩, -, hmade⟩ := exists_of_map_bind h
  cases hmade
  exact .reference _

theorem isBuiltIn_of_command
    (h : ((Command.backendClass surroundings).instantiate options).map (·.compiler number) = .ok c) :
    IsBuiltIn c := by
  obtain ⟨⟨⟩, -, hsettings⟩ := exists_of_map_bind h
  obtain ⟨settings, -, hmade⟩ := exists_of_map_bind hsettings
  cases hmade
  exact .command settings _ _ _

/-- A backend that comes with the harness is one of two classes. -/
theorem classOf_builtIn (h : (Table.builtIn surroundings).classOf name = .ok backend) :
    backend = Command.backendClass surroundings ∨ backend = Reference.backendClass := by
  unfold Table.classOf Table.builtIn at h
  dsimp only [Table.find?] at h
  split at h
  · rename_i found hfound
    cases h
    split at hfound
    · exact .inl (Option.some.inj hfound).symm
    · split at hfound
      · exact .inr (Option.some.inj hfound).symm
      · cases hfound
  · cases h

/-- Whatever is compiled with a backend that comes with the harness, an adapter answers with coherent results. -/
theorem coherent_of_builtIn {s s' s'' : Session} {a : Adapter} {source : Text}
    (hfactory : (Table.builtIn surroundings).factory name options = .ok factory)
    (hcreate : (Adapter.create factory).runOn s = (.ok a, s'))
    (h : ((a.compile source).runOn s'').1 = .ok result) : result.Coherent := by
  cases hclass : (Table.builtIn surroundings).classOf name with
  | error f =>
      rw [Table.factory, hclass] at hfactory
      cases hfactory
  | ok backend =>
      rw [Table.factory, hclass] at hfactory
      cases hfactory
      rcases Adapter.runOn_create_cases (fun trace => (backend.instantiate options).map (·.compiler trace.nextNumber)) s
        with ⟨f, -, hrun⟩ | ⟨c, f, -, -, hrun⟩ | ⟨c, a', hc, -, hadapt, hrun⟩
      · cases hrun.symm.trans hcreate
      · cases hrun.symm.trans hcreate
      · cases hrun.symm.trans hcreate
        have hbuiltIn : IsBuiltIn c := by
          rcases classOf_builtIn hclass with rfl | rfl
          · exact isBuiltIn_of_command hc
          · exact isBuiltIn_of_reference hc
        exact Adapter.coherent_of_compile hadapt (fun _ _ _ _ => hbuiltIn.coherent) h

/-! ## All producers -/

/-- Success means no errors, wherever the harness makes a result: for every source and every tool, and whatever a
compiler of the simple kind does.  The reference compiler gives a tree exactly with a success, and warnings only
then; of a source that cannot be cut into tokens it tells exactly one error. -/
theorem results_coherent :
    (∀ (r : Reference) (source : Text),
      let result := (r.compile source).1
      (result.success = true ↔ result.errors = []) ∧
      (result.ast.isSome = true ↔ result.success = true) ∧
      (result.warnings ≠ [] → result.success = true) ∧
      ∀ e, Source.tokenize source = .error e → result.errors = [Reference.lexicalError e]) ∧
    (∀ settings isOnPath tool owner w earlier source result,
      (Command.compile settings isOnPath tool owner w earlier source).ending = .ok (.expected result) →
        (result.success = true ↔ result.errors = [])) ∧
    ∀ b a source s result, Adapter.adapt b = .ok a → a.capabilities.mode = .simple →
      ((a.compile source).runOn s).1 = .ok result → (result.success = true ↔ result.errors = []) := by
  refine ⟨fun r source => ?_, ?_, ?_⟩
  · have hsound : Reference.Sound (r.compile source).1 := Reference.sound_result r.warns source
    exact ⟨hsound.coherent, hsound.ast, hsound.warnings, fun e he => Reference.errors_result_of_error he r.warns⟩
  · intro settings isOnPath tool owner w earlier source result hresult
    exact Command.coherent_of_compile hresult
  · intro b a source s result hadapt hmode hresult
    exact Adapter.coherent_of_simple hadapt hmode hresult

/-! ## Rejections -/

/-- A compiler of the simple kind that fails on every source. -/
def failingCompiler : Compiler where
  typeName := "Failing"
  prepare := .missing
  compileAdvanced := .missing
  compile := .callable fun _ _ => .now (.error (.badValue "no source is good enough"))
  describe := .missing
  shutdown := .missing

/-- An adapter of this compiler. -/
def failingAdapter : Adapter :=
  ⟨⟨0, failingCompiler⟩, ⟨.simple, false, false, false⟩⟩

theorem results_coherent_rejected :
    ((Reference.create true).compile "/*").1.errors.length = 1 ∧
      (∃ result, (Command.compile ⟨["lint"], .int 60, .null⟩ (fun _ => true) Command.silentTool 0 Workspace.empty []
        "x").ending = .ok (.expected result) ∧ result.errors ≠ []) ∧
      ∃ result, ((failingAdapter.compile "x").runOn (.start 0)).1 = .ok result ∧ result.errors ≠ [] := by
  obtain ⟨hreference, hcommand, hsimple⟩ := results_coherent
  refine ⟨?_, ?_, ?_⟩
  · obtain ⟨-, -, -, herrors⟩ := hreference (Reference.create true) "/*"
    have hlexical : Source.tokenize "/*" = .error ⟨1, 1⟩ := by decide +kernel
    rw [herrors _ hlexical]
    rfl
  · refine ⟨_, rfl, fun hnil => ?_⟩
    have hsuccess := (hcommand ⟨["lint"], .int 60, .null⟩ (fun _ => true) Command.silentTool 0 Workspace.empty [] "x" _
      rfl).mpr hnil
    cases hsuccess
  · refine ⟨_, rfl, fun hnil => ?_⟩
    have hsuccess := (hsimple ⟨0, failingCompiler⟩ failingAdapter "x" (.start 0) _ rfl rfl rfl).mpr hnil
    cases hsuccess

end Backend

end Conformance
